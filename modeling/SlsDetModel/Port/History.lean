import SlsDetModel.Concurrency.History
import SlsDetModel.Port.Reads

/-!
# What the answers tell

A run of the port, as its clients see it, is a list of calls with their answers. Whatever workers
and waits did in between, these are the answers of a port that carries out each call in one step
(`calls_atomic`); and so a client who remembers the answers knows what the port holds.

* `stored_by_history` — a parameter holds what the last call said that wrote it or read it off the
  detector, and before the first such call what the constructor left there.
* `connection_by_history` — whether an address is connected can be followed through the answers.
  The one thing they do not show is whether a successful `connect` has found the detector: it
  returns the same when it has not, until the next read or write there tells.
-/

namespace SlsDet

variable {lib : ℕ → Library} {late : Bool} {cfg : SlsDetConfig} {enums : EnumBuffers}
  {c : PortCall} {x x' : SyncSlsDet} {r : Result} {a : ℕ} {p : Param} {k : PortSystem}
  {ls : List PortLabel}

/-- The history of a run of the port, for calls as `C` says. -/
theorem history_of_run {C : PortCall → Prop} (hC : ∀ c ∈ Client.calls ls, C c)
    (hL : ∀ e, .env e ∈ ls → e.InTime late)
    (hrun : (system lib cfg).run (start cfg enums) ls = some k) : ∃ x,
    History (fun c y r z ↦ C c ∧ Performed lib late cfg c y r z) (sync lib (new cfg enums))
      k.results x ∧ (k.thread = .idle → k.shared.Ready ∧ sync lib k.shared = x) := by
  have hcontract : Client.Contract (server lib) (Move.InTime late) (Issued fun _ _ ↦ True)
      (Answered lib late) (During lib late) Ready :=
    contract late (fun h _ _ ↦ h) fun h hs ↦ (ready_env h hs).1
  have hsat : ∀ {c s}, Ready s → C c → (perform cfg c s).Sat (Issued fun _ _ ↦ True)
      (Answered lib late) fun r t ↦ t.Ready ∧ C c ∧
        Performed lib late cfg c (sync lib s) r (sync lib t) := fun hs hc ↦
    (sat_perform hs fun _ _ _ _ _ _ _ _ ↦ trivial).imp fun _ _ h ↦ ⟨h.1, hc, h.2⟩
  have hatomic : ∃ h x, k.results = [] ++ h ∧
      History (fun c y r z ↦ C c ∧ Performed lib late cfg c y r z) (sync lib (new cfg enums)) h x ∧
      (k.thread = .idle → k.shared.Ready ∧ sync lib k.shared = x) :=
    Client.atomic (f := sync lib) hcontract hsat (fun hs _ hstep ↦ ready_env hs hstep) rfl
      (ready_new cfg enums) (permits_of_forall hC hL _) hrun
  obtain ⟨h, x, hres, hh, hend⟩ := hatomic
  exact ⟨x, hres ▸ hh, hend⟩

/-- **Calls are atomic.** However a run interleaves the port with the workers of its drivers, and
whichever waits expire in it, the calls are answered in the order in which they are made, each of
them once, and as by a port that carries out each in one step, by itself; and between two calls the
port is in the state to which those steps lead. -/
theorem calls_atomic (hL : ∀ e, .env e ∈ ls → e.InTime late)
    (hrun : (system lib cfg).run (start cfg enums) ls = some k) :
    k.results.map Prod.fst ++ k.current.toList = Client.calls ls ∧ ∃ x,
      History (fun c y r z ↦ Performed lib late cfg c y r z) (sync lib (new cfg enums)) k.results x ∧
      (k.thread = .idle → sync lib k.shared = x) := by
  refine ⟨Client.taken_run hrun, ?_⟩
  obtain ⟨x, hh, hend⟩ := history_of_run (C := fun _ ↦ True) (fun _ _ ↦ trivial) hL hrun
  obtain ⟨-, hh'⟩ := hh.mono (P := fun _ ↦ True) trivial fun _ hstep ↦ ⟨trivial, hstep.2⟩
  exact ⟨x, hh', fun hidle ↦ (hend hidle).2⟩

/-- The one address of a small port is enabled and connected, and its run status is asked for; the
worker has it, and the last call is under way. -/
theorem calls_atomic_runStatus : ∃ k,
    (system (fun _ ↦ SlsDetDriver.healthy) (bench 1)).run (start (bench 1) blank)
      (online 0 ++ [on .runStatus 0 .readInt32, .env (.wait 0 false), .env (.work 0)]) = some k ∧
    k.results.map Prod.fst ++ k.current.toList =
      [⟨⟨.param .detEnabled, 0⟩, .writeInt32 1⟩, ⟨⟨.param .init, 0⟩, .connect true⟩,
        ⟨⟨.param .runStatus, 0⟩, .readInt32⟩] := by
  have hsome : ((system (fun _ ↦ SlsDetDriver.healthy) (bench 1)).run (start (bench 1) blank)
      (online 0 ++ [on .runStatus 0 .readInt32, .env (.wait 0 false),
        .env (.work 0)])).isSome := by
    decide +kernel
  obtain ⟨k, hrun⟩ := Option.isSome_iff_exists.1 hsome
  exact ⟨k, hrun, (calls_atomic (fun e _ ↦ inTime_true e) hrun).1.trans (by decide)⟩

/-! ### What a parameter holds -/

/-- The call, answered with `r`, stored something under `p` at the address `a` of `n`: it wrote a
value of the parameter's type there, whether or not the detector was reached, or it read one off the
detector. -/
def PortCall.Stores (n a : ℕ) (p : Param) (c : PortCall) (r : Result) : Prop :=
  getAddress n c.user = some a ∧ c.user.reason = .param p ∧
    (c.value.map Value.type = some p.type ∨ c.read.isSome ∧ r.status = .success)

instance (n a : ℕ) (p : Param) (c : PortCall) (r : Result) : Decidable (c.Stores n a p r) :=
  inferInstanceAs (Decidable (_ ∧ _ ∧ (_ ∨ _)))

/-- The call, answered with `r`, says that the value is `v`: it wrote `v`, or it was handed what a
read makes of `v`. -/
def PortCall.Says (c : PortCall) (r : Result) (v : Value) : Prop :=
  c.value = some v ∨ c.read.isSome ∧ r = c.deliver v

/-- The last call of a history that stored something under a parameter. -/
def lastStore (n a : ℕ) (p : Param) (h : List (PortCall × Result)) : Option (PortCall × Result) :=
  (h.filter fun q ↦ decide (q.1.Stores n a p q.2)).getLast?

/-- What is known of a parameter from the last call that stored something there. -/
def HoldsAs (l₀ : ParamLists) (a : ℕ) (p : Param) (last : Option (PortCall × Result))
    (x : SyncSlsDet) : Prop :=
  match last with
  | none => x.params a p = l₀ a p
  | some (c, r) => ∃ v, x.params a p = some v ∧ c.Says r v

/-- One more call. -/
theorem lastStore_snoc (n a : ℕ) (p : Param) (h : List (PortCall × Result)) (c : PortCall)
    (r : Result) : lastStore n a p (h ++ [(c, r)]) =
      if c.Stores n a p r then some (c, r) else lastStore n a p h := by
  rw [lastStore, lastStore, List.filter_append]
  by_cases hs : c.Stores n a p r
  · rw [if_pos hs, List.filter_cons_of_pos (by simpa using hs), List.filter_nil,
      List.getLast?_append]
    rfl
  · rw [if_neg hs, List.filter_cons_of_neg (by simpa using hs), List.filter_nil, List.append_nil]

/-- What a call left in the parameters that do not belong to the connections. -/
inductive Left (n : ℕ) (c : PortCall) (r : Result) (l l' : ParamLists) : Prop
  /-- One value, as its answer says. -/
  | value {a p v} (ha : getAddress n c.user = some a) (hr : c.user.reason = .param p)
      (hkind : c.value.map Value.type = some p.type ∨ c.read.isSome ∧ r.status = .success)
      (htold : c.Says r v)
      (hdata : ∀ b q, q ≠ .connStatus → q ≠ .numDet → l' b q = l.store a p v b q)
  /-- Nothing. -/
  | nothing (hstores : ∀ a p, p ≠ .connStatus → p ≠ .numDet → ¬c.Stores n a p r)
      (hdata : ∀ b q, q ≠ .connStatus → q ≠ .numDet → l' b q = l b q)

/-- A call that is neither a write nor a successful read stores nothing. -/
theorem PortCall.not_stores (hvalue : c.value = none) (hread : c.read.isSome → r.status ≠ .success)
    (n a : ℕ) (p : Param) : ¬c.Stores n a p r := by
  rintro ⟨-, -, h | ⟨h, hs⟩⟩
  · rw [hvalue] at h
    cases h
  · exact hread h hs

/-- A call that enables or disables an address is a write and nothing else. -/
theorem PortCall.kind_of_enables {v : Int} (h : c.enables = some v) :
    c.user.reason = .param .detEnabled ∧ c.value = some (.int32 v) ∧ c.write = none := by
  rcases c with ⟨⟨reason, addr⟩, op⟩
  cases op with
  | writeInt32 w =>
    obtain ⟨rfl, hv⟩ := Option.ite_none_right_eq_some.1 h
    exact ⟨rfl, congrArg (fun v ↦ some (Value.int32 v)) (Option.some.inj hv), rfl⟩
  | _ => cases h

/-- A read that is left to the base class is nothing else. -/
theorem PortCall.kind_of_base {asyn : Asyn} {w : Option Value} (h : c.base asyn w = some r) :
    (∀ made, c.op ≠ .connect made) ∧ c.op ≠ .disconnect ∧ c.write = none ∧ c.enables = none ∧
      c.value = none := by
  rcases c with ⟨u, op⟩
  cases op <;> first
    | (cases h; done)
    | exact ⟨fun _ h ↦ (nomatch h), fun h ↦ (nomatch h), rfl, rfl, rfl⟩

/-- A call to connect or disconnect is neither. -/
theorem PortCall.not_stores_of_op (h : (∃ made, c.op = .connect made) ∨ c.op = .disconnect)
    (n a : ℕ) (p : Param) : ¬c.Stores n a p r := by
  have hkind : c.value = none ∧ c.read = none := by
    obtain ⟨u, op⟩ := c
    obtain ⟨made, rfl⟩ | rfl := h <;> exact ⟨rfl, rfl⟩
  refine PortCall.not_stores hkind.1 (fun hread ↦ ?_) n a p
  rw [hkind.2] at hread
  cases hread

/-- What a dispatched read makes of a reply, seen from the parameters: the value is stored exactly
when the read succeeds. -/
theorem takeRead_params {rep : SlsDetMessage} {v : Option Value} {status : AsynStatus}
    (h : x.takeRead cfg a (.param p) rep v = (status, x')) :
    (status = .success ∧ ∃ w, w.type = p.type ∧ x'.params = x.params.store a p w) ∨
      status ≠ .success ∧ ∀ b q, q ≠ .connStatus → q ≠ .numDet → x'.params b q = x.params b q := by
  have hdrop : ∀ b q, q ≠ .connStatus → q ≠ .numDet →
      (x.disconnect a).params b q = x.params b q := fun b q hc hn ↦
    ParamLists.mark_of_ne hc hn _ _ _ _ _
  rw [SyncSlsDet.takeRead] at h
  split at h
  case h_1 =>
    unfold SyncSlsDet.storeReply at h
    split at h
    case h_1 =>
      obtain ⟨rfl, rfl⟩ := Prod.mk.inj h
      exact Or.inr ⟨by decide, fun _ _ _ _ ↦ rfl⟩
    case h_2 w =>
      split at h
      case isTrue =>
        obtain ⟨rfl, rfl⟩ := Prod.mk.inj h
        exact Or.inr ⟨by decide, fun _ _ _ _ ↦ rfl⟩
      case isFalse =>
        obtain ⟨rfl, rfl⟩ := Prod.mk.inj h
        rw [ParamLists.setParam]
        split
        case isTrue htype => exact Or.inl ⟨rfl, w, htype, rfl⟩
        case isFalse =>
          have hne : AsynStatus.paramWrongType ≠ .success := by decide
          exact Or.inr ⟨hne, fun _ _ _ _ ↦ rfl⟩
  case h_2 =>
    obtain ⟨rfl, rfl⟩ := Prod.mk.inj h
    exact Or.inr ⟨by decide, fun _ _ _ _ ↦ rfl⟩
  all_goals
    obtain ⟨rfl, rfl⟩ := Prod.mk.inj h
    exact Or.inr ⟨by decide, hdrop⟩

/-- **What a call leaves in the parameters.** -/
theorem Performed.left (h : Performed lib late cfg c x r x') :
    Left (size cfg) c r x.params x'.params := by
  cases h with
  | noAddress ha =>
    refine .nothing (fun b q _ _ hs ↦ ?_) fun _ _ _ _ ↦ rfl
    cases ha.symm.trans hs.1
  | disabled ha hop =>
    exact .nothing (fun b q _ _ ↦ PortCall.not_stores_of_op (Or.inl ⟨_, hop⟩) _ b q)
      fun _ _ _ _ ↦ rfl
  | unmade ha hop =>
    exact .nothing (fun b q _ _ ↦ PortCall.not_stores_of_op (Or.inl ⟨_, hop⟩) _ b q)
      fun _ _ _ _ ↦ rfl
  | already ha hop =>
    exact .nothing (fun b q _ _ ↦ PortCall.not_stores_of_op (Or.inl ⟨_, hop⟩) _ b q)
      fun _ _ _ _ ↦ rfl
  | @checked a made y rep z ha hop =>
    refine .nothing (fun b q _ _ ↦ PortCall.not_stores_of_op (Or.inl ⟨_, hop⟩) _ b q)
      fun b q hc hn ↦ ?_
    have hset : ((x.construct cfg a).setDet a z).params b q = x.params b q := by
      rcases hdet : x.dets a with - | y₀
      · exact (congrFun (congrFun (SyncSlsDet.params_construct_of_none hdet) b) q).trans
          (ParamLists.mark_of_ne hc hn _ _ _ _ _)
      · rw [SyncSlsDet.construct_of_isSome (by rw [hdet]; rfl)]
        rfl
    split
    case isTrue => exact (ParamLists.mark_of_ne hc hn _ _ _ _ _).trans hset
    case isFalse => exact hset
  | disconnected ha hop =>
    exact .nothing (fun b q _ _ ↦ PortCall.not_stores_of_op (Or.inr hop) _ b q)
      fun b q hc hn ↦ ParamLists.mark_of_ne hc hn _ _ _ _ _
  | offline ha hread =>
    obtain ⟨-, -, -, -, hvalue⟩ := PortCall.kind_of_read hread
    exact .nothing (fun b q _ _ ↦ PortCall.not_stores hvalue (fun _ ↦ by decide) _ b q)
      fun _ _ _ _ ↦ rfl
  | @read a t y rep z v status x' ha hread hconn hdet hreq hv htake =>
    obtain ⟨-, -, -, -, hvalue⟩ := PortCall.kind_of_read hread
    obtain ⟨p, q, hr, -, -, -, hget⟩ := PortCall.tables_agree hread
    have hsome : c.read.isSome = true := Option.isSome_iff_exists.2 ⟨t, hread⟩
    rw [hr] at htake
    rcases takeRead_params htake with ⟨rfl, w, htype, hparams⟩ | ⟨hne, hparams⟩
    · rw [if_pos rfl, hparams, hget _ _ _ htype]
      exact .value ha hr (Or.inr ⟨hsome, PortCall.status_deliver c w⟩) (Or.inr ⟨hsome, rfl⟩)
        fun _ _ _ _ ↦ rfl
    · rw [if_neg hne]
      exact .nothing (fun b q _ _ ↦ PortCall.not_stores hvalue (fun _ ↦ hne) _ b q) hparams
  | readBase ha hread hbase =>
    obtain ⟨-, -, -, -, hvalue⟩ := PortCall.kind_of_base hbase
    refine .nothing (fun b q _ _ ↦ PortCall.not_stores hvalue (fun h ↦ ?_) _ b q) fun _ _ _ _ ↦ rfl
    rw [hread] at h
    cases h
  | @unsent a m p v ha hwrite hr hp hv hconn =>
    obtain ⟨p', v', hr', hv', htype, -⟩ := PortCall.reason_of_write hwrite
    obtain ⟨⟩ := hr.symm.trans hr'
    refine .value ha hr (Or.inl ?_) (Or.inl hv) fun _ _ _ _ ↦ rfl
    rw [hv', Option.map_some, htype]
  | @write a m p v y rep z status x' ha hwrite hr hp hv hconn hdet hreq htake =>
    obtain ⟨p', v', hr', hv', htype, -⟩ := PortCall.reason_of_write hwrite
    obtain ⟨⟩ := hr.symm.trans hr'
    refine .value ha hr (Or.inl ?_) (Or.inl hv) fun b q hc hn ↦ ?_
    · rw [hv', Option.map_some, htype]
    · rcases SyncSlsDet.takeWrite_cases htake with ⟨-, rfl⟩ | ⟨-, rfl⟩
      · rfl
      · exact ParamLists.mark_of_ne hc hn _ _ _ _ _
  | @enabled a v ha henables =>
    obtain ⟨hr, hvalue, -⟩ := PortCall.kind_of_enables henables
    refine .value ha hr (Or.inl ?_) (Or.inl hvalue) fun b q hc hn ↦ ?_
    · rw [hvalue]
      rfl
    · split
      case isTrue => exact ParamLists.mark_of_ne hc hn _ _ _ _ _
      case isFalse => rfl
  | @writeBase a v ha hwrite henables hv =>
    have hread : c.read = none := (PortCall.kind_of_value hv).2.2.1
    rcases hr : c.user.reason with p | i
    · rw [ParamLists.setParam]
      split
      case isTrue htype =>
        refine .value ha hr (Or.inl ?_) (Or.inl hv) fun _ _ _ _ ↦ rfl
        rw [hv, Option.map_some, htype]
      case isFalse htype =>
        refine .nothing (fun b q _ _ hs ↦ ?_) fun _ _ _ _ ↦ rfl
        obtain ⟨-, hq, h | ⟨h, -⟩⟩ := hs
        · obtain ⟨⟩ := hr.symm.trans hq
          rw [hv] at h
          exact htype (Option.some.inj h)
        · rw [hread] at h
          cases h
    · refine .nothing (fun b q _ _ hs ↦ ?_) fun _ _ _ _ ↦ rfl
      cases hr.symm.trans hs.2.1

/-- One more call, and what it leaves. -/
theorem Performed.holdsAs (h : Performed lib late cfg c x r x') {l₀ : ParamLists}
    {last : Option (PortCall × Result)} (hc : p ≠ .connStatus) (hn : p ≠ .numDet)
    (hx : HoldsAs l₀ a p last x) :
    HoldsAs l₀ a p (if c.Stores (size cfg) a p r then some (c, r) else last) x' := by
  cases h.left with
  | nothing hstores hdata =>
    rw [if_neg (hstores a p hc hn)]
    unfold HoldsAs at hx ⊢
    rw [hdata a p hc hn]
    exact hx
  | @value b q v hb hr hkind htold hdata =>
    by_cases hat : a = b ∧ p = q
    · obtain ⟨rfl, rfl⟩ := hat
      rw [if_pos ⟨hb, hr, hkind⟩]
      exact ⟨v, (hdata a p hc hn).trans (ParamLists.store_same p v), htold⟩
    · have hstores : ¬c.Stores (size cfg) a p r := by
        rintro ⟨ha, hp, -⟩
        obtain ⟨⟩ := ha.symm.trans hb
        obtain ⟨⟩ := hp.symm.trans hr
        exact hat ⟨rfl, rfl⟩
      rw [if_neg hstores]
      unfold HoldsAs at hx ⊢
      rw [hdata a p hc hn, ParamLists.store, if_neg hat]
      exact hx

/-- **The parameters are registers.** Between two calls of any run, a parameter that does not belong
to the connections holds what the last call said that stored something there: the value it wrote,
even if the detector was not reached or refused it, or the one whose reading it returned, of a text
as much as the client's buffer took. Where there was no such call it holds what the constructor
left. -/
theorem stored_by_history (hrun : (system lib cfg).run (start cfg enums) ls = some k)
    (hidle : k.thread = .idle) (hc : p ≠ .connStatus) (hn : p ≠ .numDet) :
    match lastStore (size cfg) a p k.results with
    | none => k.shared.params a p = (new cfg enums).params a p
    | some (c, r) => ∃ v, k.shared.params a p = some v ∧ c.Says r v := by
  obtain ⟨x, hh, hend⟩ := history_of_run (C := fun _ ↦ True) (fun _ _ ↦ trivial)
    (fun e _ ↦ inTime_true e) hrun
  obtain ⟨-, rfl⟩ := hend hidle
  have hstart : HoldsAs (new cfg enums).params a p (lastStore (size cfg) a p [])
      (sync lib (new cfg enums)) := rfl
  exact hh.tracks (R := HoldsAs (new cfg enums).params a p) (K := lastStore (size cfg) a p)
    (fun g c r ↦ if c.Stores (size cfg) a p r then some (c, r) else g)
    (lastStore_snoc (size cfg) a p) hstart fun hR hstep ↦ hstep.2.holdsAs hc hn hR

/-- A high voltage is written at the one address of a small port, where nothing is connected, and
then a number of another type: the first is what is stored. -/
theorem stored_by_history_unsent : ∃ k,
    (system (fun _ ↦ SlsDetDriver.healthy) (bench 1)).run (start (bench 1) blank)
      [on .setHighVoltage 0 (.writeInt32 5), on .setHighVoltage 0 (.writeFloat64 2)] = some k ∧
    ∃ v, k.shared.params 0 .setHighVoltage = some v ∧
      PortCall.Says ⟨⟨.param .setHighVoltage, 0⟩, .writeInt32 5⟩ (.ofStatus .disconnected) v := by
  have hmap : ((system (fun _ ↦ SlsDetDriver.healthy) (bench 1)).run (start (bench 1) blank)
      [on .setHighVoltage 0 (.writeInt32 5), on .setHighVoltage 0 (.writeFloat64 2)]).map
      (fun k ↦ (k.isIdle, lastStore 1 0 .setHighVoltage k.results)) =
      some (true, some (⟨⟨.param .setHighVoltage, 0⟩, .writeInt32 5⟩, .ofStatus .disconnected)) := by
    decide +kernel
  obtain ⟨k, hrun, hk⟩ := Option.map_eq_some_iff.1 hmap
  obtain ⟨hidle, hlast⟩ := Prod.mk.inj hk
  have hstored := stored_by_history (p := .setHighVoltage) (a := 0) hrun
    (Client.thread_of_isIdle hidle) (by decide) (by decide)
  rw [show lastStore (size (bench 1)) 0 .setHighVoltage k.results = _ from hlast] at hstored
  exact ⟨k, hrun, hstored⟩

/-! ### What is connected -/

/-- What a call at `a`, answered with `r`, adds to what is known of the connection there. -/
def PortCall.tells (n a : ℕ) (known : Option Bool) (c : PortCall) (r : Result) : Option Bool :=
  if getAddress n c.user = some a then
    match c.op with
    -- success says no more than that the driver is there
    | .connect _ => if r.status = .success then known.filter id else some false
    | .disconnect => some false
    | _ =>
      if c.read.isSome ∨ c.write.isSome then
        some (r.status ≠ .disconnected ∧ r.status ≠ .timeout)
      else if c.enables = some off then some false
      else known
  else known

/-- What the answers so far tell of the connection at an address. -/
def known (n a : ℕ) (h : List (PortCall × Result)) : Option Bool :=
  h.foldl (fun g q ↦ q.1.tells n a g q.2) (some false)

/-- Calls at other addresses leave a connection alone. -/
theorem Effect.isConnected_of_ne (h : Effect lib late cfg c x x') (hc : c.SparesStatus)
    (ha : getAddress (size cfg) c.user ≠ some a) : x'.isConnected a = x.isConnected a := by
  have hne : ∀ {b}, getAddress (size cfg) c.user = some b → a ≠ b := by
    rintro b hb rfl
    exact ha hb
  cases h with
  | none hdets hsame => exact hsame.isConnected a
  | kept hb hconn hdet hreq hm hdets hsame => exact hsame.isConnected a
  | dropped hb hconn hdet hreq hdets hsame =>
    rw [hsame.isConnected, SyncSlsDet.isConnected_disconnect, if_neg (hne hb)]
  | @checked b made y rep z hb hop hen hmade hdet hconn hreq heq =>
    have hset : ((x.construct cfg b).setDet b z).isConnected a = x.isConnected a := by
      rcases hnone : x.dets b with - | y₀
      · exact (SyncSlsDet.isConnected_construct_of_none hnone a).trans (if_neg (hne hb))
      · rw [SyncSlsDet.construct_of_isSome (by rw [hnone]; rfl)]
        rfl
    rw [heq]
    split
    case isTrue => rw [SyncSlsDet.isConnected_connect, if_neg (hne hb), hset]
    case isFalse => exact hset
  | disconnected hb hop heq => rw [heq, SyncSlsDet.isConnected_disconnect, if_neg (hne hb)]
  | enabled hb henables heq =>
    rw [heq]
    split
    case isTrue =>
      rw [SyncSlsDet.isConnected_disconnect, if_neg (hne hb), SyncSlsDet.isConnected_enable]
    case isFalse => exact SyncSlsDet.isConnected_enable _ _ _ _
  | marked hr hp hv heq =>
    rcases hp with rfl | rfl
    · rw [hc hr] at hv
      cases hv
    · rw [heq]
      exact congrArg (· == _) (ParamLists.integer_store_of_ne (by decide) _ _)

/-- The status that a read makes of a reply tells whether the connection was given up. -/
theorem takeRead_tells {rep : SlsDetMessage} {v : Option Value} {status : AsynStatus}
    (hp : p.IsControl = false) (h : x.takeRead cfg a (.param p) rep v = (status, x')) :
    x'.isConnected a = (decide (status ≠ .disconnected ∧ status ≠ .timeout) && x.isConnected a) := by
  have hdrop : (x.disconnect a).isConnected a = false := by
    rw [SyncSlsDet.isConnected_disconnect, if_pos rfl]
  rw [SyncSlsDet.takeRead] at h
  split at h
  case h_1 =>
    unfold SyncSlsDet.storeReply at h
    split at h
    case h_1 =>
      obtain ⟨rfl, rfl⟩ := Prod.mk.inj h
      rfl
    case h_2 w =>
      split at h
      case isTrue =>
        obtain ⟨rfl, rfl⟩ := Prod.mk.inj h
        rfl
      case isFalse =>
        obtain ⟨rfl, rfl⟩ := Prod.mk.inj h
        rw [ParamLists.setParam]
        split
        case isTrue => exact (SyncSlsDet.sameControl_store hp w).isConnected a
        case isFalse => rfl
  case h_2 =>
    obtain ⟨rfl, rfl⟩ := Prod.mk.inj h
    rfl
  all_goals
    obtain ⟨rfl, rfl⟩ := Prod.mk.inj h
    exact hdrop

/-- The same for writes. -/
theorem takeWrite_tells {rep : SlsDetMessage} {status : AsynStatus}
    (h : x.takeWrite a rep = (status, x')) :
    x'.isConnected a = (decide (status ≠ .disconnected ∧ status ≠ .timeout) && x.isConnected a) := by
  have hdrop : (x.disconnect a).isConnected a = false := by
    rw [SyncSlsDet.isConnected_disconnect, if_pos rfl]
  rw [SyncSlsDet.takeWrite] at h
  split at h <;> obtain ⟨rfl, rfl⟩ := Prod.mk.inj h
  case h_1 => split <;> rfl
  case h_2 => rfl
  case h_3 => rfl
  all_goals exact hdrop

/-- The kinds of calls, as `tells` distinguishes them. -/
theorem PortCall.tells_of_ne {g : Option Bool} (ha : getAddress (size cfg) c.user ≠ some a) :
    c.tells (size cfg) a g r = g := if_neg ha

theorem PortCall.tells_connect {g : Option Bool} {made : Bool}
    (ha : getAddress (size cfg) c.user = some a) (hop : c.op = .connect made) :
    c.tells (size cfg) a g r = if r.status = .success then g.filter id else some false := by
  rw [tells, if_pos ha, hop]

theorem PortCall.tells_disconnect {g : Option Bool} (ha : getAddress (size cfg) c.user = some a)
    (hop : c.op = .disconnect) : c.tells (size cfg) a g r = some false := by
  rw [tells, if_pos ha, hop]

theorem PortCall.tells_dispatched {g : Option Bool} (ha : getAddress (size cfg) c.user = some a)
    (h : c.read.isSome ∨ c.write.isSome) : c.tells (size cfg) a g r =
      some (decide (r.status ≠ .disconnected ∧ r.status ≠ .timeout)) := by
  rw [tells, if_pos ha]
  rcases c with ⟨u, op⟩
  cases op with
  | connect made => rcases h with h | h <;> cases h
  | disconnect => rcases h with h | h <;> cases h
  | _ => exact if_pos h

theorem PortCall.tells_local {g : Option Bool} (ha : getAddress (size cfg) c.user = some a)
    (hread : c.read = none) (hwrite : c.write = none) (hconnect : ∀ made, c.op ≠ .connect made)
    (hdisconnect : c.op ≠ .disconnect) :
    c.tells (size cfg) a g r = if c.enables = some off then some false else g := by
  have hnone : ¬(c.read.isSome ∨ c.write.isSome) := by
    rw [hread, hwrite]
    exact fun h ↦ h.elim (fun h ↦ nomatch h) fun h ↦ nomatch h
  rw [tells, if_pos ha]
  rcases c with ⟨u, op⟩
  cases op <;> first
    | exact if_neg hnone
    | exact (hconnect _ rfl).elim
    | exact (hdisconnect rfl).elim

/-- **What a call tells is right**, if what was known before it is. -/
theorem Performed.tells (h : Performed lib late cfg c x r x') (hx : x.Consistent)
    (hc : c.SparesStatus) {g : Option Bool} (hg : ∀ b, g = some b → x.isConnected a = b) :
    ∀ b, c.tells (size cfg) a g r = some b → x'.isConnected a = b := by
  by_cases ha : getAddress (size cfg) c.user ≠ some a
  · rw [PortCall.tells_of_ne ha, (effect_of_performed h).isConnected_of_ne hc ha]
    exact hg
  rw [not_not] at ha
  have hsame : ∀ {b}, getAddress (size cfg) c.user = some b → b = a := fun hb ↦
    Option.some.inj (hb.symm.trans ha)
  have hsuccess : (Result.ofStatus .success).status = .success := rfl
  have hoff : x.isConnected a = false → ∀ b, some false = some b → x.isConnected a = b := by
    rintro hconn b ⟨⟩
    exact hconn
  cases h with
  | noAddress hnone => exact nomatch hnone.symm.trans ha
  | disabled hb hop hen =>
    obtain rfl := hsame hb
    rw [PortCall.tells_connect ha hop, if_neg (by decide)]
    exact hoff (Bool.eq_false_iff.2 fun hconn ↦ hx.enabled _ hconn hen)
  | unmade hb hop hen hdet =>
    obtain rfl := hsame hb
    rw [PortCall.tells_connect ha hop, if_neg (by decide)]
    refine hoff (Bool.eq_false_iff.2 fun hconn ↦ ?_)
    have hsome := hx.isSome_dets hconn
    rw [hdet] at hsome
    cases hsome
  | already hb hop =>
    obtain rfl := hsame hb
    rw [PortCall.tells_connect ha hop, if_pos hsuccess]
    exact fun b hb ↦ hg b (Option.filter_eq_some_iff.1 hb).1
  | @checked b made y rep z hb hop hen hmade hdet hconn =>
    obtain rfl := hsame hb
    rw [PortCall.tells_connect ha hop, if_pos hsuccess]
    -- it was not connected before, so nothing else can have been known
    intro v hv
    obtain ⟨hgv, htrue⟩ := Option.filter_eq_some_iff.1 hv
    obtain rfl : v = true := htrue
    have hwas := hg _ hgv
    rw [SyncSlsDet.construct_of_isSome (hx.isSome_dets hwas)] at hconn
    rw [SyncSlsDet.isConnected, hconn] at hwas
    cases hwas
  | disconnected hb hop =>
    obtain rfl := hsame hb
    rw [PortCall.tells_disconnect ha hop, SyncSlsDet.isConnected_disconnect, if_pos rfl]
    exact fun b hb ↦ Option.some.inj hb
  | offline hb hread hconn =>
    obtain rfl := hsame hb
    rw [PortCall.tells_dispatched ha (Or.inl (Option.isSome_iff_exists.2 ⟨_, hread⟩))]
    exact hoff hconn
  | @read b t y rep z v status x' hb hread hconn hdet hreq hv htake =>
    obtain rfl := hsame hb
    obtain ⟨p, hr, hp⟩ := PortCall.reason_of_read hread
    have hstatus : (if status = .success then c.get x'.params b else .ofStatus status).status =
        status := by
      split
      case isFalse => rfl
      case isTrue hs =>
        obtain ⟨p', q, hr', -, -, -, hget⟩ := PortCall.tables_agree hread
        rw [hr'] at htake
        rcases takeRead_params htake with ⟨-, w, htype, hparams⟩ | ⟨hne, -⟩
        · rw [hparams, hget _ _ _ htype, PortCall.status_deliver, hs]
        · exact (hne hs).elim
    rw [hr] at htake
    rw [PortCall.tells_dispatched ha (Or.inl (Option.isSome_iff_exists.2 ⟨_, hread⟩)), hstatus,
      takeRead_tells hp htake, show (x.setDet b z).isConnected b = true from hconn, Bool.and_true]
    exact fun b hb ↦ Option.some.inj hb
  | readBase hb hread hbase =>
    obtain rfl := hsame hb
    obtain ⟨hconnect, hdisconnect, hwrite, henables, -⟩ := PortCall.kind_of_base hbase
    rw [PortCall.tells_local ha hread hwrite hconnect hdisconnect, henables, if_neg (by decide)]
    exact hg
  | unsent hb hwrite hr hp hv hconn =>
    obtain rfl := hsame hb
    rw [PortCall.tells_dispatched ha (Or.inr (Option.isSome_iff_exists.2 ⟨_, hwrite⟩)),
      (SyncSlsDet.sameControl_store hp _).isConnected]
    exact hoff hconn
  | @write b m p v y rep z status x' hb hwrite hr hp hv hconn hdet hreq htake =>
    obtain rfl := hsame hb
    have hbefore : ({ x with params := x.params.store b p v }.setDet b z).isConnected b = true :=
      ((SyncSlsDet.sameControl_store hp v).isConnected b).trans hconn
    rw [PortCall.tells_dispatched ha (Or.inr (Option.isSome_iff_exists.2 ⟨_, hwrite⟩)),
      takeWrite_tells htake, hbefore, Bool.and_true]
    exact fun b hb ↦ Option.some.inj hb
  | @enabled b v hb henables =>
    obtain rfl := hsame hb
    obtain ⟨-, hvalue, hwrite⟩ := PortCall.kind_of_enables henables
    obtain ⟨hconnect, hdisconnect, hread, -⟩ := PortCall.kind_of_value hvalue
    rw [PortCall.tells_local ha hread hwrite hconnect hdisconnect, henables]
    by_cases hv : v = off
    · subst hv
      rw [if_pos rfl]
      rintro b ⟨⟩
      split
      case isTrue => rw [SyncSlsDet.isConnected_disconnect, if_pos rfl]
      case isFalse hconn =>
        rw [SyncSlsDet.isConnected_enable]
        exact Bool.eq_false_iff.2 fun h ↦ hconn ⟨rfl, h⟩
    · rw [if_neg fun h ↦ hv (Option.some.inj h), if_neg fun h ↦ hv h.1,
        SyncSlsDet.isConnected_enable]
      exact hg
  | @writeBase b v hb hwrite henables hv =>
    obtain rfl := hsame hb
    obtain ⟨hconnect, hdisconnect, hread, -⟩ := PortCall.kind_of_value hv
    rw [PortCall.tells_local ha hread hwrite hconnect hdisconnect, henables, if_neg (by decide)]
    have hkept : SyncSlsDet.isConnected { x with
        params := (x.params.setParam b c.user.reason v).2 } b = x.isConnected b := by
      rcases hr : c.user.reason with p | i
      · rw [ParamLists.setParam]
        split
        case isTrue =>
          refine congrArg (· == _) (ParamLists.integer_store_of_ne (fun heq ↦ ?_) _ _)
          rw [hc (hr.trans (congrArg _ heq.symm))] at hv
          cases hv
        case isFalse => rfl
      · rfl
    rw [hkept]
    exact hg

/-- **The answers tell what is connected.** In every run in which no client writes a status itself,
between two calls, what the answers so far tell of the connection at an address is right: after a
failed `connect`, a `disconnect` or a disabling it is not connected, and after a read or a write
that is dispatched to the detector it is, unless the answer was that of a disconnection or a
timeout. -/
theorem connection_by_history (hls : ∀ c ∈ Client.calls ls, PortCall.SparesStatus c)
    (hrun : (system lib cfg).run (start cfg enums) ls = some k) (hidle : k.thread = .idle)
    {b : Bool} (hb : known (size cfg) a k.results = some b) : k.shared.isConnected a = b := by
  obtain ⟨x, hh, hend⟩ := history_of_run hls (fun e _ ↦ inTime_true e) hrun
  obtain ⟨-, rfl⟩ := hend hidle
  have hstart : (sync lib (new cfg enums)).Consistent ∧
      ∀ b, known (size cfg) a [] = some b → (sync lib (new cfg enums)).isConnected a = b := by
    refine ⟨SyncSlsDet.consistent_of_forall isConnected_new, ?_⟩
    rintro b ⟨⟩
    exact isConnected_new a
  exact (hh.tracks (K := known (size cfg) a)
    (R := fun g x ↦ x.Consistent ∧ ∀ b, g = some b → x.isConnected a = b)
    (fun g c r ↦ c.tells (size cfg) a g r) (fun _ _ _ ↦ List.foldl_concat _ _ _ _) hstart
    fun hR hstep ↦ ⟨(effect_of_performed hstep.2).consistent hR.1 hstep.1,
      hstep.2.tells hR.1 hstep.1 hR.2⟩).2 b hb

/-- The run status is read after `connect` at the one address of a small port: now it is known to be
connected, as it was not before. -/
theorem connection_by_history_online : ∃ k,
    (system (fun _ ↦ SlsDetDriver.healthy) (bench 1)).run (start (bench 1) blank)
      (online 0 ++ on .runStatus 0 .readInt32 :: (exchange 0 ++ [.resume 0])) = some k ∧
    k.shared.isConnected 0 = true := by
  have hmap : ((system (fun _ ↦ SlsDetDriver.healthy) (bench 1)).run (start (bench 1) blank)
      (online 0 ++ on .runStatus 0 .readInt32 :: (exchange 0 ++ [.resume 0]))).map
      (fun k ↦ (k.isIdle, known 1 0 k.results)) = some (true, some true) := by
    decide +kernel
  obtain ⟨k, hrun, hk⟩ := Option.map_eq_some_iff.1 hmap
  obtain ⟨hidle, hknown⟩ := Prod.mk.inj hk
  exact ⟨k, hrun, connection_by_history (a := 0) (by decide) hrun (Client.thread_of_isIdle hidle)
    hknown⟩

end SlsDet
