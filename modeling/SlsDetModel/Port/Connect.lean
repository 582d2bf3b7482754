import SlsDetModel.Port.Connection

/-!
# What `connect` reports

`initialize` carries one status through all its exits: the address out of range, the address not
enabled, the driver that could not be created, the detector found online or not, and the address
connected already. It is assigned at each of them but one. A detector that is not found online
leaves a trace, "failed to connect to detector", and the status as it was, which is success.

* `connect_truthful` — a `connect` returns success exactly where its address is connected then, if
  and only if the driver answered Ok when it was asked, if it was asked. Where no wait expires that
  is a matter of the detector alone.
* `connect_untruthful` — a detector that is switched off.
-/

/-- The call was answered Ok. -/
def Outcome.ok (o : Outcome) : Bool :=
  match o.ending with
  | .answered rep => rep.mtype == .ok
  | .gaveUp _ => false

/-- A driver in this state finds its detector online: there is a detector object, or it can be made,
and it names no host that is not online. -/
def Core.Online (lib : Library) (core : Core) : Prop :=
  (core.initializeDet lib).det.isSome ∧
    (lib (core.initializeDet lib).calls .checkOnline).text.isEmpty

namespace SlsDetDriver

variable {lib : Library} {late : Bool} {m rep : SlsDetMessage} {y z : Sync}

/-- A request has one outcome, and it is Ok if the reply is. -/
theorem Requested.outcome (h : Requested lib late y m rep z) : ∃ o,
    z.outcomes = y.outcomes ++ [o] ∧ (o.ok = true ↔ rep.mtype = .ok) := by
  cases h.ended with
  | answered _ _ _ houtcomes => exact ⟨_, houtcomes, beq_iff_eq⟩
  | gaveUp _ _ houtcomes =>
    refine ⟨_, houtcomes, iff_of_false ?_ ?_⟩ <;>
      · intro h
        cases h

/-- **The answer to CheckOnline** is Ok if the detector is online, and no wait expires. -/
theorem Requested.ok_iff_online (h : Requested lib false y (.ofType .checkOnline) rep z) :
    rep.mtype = .ok ↔ y.core.Online lib := by
  obtain ⟨rfl, -⟩ := h.answered
  have error_ne_ok : (SlsDetMessage.ofType .error).mtype ≠ .ok := by decide
  rw [serve, respond, Core.Online]
  by_cases hdet : (y.core.initializeDet lib).det.isSome
  · rw [if_pos hdet]
    show (Core.checkOnline lib _).1.mtype = .ok ↔ _
    rw [Core.checkOnline, if_pos hdet]
    dsimp only
    rw [Core.call_fst]
    split
    case isTrue hempty => exact iff_of_true rfl ⟨hdet, hempty⟩
    case isFalse hempty => exact iff_of_false error_ne_ok fun h ↦ hempty h.2
  · rw [if_neg hdet]
    exact iff_of_false error_ne_ok fun h ↦ hdet h.1

end SlsDetDriver

namespace SyncSlsDet

variable {x x' : SyncSlsDet} {a : ℕ}

/-- How the calls of the driver at an address ended, oldest first. -/
def outcomes (x : SyncSlsDet) (a : ℕ) : List Outcome :=
  ((x.dets a).map SlsDetDriver.Sync.outcomes).getD []

/-- A driver just created has none. -/
theorem outcomes_construct (x : SyncSlsDet) (cfg : SlsDetConfig) (a : ℕ) :
    (x.construct cfg a).outcomes a = x.outcomes a := by
  rcases hdet : x.dets a with - | y
  · rw [outcomes, outcomes, dets_construct_of_none hdet, if_pos rfl, hdet]
    rfl
  · rw [construct_of_isSome (by rw [hdet]; rfl)]

/-! ### The two statuses -/

/-- An address that is not connected is disconnected. -/
def Definite (x : SyncSlsDet) : Prop := ∀ a, x.isConnected a = false →
  x.params.integer a .connStatus = ConnectionStatus.disconnected.toInt

theorem Definite.congr (h : x.Definite)
    (hsame : ∀ a, x'.params.integer a .connStatus = x.params.integer a .connStatus) :
    x'.Definite := by
  intro a ha
  rw [isConnected, hsame] at ha
  rw [hsame]
  exact h a ha

/-- Whatever status is set, it is one of the two. -/
theorem Definite.mark (h : x.Definite) {status : ConnectionStatus} {n : Int}
    (hparams : x'.params = x.params.mark a status n) : x'.Definite := by
  intro b hb
  rw [isConnected_of_mark hparams] at hb
  rw [hparams, ParamLists.integer_mark_connStatus]
  split at hb
  case isTrue hba =>
    rw [if_pos hba]
    cases status with
    | disconnected => rfl
    | connected => cases hb
  case isFalse hba =>
    rw [if_neg hba]
    exact h b hb

theorem Definite.construct (h : x.Definite) (cfg : SlsDetConfig) (a : ℕ) :
    (x.construct cfg a).Definite := by
  rcases hdet : x.dets a with - | y
  · exact h.mark (params_construct_of_none hdet)
  · rwa [construct_of_isSome (by rw [hdet]; rfl)]

end SyncSlsDet

namespace SlsDet

variable {lib : ℕ → Library} {late made : Bool} {cfg : SlsDetConfig} {enums : EnumBuffers}
  {c : PortCall} {x x' : SyncSlsDet} {r : Result} {a : ℕ} {k k' : PortSystem}
  {ls ls' : List PortLabel}

/-- **Clients that spare the status leave it at one of the two.** -/
theorem Effect.definite (h : Effect lib late cfg c x x') (hx : x.Definite) (hc : c.SparesStatus) :
    x'.Definite := by
  cases h with
  | none hdets hsame => exact hx.congr (hsame.integer rfl)
  | kept ha hconn hdet hreq hm hdets hsame => exact hx.congr (hsame.integer rfl)
  | @dropped a m y rep z ha hconn hdet hreq hdets hsame =>
    have hdrop : (x.disconnect a).Definite := hx.mark rfl
    exact hdrop.congr (hsame.integer rfl)
  | @checked a made y rep z ha hop hen hmade hdet hconn hreq heq =>
    have hset : ((x.construct cfg a).setDet a z).Definite :=
      (hx.construct cfg a).congr fun _ ↦ rfl
    rw [heq]
    split
    case isTrue => exact hset.mark rfl
    case isFalse => exact hset
  | disconnected ha hop heq => exact hx.mark (congrArg SyncSlsDet.params heq)
  | @enabled a v ha henables heq =>
    have hsame : SyncSlsDet.Definite
        { x with params := x.params.store a .detEnabled (.int32 v) } :=
      hx.congr fun b ↦ ParamLists.integer_store_of_ne (by decide) _ _
    rw [heq]
    split
    case isTrue => exact hsame.mark rfl
    case isFalse => exact hsame
  | marked hr hp hv heq =>
    rcases hp with rfl | rfl
    · rw [hc hr] at hv
      cases hv
    · rw [heq]
      exact hx.congr fun b ↦ ParamLists.integer_store_of_ne (by decide) _ _

/-! ### What is reported -/

/-- The call reports the truth: it returns success exactly if its address is connected when it
returns. -/
def Truthful (cfg : SlsDetConfig) (c : PortCall) (r : Result) (l : ParamLists) : Prop :=
  r.status = .success ↔ ∃ a ∈ getAddress (size cfg) c.user,
    l.integer a .connStatus = ConnectionStatus.connected.toInt

/-- `connect` comes to ask the driver `y`: its address is enabled but not connected, and the driver
is there, or was created. -/
structure PortCall.Checks (cfg : SlsDetConfig) (c : PortCall) (x : SyncSlsDet) (a : ℕ)
    (y : SlsDetDriver.Sync) : Prop where
  address : getAddress (size cfg) c.user = some a
  enabled : x.params.integer a .detEnabled ≠ 0
  made : x.dets a = none → c.op = .connect true
  det : (x.construct cfg a).dets a = some y
  disconnected : x.isConnected a = false

theorem truthful_iff (ha : getAddress (size cfg) c.user = some a) {l : ParamLists} :
    Truthful cfg c r l ↔
      (r.status = .success ↔ l.integer a .connStatus = ConnectionStatus.connected.toInt) := by
  rw [Truthful, ha]
  simp

/-- **A `connect` tells the truth, or it asks the driver**, and then it tells the truth if the
answer is Ok. -/
theorem Performed.connect_cases (h : Performed lib late cfg c x r x') (hop : c.op = .connect made)
    (hx : x.Consistent) (hdef : x.Definite) :
    (Truthful cfg c r x'.params ∧ x' = x ∧ ∀ a y, ¬c.Checks cfg x a y) ∨
      ∃ a y rep z, c.Checks cfg x a y ∧ x'.dets a = some z ∧
        SlsDetDriver.Requested (lib a) late y (.ofType .checkOnline) rep z ∧
        (Truthful cfg c r x'.params ↔ rep.mtype = .ok) := by
  rcases c with ⟨u, op⟩
  obtain rfl : op = _ := hop
  -- an address that is not connected, and a status that says so
  have hrefused : ∀ {a status}, getAddress (size cfg) u = some a → status ≠ .success →
      x.isConnected a ≠ true →
      Truthful cfg ⟨u, .connect made⟩ (.ofStatus status) x.params := by
    intro a status ha hstatus hconn
    exact (truthful_iff ha).2 (iff_of_false hstatus fun hon ↦ hconn (beq_iff_eq.2 hon))
  cases h with
  | noAddress ha =>
    refine Or.inl ⟨iff_of_false (by decide) ?_, rfl, fun a y hchecks ↦ ?_⟩
    · rintro ⟨a, hb, -⟩
      exact nomatch ha.symm.trans hb
    · exact nomatch ha.symm.trans hchecks.address
  | @disabled a _ ha _ hen =>
    refine Or.inl ⟨hrefused ha (by decide) fun hon ↦ hx.enabled a hon hen, rfl, fun b y hb ↦ ?_⟩
    obtain rfl := Option.some.inj (ha.symm.trans hb.address)
    exact hb.enabled hen
  | @unmade a ha hop _ hdet =>
    obtain ⟨⟩ := hop
    refine Or.inl ⟨hrefused ha (by decide) fun hon ↦ ?_, rfl, fun b y hb ↦ ?_⟩
    · exact nomatch hdet ▸ hx.isSome_dets hon
    · obtain rfl := Option.some.inj (ha.symm.trans hb.address)
      exact nomatch hb.made hdet
  | @already a _ ha _ _ _ hconn =>
    have hon : x.isConnected a = true := by
      by_contra hoff
      exact hconn (hdef a (Bool.eq_false_iff.2 hoff))
    refine Or.inl ⟨(truthful_iff ha).2 (iff_of_true rfl (beq_iff_eq.1 hon)), rfl, fun b y hb ↦ ?_⟩
    obtain rfl := Option.some.inj (ha.symm.trans hb.address)
    exact nomatch hon.symm.trans hb.disconnected
  | @checked a made' y rep z ha hop hen hmade hdet hconn hreq =>
    obtain ⟨⟩ := hop
    have hoff : x.isConnected a = false := by
      by_contra hon
      rw [Bool.not_eq_false] at hon
      rw [SyncSlsDet.construct_of_isSome (hx.isSome_dets hon)] at hconn
      exact nomatch hconn.symm.trans (beq_iff_eq.1 hon)
    refine Or.inr ⟨a, y, rep, z, ⟨ha, hen, fun hnone ↦ by rw [hmade hnone], hdet, hoff⟩, ?_, hreq,
      ?_⟩
    · split <;> exact (x.construct cfg a).dets_setDet_same a z
    · rw [truthful_iff ha]
      split
      case isTrue hok =>
        refine iff_of_true (iff_of_true rfl ?_) hok
        exact (ParamLists.integer_mark_connStatus _ _ _ _ _).trans (if_pos rfl)
      case isFalse hnot =>
        -- the status is success all the same
        refine iff_of_false (fun h ↦ ?_) hnot
        exact nomatch hconn.symm.trans (h.1 rfl)
  | disconnected _ hop => cases hop
  | offline _ hread => cases hread
  | read _ hread => cases hread
  | readBase _ _ hbase => cases hbase
  | unsent _ hwrite => cases hwrite
  | write _ hwrite => cases hwrite
  | enabled _ henables => cases henables
  | writeBase _ _ _ hv => cases hv

/-- The calls of the driver at an address that ended, for the port with its workers. -/
def outcomes (s : SlsDet) (a : ℕ) : List Outcome :=
  ((s.dets a).map fun d ↦ d.journal.outcomes).getD []

theorem outcomes_sync (lib : ℕ → Library) (s : SlsDet) (a : ℕ) :
    (sync lib s).outcomes a = s.outcomes a := by
  rw [SyncSlsDet.outcomes, outcomes]
  exact congrArg (Option.getD · []) (Option.map_map _ _ _)

/-- **What `connect` reports**, by the outcomes of the calls it made. -/
theorem Performed.truthful_iff (h : Performed lib late cfg c x r x') (hop : c.op = .connect made)
    (hx : x.Consistent) (hdef : x.Definite) :
    Truthful cfg c r x'.params ↔ ∀ a ∈ getAddress (size cfg) c.user,
      ∀ o ∈ (x'.outcomes a).drop (x.outcomes a).length, o.ok = true := by
  rcases h.connect_cases hop hx hdef with ⟨htrue, rfl, -⟩ | ⟨a, y, rep, z, hchecks, hz, hreq, hiff⟩
  · refine iff_of_true htrue fun a _ o ho ↦ ?_
    rw [List.drop_length] at ho
    exact (List.not_mem_nil ho).elim
  · obtain ⟨o, houtcomes, hok⟩ := hreq.outcome
    have hy : x.outcomes a = y.outcomes := by
      rw [← x.outcomes_construct cfg a, SyncSlsDet.outcomes, hchecks.det]
      rfl
    have hz : x'.outcomes a = y.outcomes ++ [o] := by
      rw [SyncSlsDet.outcomes, hz]
      exact houtcomes
    rw [hiff, ← hok, hchecks.address]
    simp [hy, hz]

/-- The same by the detector, where no wait expires. -/
theorem Performed.truthful_iff_online (h : Performed lib false cfg c x r x')
    (hop : c.op = .connect made) (hx : x.Consistent) (hdef : x.Definite) :
    Truthful cfg c r x'.params ↔ ∀ a y, c.Checks cfg x a y → y.core.Online (lib a) := by
  rcases h.connect_cases hop hx hdef with ⟨htrue, -, hnot⟩ | ⟨a, y, rep, z, hchecks, -, hreq, hiff⟩
  · exact iff_of_true htrue fun a y hchecks ↦ (hnot a y hchecks).elim
  · rw [hiff, hreq.ok_iff_online]
    refine ⟨fun honline b y' hb ↦ ?_, fun hall ↦ hall a y hchecks⟩
    obtain rfl := Option.some.inj (hchecks.address.symm.trans hb.address)
    obtain rfl := Option.some.inj (hchecks.det.symm.trans hb.det)
    exact honline

/-- **`connect` reports the truth exactly where the driver answers Ok.** Take any run, in which no
client writes a status, to a state between two calls, and then a `connect`, whether a driver can be
created or not and whichever waits expire. It can be carried to its end; and when it has ended, it
is a success exactly if its address is connected, if and only if every call of the driver it made
was answered Ok. If no wait expired, that was so if and only if the detector was online, or the
driver was not asked. -/
theorem connect_truthful (hls : ∀ c ∈ Client.calls ls, PortCall.SparesStatus c)
    (hrun : (system lib cfg).run (start cfg enums) ls = some k) (hidle : k.thread = .idle)
    (hop : c.op = .connect made) (hls' : ∀ l ∈ ls', Client.Inside (Move.InTime true) l)
    (hrun' : (system lib cfg).run k (.call c :: ls') = some k') :
    Client.CanEnd (server lib) (perform cfg) DetRequest.addr (Move.InTime true) k' ∧
    (k'.thread = .idle → ∃ r, k'.results = k.results ++ [(c, r)] ∧
      (Truthful cfg c r k'.shared.params ↔ ∀ a ∈ getAddress (size cfg) c.user,
        ∀ o ∈ (k'.shared.outcomes a).drop (k.shared.outcomes a).length, o.ok = true) ∧
      ((∀ l ∈ ls', Client.Inside (Move.InTime false) l) →
        (Truthful cfg c r k'.shared.params ↔
          ∀ a y, c.Checks cfg (sync lib k.shared) a y → y.core.Online (lib a)))) := by
  have hruns : Client.Runs (Issued ToDriver) (Answered lib true) (During lib true) (fun _ ↦ False)
      (fun s ↦ s.Ready ∧ (sync lib s).Consistent ∧ (sync lib s).Definite) (fun _ _ ↦ True) [] k := by
    refine run_invariant (P := ToDriver) (J := fun x ↦ x.Consistent ∧ x.Definite)
      (C := fun c _ ↦ c.SparesStatus) (fun h ↦ h) (fun _ hJ _ _ _ ↦ asks_toDriver hJ.1.isSome_dets)
      ?_ rfl (ready_new cfg enums) ⟨SyncSlsDet.consistent_of_forall isConnected_new, ?_⟩
      (permits_of_forall hls (fun e _ ↦ inTime_true e) _) hrun
    · rintro c x r x' ⟨hx, hdef⟩ hC hperf
      have heffect := effect_of_performed hperf
      exact ⟨⟨heffect.consistent hx hC, heffect.definite hdef hC⟩, trivial⟩
    · exact fun _ _ ↦ rfl
  have hholds := hruns.holds
  rw [Client.Holds, hidle] at hholds
  obtain ⟨hready, hcons, hdef⟩ := hholds
  obtain ⟨hends, hcan⟩ := call_spec hready (fun _ ↦ hcons.isSome_dets) hls' hrun'
  refine ⟨hcan, fun hidle' ↦ ?_⟩
  obtain ⟨r, hres, -, hperf⟩ := hends hidle'
  refine ⟨r, hres, ?_, fun hintime ↦ ?_⟩
  · have hiff := hperf.truthful_iff hop hcons hdef
    simp only [outcomes_sync] at hiff
    exact hiff
  · obtain ⟨r', hres', -, hperf'⟩ :=
      (call_spec hready (fun _ ↦ hcons.isSome_dets) hintime hrun').1 hidle'
    obtain rfl : r = r' := by simpa using hres.symm.trans hres'
    exact hperf'.truthful_iff_online hop hcons hdef

/-- The address of a small port is enabled. -/
def enable : PortLabel := on .detEnabled 0 (.writeInt32 1)

/-- And then connected: with a detector that answers, that is reported as it is. -/
theorem connect_truthful_online : ∃ k k' r,
    (system (fun _ ↦ SlsDetDriver.healthy) (bench 1)).run (start (bench 1) blank) [enable] =
      some k ∧
    (system (fun _ ↦ SlsDetDriver.healthy) (bench 1)).run k
      (on .init 0 (.connect true) :: exchange 0) = some k' ∧
    k'.results = k.results ++ [(⟨⟨.param .init, 0⟩, .connect true⟩, r)] ∧
    Truthful (bench 1) ⟨⟨.param .init, 0⟩, .connect true⟩ r k'.shared.params := by
  have hbefore : ((system (fun _ ↦ SlsDetDriver.healthy) (bench 1)).run (start (bench 1) blank)
      [enable]).map (fun k ↦ k.isIdle) = some true := by decide +kernel
  have hafter : ((system (fun _ ↦ SlsDetDriver.healthy) (bench 1)).run (start (bench 1) blank)
      ([enable] ++ on .init 0 (.connect true) :: exchange 0)).map (fun k ↦
        (k.isIdle, (k.shared.outcomes 0).all Outcome.ok)) = some (true, true) := by
    decide +kernel
  obtain ⟨k, k', hrun, hidle, hrun', hk'⟩ :=
    LabelledMachine.exists_run_append _ hbefore hafter
  obtain ⟨hidle', hok⟩ := Prod.mk.inj hk'
  obtain ⟨r, hres, hiff, -⟩ := (connect_truthful (by decide) hrun (Client.thread_of_isIdle hidle)
    rfl (by simp [exchange, Client.Inside, Move.InTime]) hrun').2 (Client.thread_of_isIdle hidle')
  refine ⟨k, k', r, hrun, hrun', hres, hiff.2 fun a ha o ho ↦ ?_⟩
  obtain rfl : 0 = a := Option.some.inj ha
  exact List.all_eq_true.1 hok o (List.mem_of_mem_drop ho)

/-- A detector that is switched off: `checkOnline` names it. -/
def switchedOff : Library where
  answer _ q :=
    { ret := 1, text := if q = .checkOnline then "detector".toList else [] }

/-- **A `connect` that fails reports success** when the detector is switched off. -/
theorem connect_untruthful : ¬∀ (lib : ℕ → Library) (cfg : SlsDetConfig) (enums : EnumBuffers)
    (ls ls' : List PortLabel) (k k' : PortSystem) (c : PortCall) (made : Bool) (r : Result),
    (∀ c ∈ Client.calls ls, PortCall.SparesStatus c) →
    (system lib cfg).run (start cfg enums) ls = some k → k.thread = .idle →
    c.op = .connect made → (∀ l ∈ ls', Client.Inside (Move.InTime true) l) →
    (system lib cfg).run k (.call c :: ls') = some k' → k'.thread = .idle →
    k'.results = k.results ++ [(c, r)] → Truthful cfg c r k'.shared.params := by
  intro h
  have hbefore : ((system (fun _ ↦ switchedOff) (bench 1)).run (start (bench 1) blank)
      [enable]).map (fun k ↦ (k.isIdle, k.results)) =
        some (true, [(⟨⟨.param .detEnabled, 0⟩, .writeInt32 1⟩, .ofStatus .success)]) := by
    decide +kernel
  have hafter : ((system (fun _ ↦ switchedOff) (bench 1)).run (start (bench 1) blank)
      ([enable] ++ on .init 0 (.connect true) :: exchange 0)).map (fun k ↦
        (k.isIdle, k.results, k.shared.params.integer 0 .connStatus)) =
        some (true, [(⟨⟨.param .detEnabled, 0⟩, .writeInt32 1⟩, .ofStatus .success),
          (⟨⟨.param .init, 0⟩, .connect true⟩, .ofStatus .success)], 0) := by
    decide +kernel
  obtain ⟨k, k', hrun, hk, hrun', hk'⟩ := LabelledMachine.exists_run_append _ hbefore hafter
  obtain ⟨hidle, hres⟩ := Prod.mk.inj hk
  obtain ⟨hidle', hk'⟩ := Prod.mk.inj hk'
  obtain ⟨hres', hoff⟩ := Prod.mk.inj hk'
  have htrue := h _ (bench 1) blank [enable] (exchange 0) k k' _ true (.ofStatus .success)
    (by decide) hrun (Client.thread_of_isIdle hidle) rfl
    (by simp [exchange, Client.Inside, Move.InTime]) hrun' (Client.thread_of_isIdle hidle')
    (by rw [hres, hres']; rfl)
  have hon := ((truthful_iff (a := 0) rfl).1 htrue).1 rfl
  exact nomatch hoff.symm.trans hon

end SlsDet
