import SlsDetModel.Concurrency.Budget
import SlsDetModel.Port.Guard

/-!
# Calls come to an end

A call of the port asks its driver at most three times: for the request, for the text that goes into
the trace, and for the text to be stored. In between, workers of other drivers may be busy with
requests that were given up long ago, and every wait may expire. `calls_terminate` puts a bound on
all of this: whoever is scheduled, whichever waits expire, a call has ended after no more moves than
there are left to make, seven for each address and ten for each request; and until then something
can move, without waiting for an expiry.

On the way there, `spends_perform` says what the programs of the port do to the drivers by
themselves: they create missing ones, at addresses that exist, and leave the others alone.
-/

namespace SlsDet

variable {lib : ℕ → Library} {cfg : SlsDetConfig} {enums : EnumBuffers} {s t : SlsDet} {a : ℕ}
  {u : AsynUser} {α β : Type} {m n : ℕ}

/-! ### What the programs do to the drivers -/

/-- Every driver is what it was, or was created, at an address that exists. -/
def Grows (cfg : SlsDetConfig) (s t : SlsDet) : Prop :=
  ∀ a, t.dets a = s.dets a ∨ s.dets a = none ∧ a < size cfg ∧
    t.dets a = some (SlsDetDriver.new (cfg.hostnames.getD a []) (cfg.id + a))

theorem grows_of_eq (h : t.dets = s.dets) : Grows cfg s t := fun a ↦ Or.inl (congrFun h a)

theorem Grows.trans {w : SlsDet} (h : Grows cfg s t) (h' : Grows cfg t w) : Grows cfg s w := by
  intro a
  rcases h a with hst | ⟨hnone, hlt, hst⟩ <;> rcases h' a with htw | ⟨hnone', hlt', htw⟩
  · exact Or.inl (htw.trans hst)
  · exact Or.inr ⟨hst ▸ hnone', hlt', htw⟩
  · exact Or.inr ⟨hnone, hlt, htw.trans hst⟩
  · exact Or.inr ⟨hnone, hlt, htw⟩

/-- The program asks the drivers at most `n` times, at addresses that exist, and does nothing to
them by itself but to create missing ones. -/
abbrev Spends (cfg : SlsDetConfig) (n : ℕ) (x : Prog α) : Prop :=
  Proc.Spends (fun i : DetRequest ↦ i.addr < size cfg) (Grows cfg) n x

theorem spends_pure (v : α) : Spends cfg n (pure v : Prog α) := fun _ ↦ grows_of_eq rfl

theorem spends_gets (f : SlsDet → α) : Spends cfg 0 (Proc.gets f : Prog α) :=
  fun _ ↦ grows_of_eq rfl

theorem Spends.bind {x : Prog α} {f : α → Prog β} (hx : Spends cfg m x)
    (hf : ∀ v, Spends cfg n (f v)) : Spends cfg (m + n) (x >>= f) :=
  Proc.Spends.bind (fun _ _ _ h h' ↦ h.trans h') hx hf

/-- What asks nothing may come first. -/
theorem Spends.then {x : Prog α} {f : α → Prog β} (hx : Spends cfg 0 x)
    (hf : ∀ v, Spends cfg n (f v)) : Spends cfg n (x >>= f) :=
  Nat.zero_add n ▸ hx.bind hf

theorem spends_modify {f : SlsDet → SlsDet} (h : ∀ s, Grows cfg s (f s)) :
    Spends cfg 0 (Proc.modify f : Prog Unit) := fun s ↦ h s

theorem spends_setParam (a : ℕ) (r : Reason) (v : Value) : Spends cfg 0 (setParam a r v) :=
  (spends_gets _).then fun _ ↦ Spends.then (spends_modify fun _ ↦ grows_of_eq rfl) fun _ ↦
    spends_pure _

theorem spends_request (ha : a < size cfg) (m : SlsDetMessage) : Spends cfg 1 (request a m) :=
  Proc.spends_ask (i := DetRequest.request a m) (fun _ ↦ grows_of_eq rfl) ha

theorem spends_inspect (ha : a < size cfg) (rep : SlsDetMessage) : Spends cfg 1 (inspect a rep) :=
  Proc.spends_ask (i := DetRequest.inspect a rep) (fun _ ↦ grows_of_eq rfl) ha

theorem spends_updateEnums (a : ℕ) : Spends cfg 0 (updateEnums a) :=
  spends_modify fun _ ↦ grows_of_eq rfl

theorem spends_uninitializeDet (u : AsynUser) : Spends cfg 0 (uninitializeDet cfg u) := by
  rw [uninitializeDet]
  rcases getAddress (size cfg) u with - | a
  · exact spends_pure _
  exact (spends_setParam _ _ _).then fun _ ↦ (spends_gets _).then fun _ ↦
    (spends_setParam _ _ _).then fun _ ↦ spends_pure _

/-- Giving a connection up. -/
theorem spends_drop (u : AsynUser) (status : AsynStatus) :
    Spends cfg 0 (do let _ ← uninitializeDet cfg u; pure status) :=
  (spends_uninitializeDet u).then fun _ ↦ spends_pure _

/-- **The one place where a driver is created.** -/
theorem spends_construct (ha : a < size cfg) (made : Bool) :
    Spends cfg 0 (construct cfg a made) := by
  intro s
  rcases hdet : s.dets a with - | d
  · rw [construct_of_none hdet]
    cases made with
    | false => exact grows_of_eq rfl
    | true =>
      intro b
      by_cases hb : b = a
      · subst hb
        exact Or.inr ⟨hdet, ha, Function.update_self _ _ _⟩
      · exact Or.inl (Function.update_of_ne hb _ _)
  · rw [construct_of_isSome (by rw [hdet]; rfl)]
    exact grows_of_eq rfl

theorem spends_checkOnline (ha : a < size cfg) : Spends cfg 1 (checkOnline a) := by
  refine (spends_gets _).then fun conn ↦ (spends_gets _).then fun numDet ↦ ?_
  refine Proc.spends_ite (fun _ ↦ ?_) fun _ ↦ spends_pure _
  refine Spends.bind (n := 0) (spends_request ha _) fun reply ↦
    Proc.spends_ite (fun _ ↦ ?_) fun _ ↦ spends_pure _
  exact (spends_updateEnums a).then fun _ ↦ (spends_setParam _ _ _).then fun _ ↦
    (spends_setParam _ _ _).then fun _ ↦ spends_pure _

theorem spends_initializeDet (u : AsynUser) (made : Bool) :
    Spends cfg 1 (initializeDet cfg u made) := by
  rw [initializeDet]
  rcases ha : getAddress (size cfg) u with - | a
  · exact spends_pure _
  have hlt := lt_of_getAddress ha
  refine (spends_gets _).then fun enabled ↦ Proc.spends_ite (fun _ ↦ spends_pure _) fun _ ↦ ?_
  refine (spends_construct hlt made).then fun status ↦ (spends_gets _).then fun found ↦ ?_
  refine Proc.spends_ite (fun _ ↦ Spends.bind (n := 0) (spends_checkOnline hlt) fun _ ↦
    spends_pure _) fun _ ↦ ?_
  exact Proc.spends_ite (fun _ ↦ spends_pure _) fun _ ↦ spends_pure _

theorem spends_takeReadReply (u : AsynUser) (ha : a < size cfg) (reply : SlsDetMessage) :
    Spends cfg 1 (takeReadReply cfg u a reply) := by
  rw [takeReadReply]
  split
  case h_1 =>
    rw [storeReply]
    split
    case h_2 =>
      exact Proc.spends_ite (fun _ ↦ (spends_setParam _ _ _).mono (Nat.zero_le 1)) fun _ ↦
        spends_pure _
    case h_4 => exact Spends.bind (n := 0) (spends_inspect ha reply) fun _ ↦ spends_setParam _ _ _
    case h_5 => exact spends_pure _
    all_goals exact (spends_setParam _ _ _).mono (Nat.zero_le 1)
  case h_2 => exact spends_pure _
  all_goals exact (spends_drop u _).mono (Nat.zero_le 1)

theorem spends_readDetector (u : AsynUser) (mtype : MessageType) :
    Spends cfg 3 (readDetector cfg u mtype) := by
  rw [readDetector]
  rcases ha : getAddress (size cfg) u with - | a
  · exact spends_pure _
  have hlt := lt_of_getAddress ha
  refine (spends_gets _).then fun conn ↦ Proc.spends_ite (fun _ ↦ ?_) fun _ ↦ spends_pure _
  exact Spends.bind (n := 2) (spends_request hlt _) fun reply ↦
    Spends.bind (n := 1) (spends_inspect hlt reply) fun _ ↦ spends_takeReadReply u hlt reply

theorem spends_takeWriteReply (u : AsynUser) (reply : SlsDetMessage) :
    Spends cfg 0 (takeWriteReply cfg u reply) := by
  rw [takeWriteReply]
  split
  case h_1 => exact Proc.spends_ite (fun _ ↦ spends_pure _) fun _ ↦ spends_pure _
  case h_2 => exact spends_pure _
  case h_3 => exact spends_pure _
  all_goals exact spends_drop u _

theorem spends_writeDetectorValue (u : AsynUser) (v : Value) (m : SlsDetMessage) :
    Spends cfg 2 (writeDetectorValue cfg u v m) := by
  rw [writeDetectorValue]
  rcases ha : getAddress (size cfg) u with - | a
  · exact spends_pure _
  have hlt := lt_of_getAddress ha
  refine (spends_setParam _ _ _).then fun status ↦ Proc.spends_ite (fun _ ↦ ?_) fun _ ↦
    spends_pure _
  rw [writeDetector, ha]
  refine (spends_gets _).then fun conn ↦ Proc.spends_ite (fun _ ↦ ?_) fun _ ↦ spends_pure _
  exact Spends.bind (n := 1) (spends_request hlt m) fun reply ↦
    Spends.bind (n := 0) (spends_inspect hlt reply) fun _ ↦ spends_takeWriteReply u reply

theorem spends_readParam (u : AsynUser) (dispatch : Reason → Option MessageType)
    (get : ParamLists → ℕ → Result) (base : Option Value → Result) :
    Spends cfg 3 (readParam cfg u dispatch get base) := by
  rw [readParam]
  rcases getAddress (size cfg) u with - | a
  · exact spends_pure _
  rcases dispatch u.reason with - | mtype
  · exact (spends_gets _).mono (Nat.zero_le 3)
  exact Spends.bind (n := 0) (spends_readDetector u mtype) fun status ↦
    Proc.spends_ite (fun _ ↦ spends_gets _) fun _ ↦ spends_pure _

theorem spends_reads (u : AsynUser) (maxChars : ℕ) (buffer : Text) :
    Spends cfg 3 (readInt32 cfg u) ∧ Spends cfg 3 (readFloat64 cfg u) ∧
      Spends cfg 3 (readOctet cfg u maxChars buffer) := by
  rw [readInt32, readFloat64, readOctet]
  exact ⟨spends_readParam u _ _ _, spends_readParam u _ _ _, spends_readParam u _ _ _⟩

theorem spends_writeInt32 (u : AsynUser) (value : Int) : Spends cfg 2 (writeInt32 cfg u value) := by
  rw [writeInt32]
  rcases getAddress (size cfg) u with - | a
  · exact spends_pure _
  dsimp only
  split
  case h_1 => exact spends_writeDetectorValue u _ _
  case h_2 =>
    refine Proc.spends_ite (fun _ ↦ ?_) fun _ ↦ (spends_setParam _ _ _).mono (Nat.zero_le 2)
    refine (spends_setParam _ _ _).then fun _ ↦ (spends_gets _).then fun conn ↦ ?_
    exact Proc.spends_ite (fun _ ↦ (spends_drop u _).mono (Nat.zero_le 2)) fun _ ↦ spends_pure _

theorem spends_writeFloat64 (u : AsynUser) (value : ℚ) :
    Spends cfg 2 (writeFloat64 cfg u value) := by
  rw [writeFloat64]
  rcases getAddress (size cfg) u with - | a
  · exact spends_pure _
  dsimp only
  split
  case h_1 => exact spends_writeDetectorValue u _ _
  case h_2 => exact (spends_setParam _ _ _).mono (Nat.zero_le 2)

/-- **What a call spends**: three requests at most, and on the drivers nothing but the creation of
missing ones. -/
theorem spends_perform (c : PortCall) : Spends cfg 3 (perform cfg c) := by
  have hstatus : ∀ {n} {x : Prog AsynStatus}, n ≤ 3 → Spends cfg n x →
      Spends cfg 3 (statusOnly x) := fun hn hx ↦
    Spends.bind (n := 0) (hx.mono hn) fun _ ↦ spends_pure _
  rcases c with ⟨u, op⟩
  cases op with
  | connect made => exact hstatus (by decide) (spends_initializeDet u made)
  | disconnect => exact hstatus (by decide) (spends_uninitializeDet u)
  | readInt32 => exact (spends_reads u 0 []).1
  | readFloat64 => exact (spends_reads u 0 []).2.1
  | readOctet maxChars buffer => exact (spends_reads u maxChars buffer).2.2
  | writeInt32 value => exact hstatus (by decide) (spends_writeInt32 u value)
  | writeFloat64 value => exact hstatus (by decide) (spends_writeFloat64 u value)

/-! ### What is left to do -/

/-- How much is left to do at an address: for a driver that is not there yet, what a new one has to
do. -/
def leftAt : Option SlsDetDriver → ℕ
  | none => 1
  | some d => d.stepsLeft

/-- How much is left to do at the first `n` addresses. -/
def left (n : ℕ) (s : SlsDet) : ℕ := ∑ a ∈ Finset.range n, leftAt (s.dets a)

/-- Drivers are at addresses that exist. -/
def InRange (n : ℕ) (s : SlsDet) : Prop := ∀ a, n ≤ a → s.dets a = none

theorem lt_of_dets (h : InRange n s) {d : SlsDetDriver} (hd : s.dets a = some d) : a < n := by
  by_contra hle
  rw [h a (Nat.le_of_not_lt hle)] at hd
  cases hd

/-- A step of a driver, and what it does to what is left. -/
theorem left_stepDet (h : InRange n s) {l : SlsDetDriver.Label}
    (hs : stepDet lib s a l = some t) : InRange n t ∧ ∃ d d',
      (SlsDetDriver.machine (lib a)).step d l = some d' ∧
        left n t + d.stepsLeft = left n s + d'.stepsLeft := by
  obtain ⟨d, d', hd, hstep, rfl⟩ := stepDet_eq_some_iff.1 hs
  have ha := lt_of_dets h hd
  refine ⟨fun b hb ↦ ?_, d, d', hstep, ?_⟩
  · have hne : b ≠ a := fun hba ↦ absurd ha (Nat.not_lt_of_le (hba ▸ hb))
    exact (Function.update_of_ne hne _ _).trans (h b hb)
  · have hsum := sum_range_update leftAt s.dets ha (some d')
    rw [hd] at hsum
    exact hsum

theorem InRange.grows (h : InRange (size cfg) s) (hst : Grows cfg s t) :
    InRange (size cfg) t := by
  intro a ha
  rcases hst a with heq | ⟨-, hlt, -⟩
  · rw [heq, h a ha]
  · exact absurd hlt (Nat.not_lt_of_le ha)

/-- The creation of a driver has been accounted for. -/
theorem left_grows (hst : Grows cfg s t) : left n t = left n s := by
  refine Finset.sum_congr rfl fun a _ ↦ ?_
  rcases hst a with heq | ⟨hnone, -, hnew⟩
  · rw [heq]
  · rw [hnone, hnew]
    rfl

/-- **The drivers are metered**: every move of the environment, expiries included, uses up something
of what is left, and a request adds no more than nine. -/
theorem meter (lib : ℕ → Library) (cfg : SlsDetConfig) : Meter (server lib) (Move.InTime true)
    (fun i ↦ i.addr < size cfg) (Grows cfg) (InRange (size cfg)) (left (size cfg)) 9 where
  prog := fun hJ hst ↦ ⟨hJ.grows hst, (left_grows hst).le⟩
  enter := by
    rintro i s t hJ - hs
    cases i with
    | request a m =>
      obtain ⟨hJt, d, d', hstep, hsum⟩ := left_stepDet hJ hs
      have hle : d'.stepsLeft ≤ d.stepsLeft + 9 := SlsDetDriver.stepsLeft_request hstep
      exact ⟨hJt, by omega⟩
    | inspect a rep =>
      obtain ⟨d, -, rfl⟩ := Option.map_eq_some_iff.1 hs
      exact ⟨hJ, Nat.le_add_right _ _⟩
  env := by
    rintro e s t hJ - hs
    cases e with
    | wait a expired =>
      obtain ⟨hJt, d, d', hstep, hsum⟩ := left_stepDet hJ hs
      have hlt : d'.stepsLeft < d.stepsLeft := by
        cases expired with
        | false => exact SlsDetDriver.stepsLeft_wait (SlsDetDriver.waitStep_of_wait hstep)
        | true => exact SlsDetDriver.stepsLeft_expire (SlsDetDriver.waitStep_of_wait hstep)
      exact ⟨hJt, by omega⟩
    | work a =>
      obtain ⟨hJt, d, d', hstep, hsum⟩ := left_stepDet hJ hs
      have hlt : d'.stepsLeft < d.stepsLeft :=
        SlsDetDriver.stepsLeft_work (SlsDetDriver.workStep_of_work hstep)
      exact ⟨hJt, by omega⟩
  leave := by
    rintro i s r t hJ hs
    cases i with
    | request a m =>
      obtain ⟨-, -, -, -, -, hfinish⟩ := leave_request_eq_some_iff.1 hs
      obtain ⟨hJt, d, d', hstep, hsum⟩ := left_stepDet hJ hfinish
      have heq : d'.stepsLeft = d.stepsLeft := by
        obtain ⟨⟨p, hp⟩, rfl⟩ := SlsDetDriver.finish_eq_some_iff.1 hstep
        rw [SlsDetDriver.stepsLeft, SlsDetDriver.stepsLeft, hp]
        rfl
      exact ⟨hJt, by omega⟩
    | inspect a rep =>
      obtain ⟨-, -, -, hlook⟩ := leave_inspect_eq_some_iff.1 hs
      obtain ⟨hJt, d, d', hstep, hsum⟩ := left_stepDet hJ hlook
      have heq : d'.stepsLeft = d.stepsLeft := by
        obtain ⟨-, rfl⟩ := SlsDetDriver.inspect_eq_some_iff.1 hstep
        rfl
      exact ⟨hJt, by omega⟩

/-- Between two requests there is little left to do. -/
theorem left_le (h : s.Ready) (n : ℕ) : left n s ≤ n * 7 := by
  have hle : ∀ a ∈ Finset.range n, leftAt (s.dets a) ≤ 7 := by
    intro a _
    rcases hd : s.dets a with - | d
    · decide
    · exact (h.operating a d hd).stepsLeft_le (h.idle a d hd)
  have hsum := Finset.sum_le_card_nsmul _ _ _ hle
  rwa [Finset.card_range] at hsum

/-- Drivers stay in range. -/
theorem inRange_of_run {k : PortSystem} {ls : List PortLabel}
    (hrun : (system lib cfg).run (start cfg enums) ls = some k) : InRange (size cfg) k.shared := by
  have hM := meter lib cfg
  have hstart : Client.Keeping (fun i : DetRequest ↦ i.addr < size cfg) (Grows cfg)
      (InRange (size cfg)) (start cfg enums) := ⟨fun _ _ ↦ rfl, fun _ _ _ h ↦ (nomatch h)⟩
  exact (hstart.run (fun c s ↦ (spends_perform c s).frames) (fun hJ hE ↦ (hM.prog hJ hE).1)
    (fun hJ hi hs ↦ (hM.enter hJ hi hs).1) (fun hJ hs ↦ (hM.env hJ (inTime_true _) hs).1)
    (fun hJ hs ↦ (hM.leave hJ hs).1) hrun).1

/-- **Every call comes to an end.** Take any run of guarded calls to a state between two calls, and
then a guarded call. Whichever worker is scheduled when, and whichever waits expire, no more than
`7 * n + 30` moves follow, where `n` is the number of addresses, those of workers busy elsewhere
included; and as long as the call has not ended, something can move without a wait having to
expire. -/
theorem calls_terminate {k k' : PortSystem} {ls ls' : List PortLabel} {c : PortCall}
    (hls : (system lib cfg).Along (Permits lib true (PortCall.Guarded cfg)) (start cfg enums) ls)
    (hrun : (system lib cfg).run (start cfg enums) ls = some k) (hidle : k.thread = .idle)
    (hc : c.Guarded cfg (sync lib k.shared))
    (hls' : ∀ l ∈ ls', Client.Inside (Move.InTime true) l)
    (hrun' : (system lib cfg).run k (.call c :: ls') = some k') :
    ls'.length ≤ 7 * size cfg + 30 ∧
      (k'.thread = .idle ∨
        ∃ l, Client.Inside (Move.InTime false) l ∧ ((system lib cfg).step k' l).isSome) := by
  have hbacked : ∀ {ls k}, (system lib cfg).Along (Permits lib true (PortCall.Guarded cfg))
      (start cfg enums) ls → (system lib cfg).run (start cfg enums) ls = some k →
      Client.Runs (Issued ToDriver) (Answered lib true) (During lib true) (fun _ ↦ False)
        (fun s ↦ s.Ready ∧ (sync lib s).Backed) (fun _ _ ↦ True) [] k := fun hls hrun ↦
    run_invariant (fun h ↦ h) (fun _ hJ _ _ _ ↦ asks_toDriver (hJ _))
      (fun hJ hC hperf ↦ ⟨hperf.backed hJ hC, trivial⟩) rfl (ready_new cfg enums)
      (SyncSlsDet.backed_of_forall isConnected_new) hls hrun
  have hready : k.shared.Ready := by
    have hholds := (hbacked hls hrun).holds
    rw [Client.Holds, hidle] at hholds
    exact hholds.1
  refine ⟨?_, ?_⟩
  · have hlen := Client.length_le (meter lib cfg) (spends_perform c) (inRange_of_run hrun) hls' hrun'
    have hleft := left_le hready (size cfg)
    omega
  · have hall : (system lib cfg).Along (Permits lib true (PortCall.Guarded cfg)) (start cfg enums)
        (ls ++ .call c :: ls') := by
      have hinside : ∀ l ∈ ls', ∀ s, Permits lib true (PortCall.Guarded cfg) s l := by
        intro l hl s
        cases l with
        | call c => exact (hls' _ hl).elim
        | resume a => trivial
        | env e => exact inTime_true e
      refine hls.append hrun ⟨hc, fun u _ ↦ ?_⟩
      exact (LabelledMachine.along_of_forall hinside u).mono fun s l hl ↦ hl s
    have hholds := (hbacked hall ((system lib cfg).run_append_eq_some.2 ⟨k, hrun, hrun'⟩)).holds
    rcases hth : k'.thread with - | ⟨c', i, kont⟩ | c'
    · exact Or.inl rfl
    · rw [Client.Holds, hth] at hholds
      obtain ⟨s, -, hd, -⟩ := hholds
      exact Or.inr (Client.enabled_of_waiting (responsive_inTime true) hth hd)
    · rw [Client.Holds, hth] at hholds
      exact hholds.elim

/-- A read of the run status at the one address of a small port. -/
theorem calls_terminate_runStatus : ∃ k k',
    (system (fun _ ↦ SlsDetDriver.healthy) (bench 1)).run (start (bench 1) blank) (online 0) =
      some k ∧
    (system (fun _ ↦ SlsDetDriver.healthy) (bench 1)).run k
      (on .runStatus 0 .readInt32 :: (exchange 0 ++ [.resume 0])) = some k' ∧
    (exchange 0 ++ [ClientLabel.resume 0]).length ≤ 7 * size (bench 1) + 30 := by
  have hbefore : ((system (fun _ ↦ SlsDetDriver.healthy) (bench 1)).run (start (bench 1) blank)
      (online 0)).map (fun k ↦ k.isIdle) = some true := by decide +kernel
  have hafter : ((system (fun _ ↦ SlsDetDriver.healthy) (bench 1)).run (start (bench 1) blank)
      (online 0 ++ on .runStatus 0 .readInt32 :: (exchange 0 ++ [.resume 0]))).map
      (fun k ↦ k.isIdle) = some true := by decide +kernel
  obtain ⟨k, k', hrun, hidle, hrun', -⟩ := LabelledMachine.exists_run_append _ hbefore hafter
  have hguarded : PortCall.Guarded (bench 1) ⟨⟨.param .runStatus, 0⟩, .readInt32⟩
      (sync (fun _ ↦ SlsDetDriver.healthy) k.shared) := by
    rintro ⟨⟩
  exact ⟨k, k', hrun, hrun', (calls_terminate (by decide +kernel) hrun
    (Client.thread_of_isIdle hidle) hguarded
    (by simp [exchange, Client.Inside, Move.InTime]) hrun').1⟩

end SlsDet
