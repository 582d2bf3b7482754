import SlsDetModel.Port.Footprint
import SlsDetModel.Port.Runs

/-!
# The detectors of one port do not interfere

Two runs of one port that cannot be told apart by what happens at one address: the same calls
there, the same answers of the detector, and the same waits that expire. What happens at the other
addresses is arbitrary in both, and so is the schedule of every worker. `isolated` says that the
address cannot tell the runs apart by their results either.

The one exception is the count of connections, which the port keeps in the list of address 0. A
read of it is a read of the other addresses (`count_tells`).
-/

namespace SlsDetDriver

variable {d : SlsDetDriver}

/-- What the caller sees of a message just returned does not depend on the schedule of the
worker. -/
theorem Operating.textOf_sync (lib : Library) {rep : SlsDetMessage} (h : d.Operating)
    (hc : d.caller = .idle) (htimely : d.Timely rep) :
    textOf (sync lib d).core rep = textOf d.core rep := by
  rcases hrep : rep.data with - | v | v | v | pgp
  case string =>
    obtain ⟨o, ho, hanswered⟩ := htimely (by rw [SlsDetMessage.dtype, hrep])
    have hnone : inCall d.caller = none := by rw [hc]; rfl
    obtain ⟨hzero, -⟩ := h.legible.settled hnone o rep ho hanswered
    rw [(h.correlated.conserved.at_rest hzero).2.2.2.1]
  all_goals rw [textOf, textOf, hrep]

end SlsDetDriver

namespace SlsDet

variable {lib lib₁ lib₂ : ℕ → Library} {cfg : SlsDetConfig} {enums enums₁ enums₂ : EnumBuffers}
  {a b : ℕ} {s s' t t' : SlsDet} {k k₁ k₂ : PortSystem} {ls ls₁ ls₂ : List PortLabel}

/-! ### What an address sees of a run -/

/-- The call is a call at the address. -/
def concerns (cfg : SlsDetConfig) (a : ℕ) (c : PortCall) : Bool :=
  getAddress (size cfg) c.user = some a

/-- The ends of the waits for the driver at the address. -/
def ends (a : ℕ) : Move → Option Bool
  | .wait b expired => if b = a then some expired else none
  | .work _ => none

theorem ends_eq_some_iff {e : Move} {expired : Bool} :
    ends a e = some expired ↔ e = .wait a expired := by
  cases e with
  | work b => exact ⟨fun h ↦ (nomatch h), fun h ↦ (nomatch h)⟩
  | wait b expired' =>
    rw [ends, Option.ite_none_right_eq_some, Option.some_inj, Move.wait.injEq]

/-- What happens at the address: the calls there, and how its waits end. -/
def happening (cfg : SlsDetConfig) (a : ℕ) (ls : List PortLabel) : List (PortCall ⊕ Bool) :=
  ls.filterMap (Client.seenLabel (concerns cfg a) (ends a))

/-- No call at the address is under way. -/
abbrev Quiet (cfg : SlsDetConfig) (a : ℕ) (k : PortSystem) : Prop :=
  Client.Quiet (concerns cfg a) k

/-! ### The drivers -/

/-- A step of another driver. -/
theorem view_stepDet_of_ne {l : SlsDetDriver.Label} {lib₀ : Library} (hb : b ≠ a)
    (hs : stepDet lib s b l = some t) : view lib₀ a t = view lib₀ a s := by
  obtain ⟨d, d', -, -, rfl⟩ := stepDet_eq_some_iff.1 hs
  exact view_setDet_of_ne hb d'

/-- A step of the address's own worker. -/
theorem view_work (hs : stepDet lib s a .work = some t) : view (lib a) a t = view (lib a) a s := by
  obtain ⟨d, d', hd, hstep, rfl⟩ := stepDet_eq_some_iff.1 hs
  have hsync := SlsDetDriver.sync_work (SlsDetDriver.workStep_of_work hstep)
  have hset : s.setDet a d = s := by rw [setDet, ← hd, Function.update_eq_self]
  exact (view_setDet_same rfl hsync).trans (congrArg _ hset)

/-- Drivers that look the same are both there. -/
theorem exists_of_view {lib₀ : Library} (h : view lib₀ a s = view lib₀ a t) {d : SlsDetDriver}
    (hd : s.dets a = some d) :
    ∃ e, t.dets a = some e ∧ SlsDetDriver.sync lib₀ d = SlsDetDriver.sync lib₀ e := by
  have hsync := sync_of_view h
  rw [hd] at hsync
  obtain ⟨e, he, heq⟩ := Option.map_eq_some_iff.1 hsync.symm
  exact ⟨e, he, heq.symm⟩

/-- **The same step of drivers that look the same** has the same effect, for the address. -/
theorem view_stepDet {l : SlsDetDriver.Label} (hlib : lib₁ a = lib₂ a)
    (h : view (lib₁ a) a s = view (lib₁ a) a t) (hl : l.IsTraffic)
    (hs : stepDet lib₁ s a l = some s') (ht : stepDet lib₂ t a l = some t') :
    view (lib₁ a) a s' = view (lib₁ a) a t' := by
  obtain ⟨d, d', hd, hstep, rfl⟩ := stepDet_eq_some_iff.1 hs
  obtain ⟨e, e', he, hstep', rfl⟩ := stepDet_eq_some_iff.1 ht
  obtain ⟨e₀, he₀, hsync⟩ := exists_of_view h hd
  obtain rfl := Option.some.inj (he.symm.trans he₀)
  have hd' := SlsDetDriver.sync_step hl hstep
  have he' := SlsDetDriver.sync_step hl hstep'
  rw [← hlib, ← hsync] at he'
  exact view_setDet_same h (Option.some.inj (hd'.symm.trans he'))

/-- **What happens elsewhere keeps the view** of an address. -/
theorem keeps (lib : ℕ → Library) (cfg : SlsDetConfig) (a : ℕ) :
    Client.Keeps (server lib) (perform cfg) DetRequest.addr (view (lib a) a) (concerns cfg a) a
      (ends a) where
  prog := fun hc ↦ spares_perform (of_decide_eq_false hc)
  enter := by
    intro i s t hi hs
    cases i with
    | request b m => exact view_stepDet_of_ne hi hs
    | inspect b rep =>
      obtain ⟨-, -, rfl⟩ := Option.map_eq_some_iff.1 hs
      rfl
  leave := by
    intro i s r t hi hs
    cases i with
    | request b m =>
      obtain ⟨-, -, -, -, -, hfinish⟩ := leave_request_eq_some_iff.1 hs
      exact view_stepDet_of_ne hi hfinish
    | inspect b rep =>
      obtain ⟨-, -, -, hlook⟩ := leave_inspect_eq_some_iff.1 hs
      exact view_stepDet_of_ne hi hlook
  env := by
    intro e s t he hs
    cases e with
    | wait b expired =>
      have hb : b ≠ a := fun h ↦ (nomatch (if_pos h).symm.trans he)
      exact view_stepDet_of_ne hb hs
    | work b =>
      by_cases hb : b = a
      · subst hb
        exact view_work hs
      · exact view_stepDet_of_ne hb hs

/-- A look is at what was just returned, by a driver that operates. -/
def UnderWay (i : DetRequest) (s : SlsDet) : Prop :=
  match i with
  | .request _ _ => True
  | .inspect a rep => ∀ d, s.dets a = some d → d.Operating ∧ d.Timely rep

/-- If one of two drivers that look the same can be called, so can the other. -/
theorem exists_request {lib₀ : Library} (h : view lib₀ a s = view lib₀ a t) {m : SlsDetMessage}
    (hs : stepDet lib₁ s a (.request m) = some s') :
    ∃ t', stepDet lib₂ t a (.request m) = some t' := by
  obtain ⟨d, d', hd, hstep, -⟩ := stepDet_eq_some_iff.1 hs
  obtain ⟨hc, -⟩ := SlsDetDriver.request_eq_some_iff.1 hstep
  obtain ⟨e, he, hsync⟩ := exists_of_view h hd
  have hcaller : d.caller = e.caller := congrArg SlsDetDriver.Sync.caller hsync
  exact ⟨_, stepDet_eq_some_iff.2 ⟨e, _, he,
    SlsDetDriver.request_eq_some_iff.2 ⟨hcaller.symm.trans hc, rfl⟩, rfl⟩⟩

/-- A request is issued to both of two drivers that look the same, or to neither. -/
theorem map_view_enter (hlib : lib₁ a = lib₂ a) {i : DetRequest} (hi : i.addr = a)
    (h : view (lib₁ a) a s = view (lib₁ a) a t) :
    ((server lib₁).enter i s).map (view (lib₁ a) a) =
      ((server lib₂).enter i t).map (view (lib₁ a) a) := by
  cases i with
  | inspect b rep =>
    obtain rfl : b = a := hi
    show ((s.dets b).map fun _ ↦ s).map _ = ((t.dets b).map fun _ ↦ t).map _
    have hsome := isSome_of_view h
    rcases hd : s.dets b with - | d <;> rcases he : t.dets b with - | e <;> rw [hd, he] at hsome
    · rfl
    · cases hsome
    · cases hsome
    · exact congrArg some h
  | request b m =>
    obtain rfl : b = a := hi
    show (stepDet lib₁ s b (.request m)).map _ = (stepDet lib₂ t b (.request m)).map _
    rcases hs : stepDet lib₁ s b (.request m) with - | s' <;>
      rcases ht : stepDet lib₂ t b (.request m) with - | t'
    · rfl
    · obtain ⟨s', hs'⟩ : ∃ s', stepDet lib₁ s b (.request m) = some s' := exists_request h.symm ht
      cases hs.symm.trans hs'
    · obtain ⟨t', ht'⟩ : ∃ t', stepDet lib₂ t b (.request m) = some t' := exists_request h hs
      cases ht.symm.trans ht'
    · exact congrArg some (view_stepDet hlib h rfl hs ht)

/-- A driver whose caller has its answer, or is not called, has no wait that could end. -/
theorem wait_of_inCall {d : SlsDetDriver} (h : SlsDetDriver.inCall d.caller = none)
    (expired : Bool) : d.wait expired = none := by
  rw [SlsDetDriver.wait]
  rcases hc : d.caller with - | p | p | p | p | - | - | - <;> rw [hc] at h <;>
    first | rfl | cases h

/-- When an answer is there, no wait at the address can end, in either port. -/
theorem no_end_of_leave {i : DetRequest} {r : i.Reply} {e : Move} {expired : Bool} {lib₀ : Library}
    (hi : i.addr = a) (h : view lib₀ a s = view lib₀ a t) (he : ends a e = some expired)
    (hl : (server lib₁).leave i s = some (r, s')) (hs : (server lib₂).env e t = some t') :
    False := by
  obtain rfl := ends_eq_some_iff.1 he
  have hwaits : ∀ d, s.dets a = some d → SlsDetDriver.inCall d.caller = none → False := by
    intro d hd hc
    obtain ⟨f, hf, hsync⟩ := exists_of_view h hd
    have hcaller : d.caller = f.caller := congrArg SlsDetDriver.Sync.caller hsync
    obtain ⟨f₀, f', hf₀, hstep, -⟩ := stepDet_eq_some_iff.1 hs
    obtain rfl := Option.some.inj (hf.symm.trans hf₀)
    exact nomatch (wait_of_inCall (hcaller ▸ hc) expired).symm.trans hstep
  cases i with
  | request b m =>
    obtain rfl : b = a := hi
    obtain ⟨d, p, hd, hc, -⟩ := leave_request_eq_some_iff.1 hl
    exact hwaits d hd (by rw [hc]; rfl)
  | inspect b rep =>
    obtain rfl : b = a := hi
    obtain ⟨d, hd, -, hlook⟩ := leave_inspect_eq_some_iff.1 hl
    obtain ⟨d₀, d', hd₀, hstep, -⟩ := stepDet_eq_some_iff.1 hlook
    obtain rfl := Option.some.inj (hd.symm.trans hd₀)
    obtain ⟨hc, -⟩ := SlsDetDriver.inspect_eq_some_iff.1 hstep
    exact hwaits d hd (by rw [hc]; rfl)

/-- The same answer is given by drivers that look the same. -/
theorem leave_of_view (hlib : lib₁ a = lib₂ a) {i : DetRequest} {r₁ r₂ : i.Reply} (hi : i.addr = a)
    (h : view (lib₁ a) a s = view (lib₁ a) a t) (hs : UnderWay i s) (ht : UnderWay i t)
    (hl₁ : (server lib₁).leave i s = some (r₁, s'))
    (hl₂ : (server lib₂).leave i t = some (r₂, t')) :
    r₁ = r₂ ∧ view (lib₁ a) a s' = view (lib₁ a) a t' := by
  cases i with
  | request b m =>
    obtain rfl : b = a := hi
    obtain ⟨d, p, hd, hc, rfl, hfinish⟩ := leave_request_eq_some_iff.1 hl₁
    obtain ⟨e, q, he, hc', rfl, hfinish'⟩ := leave_request_eq_some_iff.1 hl₂
    obtain ⟨e₀, he₀, hsync⟩ := exists_of_view h hd
    obtain rfl := Option.some.inj (he.symm.trans he₀)
    have hcaller : d.caller = e.caller := congrArg SlsDetDriver.Sync.caller hsync
    rw [hc, hc'] at hcaller
    obtain rfl := Caller.returned.inj hcaller
    exact ⟨rfl, view_stepDet hlib h rfl hfinish hfinish'⟩
  | inspect b rep =>
    obtain rfl : b = a := hi
    obtain ⟨d, hd, rfl, hlook⟩ := leave_inspect_eq_some_iff.1 hl₁
    obtain ⟨e, he, rfl, hlook'⟩ := leave_inspect_eq_some_iff.1 hl₂
    refine ⟨?_, view_stepDet hlib h rfl hlook hlook'⟩
    obtain ⟨e₀, he₀, hsync⟩ := exists_of_view h hd
    obtain rfl := Option.some.inj (he.symm.trans he₀)
    -- both callers are idle, and what they see is what the synchronous driver shows
    have hidle : ∀ {lib : ℕ → Library} {u u' : SlsDet} {f : SlsDetDriver}, u.dets b = some f →
        stepDet lib u b (.inspect rep) = some u' → f.caller = .idle := by
      intro lib u u' f hf hstep
      obtain ⟨f₀, f', hf₀, hstep, -⟩ := stepDet_eq_some_iff.1 hstep
      obtain rfl := Option.some.inj (hf.symm.trans hf₀)
      exact (SlsDetDriver.inspect_eq_some_iff.1 hstep).1
    obtain ⟨hop, htimely⟩ := hs d hd
    obtain ⟨hop', htimely'⟩ := ht e he
    rw [← hop.textOf_sync (lib₁ b) (hidle hd hlook) htimely, hsync,
      hop'.textOf_sync (lib₁ b) (hidle he hlook') htimely']

/-- **Calls at an address act on its view alone.** -/
theorem acts (hlib : lib₁ a = lib₂ a) : Client.Acts (server lib₁) (server lib₂) (perform cfg)
    DetRequest.addr (view (lib₁ a) a) (concerns cfg a) a (ends a)
    (fun c r r' ↦ ¬c.ReadsCount cfg → r = r') UnderWay where
  prog := fun hc ↦ agrees_perform (of_decide_eq_true hc)
  enter := fun hi h ↦ map_view_enter hlib hi h
  leave := fun hi h hs ht hl₁ hl₂ ↦ leave_of_view hlib hi h hs ht hl₁ hl₂
  env := by
    intro e₁ e₂ s t s' t' expired h he₁ he₂ hs ht
    obtain rfl := ends_eq_some_iff.1 he₁
    obtain rfl := ends_eq_some_iff.1 he₂
    exact view_stepDet hlib h rfl hs ht
  exclude₁ := fun hi h he hl hs ↦ no_end_of_leave hi h he hl hs
  exclude₂ := fun hi h he hs hl ↦ no_end_of_leave hi h.symm he hl hs

/-! ### The runs -/

/-- Of every state of a run it is known how a request that is under way came about. -/
theorem knows (lib : ℕ → Library) (cfg : SlsDetConfig) (enums : EnumBuffers) :
    Client.Knows (system lib cfg) ((system lib cfg).Reaches (start cfg enums)) UnderWay where
  step := fun hreach hstep ↦ hreach.trans ⟨[_], by rw [LabelledMachine.run_cons, hstep]; rfl⟩
  waiting := by
    rintro k c i kont ⟨ls, hrun⟩ hth
    have hholds := (runs_of_run hrun).holds
    rw [Client.Holds, hth] at hholds
    obtain ⟨s, -, ⟨hop, -, hduring⟩, -⟩ := hholds
    cases i with
    | request a m => trivial
    | inspect a rep =>
      obtain ⟨-, d, hd, htimely⟩ := hduring
      intro d' hd'
      obtain rfl := Option.some.inj (hd.symm.trans hd')
      exact ⟨hop a d hd, htimely⟩

/-- What an address can tell of a state between calls there: the results of the calls, its
parameters without the count of connections, the messages its driver was given and sent, and its
status. -/
structure SameAt (cfg : SlsDetConfig) (a : ℕ) (k₁ k₂ : PortSystem) : Prop where
  results : List.Forall₂ (fun p q ↦ p.1 = q.1 ∧ (¬p.1.ReadsCount cfg → p.2 = q.2))
    (Client.resultsOf (concerns cfg a) k₁.results) (Client.resultsOf (concerns cfg a) k₂.results)
  params : ∀ p, ¬IsCount a p → k₁.shared.params a p = k₂.shared.params a p
  messages : (k₁.shared.dets a).map (fun d ↦ (d.journal.called, d.journal.sent)) =
    (k₂.shared.dets a).map fun d ↦ (d.journal.called, d.journal.sent)
  isConnected : k₁.shared.isConnected a = k₂.shared.isConnected a

/-- **Detectors of one port do not interfere.** Take two runs of a port in which the same happens
at an address: the same calls, the same ends of waits, a detector that answers alike. Whatever
happens at the other addresses, and whenever it does, the address cannot tell the runs apart; only
a read of the count of connections may. -/
theorem isolated (hlib : lib₁ a = lib₂ a) (hsame : happening cfg a ls₁ = happening cfg a ls₂)
    (hrun₁ : (system lib₁ cfg).run (start cfg enums₁) ls₁ = some k₁)
    (hrun₂ : (system lib₂ cfg).run (start cfg enums₂) ls₂ = some k₂)
    (hquiet₁ : Quiet cfg a k₁) (hquiet₂ : Quiet cfg a k₂) : SameAt cfg a k₁ k₂ := by
  have hstart : Client.Alike DetRequest.addr (view (lib₁ a) a) (concerns cfg a) a
      (fun c r r' ↦ ¬c.ReadsCount cfg → r = r') (start cfg enums₁) (start cfg enums₂) :=
    ⟨rfl, .nil, Or.inl ⟨trivial, trivial⟩⟩
  have hunwinds := Client.unwinds (keeps lib₁ cfg a) (hlib ▸ keeps lib₂ cfg a) (acts hlib)
    (knows lib₁ cfg enums₁) (knows lib₂ cfg enums₂)
  obtain ⟨-, -, hsees, hresults, -⟩ := LabelledMachine.unwinding hunwinds (by rintro - rfl; rfl)
    ⟨.refl _, .refl _, hstart⟩ hsame hrun₁ hrun₂ hquiet₁ hquiet₂
  refine ⟨hresults, fun p hp ↦ params_of_view hsees hp, ?_, isConnected_of_view hsees⟩
  have hmap := congrArg (Option.map fun y : SlsDetDriver.Sync ↦ (y.called, y.sent))
    (sync_of_view hsees)
  rwa [Option.map_map, Option.map_map] at hmap

/-- The run status is read at address 0. -/
def glance : List PortLabel :=
  online 0 ++ on .runStatus 0 .readInt32 :: (exchange 0 ++ [.resume 0])

/-- Address 0 with the port to itself, and with an address 1 that is connected before it. -/
theorem isolated_crowded : ∃ k₁ k₂,
    (system (fun _ ↦ SlsDetDriver.healthy) (bench 2)).run (start (bench 2) blank) glance = some k₁ ∧
    (system (fun _ ↦ SlsDetDriver.healthy) (bench 2)).run (start (bench 2) blank)
      (online 1 ++ glance) = some k₂ ∧ SameAt (bench 2) 0 k₁ k₂ := by
  have halone : ((system (fun _ ↦ SlsDetDriver.healthy) (bench 2)).run (start (bench 2) blank)
      glance).map (fun k ↦ k.isIdle) = some true := by decide +kernel
  have hcrowded : ((system (fun _ ↦ SlsDetDriver.healthy) (bench 2)).run (start (bench 2) blank)
      (online 1 ++ glance)).map (fun k ↦ k.isIdle) = some true := by decide +kernel
  obtain ⟨k₁, hrun₁, hidle₁⟩ := Option.map_eq_some_iff.1 halone
  obtain ⟨k₂, hrun₂, hidle₂⟩ := Option.map_eq_some_iff.1 hcrowded
  exact ⟨k₁, k₂, hrun₁, hrun₂, isolated rfl (by decide) hrun₁ hrun₂
    (Client.quiet_of_isIdle hidle₁) (Client.quiet_of_isIdle hidle₂)⟩

/-- **A read of the count tells.** Nothing happens at address 0 but that it reads the count of
connections; what it gets depends on whether address 1 is connected. -/
theorem count_tells : ∃ k₁ k₂,
    (system (fun _ ↦ SlsDetDriver.healthy) (bench 2)).run (start (bench 2) blank)
      [on .numDet 0 .readInt32] = some k₁ ∧
    (system (fun _ ↦ SlsDetDriver.healthy) (bench 2)).run (start (bench 2) blank)
      (online 1 ++ [on .numDet 0 .readInt32]) = some k₂ ∧
    happening (bench 2) 0 [on .numDet 0 .readInt32] =
      happening (bench 2) 0 (online 1 ++ [on .numDet 0 .readInt32]) ∧
    Quiet (bench 2) 0 k₁ ∧ Quiet (bench 2) 0 k₂ ∧
    Client.resultsOf (concerns (bench 2) 0) k₁.results ≠
      Client.resultsOf (concerns (bench 2) 0) k₂.results := by
  have halone : ((system (fun _ ↦ SlsDetDriver.healthy) (bench 2)).run (start (bench 2) blank)
      [on .numDet 0 .readInt32]).map (fun k ↦ (k.isIdle,
        (Client.resultsOf (concerns (bench 2) 0) k.results).map Prod.snd)) =
      some (true, [.ofStatus .paramUndefined]) := by decide +kernel
  have hcrowded : ((system (fun _ ↦ SlsDetDriver.healthy) (bench 2)).run (start (bench 2) blank)
      (online 1 ++ [on .numDet 0 .readInt32])).map (fun k ↦ (k.isIdle,
        (Client.resultsOf (concerns (bench 2) 0) k.results).map Prod.snd)) =
      some (true, [⟨.success, some (.int32 1), none, false⟩]) := by decide +kernel
  obtain ⟨k₁, hrun₁, hk₁⟩ := Option.map_eq_some_iff.1 halone
  obtain ⟨k₂, hrun₂, hk₂⟩ := Option.map_eq_some_iff.1 hcrowded
  obtain ⟨hidle₁, hresults₁⟩ := Prod.mk.inj hk₁
  obtain ⟨hidle₂, hresults₂⟩ := Prod.mk.inj hk₂
  refine ⟨k₁, k₂, hrun₁, hrun₂, by decide, Client.quiet_of_isIdle hidle₁,
    Client.quiet_of_isIdle hidle₂, fun heq ↦ ?_⟩
  rw [heq, hresults₂] at hresults₁
  cases hresults₁

end SlsDet
