import SlsDetModel.Driver.Lifetime
import SlsDetModel.Driver.Progress
import SlsDetModel.Driver.Synchronous

/-!
# A driver winds down

The destructor of a driver that no caller waits for: nothing is in flight when it sets in, so
whatever the worker still takes is the Exit message that `stop()` posts. `WindingDown` is the state
of such a driver from then on. Its calls of the library since then only unmake the object that is
there and, when the worker prepares for Exit without one, make and unmake another; `exitsLeft`
counts how often that may still happen, and it is once.
-/

/-- The call makes or unmakes an object: with those that do nothing else goes the count that belongs
to an initialization. -/
def LibCall.IsLifecycle : LibCall → Bool
  | .getNumberOfDetectors => true
  | q => !q.IsUse

namespace Core

/-- The calls since `c₀` are of the life of objects, and construct at most `n` of them. -/
def OnlyLifecycle (c₀ : Core) (n : ℕ) (c : Core) : Prop :=
  ∃ new, c.calls = c₀.calls ++ new ∧ (∀ q ∈ new, q.IsLifecycle = true) ∧
    new.countP LibCall.IsNew ≤ n

variable {lib : Library} {c₀ c c' : Core} {m n : ℕ}

theorem OnlyLifecycle.refl (c : Core) : OnlyLifecycle c 0 c :=
  ⟨[], (List.append_nil _).symm, fun _ hq ↦ (List.not_mem_nil hq).elim, Nat.le_refl 0⟩

theorem OnlyLifecycle.trans (h : OnlyLifecycle c₀ m c) (h' : OnlyLifecycle c n c') :
    OnlyLifecycle c₀ (m + n) c' := by
  obtain ⟨new, hcalls, hnew, hm⟩ := h
  obtain ⟨new', hcalls', hnew', hn⟩ := h'
  refine ⟨new ++ new', ?_, fun q hq ↦ ?_, ?_⟩
  · rw [hcalls', hcalls, List.append_assoc]
  · exact (List.mem_append.1 hq).elim (hnew q) (hnew' q)
  · rw [List.countP_append]
    exact Nat.add_le_add hm hn

theorem OnlyLifecycle.mono (h : OnlyLifecycle c₀ m c) (hmn : m ≤ n) : OnlyLifecycle c₀ n c := by
  obtain ⟨new, hcalls, hnew, hm⟩ := h
  exact ⟨new, hcalls, hnew, hm.trans hmn⟩

/-- Deleting an object. -/
theorem onlyLifecycle_shutdown (c : Core) : OnlyLifecycle c 0 c.shutdown := by
  rw [shutdown]
  split
  case isTrue => exact ⟨[.delete, .freeSharedMemory c.id], rfl, by simp [LibCall.IsLifecycle,
    LibCall.IsUse], Nat.le_refl 0⟩
  case isFalse => exact .refl c

/-- Making one, which may fail on the way. -/
theorem onlyLifecycle_initializeDet (lib : Library) (c : Core) :
    OnlyLifecycle c 1 (c.initializeDet lib) := by
  rw [initializeDet]
  dsimp only [call, modifyDet]
  split_ifs
  · exact (OnlyLifecycle.refl c).mono (Nat.zero_le 1)
  · exact ⟨[.new c.id], rfl, by simp [LibCall.IsLifecycle, LibCall.IsUse], Nat.le_refl 1⟩
  · refine ⟨[.new c.id, .setHostname c.hostname], List.append_assoc _ _ _, ?_, Nat.le_refl 1⟩
    simp [LibCall.IsLifecycle, LibCall.IsUse]
  all_goals
    have hcounted : ∀ det, OnlyLifecycle c 1 { c with
        det := det
        calls := c.calls ++ [.new c.id] ++ [.setHostname c.hostname] ++ [.getNumberOfDetectors] } :=
      fun _ ↦ ⟨[.new c.id, .setHostname c.hostname, .getNumberOfDetectors], by simp,
        by simp [LibCall.IsLifecycle, LibCall.IsUse], Nat.le_refl 1⟩
  · exact hcounted _
  · exact (hcounted _).trans (onlyLifecycle_shutdown _)
  · exact hcounted _

end Core

namespace SlsDetDriver

variable {lib : Library} {id : Int} {hostName : Text} {c₀ : Core} {d d' : SlsDetDriver}

/-- Exit is still to be posted. -/
def toPost : Caller → ℕ
  | .stopped => 0
  | _ => 1

/-- The worker is still to prepare for the message it holds. -/
def toPrepare : Worker → ℕ
  | .holding _ => 1
  | _ => 0

/-- How many Exit messages the worker may still prepare for: to be posted, queued, or taken. -/
def exitsLeft (d : SlsDetDriver) : ℕ :=
  toPost d.caller + d.requestQueue.items.length + toPrepare d.worker

/-- A driver whose destructor is about to be called, or under way, with no reply outstanding. -/
structure WindingDown (lib : Library) (id : Int) (hostName : Text) (c₀ : Core) (d : SlsDetDriver) :
    Prop where
  accounted : d.Accounted
  follows : d.core.Follows false lib id hostName
  pending : d.pending = 0
  caller : d.caller = .idle ∨ d.caller = .stopping ∨ d.caller = .posting ∨ d.caller = .stopped
  exits : ∀ p, p ∈ d.requestQueue.items ∨ d.worker = .holding p ∨ d.worker = .ready p →
    p.msg = .ofType .exit
  calls : ∃ n, c₀.OnlyLifecycle n d.core ∧ n + d.exitsLeft ≤ 1

/-- The steps of the destructor and of the worker. -/
def Label.IsDestructor : Label → Bool
  | .work => true
  | .destroy => true
  | .stopReply => true
  | .stopRequest => true
  | .shutdown => true
  | _ => false

/-- **Before its destructor sets in, a driver with no reply outstanding is at rest.** -/
theorem Accounted.at_rest (h : d.Accounted) (hpending : d.pending = 0) (hc : d.caller = .idle) :
    d.requestQueue.items = [] ∧ d.replyQueue.items = [] ∧
      (d.worker = .test ∨ d.worker = .receiving ∨ d.worker = .exited) := by
  rcases h with ⟨hcons, -⟩ | hstop
  · -- the library plays no part in it
    obtain ⟨hreq, hrep, hw, -⟩ := @Conserved.at_rest { answer := fun _ _ ↦ {} } d hcons hpending
    exact ⟨hreq, hrep, hw⟩
  · have hcaller := hstop.caller_eq
    rw [hc] at hcaller
    simp at hcaller

theorem windingDown_of_idle (h : d.Accounted) (hfollows : d.core.Follows false lib id hostName)
    (hpending : d.pending = 0) (hc : d.caller = .idle) : WindingDown lib id hostName d.core d := by
  obtain ⟨hreq, -, hw⟩ := h.at_rest hpending hc
  have hbusy : ∀ p, d.worker ≠ .holding p ∧ d.worker ≠ .ready p := by
    intro p
    rcases hw with hw | hw | hw <;> rw [hw] <;> exact ⟨fun h ↦ (nomatch h), fun h ↦ (nomatch h)⟩
  refine ⟨h, hfollows, hpending, Or.inl hc, fun p hp ↦ ?_, 0, .refl d.core, ?_⟩
  · rw [hreq] at hp
    rcases hp with hp | hp | hp
    · exact (List.not_mem_nil hp).elim
    · exact ((hbusy p).1 hp).elim
    · exact ((hbusy p).2 hp).elim
  · rw [exitsLeft, hc, hreq]
    rcases hw with hw | hw | hw <;> rw [hw] <;> decide

/-- The worker takes no message but Exit, and prepares for it at most as often as it takes one. -/
theorem WindingDown.work (h : WindingDown lib id hostName c₀ d) (hs : WorkStep lib d d') :
    (∀ p, p ∈ d'.requestQueue.items ∨ d'.worker = .holding p ∨ d'.worker = .ready p →
      p.msg = .ofType .exit) ∧ ∃ n, c₀.OnlyLifecycle n d'.core ∧ n + d'.exitsLeft ≤ 1 := by
  obtain ⟨n, honly, hle⟩ := h.calls
  have hexits := h.exits
  cases hs with
  | test hw =>
    have hnext : ∀ w, w = (if d.running then Worker.receiving else .exited) →
        toPrepare w = 0 ∧ ∀ p, w ≠ .holding p ∧ w ≠ .ready p := by
      rintro w rfl
      split <;> exact ⟨rfl, fun p ↦ ⟨fun h ↦ (nomatch h), fun h ↦ (nomatch h)⟩⟩
    obtain ⟨hprepare, hne⟩ := hnext _ rfl
    constructor
    · rintro p (hp | hp | hp)
      · exact hexits p (Or.inl hp)
      · exact ((hne p).1 hp).elim
      · exact ((hne p).2 hp).elim
    · refine ⟨n, honly, ?_⟩
      rw [exitsLeft, hw] at hle
      rw [exitsLeft]
      dsimp only
      rw [hprepare]
      exact hle
  | take p rest hw hq =>
    rw [exitsLeft, hw, hq, List.length_cons] at hle
    constructor
    · rintro q (hp | hp | hp)
      · exact hexits q (Or.inl (hq ▸ List.mem_cons_of_mem _ hp))
      · obtain rfl := Worker.holding.inj hp
        exact hexits p (Or.inl (hq ▸ List.mem_cons_self))
      · cases hp
    · refine ⟨n, honly, ?_⟩
      rw [exitsLeft]
      simp only [toPrepare] at hle ⊢
      omega
  | prepare p hw =>
    rw [exitsLeft, hw] at hle
    constructor
    · rintro q (hp | hp | hp)
      · exact hexits q (Or.inl hp)
      · cases hp
      · obtain rfl := Worker.ready.inj hp
        exact hexits p (Or.inr (Or.inl hw))
    · refine ⟨n + 1, honly.trans (Core.onlyLifecycle_initializeDet lib d.core), ?_⟩
      rw [exitsLeft]
      simp only [toPrepare] at hle ⊢
      omega
  | answer p hw =>
    rw [exitsLeft, hw] at hle
    constructor
    · rintro q (hp | hp | hp)
      · exact hexits q (Or.inl hp)
      · cases hp
      · cases hp
    · refine ⟨n, ?_, hle⟩
      show c₀.OnlyLifecycle n (respond lib d.core p.msg).2
      rwa [hexits p (Or.inr (Or.inr hw)), respond_exit]
  | reply p queue hw hq =>
    rw [exitsLeft, hw] at hle
    constructor
    · rintro q (hp | hp | hp)
      · exact hexits q (Or.inl hp)
      · cases hp
      · cases hp
    · exact ⟨n, honly, hle⟩

/-- **A driver that winds down goes on winding down**, whichever of its threads takes a step. -/
theorem WindingDown.step {l : Label} (h : WindingDown lib id hostName c₀ d)
    (hl : l.IsDestructor = true) (hs : (machine lib).step d l = some d') :
    WindingDown lib id hostName c₀ d' := by
  have haccounted := h.accounted.step hs
  have hfollows := follows_step h.follows (by simp) hs
  obtain ⟨n, honly, hle⟩ := h.calls
  rw [exitsLeft] at hle
  cases l with
  | work =>
    have hwork := workStep_of_work hs
    obtain ⟨hcaller, hpending, -⟩ := frame_work hwork
    obtain ⟨hexits, hcalls⟩ := h.work hwork
    exact ⟨haccounted, hfollows, hpending.trans h.pending, by rw [hcaller]; exact h.caller, hexits,
      hcalls⟩
  | destroy =>
    obtain ⟨hc, rfl⟩ := destroy_eq_some_iff.1 hs
    rw [hc] at hle
    exact ⟨haccounted, hfollows, h.pending, Or.inr (Or.inl rfl), h.exits, n, honly, hle⟩
  | stopReply =>
    obtain ⟨hc, queue, -, rfl⟩ := stopReply_eq_some_iff.1 hs
    rw [hc] at hle
    exact ⟨haccounted, hfollows, h.pending, Or.inr (Or.inr (Or.inl rfl)), h.exits, n, honly, hle⟩
  | stopRequest =>
    obtain ⟨hc, queue, hq, rfl⟩ := stopRequest_eq_some_iff.1 hs
    rw [hc] at hle
    refine ⟨haccounted, hfollows, h.pending, Or.inr (Or.inr (Or.inr rfl)), ?_, n, honly, ?_⟩
    · rintro p (hp | hp)
      · rcases List.mem_append.1 (hq ▸ hp) with hp | hp
        · exact h.exits p (Or.inl hp)
        · rw [List.mem_singleton.1 hp]
          rfl
      · exact h.exits p (Or.inr hp)
    · rw [exitsLeft, hq, List.length_append, List.length_singleton]
      simp only [toPost] at hle ⊢
      omega
  | shutdown =>
    obtain rfl := Option.some.inj hs
    exact ⟨haccounted, hfollows, h.pending, h.caller, h.exits, n,
      honly.trans (Core.onlyLifecycle_shutdown d.core), hle⟩
  | _ => cases hl

/-! ### What is left in the end -/

/-- How a driver is left: its worker is gone, and every object that was made has been unmade. Since
`c₀` at most one was made, and none was used. -/
structure Gone (id : Int) (c₀ : Core) (d : SlsDetDriver) : Prop where
  exited : d.worker = .exited
  det : d.core.det = none
  calls : c₀.OnlyLifecycle 1 d.core
  freed : d.core.calls.count .delete = d.core.calls.count (.freeSharedMemory id)

/-- The last step of the destructor, when its wait for the worker has ended. -/
theorem WindingDown.gone (h : WindingDown lib id hostName c₀ d) (hw : d.worker = .exited) :
    Gone id c₀ d.shutdown := by
  have hshutdown : WindingDown lib id hostName c₀ d.shutdown := h.step (l := .shutdown) rfl rfl
  obtain ⟨n, honly, hle⟩ := hshutdown.calls
  obtain ⟨-, -, st, hlives, hst⟩ := hshutdown.follows
  exact ⟨hw, Core.det_shutdown d.core, honly.mono (by omega), hlives.count_delete_of_fits hst⟩

/-! ### How long it takes -/

theorem stepsLeft_destroy (h : d.destroy = some d') : d'.stepsLeft = d.stepsLeft := by
  obtain ⟨hc, rfl⟩ := destroy_eq_some_iff.1 h
  rw [stepsLeft, stepsLeft, hc]
  rfl

theorem stepsLeft_stopReply (h : d.stopReply = some d') : d'.stepsLeft = d.stepsLeft + 1 := by
  obtain ⟨hc, queue, hq, rfl⟩ := stopReply_eq_some_iff.1 h
  rw [stepsLeft, stepsLeft, hc, hq, List.length_append]
  rfl

/-- The worker has six steps to take for an Exit message, as for any request. -/
theorem stepsLeft_stopRequest (h : d.stopRequest = some d') : d'.stepsLeft = d.stepsLeft + 6 := by
  obtain ⟨hc, queue, hq, rfl⟩ := stopRequest_eq_some_iff.1 h
  rw [stepsLeft, stepsLeft, hc, hq, List.length_append, List.length_singleton]
  simp only [waitsLeft]
  omega

/-- Before the destructor sets in, all the worker has left to do is its loop test. -/
theorem WindingDown.stepsLeft_le (h : WindingDown lib id hostName c₀ d) (hc : d.caller = .idle) :
    d.stepsLeft ≤ 1 := by
  obtain ⟨hreq, hrep, hw⟩ := h.accounted.at_rest h.pending hc
  rw [stepsLeft, hc, hreq, hrep]
  rcases hw with hw | hw | hw <;> rw [hw] <;> decide

end SlsDetDriver
