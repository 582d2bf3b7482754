import SlsDetModel.Driver.Capacity
import SlsDetModel.Driver.Replies

/-!
# Teardown

`run()` constructs the detector object lazily: whenever it holds a message and `_det` is null, it
calls `initialize()`, before it looks at the message. So an object that `shutdown()` deleted comes
back with the next message the worker takes, and the destructor itself posts one. `~SlsDet` calls
`shutdown()` first and then deletes the drivers, whose destructors post Exit to a worker that is
waiting in its receive: the worker takes Exit, finds no detector, and allocates the shared memory of
its id again (`teardown_not_final`).

What makes a teardown final is the order of the two events and the place of the worker
(`TeardownOk`). `shutdown()` is safe once the worker is past its lazy initialization for good; Exit
is safe if it finds a detector in place, or a worker that will not take it. Along runs that keep to
this no object is ever constructed again, and Exit is answered without a call of the library
(`teardown_final`).
-/

namespace SlsDetDriver

variable {lib : Library} {d d' : SlsDetDriver}

/-- How many detector objects were constructed. -/
def newCalls (d : SlsDetDriver) : ℕ := d.core.calls.countP LibCall.IsNew

/-- The worker will not come to its lazy initialization again: it is out of the loop, or it is past
the initialization and its next loop test ends it. -/
def PastInit (d : SlsDetDriver) : Prop :=
  match d.worker with
  | .exited => True
  | .receiving => False
  | .holding _ => False
  | _ => d.running = false

instance (d : SlsDetDriver) : Decidable d.PastInit := by
  unfold PastInit
  split <;> infer_instance

/-- **The condition of a final teardown**, on the state before the two steps that make it:
`shutdown()` is called with the worker past its lazy initialization, and `stop()` posts Exit while
there is a detector, or to a worker past its lazy initialization. -/
def TeardownOk (d : SlsDetDriver) : Label → Prop
  | .shutdown => d.PastInit
  | .stopRequest => d.core.det.isSome ∨ d.PastInit
  | _ => True

instance (d : SlsDetDriver) (l : Label) : Decidable (d.TeardownOk l) := by
  unfold TeardownOk
  split <;> infer_instance

/-- The steps that complete a teardown: the return of `shutdown()`, and the posting of Exit. -/
def Label.IsTeardown (l : Label) : Prop := l = .shutdown ∨ l = .stopRequest

/-- The worker cannot construct an object any more: it is past its lazy initialization, or it makes
its last round with a detector in place. -/
def Final (d : SlsDetDriver) : Prop := d.PastInit ∨ d.running = false ∧ d.core.det.isSome

/-! ### The worker's part -/

/-- An answer to a request constructs nothing. -/
theorem countP_calls_respond (lib : Library) (c : Core) (m : SlsDetMessage) :
    (respond lib c m).2.calls.countP LibCall.IsNew = c.calls.countP LibCall.IsNew := by
  rw [respond]
  split
  case isTrue hdet =>
    have hsound : Core.Sound lib (m.ownCall lib.rounding) c (c.process lib m) :=
      Core.sound_process hdet
    obtain ⟨new, hcalls, hnew, -⟩ := hsound.calls
    have hzero : new.countP LibCall.IsNew = 0 :=
      List.countP_eq_zero.2 fun q hq ↦ by rw [hnew q hq]; decide
    rw [hcalls, List.countP_append, hzero, Nat.add_zero]
  case isFalse => rfl

/-- Exit is invalid as a request: it is answered without touching the detector. -/
theorem respond_exit (lib : Library) (c : Core) : (respond lib c (.ofType .exit)).2 = c := by
  rw [respond]
  split <;> rfl

/-- **The worker's steps keep a final teardown final**, construct nothing, and leave the detector
alone when the message is Exit. -/
theorem Final.work (h : d.Final) (hs : WorkStep lib d d') :
    d'.Final ∧ d'.newCalls = d.newCalls ∧
      (∀ p, d.worker = .holding p ∨ d.worker = .ready p → p.msg = .ofType .exit →
        d'.core = d.core) := by
  rw [Final, PastInit] at h
  cases hs with
  | test hw =>
    have hr : d.running = false := by
      rw [hw] at h
      exact h.elim id And.left
    refine ⟨Or.inl ?_, rfl, fun p hp ↦ ?_⟩
    · show PastInit { d with worker := if d.running then .receiving else .exited }
      rw [hr]
      trivial
    · rw [hw] at hp
      rcases hp with hp | hp <;> cases hp
  | take p rest hw hq =>
    rw [hw] at h
    refine ⟨Or.inr (h.resolve_left id), rfl, fun p' hp ↦ ?_⟩
    rw [hw] at hp
    rcases hp with hp | hp <;> cases hp
  | prepare p hw =>
    rw [hw] at h
    obtain ⟨hr, hdet⟩ := h.resolve_left id
    have hinit : d.core.initializeDet lib = d.core := Core.initializeDet_of_isSome hdet
    refine ⟨Or.inl hr, ?_, fun _ _ _ ↦ hinit⟩
    show (d.core.initializeDet lib).calls.countP _ = _
    rw [hinit]
    rfl
  | answer p hw =>
    rw [hw] at h
    refine ⟨Or.inl (h.elim id And.left), countP_calls_respond lib d.core p.msg, ?_⟩
    intro p' hp hexit
    rw [hw] at hp
    rcases hp with hp | hp <;> cases hp
    show (respond lib d.core p.msg).2 = d.core
    rw [hexit]
    exact respond_exit lib d.core
  | reply p queue hw hq =>
    rw [hw] at h
    refine ⟨Or.inl (h.elim id And.left), rfl, fun p' hp ↦ ?_⟩
    rw [hw] at hp
    rcases hp with hp | hp <;> cases hp

/-! ### Every step -/

/-- The caller's steps leave what the worker works on alone, apart from `shutdown()`. -/
theorem core_caller {l : Label} (hl : l ≠ .work) (hs : (machine lib).step d l = some d') :
    d'.core = d.core ∨ l = .shutdown ∧ d' = d.shutdown := by
  cases l with
  | request m =>
    obtain ⟨-, rfl⟩ := request_eq_some_iff.1 hs
    exact Or.inl rfl
  | wait expired => exact Or.inl (by cases waitStep_of_wait hs <;> rfl)
  | finish =>
    obtain ⟨-, rfl⟩ := finish_eq_some_iff.1 hs
    exact Or.inl rfl
  | inspect rep =>
    obtain ⟨-, rfl⟩ := inspect_eq_some_iff.1 hs
    exact Or.inl rfl
  | work => exact (hl rfl).elim
  | destroy =>
    obtain ⟨-, rfl⟩ := destroy_eq_some_iff.1 hs
    exact Or.inl rfl
  | stopReply =>
    obtain ⟨-, queue, -, rfl⟩ := stopReply_eq_some_iff.1 hs
    exact Or.inl rfl
  | stopRequest =>
    obtain ⟨-, queue, -, rfl⟩ := stopRequest_eq_some_iff.1 hs
    exact Or.inl rfl
  | shutdown => exact Or.inr ⟨rfl, (Option.some.inj hs).symm⟩

/-- Deleting the object constructs none. -/
theorem newCalls_shutdown (d : SlsDetDriver) : d.shutdown.newCalls = d.newCalls := by
  show d.core.shutdown.calls.countP _ = _
  rw [Core.shutdown]
  split
  · show (d.core.calls ++ [_, _]).countP _ = _
    rw [List.countP_append]
    rfl
  · rfl

/-- Clearing `_running` does not unsettle a worker that is past its lazy initialization. -/
theorem PastInit.of_eq (h : d.PastInit) (hw : d'.worker = d.worker)
    (hr : d.running = false → d'.running = false) : d'.PastInit := by
  rw [PastInit] at h ⊢
  rw [hw]
  split at h
  case h_1 => trivial
  case h_2 => exact h
  case h_3 => exact h
  case h_4 => exact hr h

/-- **One step keeps a final teardown final**, and constructs nothing. -/
theorem Final.step {l : Label} (h : d.Final) (hok : d.TeardownOk l)
    (hs : (machine lib).step d l = some d') : d'.Final ∧ d'.newCalls = d.newCalls := by
  by_cases hl : l = .work
  · subst hl
    obtain ⟨hfinal, hnew, -⟩ := h.work (workStep_of_work hs)
    exact ⟨hfinal, hnew⟩
  obtain ⟨hw, -, hr⟩ := frame_caller hl hs
  rcases core_caller hl hs with hcore | ⟨rfl, rfl⟩
  · refine ⟨?_, by rw [newCalls, newCalls, hcore]⟩
    rcases h with h | ⟨hrun, hdet⟩
    · exact Or.inl (h.of_eq hw hr)
    · exact Or.inr ⟨hr hrun, by rw [hcore, hdet]⟩
  · exact ⟨Or.inl (PastInit.of_eq hok rfl id), newCalls_shutdown d⟩

/-- The step that completes the teardown makes it final, if it keeps to the condition. -/
theorem final_of_teardown {l : Label} (hacc : d.Accounted) (hok : d.TeardownOk l)
    (hl : l.IsTeardown) (hs : (machine lib).step d l = some d') : d'.Final := by
  rcases hl with rfl | rfl
  · obtain rfl := Option.some.inj hs
    exact Or.inl (PastInit.of_eq hok rfl id)
  · obtain ⟨hc, queue, -, rfl⟩ := stopRequest_eq_some_iff.1 hs
    have hr : d.running = false := by
      rcases hacc with ⟨hcons, -⟩ | ⟨hr, -⟩
      · have hph := hcons.phase
        rw [Phase, hc] at hph
        exact hph.elim
      · exact hr
    rcases hok with hdet | hpast
    · exact Or.inr ⟨hr, hdet⟩
    · exact Or.inl (hpast.of_eq rfl id)

/-- **A teardown is final** along every run that keeps to its condition, whatever is called and
however the threads are interleaved: once `shutdown()` has returned or Exit has been posted, the
worker constructs no detector object any more, and an Exit message it holds or answers leaves the
detector and the library alone. -/
theorem teardown_final {hostName : Text} {id : Int} {ls₁ ls₂ : List Label} {l : Label}
    {d₁ d₂ : SlsDetDriver} (hl : l.IsTeardown)
    (hok : (machine lib).Along TeardownOk (new hostName id) (ls₁ ++ l :: ls₂))
    (hrun₁ : (machine lib).run (new hostName id) (ls₁ ++ [l]) = some d₁)
    (hrun₂ : (machine lib).run d₁ ls₂ = some d₂) :
    d₂.newCalls = d₁.newCalls ∧
      ∀ p d₃, d₂.worker = .holding p ∨ d₂.worker = .ready p → p.msg = .ofType .exit →
        (machine lib).step d₂ .work = some d₃ → d₃.core = d₂.core := by
  obtain ⟨d₀, hrun₀, hlast⟩ := (machine lib).run_append_eq_some.1 hrun₁
  obtain ⟨d₁', hstep, hd₁⟩ := (machine lib).run_cons_eq_some.1 hlast
  obtain rfl : d₁' = d₁ := Option.some.inj hd₁
  obtain ⟨hokl, hok₂⟩ := hok.drop hrun₀
  have hfinal := final_of_teardown (accounted_of_run hrun₀) hokl hl hstep
  have hend : d₂.Final ∧ d₂.newCalls = d₁'.newCalls := by
    refine LabelledMachine.run_invariant_along (P := fun u ↦ u.Final ∧ u.newCalls = d₁'.newCalls)
      ?_ ⟨hfinal, rfl⟩ (hok₂ d₁' hstep) hrun₂
    rintro u l' v ⟨hu, hnew⟩ hl' hs
    obtain ⟨hv, hnew'⟩ := hu.step hl' hs
    exact ⟨hv, hnew'.trans hnew⟩
  refine ⟨hend.2, fun p d₃ hw hexit hs ↦ ?_⟩
  obtain ⟨-, -, hcore⟩ := hend.1.work (workStep_of_work hs)
  exact hcore p hw hexit

/-! ### The order of the two events -/

/-- A request that brings the detector up, answered, with the worker back in its receive. -/
def onlineRun : List Label :=
  [.request (.ofType .checkOnline), .wait false, .work, .work, .work, .work, .work, .wait false,
    .finish, .work]

/-- The destructor of the driver, up to the worker's end. -/
def destructorRun : List Label :=
  [.destroy, .stopReply, .stopRequest, .work, .work, .work, .work, .work]

/-- The destructor first and `shutdown()` last: nothing is constructed after Exit was posted. -/
theorem teardown_final_destructor : ∃ d₁ d₂,
    (machine healthy).run (new [] 0) ((onlineRun ++ [.destroy, .stopReply]) ++ [.stopRequest]) =
      some d₁ ∧
    (machine healthy).run d₁ [.work, .work, .work, .work, .work, .shutdown] = some d₂ ∧
    d₂.newCalls = d₁.newCalls := by
  have hok : (machine healthy).Along TeardownOk (new [] 0) ((onlineRun ++ [.destroy, .stopReply]) ++
      .stopRequest :: [.work, .work, .work, .work, .work, .shutdown]) := by decide +kernel
  have hsome : ((machine healthy).run (new [] 0) (((onlineRun ++ [.destroy, .stopReply]) ++
      [.stopRequest]) ++ [.work, .work, .work, .work, .work, .shutdown])).isSome := by
    decide +kernel
  obtain ⟨d₂, hrun⟩ := Option.isSome_iff_exists.1 hsome
  obtain ⟨d₁, hrun₁, hrun₂⟩ := (machine healthy).run_append_eq_some.1 hrun
  exact ⟨d₁, d₂, hrun₁, hrun₂, (teardown_final (Or.inr rfl) hok hrun₁ hrun₂).1⟩

/-- **The order of `~SlsDet` is not final**: after `shutdown()`, the destructor's own Exit message
makes the worker construct the object a second time. -/
theorem teardown_not_final : ¬∀ d₁ d₂,
    (machine healthy).run (new [] 0) (onlineRun ++ [.shutdown]) = some d₁ →
    (machine healthy).run d₁ destructorRun = some d₂ → d₂.newCalls = d₁.newCalls := by
  intro hclaim
  have hcount : ((machine healthy).run (new [] 0) (onlineRun ++ [.shutdown])).bind (fun d₁ ↦
      ((machine healthy).run d₁ destructorRun).map fun d₂ ↦ (d₁.newCalls, d₂.newCalls)) =
      some (1, 2) := by decide +kernel
  obtain ⟨d₁, hrun₁, hd₁⟩ := Option.bind_eq_some_iff.1 hcount
  obtain ⟨d₂, hrun₂, hd₂⟩ := Option.map_eq_some_iff.1 hd₁
  obtain ⟨hone, htwo⟩ := Prod.mk.inj hd₂
  have hsame := hclaim d₁ d₂ hrun₁ hrun₂
  omega

end SlsDetDriver
