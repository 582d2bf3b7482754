import SlsDetModel.Driver.Destructor
import SlsDetModel.Port.Drivers

/-!
# The end of a port

`~SlsDet` first lets every driver shut down, in the loop that the exit handler runs as well, and
then deletes them one after the other. The destructor of a driver clears `_running`, posts Exit on
both queues, waits for the worker to leave its loop, and shuts down once more. The workers go on
meanwhile: `destructor` is the thread in `~SlsDet` together with them.

When replies are outstanding the wait for the worker is a timed one, and what follows if it expires
is not for a model to say, since then the worker runs on in an object that is gone. Without any,
`teardown_completes` says that all goes well: nobody blocks, the destructor comes to its end, no
`shutdown()` ever meets a worker that is busy with the detector, and of the detector objects nothing
is left.
-/

namespace SlsDet

/-- The position of the thread in `~SlsDet`. -/
inductive Destructor
  /-- In the loop of `shutdown()`. -/
  | shuttingDown (n : ℕ)
  /-- In the loop that deletes the drivers. -/
  | deleting (n : ℕ)
  /-- In the destructor of a driver: `stop()`, and the wait for its worker. -/
  | stopping (n : ℕ)
  /-- In the destructor of a driver, past the wait. -/
  | finishing (n : ℕ)
  | done
  deriving DecidableEq

/-- A port that is being destroyed. -/
structure Teardown where
  dets : ℕ → Option SlsDetDriver
  main : Destructor := .shuttingDown 0
  /-- The drivers deleted so far, as they were left. -/
  deleted : ℕ → Option SlsDetDriver := fun _ ↦ none

/-- Replace the driver at an address. -/
def Teardown.setDet (t : Teardown) (a : ℕ) (d : SlsDetDriver) : Teardown :=
  { t with dets := Function.update t.dets a (some d) }

/-- A step of the thread in `~SlsDet`, for `n` addresses; the timed wait for a worker may expire.
`stop()` never fails, so whether the wait is timed depends on `_pending` alone. -/
def Teardown.advance (n : ℕ) (t : Teardown) (expired : Bool) : Option Teardown :=
  match t.main with
  | .shuttingDown a =>
    if a < n then some { t with
      dets := Function.update t.dets a ((t.dets a).map SlsDetDriver.shutdown)
      main := .shuttingDown (a + 1) }
    else some { t with main := .deleting 0 }
  | .deleting a =>
    if a < n then
      match t.dets a with
      | some d => d.destroy.map fun d' ↦ { t.setDet a d' with main := .stopping a }
      | none => some { t with main := .deleting (a + 1) }
    else some { t with main := .done }
  | .stopping a => (t.dets a).bind fun d ↦
    match d.caller with
    | .stopping => d.stopReply.map (t.setDet a)
    | .posting => d.stopRequest.map (t.setDet a)
    | .stopped =>
      if d.worker = .exited ∨ expired = true ∧ d.pending > 0 then
        some { t with main := .finishing a }
      else none
    | _ => none
  | .finishing a => (t.dets a).map fun d ↦ { t with
      dets := Function.update t.dets a none
      main := .deleting (a + 1)
      deleted := Function.update t.deleted a (some d.shutdown) }
  | .done => none

/-- The thread in `~SlsDet` moves, or a worker. -/
inductive TeardownLabel
  | main (expired : Bool)
  | work (addr : ℕ)
  deriving DecidableEq

/-- The destruction of a port with `n` addresses. -/
def destructor (lib : ℕ → Library) (n : ℕ) : LabelledMachine Teardown TeardownLabel where
  step t
    | .main expired => t.advance n expired
    | .work a => (t.dets a).bind fun d ↦
      ((SlsDetDriver.machine (lib a)).step d .work).map (t.setDet a)

variable {lib : ℕ → Library} {cfg : SlsDetConfig} {enums : EnumBuffers} {n a b : ℕ}
  {d : SlsDetDriver} {t t' : Teardown} {expired : Bool}

/-! ### What a step can do -/

/-- The ways the thread in `~SlsDet` moves. -/
inductive Advance (lib : ℕ → Library) (n : ℕ) (t : Teardown) (expired : Bool) : Teardown → Prop
  /-- The loop of `shutdown()` goes on, or has ended. -/
  | shutdown (a : ℕ) (hm : t.main = .shuttingDown a) (ha : a < n) :
      Advance lib n t expired { t with
        dets := Function.update t.dets a ((t.dets a).map SlsDetDriver.shutdown)
        main := .shuttingDown (a + 1) }
  | begin (a : ℕ) (hm : t.main = .shuttingDown a) :
      Advance lib n t expired { t with main := .deleting 0 }
  /-- The loop over the drivers passes an address without one, enters a destructor, or has ended. -/
  | skip (a : ℕ) (hm : t.main = .deleting a) (ha : a < n) (hd : t.dets a = none) :
      Advance lib n t expired { t with main := .deleting (a + 1) }
  | destroy (a : ℕ) (d d' : SlsDetDriver) (hm : t.main = .deleting a) (hd : t.dets a = some d)
      (hs : (SlsDetDriver.machine (lib a)).step d .destroy = some d') :
      Advance lib n t expired { t.setDet a d' with main := .stopping a }
  | finish (a : ℕ) (hm : t.main = .deleting a) (ha : n ≤ a) :
      Advance lib n t expired { t with main := .done }
  /-- One of the messages of `stop()` is posted. -/
  | stop (a : ℕ) (d d' : SlsDetDriver) (l : SlsDetDriver.Label) (hm : t.main = .stopping a)
      (hd : t.dets a = some d) (hl : l = .stopReply ∨ l = .stopRequest)
      (hs : (SlsDetDriver.machine (lib a)).step d l = some d') :
      Advance lib n t expired (t.setDet a d')
  /-- The wait for the worker ends. -/
  | join (a : ℕ) (d : SlsDetDriver) (hm : t.main = .stopping a) (hd : t.dets a = some d)
      (hc : d.caller = .stopped) (hw : d.worker = .exited ∨ expired = true ∧ d.pending > 0) :
      Advance lib n t expired { t with main := .finishing a }
  | delete (a : ℕ) (d : SlsDetDriver) (hm : t.main = .finishing a) (hd : t.dets a = some d) :
      Advance lib n t expired { t with
        dets := Function.update t.dets a none
        main := .deleting (a + 1)
        deleted := Function.update t.deleted a (some d.shutdown) }

/-- The thread moves in one of the ways listed. -/
theorem advance_of_step (lib : ℕ → Library) (h : t.advance n expired = some t') :
    Advance lib n t expired t' := by
  unfold Teardown.advance at h
  split at h
  case h_1 a hm =>
    split at h
    case isTrue ha => exact Option.some.inj h ▸ .shutdown a hm ha
    case isFalse => exact Option.some.inj h ▸ .begin a hm
  case h_2 a hm =>
    split at h
    case isTrue ha =>
      split at h
      case h_1 d hd =>
        obtain ⟨d', hs, rfl⟩ := Option.map_eq_some_iff.1 h
        exact .destroy a d d' hm hd hs
      case h_2 hd => exact Option.some.inj h ▸ .skip a hm ha hd
    case isFalse ha => exact Option.some.inj h ▸ .finish a hm (Nat.le_of_not_lt ha)
  case h_3 a hm =>
    obtain ⟨d, hd, h⟩ := Option.bind_eq_some_iff.1 h
    split at h
    case h_1 =>
      obtain ⟨d', hs, rfl⟩ := Option.map_eq_some_iff.1 h
      exact .stop a d d' .stopReply hm hd (Or.inl rfl) hs
    case h_2 =>
      obtain ⟨d', hs, rfl⟩ := Option.map_eq_some_iff.1 h
      exact .stop a d d' .stopRequest hm hd (Or.inr rfl) hs
    case h_3 hc =>
      obtain ⟨hw, ht⟩ := Option.ite_none_right_eq_some.1 h
      exact Option.some.inj ht ▸ .join a d hm hd hc hw
    case h_4 => cases h
  case h_4 a hm =>
    obtain ⟨d, hd, rfl⟩ := Option.map_eq_some_iff.1 h
    exact .delete a d hm hd
  case h_5 => cases h

/-! ### What becomes of each driver -/

/-- Where the thread in `~SlsDet` is, seen from one address. -/
inductive Turn
  | before
  | stopping
  | finishing
  | after
  deriving DecidableEq

/-- Whose turn it is. -/
def Destructor.turn : Destructor → ℕ → Turn
  | .shuttingDown _, _ => .before
  | .deleting a, b => if b < a then .after else .before
  | .stopping a, b => if b < a then .after else if b = a then .stopping else .before
  | .finishing a, b => if b < a then .after else if b = a then .finishing else .before
  | .done, _ => .after

/-- What becomes of a driver `d₀`, with the number and the host name of its address: in its turn, it
is wound down and deleted. -/
inductive Fate (lib : Library) (id : Int) (hostName : Text) : Option SlsDetDriver → Turn →
    Option SlsDetDriver → Option SlsDetDriver → Prop
  | vacant (turn : Turn) (e : Option SlsDetDriver) (h : turn = .before ∨ turn = .after) :
      Fate lib id hostName none turn none e
  | before (d₀ d : SlsDetDriver) (e : Option SlsDetDriver)
      (h : d.WindingDown lib id hostName d₀.core) (hc : d.caller = .idle) :
      Fate lib id hostName (some d₀) .before (some d) e
  | stopping (d₀ d : SlsDetDriver) (e : Option SlsDetDriver)
      (h : d.WindingDown lib id hostName d₀.core) (hc : d.caller ≠ .idle) :
      Fate lib id hostName (some d₀) .stopping (some d) e
  | finishing (d₀ d : SlsDetDriver) (e : Option SlsDetDriver)
      (h : d.WindingDown lib id hostName d₀.core) (hw : d.worker = .exited) :
      Fate lib id hostName (some d₀) .finishing (some d) e
  | after (d₀ d : SlsDetDriver) (h : d.Gone id d₀.core) :
      Fate lib id hostName (some d₀) .after none (some d)

/-- Every driver is where its fate has led it. -/
def Orderly (lib : ℕ → Library) (cfg : SlsDetConfig) (dets₀ : ℕ → Option SlsDetDriver)
    (t : Teardown) : Prop :=
  ∀ b, Fate (lib b) (cfg.id + b) (cfg.hostnames.getD b []) (dets₀ b) (t.main.turn b) (t.dets b)
    (t.deleted b)

variable {dets₀ : ℕ → Option SlsDetDriver}

/-- A step that concerns one address only. -/
theorem Orderly.update (h : Orderly lib cfg dets₀ t)
    (hdets : ∀ b, b ≠ a → t'.dets b = t.dets b) (hdeleted : ∀ b, b ≠ a → t'.deleted b = t.deleted b)
    (hturn : ∀ b, b ≠ a → t'.main.turn b = t.main.turn b)
    (ha : Fate (lib a) (cfg.id + a) (cfg.hostnames.getD a []) (dets₀ a) (t'.main.turn a) (t'.dets a)
      (t'.deleted a)) : Orderly lib cfg dets₀ t' := by
  intro b
  by_cases hb : b = a
  · subst hb
    exact ha
  · rw [hdets b hb, hdeleted b hb, hturn b hb]
    exact h b

theorem turn_stopping (a : ℕ) : (Destructor.stopping a).turn a = .stopping := by
  simp [Destructor.turn]

theorem turn_finishing (a : ℕ) : (Destructor.finishing a).turn a = .finishing := by
  simp [Destructor.turn]

theorem turn_deleting (a : ℕ) : (Destructor.deleting a).turn a = .before := by
  simp [Destructor.turn]

theorem turn_succ (a : ℕ) : (Destructor.deleting (a + 1)).turn a = .after := by
  simp [Destructor.turn]

/-- The turns of the others do not change while an address has its own. -/
theorem turn_of_ne {m m' : Destructor}
    (hm : m ∈ [.deleting a, .stopping a, .finishing a, .deleting (a + 1)])
    (hm' : m' ∈ [.deleting a, .stopping a, .finishing a, .deleting (a + 1)]) (hb : b ≠ a) :
    m'.turn b = m.turn b := by
  have hturn : ∀ m ∈ [Destructor.deleting a, .stopping a, .finishing a, .deleting (a + 1)],
      m.turn b = if b < a then .after else .before := by
    have hlt : b < a + 1 ↔ b < a := by omega
    simp [Destructor.turn, hb, hlt]
  rw [hturn m hm, hturn m' hm']

section Fate

variable {l : Library} {id : Int} {hostName : Text} {d₀ o e : Option SlsDetDriver} {turn : Turn}
  {d' : SlsDetDriver}

/-- A driver that is there has not been deleted, and winds down. -/
theorem Fate.windingDown (h : Fate l id hostName d₀ turn (some d) e) :
    ∃ c, d₀ = some c ∧ d.WindingDown l id hostName c.core := by
  cases h with
  | before c _ _ h hc => exact ⟨c, rfl, h⟩
  | stopping c _ _ h hc => exact ⟨c, rfl, h⟩
  | finishing c _ _ h hw => exact ⟨c, rfl, h⟩

/-- The worker's steps, in any turn. -/
theorem Fate.work (h : Fate l id hostName d₀ turn (some d) e)
    (hs : (SlsDetDriver.machine l).step d .work = some d') :
    Fate l id hostName d₀ turn (some d') e := by
  have hwork := SlsDetDriver.workStep_of_work hs
  obtain ⟨hcaller, -⟩ := SlsDetDriver.frame_work hwork
  cases h with
  | before c _ _ h hc => exact .before c d' e (h.step rfl hs) (hcaller.trans hc)
  | stopping c _ _ h hc => exact .stopping c d' e (h.step rfl hs) (hcaller ▸ hc)
  | finishing c _ _ h hw =>
    -- a worker that is out of its loop makes no step
    cases hwork with
    | test hw' => cases hw.symm.trans hw'
    | take p rest hw' hq => cases hw.symm.trans hw'
    | prepare p hw' => cases hw.symm.trans hw'
    | answer p hw' => cases hw.symm.trans hw'
    | reply p queue hw' hq => cases hw.symm.trans hw'

/-- In its turn a driver is there. -/
theorem Fate.of_stopping (h : Fate l id hostName d₀ .stopping o e) :
    ∃ c d, o = some d ∧ d.WindingDown l id hostName c ∧ d.caller ≠ .idle := by
  cases h with
  | vacant _ _ hturn => simp at hturn
  | stopping c d _ h hc => exact ⟨c.core, d, rfl, h, hc⟩

theorem Fate.of_finishing (h : Fate l id hostName d₀ .finishing o e) :
    ∃ d, o = some d ∧ d.worker = .exited := by
  cases h with
  | vacant _ _ hturn => simp at hturn
  | finishing c d _ h hw => exact ⟨d, rfl, hw⟩

theorem Fate.of_before (h : Fate l id hostName d₀ .before (some d) e) :
    ∃ c, d.WindingDown l id hostName c ∧ d.caller = .idle := by
  cases h with
  | before c d _ h hc => exact ⟨c.core, h, hc⟩

theorem Fate.of_after {d : SlsDetDriver} (h : Fate l id hostName (some d) .after o e) :
    o = none ∧ ∃ d', e = some d' ∧ d'.Gone id d.core := by
  cases h with
  | after _ d' hgone => exact ⟨rfl, d', rfl, hgone⟩

theorem Fate.shutdown (h : Fate l id hostName d₀ .before o e) :
    Fate l id hostName d₀ .before (o.map SlsDetDriver.shutdown) e := by
  cases h with
  | vacant turn e hturn => exact .vacant _ _ hturn
  | before c d e hd hc => exact .before c d.shutdown e (hd.step (l := .shutdown) rfl rfl) hc

/-- Where there is no driver there is nothing to do. -/
theorem Fate.skip (h : Fate l id hostName d₀ .before none e) :
    Fate l id hostName d₀ .after none e := by
  cases h with
  | vacant turn e hturn => exact .vacant _ _ (Or.inr rfl)

theorem Fate.of_none (h : Fate l id hostName none turn o e) :
    Fate l id hostName none .after o e := by
  cases h with
  | vacant turn e hturn => exact .vacant _ _ (Or.inr rfl)

theorem Fate.delete (h : Fate l id hostName d₀ .finishing (some d) e) :
    Fate l id hostName d₀ .after none (some d.shutdown) := by
  cases h with
  | finishing c _ _ hwind hw => exact .after c _ (hwind.gone hw)

end Fate

/-- **The thread in `~SlsDet` leads every driver to its fate.** -/
theorem Orderly.advance (h : Orderly lib cfg dets₀ t) (hrange : ∀ a, size cfg ≤ a → dets₀ a = none)
    (hs : Advance lib (size cfg) t expired t') : Orderly lib cfg dets₀ t' := by
  cases hs with
  | shutdown a hm ha =>
    refine h.update (a := a) (fun b hb ↦ Function.update_of_ne hb _ _) (fun _ _ ↦ rfl)
      (fun _ _ ↦ by rw [hm]; rfl) ?_
    have hfate := h a
    rw [hm] at hfate
    dsimp only
    rw [Function.update_self]
    exact hfate.shutdown
  | begin a hm =>
    intro b
    have hfate := h b
    rw [hm] at hfate
    have hturn : (Destructor.deleting 0).turn b = .before := by simp [Destructor.turn]
    dsimp only
    rw [hturn]
    exact hfate
  | skip a hm ha hd =>
    refine h.update (a := a) (fun _ _ ↦ rfl) (fun _ _ ↦ rfl)
      (fun b hb ↦ hm ▸ turn_of_ne (by simp) (by simp) hb) ?_
    have hfate := h a
    rw [hm, turn_deleting, hd] at hfate
    dsimp only
    rw [turn_succ, hd]
    exact hfate.skip
  | destroy a d d' hm hd hs =>
    refine h.update (a := a) (fun b hb ↦ Function.update_of_ne hb _ _) (fun _ _ ↦ rfl)
      (fun b hb ↦ hm ▸ turn_of_ne (by simp) (by simp) hb) ?_
    have hfate := h a
    rw [hd] at hfate
    obtain ⟨c, hc, hwind⟩ := hfate.windingDown
    have hcaller : d'.caller ≠ .idle := by
      obtain ⟨-, rfl⟩ := SlsDetDriver.destroy_eq_some_iff.1 hs
      exact fun h ↦ (nomatch h)
    have hdets : (t.setDet a d').dets a = some d' := Function.update_self _ _ _
    dsimp only
    rw [turn_stopping, hc, hdets]
    exact .stopping c d' _ (hwind.step rfl hs) hcaller
  | finish a hm ha =>
    intro b
    have hfate := h b
    rw [hm] at hfate
    by_cases hb : b < a
    · have hturn : (Destructor.deleting a).turn b = .after := by simp [Destructor.turn, hb]
      rw [hturn] at hfate
      exact hfate
    · have hnone := hrange b (by omega)
      rw [hnone] at hfate
      dsimp only
      rw [hnone]
      exact hfate.of_none
  | stop a d d' l hm hd hl hs =>
    have hfate := h a
    rw [hd] at hfate
    obtain ⟨c, hc, hwind⟩ := hfate.windingDown
    have hpost : l.IsDestructor = true ∧ d'.caller ≠ .idle := by
      rcases hl with rfl | rfl
      · obtain ⟨-, queue, -, rfl⟩ := SlsDetDriver.stopReply_eq_some_iff.1 hs
        exact ⟨rfl, fun h ↦ (nomatch h)⟩
      · obtain ⟨-, queue, -, rfl⟩ := SlsDetDriver.stopRequest_eq_some_iff.1 hs
        exact ⟨rfl, fun h ↦ (nomatch h)⟩
    refine h.update (a := a) (fun b hb ↦ Function.update_of_ne hb _ _) (fun _ _ ↦ rfl)
      (fun _ _ ↦ rfl) ?_
    have hdets : (t.setDet a d').dets a = some d' := Function.update_self _ _ _
    show Fate _ _ _ _ (t.main.turn a) _ _
    rw [hm, turn_stopping, hc, hdets]
    exact .stopping c d' _ (hwind.step hpost.1 hs) hpost.2
  | join a d hm hd hc hw =>
    refine h.update (a := a) (fun _ _ ↦ rfl) (fun _ _ ↦ rfl)
      (fun b hb ↦ hm ▸ turn_of_ne (by simp) (by simp) hb) ?_
    have hfate := h a
    rw [hd] at hfate
    obtain ⟨c, hc, hwind⟩ := hfate.windingDown
    have hexited : d.worker = .exited := by
      rcases hw with hw | ⟨-, hpending⟩
      · exact hw
      · rw [hwind.pending] at hpending
        exact absurd hpending (Nat.lt_irrefl 0)
    dsimp only
    rw [turn_finishing, hc, hd]
    exact .finishing c d _ hwind hexited
  | delete a d hm hd =>
    refine h.update (a := a) (fun b hb ↦ Function.update_of_ne hb _ _)
      (fun b hb ↦ Function.update_of_ne hb _ _)
      (fun b hb ↦ hm ▸ turn_of_ne (by simp) (by simp) hb) ?_
    have hfate := h a
    rw [hm, turn_finishing, hd] at hfate
    dsimp only
    rw [turn_succ, Function.update_self, Function.update_self]
    exact hfate.delete

/-- So does every step. -/
theorem Orderly.step (h : Orderly lib cfg dets₀ t) (hrange : ∀ a, size cfg ≤ a → dets₀ a = none)
    {l : TeardownLabel} (hs : (destructor lib (size cfg)).step t l = some t') :
    Orderly lib cfg dets₀ t' := by
  cases l with
  | main expired => exact h.advance hrange (advance_of_step lib hs)
  | work a =>
    obtain ⟨d, hd, hwork⟩ := Option.bind_eq_some_iff.1 hs
    obtain ⟨d', hstep, rfl⟩ := Option.map_eq_some_iff.1 hwork
    refine h.update (a := a) (fun b hb ↦ Function.update_of_ne hb _ _) (fun _ _ ↦ rfl)
      (fun _ _ ↦ rfl) ?_
    have hfate := h a
    rw [hd] at hfate
    have hdets : (t.setDet a d').dets a = some d' := Function.update_self _ _ _
    rw [hdets]
    exact hfate.work hstep

/-! ### How long it takes -/

/-- How many steps are left to take at an address. -/
def stepsLeftAt : Option SlsDetDriver → ℕ
  | none => 0
  | some d => d.stepsLeft

@[simp] theorem stepsLeftAt_none : stepsLeftAt none = 0 := rfl

@[simp] theorem stepsLeftAt_some (d : SlsDetDriver) : stepsLeftAt (some d) = d.stepsLeft := rfl

/-- How many are left in a destructor until its wait ends, for the worker to take as well. -/
def stopLeft : Option Caller → ℕ
  | some .stopping => 11
  | some .posting => 9
  | _ => 2

/-- How many steps the thread in `~SlsDet` has left, and will give the workers. -/
def Teardown.mainLeft (n : ℕ) (t : Teardown) : ℕ :=
  match t.main with
  | .shuttingDown a => n - a + 12 * n + 2
  | .deleting a => 12 * (n - a) + 1
  | .stopping a => 12 * (n - a - 1) + 1 + stopLeft ((t.dets a).map SlsDetDriver.caller)
  | .finishing a => 12 * (n - a - 1) + 2
  | .done => 0

/-- How many steps are left altogether. -/
def Teardown.left (n : ℕ) (t : Teardown) : ℕ :=
  t.mainLeft n + ∑ b ∈ Finset.range n, stepsLeftAt (t.dets b)

/-- **Every step of the thread in `~SlsDet` is one step less.** -/
theorem left_advance (hrange : ∀ a d, t.dets a = some d → a < n) (hs : Advance lib n t expired t') :
    t'.left n < t.left n := by
  cases hs with
  | shutdown a hm ha =>
    have hsum := sum_range_update stepsLeftAt t.dets ha ((t.dets a).map SlsDetDriver.shutdown)
    have hsame : stepsLeftAt ((t.dets a).map SlsDetDriver.shutdown) = stepsLeftAt (t.dets a) := by
      cases t.dets a <;> rfl
    simp only [Teardown.left, Teardown.mainLeft, hm]
    omega
  | begin a hm =>
    simp only [Teardown.left, Teardown.mainLeft, hm]
    omega
  | skip a hm ha hd =>
    simp only [Teardown.left, Teardown.mainLeft, hm]
    omega
  | destroy a d d' hm hd hs =>
    have ha := hrange a d hd
    have hsum := sum_range_update stepsLeftAt t.dets ha (some d')
    have hsame : d'.stepsLeft = d.stepsLeft := SlsDetDriver.stepsLeft_destroy hs
    have hstop : stopLeft (some d'.caller) = 11 := by
      obtain ⟨-, rfl⟩ := SlsDetDriver.destroy_eq_some_iff.1 hs
      rfl
    rw [hd] at hsum
    simp only [Teardown.left, Teardown.mainLeft, hm, Teardown.setDet, Function.update_self,
      Option.map_some, hstop]
    simp only [stepsLeftAt_some] at hsum
    omega
  | finish a hm ha =>
    simp only [Teardown.left, Teardown.mainLeft, hm]
    omega
  | stop a d d' l hm hd hl hs =>
    have ha := hrange a d hd
    have hsum := sum_range_update stepsLeftAt t.dets ha (some d')
    have hpost : stopLeft (some d'.caller) + d'.stepsLeft <
        stopLeft (some d.caller) + d.stepsLeft := by
      rcases hl with rfl | rfl
      · rw [SlsDetDriver.stepsLeft_stopReply hs]
        obtain ⟨hc, queue, -, rfl⟩ := SlsDetDriver.stopReply_eq_some_iff.1 hs
        simp only [stopLeft, hc]
        omega
      · rw [SlsDetDriver.stepsLeft_stopRequest hs]
        obtain ⟨hc, queue, -, rfl⟩ := SlsDetDriver.stopRequest_eq_some_iff.1 hs
        simp only [stopLeft, hc]
        omega
    rw [hd] at hsum
    simp only [Teardown.left, Teardown.mainLeft, hm, Teardown.setDet, Function.update_self, hd,
      Option.map_some]
    simp only [stepsLeftAt_some] at hsum
    omega
  | join a d hm hd hc hw =>
    simp only [Teardown.left, Teardown.mainLeft, hm, hd, Option.map_some, hc, stopLeft]
    omega
  | delete a d hm hd =>
    have ha := hrange a d hd
    have hsum := sum_range_update stepsLeftAt t.dets ha none
    rw [hd] at hsum
    simp only [Teardown.left, Teardown.mainLeft, hm]
    simp only [stepsLeftAt_some, stepsLeftAt_none] at hsum
    omega

/-- A step of a worker leaves the callers alone. -/
theorem caller_setDet {d' : SlsDetDriver} (hd : t.dets a = some d) (hc : d'.caller = d.caller)
    (b : ℕ) : ((t.setDet a d').dets b).map SlsDetDriver.caller =
      (t.dets b).map SlsDetDriver.caller := by
  by_cases hb : b = a
  · subst hb
    have hdets : (t.setDet b d').dets b = some d' := Function.update_self _ _ _
    rw [hdets, hd, Option.map_some, Option.map_some, hc]
  · have hdets : (t.setDet a d').dets b = t.dets b := Function.update_of_ne hb _ _
    rw [hdets]

/-- So is every step at all. -/
theorem left_step (hrange : ∀ a d, t.dets a = some d → a < n) {l : TeardownLabel}
    (hs : (destructor lib n).step t l = some t') : t'.left n < t.left n := by
  cases l with
  | main expired => exact left_advance hrange (advance_of_step lib hs)
  | work a =>
    obtain ⟨d, hd, hwork⟩ := Option.bind_eq_some_iff.1 hs
    obtain ⟨d', hstep, rfl⟩ := Option.map_eq_some_iff.1 hwork
    have hwork' := SlsDetDriver.workStep_of_work hstep
    have hsum := sum_range_update stepsLeftAt t.dets (hrange a d hd) (some d')
    have hlt := SlsDetDriver.stepsLeft_work hwork'
    -- the thread in `~SlsDet` is where it was
    have hmain : (t.setDet a d').mainLeft n = t.mainLeft n := by
      have hsame : (t.setDet a d').main = t.main := rfl
      rw [Teardown.mainLeft, Teardown.mainLeft, hsame]
      cases t.main with
      | stopping b =>
        dsimp only
        rw [caller_setDet hd (SlsDetDriver.frame_work hwork').1]
      | _ => rfl
    rw [hd] at hsum
    simp only [stepsLeftAt_some] at hsum
    have hdets : (t.setDet a d').dets = Function.update t.dets a (some d') := rfl
    rw [Teardown.left, Teardown.left, hmain, hdets]
    omega

/-! ### The destructor completes -/

/-- In the destructor of a driver, it depends on how far that is. -/
theorem advance_stopping (hm : t.main = .stopping a) (hd : t.dets a = some d) :
    (d.caller = .stopping → (d.stopReply).isSome → (t.advance n false).isSome) ∧
    (d.caller = .posting → (d.stopRequest).isSome → (t.advance n false).isSome) ∧
    (d.caller = .stopped → d.worker = .exited → (t.advance n false).isSome) := by
  rw [Teardown.advance, hm]
  dsimp only
  rw [hd, Option.bind_some]
  refine ⟨fun hc hs ↦ ?_, fun hc hs ↦ ?_, fun hc hw ↦ ?_⟩ <;> rw [hc] <;> dsimp only
  · rwa [Option.isSome_map]
  · rwa [Option.isSome_map]
  · rw [if_pos (Or.inl hw)]
    rfl

/-- **Nobody blocks**: until the port is gone, its thread or a worker can take a step, for which no
wait has to expire. -/
theorem Orderly.enabled (h : Orderly lib cfg dets₀ t) (hdone : t.main ≠ .done) :
    ∃ l, l ≠ .main true ∧ ((destructor lib (size cfg)).step t l).isSome := by
  have hmain : (t.advance (size cfg) false).isSome →
      ∃ l, l ≠ .main true ∧ ((destructor lib (size cfg)).step t l).isSome := fun hs ↦
    ⟨.main false, by decide, hs⟩
  cases hm : t.main with
  | shuttingDown a =>
    refine hmain ?_
    rw [Teardown.advance, hm]
    dsimp only
    split <;> rfl
  | deleting a =>
    refine hmain ?_
    have hfate := h a
    rw [hm, turn_deleting] at hfate
    rw [Teardown.advance, hm]
    dsimp only
    split
    case isFalse => rfl
    case isTrue =>
      rcases hd : t.dets a with - | d
      · rfl
      · rw [hd] at hfate
        obtain ⟨c, -, hc⟩ := hfate.of_before
        dsimp only
        rw [SlsDetDriver.destroy_eq_some_iff.2 ⟨hc, rfl⟩]
        rfl
  | stopping a =>
    have hfate := h a
    rw [hm, turn_stopping] at hfate
    obtain ⟨c, d, hd, hwind, hc⟩ := hfate.of_stopping
    obtain ⟨hstopping, hposting, hstopped⟩ := advance_stopping (n := size cfg) hm hd
    obtain ⟨hreply, hrequest, -⟩ := @SlsDetDriver.Accounted.post_enabled (lib a) d hwind.accounted
    rcases hwind.caller with hc' | hc' | hc' | hc'
    · exact (hc hc').elim
    · exact hmain (hstopping hc' (hreply hc'))
    · exact hmain (hposting hc' (hrequest hc'))
    · by_cases hw : d.worker = .exited
      · exact hmain (hstopped hc' hw)
      · have hen := @SlsDetDriver.Accounted.work_enabled_of_stopped (lib a) d hwind.accounted hc' hw
        obtain ⟨d', hd'⟩ := Option.isSome_iff_exists.1 hen
        refine ⟨.work a, fun h ↦ (nomatch h), Option.isSome_iff_exists.2 ⟨t.setDet a d', ?_⟩⟩
        exact Option.bind_eq_some_iff.2 ⟨d, hd, Option.map_eq_some_iff.2 ⟨d', hd', rfl⟩⟩
  | finishing a =>
    have hfate := h a
    rw [hm, turn_finishing] at hfate
    obtain ⟨d, hd, -⟩ := hfate.of_finishing
    refine hmain ?_
    rw [Teardown.advance, hm]
    dsimp only
    rw [hd]
    rfl
  | done => exact (hdone hm).elim

/-- The drivers of a port between two calls, with no reply outstanding, are in order. -/
theorem orderly_of_ready {s : SlsDet} (hready : s.Ready) (hdriven : Driven lib cfg s)
    (hpending : ∀ a d, s.dets a = some d → d.pending = 0) :
    Orderly lib cfg s.dets { dets := s.dets } := by
  intro b
  show Fate _ _ _ (s.dets b) .before (s.dets b) none
  rcases hd : s.dets b with - | d
  · exact .vacant _ _ (Or.inl rfl)
  · have hop := hready.operating b d hd
    have hidle := hready.idle b d hd
    exact .before d d _ (SlsDetDriver.windingDown_of_idle
      (Or.inl ⟨hop.correlated.conserved, hop.running⟩) (hdriven.follows hd) (hpending b d hd) hidle)
      hidle

/-- At the beginning there is little left for the workers. -/
theorem left_begin {s : SlsDet} (h : Orderly lib cfg s.dets { dets := s.dets }) (n : ℕ) :
    Teardown.left n { dets := s.dets } ≤ 14 * n + 2 := by
  have hle : ∀ b ∈ Finset.range n, stepsLeftAt (s.dets b) ≤ 1 := by
    intro b _
    rcases hd : s.dets b with - | d
    · exact Nat.zero_le 1
    · have hfate := h b
      change Fate _ _ _ _ .before (s.dets b) _ at hfate
      rw [hd] at hfate
      obtain ⟨c, hwind, hc⟩ := hfate.of_before
      exact hwind.stepsLeft_le hc
  have hsum : ∑ b ∈ Finset.range n, stepsLeftAt (s.dets b) ≤ n * 1 := by
    have hcard := Finset.sum_le_card_nsmul _ _ _ hle
    rwa [Finset.card_range] at hcard
  simp only [Teardown.left, Teardown.mainLeft]
  omega

/-- **The destruction of a port completes.** Take any run of a port to a state between two calls, in
which no driver has a reply outstanding; and then its destructor, in any order of its steps with
those of the workers.

* It makes no more than `14 * n + 2` steps, those of the workers included, for `n` addresses; and
  until it has ended some thread can go on.
* Where it shuts a driver down, the worker there is not at work on the detector, and has nothing to
  begin with; and the second time, it is gone.
* In the end every driver has been deleted, with its worker out of its loop. The calls of the
  library since then made and unmade objects and did nothing else; at most one was made; none is
  left, and for every one that was ever deleted its shared memory has been freed. -/
theorem teardown_completes {k : PortSystem} {ls : List PortLabel} {ls' : List TeardownLabel}
    (hrun : (system lib cfg).run (start cfg enums) ls = some k) (hidle : k.thread = .idle)
    (hpending : ∀ a d, k.shared.dets a = some d → d.pending = 0)
    (hrun' : (destructor lib (size cfg)).run { dets := k.shared.dets } ls' = some t) :
    (ls'.length ≤ 14 * size cfg + 2 ∧
      (t.main = .done ∨ ∃ l, l ≠ .main true ∧ ((destructor lib (size cfg)).step t l).isSome)) ∧
    (∀ a d, t.dets a = some d →
      (t.main = .shuttingDown a → SlsDetDriver.busy d.worker = [] ∧ d.requestQueue.items = []) ∧
      (t.main = .finishing a → d.worker = .exited)) ∧
    (t.main = .done → ∀ a d₀, k.shared.dets a = some d₀ →
      t.dets a = none ∧ ∃ d, t.deleted a = some d ∧ d.Gone (cfg.id + a) d₀.core) := by
  have hready : k.shared.Ready := by
    have hholds := (runs_of_run hrun).holds
    rwa [Client.Holds, hidle] at hholds
  have hrange : ∀ a, size cfg ≤ a → k.shared.dets a = none := inRange_of_run hrun
  have hstart := orderly_of_ready hready (driven_of_run hrun) hpending
  have hpresent : ∀ {u}, Orderly lib cfg k.shared.dets u → ∀ a d, u.dets a = some d →
      a < size cfg := by
    intro u hu a d hd
    have hfate := hu a
    rw [hd] at hfate
    obtain ⟨c, hc, -⟩ := hfate.windingDown
    by_contra hle
    cases hc.symm.trans (hrange a (Nat.le_of_not_lt hle))
  have horderly : Orderly lib cfg k.shared.dets t :=
    LabelledMachine.Reaches.invariant (P := Orderly lib cfg k.shared.dets)
      (fun h hs ↦ h.step hrange hs) hstart ⟨ls', hrun'⟩
  refine ⟨⟨?_, or_iff_not_imp_left.2 horderly.enabled⟩, fun a d hd ↦ ⟨fun hm ↦ ?_, fun hm ↦ ?_⟩,
    fun hm a d₀ hd₀ ↦ ?_⟩
  · have hmeasure : ls'.countP (fun _ ↦ true) + t.left (size cfg) ≤
        Teardown.left (size cfg) { dets := k.shared.dets } := by
      refine LabelledMachine.run_measure (P := Orderly lib cfg k.shared.dets)
        (μ := Teardown.left (size cfg)) (fun hu hs ↦ ?_) hstart hrun'
      exact ⟨hu.step hrange hs, left_step (hpresent hu) hs⟩
    have hbegin := left_begin hstart (size cfg)
    rw [List.countP_true] at hmeasure
    omega
  · have hfate := horderly a
    rw [hm, hd] at hfate
    obtain ⟨c, hwind, hc⟩ := hfate.of_before
    obtain ⟨hreq, -, hw⟩ := hwind.accounted.at_rest hwind.pending hc
    exact ⟨by rcases hw with hw | hw | hw <;> rw [hw] <;> rfl, hreq⟩
  · have hfate := horderly a
    rw [hm, turn_finishing, hd] at hfate
    obtain ⟨d', hd', hw⟩ := hfate.of_finishing
    rwa [Option.some.inj hd']
  · have hfate := horderly a
    rw [hm, hd₀] at hfate
    exact hfate.of_after

/-- The destruction of a port with one address, where the worker comes to its receive in time to take
Exit. -/
def teardownRun : List TeardownLabel :=
  .work 0 :: List.replicate 5 (.main false) ++ List.replicate 5 (.work 0) ++
    List.replicate 3 (.main false)

/-- After `connect`. The worker has made an object for Exit, and the destructor has deleted it. -/
theorem teardown_completes_online : ∃ k t d,
    (system (fun _ ↦ SlsDetDriver.healthy) (bench 1)).run (start (bench 1) blank) (online 0) =
      some k ∧
    (destructor (fun _ ↦ SlsDetDriver.healthy) (size (bench 1))).run { dets := k.shared.dets }
      teardownRun = some t ∧
    t.deleted 0 = some d ∧ d.core.det = none := by
  have hbefore : ((system (fun _ ↦ SlsDetDriver.healthy) (bench 1)).run (start (bench 1) blank)
      (online 0)).map (fun k ↦ (k.isIdle, (k.shared.dets 0).map SlsDetDriver.pending)) =
      some (true, some 0) := by
    decide +kernel
  have hafter : ((system (fun _ ↦ SlsDetDriver.healthy) (bench 1)).run (start (bench 1) blank)
      (online 0)).bind (fun k ↦ ((destructor (fun _ ↦ SlsDetDriver.healthy) (size (bench 1))).run
        { dets := k.shared.dets } teardownRun).map Teardown.main) = some .done := by
    decide +kernel
  obtain ⟨k, hrun, hk⟩ := Option.map_eq_some_iff.1 hbefore
  obtain ⟨hidle, hdet⟩ := Prod.mk.inj hk
  obtain ⟨d₀, hd₀, hzero⟩ := Option.map_eq_some_iff.1 hdet
  rw [hrun, Option.bind_some] at hafter
  obtain ⟨t, hrun', hdone⟩ := Option.map_eq_some_iff.1 hafter
  have hpending : ∀ a d, k.shared.dets a = some d → d.pending = 0 := by
    intro a d hd
    obtain rfl : a = 0 := Nat.lt_one_iff.1 (driven_of_run hrun a d hd).1
    rwa [Option.some.inj (hd.symm.trans hd₀)]
  obtain ⟨-, d, hd, hgone⟩ := (teardown_completes hrun (Client.thread_of_isIdle hidle) hpending
    hrun').2.2 hdone 0 d₀ hd₀
  exact ⟨k, t, d, hrun, hrun', hd, hgone.det⟩

end SlsDet
