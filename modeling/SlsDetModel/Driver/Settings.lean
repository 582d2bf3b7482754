import SlsDetModel.Driver.Commands
import SlsDetModel.Driver.Contract
import SlsDetModel.Driver.Lifetime

/-!
# What was acknowledged stands

A call of `request()` that sets something and is answered with Ok has been carried out. Others may
be carried out after it, and those include requests whose calls have timed out long ago. But the
worker takes requests in the order of the calls: what a later call of `request()` asked for may
still come, what an earlier one asked for may not. So the setter stands until another is called
for: `stands_of_acknowledged` says so for every run of a driver.
-/

namespace Core

variable {lib : Library} {S : LibCall → Prop} {q : LibCall} {c c' : Core} {m : SlsDetMessage}

/-- The call `q` **stands**: it raised no error, and the calls since then used the object, which is
still there, and are none of `S`. -/
structure Stands (lib : Library) (S : LibCall → Prop) (q : LibCall) (c : Core) : Prop where
  det : c.det.isSome
  calls : ∃ before since, c.calls = before ++ q :: since ∧ (lib before q).raised = 0 ∧
    ∀ q' ∈ since, ¬S q' ∧ q'.IsUse = true

/-- More calls that are none of `S`. -/
theorem Stands.append {new : List LibCall} (h : c.Stands lib S q) (hdet : c'.det.isSome)
    (hcalls : c'.calls = c.calls ++ new) (hnew : ∀ q' ∈ new, ¬S q' ∧ q'.IsUse = true) :
    c'.Stands lib S q := by
  obtain ⟨before, since, heq, hraised, hsince⟩ := h.calls
  refine ⟨hdet, before, since ++ new, ?_, hraised, fun q' hq' ↦ ?_⟩
  · rw [hcalls, heq, List.append_assoc]
    rfl
  · exact (List.mem_append.1 hq').elim (hsince q') (hnew q')

/-- What is called for a request, its own call apart. -/
theorem exists_calls_process (lib : Library) (hdet : c.det.isSome)
    (hown : m.ownCall lib.rounding = some q) :
    ∃ new, (c.process lib m).2.calls = c.calls ++ q :: new ∧
      ∀ q' ∈ new, q' = .clearAllErrorMask := by
  have hcalls : CallsOwn (m.ownCall lib.rounding) c (c.process lib m) := callsOwn_process hdet
  rw [hown] at hcalls
  rcases hcalls with hcalls | hcalls
  · exact ⟨[], hcalls, fun q' hq' ↦ (List.not_mem_nil hq').elim⟩
  · exact ⟨[.clearAllErrorMask], hcalls, fun q' hq' ↦ List.mem_singleton.1 hq'⟩

/-- A combined call that is answered with Ok has raised no error. -/
theorem raised_of_ok {value : Int} (hdet : c.det.isSome) (hown : m.ownCall lib.rounding = some q)
    (hq : q.combined = some value) (hok : (c.process lib m).1.mtype = .ok) :
    (lib c.calls q).raised = 0 := by
  have hhandled : HandledBy lib c m q value := handledBy_of_combined hown hq
  obtain ⟨onRead, verify, recoverable, hprocess, -⟩ := hhandled
  have hmask : (c.call lib q).2.errorMask = 0 := by
    rw [hprocess, getOrSet, if_pos hdet] at hok
    dsimp only at hok
    by_contra hne
    rw [if_neg hne] at hok
    split at hok <;> cases hok
  rw [errorMask_call hdet] at hmask
  exact (BitVec.or_eq_zero_iff.1 hmask).2

section

variable (hS : ∀ q, S q → q.combined.isSome)

include hS

/-- **A setter that is answered with Ok stands.** -/
theorem stands_of_ok (hdet : c.det.isSome) (hown : m.ownCall lib.rounding = some q) (hq : S q)
    (hok : (c.process lib m).1.mtype = .ok) : (c.process lib m).2.Stands lib S q := by
  obtain ⟨value, hvalue⟩ := Option.isSome_iff_exists.1 (hS q hq)
  obtain ⟨new, hcalls, hnew⟩ := exists_calls_process lib hdet hown
  have hsound : Sound lib (m.ownCall lib.rounding) c (c.process lib m) := sound_process hdet
  refine ⟨hsound.det, c.calls, new, hcalls, raised_of_ok hdet hown hvalue hok, fun q' hq' ↦ ?_⟩
  rw [hnew q' hq']
  exact ⟨fun h ↦ absurd (hS _ h) (by decide), rfl⟩

/-- **A request for something else leaves it standing**, whatever it is answered with. -/
theorem Stands.process (h : c.Stands lib S q)
    (hm : ∀ q', m.ownCall lib.rounding = some q' → ¬S q') : (c.process lib m).2.Stands lib S q := by
  have hsound : Sound lib (m.ownCall lib.rounding) c (c.process lib m) := sound_process h.det
  rcases hown : m.ownCall lib.rounding with - | q'
  · obtain ⟨new, hcalls, -, hnone⟩ := hsound.calls
    rw [hnone hown] at hcalls
    exact h.append hsound.det hcalls fun q' hq' ↦ (List.not_mem_nil hq').elim
  · obtain ⟨new, hcalls, hnew⟩ := exists_calls_process lib h.det hown
    refine h.append hsound.det hcalls fun q'' hq'' ↦ ?_
    rcases List.mem_cons.1 hq'' with rfl | hq''
    · exact ⟨hm q'' hown, isUse_of_ownCall hown⟩
    · rw [hnew q'' hq'']
      exact ⟨fun hclear ↦ absurd (hS _ hclear) (by decide), rfl⟩

end

end Core

namespace SlsDetDriver

variable {lib : Library} {S : LibCall → Prop} {q : LibCall} {d d' : SlsDetDriver}
  {hostName : Text} {id : Int} {ls : List Label}

/-- The last request of `S` that was called for is one for `q`, and it was answered with Ok. -/
def Acknowledged (fl : Rounding) (S : LibCall → Prop) (q : LibCall) (called : List SlsDetMessage)
    (outcomes : List Outcome) : Prop :=
  ∃ o ∈ outcomes, ∃ rep, o.req.ownCall fl = some q ∧ o.ending = .answered rep ∧ rep.mtype = .ok ∧
    ∀ n m q', o.call < n → called[n]? = some m → m.ownCall fl = some q' → ¬S q'

/-- An answer in time does not depend on whether waits may expire. -/
theorem Requested.of_ok {y z : Sync} {late : Bool} {m rep : SlsDetMessage}
    (h : Requested lib late y m rep z) (hok : rep.mtype = .ok) : Requested lib false y m rep z := by
  refine ⟨h.idle, h.called, ?_⟩
  cases h.ended with
  | answered hcore hreplies hpending houtcomes hsent =>
    exact .answered hcore hreplies hpending houtcomes hsent
  | gaveUp => cases hok

/-- A request answered with Ok is acknowledged. -/
theorem Requested.acknowledges {y z : Sync} {late : Bool} {m rep : SlsDetMessage}
    (h : Requested lib late y m rep z) (hok : rep.mtype = .ok)
    (hown : m.ownCall lib.rounding = some q) :
    Acknowledged lib.rounding S q z.called z.outcomes := by
  cases h.ended with
  | answered _ _ _ houtcomes =>
    rw [houtcomes, h.called]
    refine ⟨_, List.mem_append_right _ (List.mem_singleton_self _), _, hown, rfl, hok, ?_⟩
    -- it is the last one called for
    intro n m' q' hlt hget
    have hlen := (List.getElem?_eq_some_iff.1 hget).1
    rw [List.length_append, List.length_singleton] at hlen
    dsimp only at hlt
    omega
  | gaveUp => cases hok

/-- A request for something else leaves what was acknowledged, however it ends. -/
theorem Requested.acknowledged {y z : Sync} {late : Bool} {m rep : SlsDetMessage}
    (h : Requested lib late y m rep z) (hack : Acknowledged lib.rounding S q y.called y.outcomes)
    (hm : ∀ q', m.ownCall lib.rounding = some q' → ¬S q') :
    Acknowledged lib.rounding S q z.called z.outcomes := by
  obtain ⟨o, ho, rep', hown, hrep, hok, hlater⟩ := hack
  have hmem : o ∈ z.outcomes := by
    cases h.ended with
    | answered _ _ _ houtcomes => exact houtcomes ▸ List.mem_append_left _ ho
    | gaveUp _ _ houtcomes =>
      exact houtcomes ▸ List.mem_append_left _ ho
  refine ⟨o, hmem, rep', hown, hrep, hok, fun n m' q' hlt hget hown' ↦ ?_⟩
  rw [h.called, List.getElem?_append] at hget
  split at hget
  case isTrue => exact hlater n m' q' hlt hget hown'
  case isFalse =>
    obtain rfl := List.mem_singleton.1 (List.mem_of_getElem? hget)
    exact hm q' hown'

/-- A setter that was answered with Ok stands, unless a request for another was answered later. -/
def Standing (lib : Library) (S : LibCall → Prop) (d : SlsDetDriver) : Prop :=
  ∀ es e es' q, d.journal.answered = es ++ e :: es' → e.req.ownCall lib.rounding = some q → S q →
    e.rep.mtype = .ok → (∀ e' ∈ es', ∀ q', e'.req.ownCall lib.rounding = some q' → ¬S q') →
    d.core.Stands lib S q

section

variable (hS : ∀ q, S q → q.combined.isSome)

include hS

/-- One more answer. -/
theorem Standing.answer {p : Packet} (h : d.Standing lib S) :
    (d.answer p (respond lib d.core p.msg).1 d.core.det.isSome
      (respond lib d.core p.msg).2).Standing lib S := by
  intro es e es' q heq hown hq hok hlater
  rcases List.eq_nil_or_concat es' with rfl | ⟨es'', e', rfl⟩
  · -- the answer is the setter's own
    obtain ⟨-, hlast⟩ := List.append_inj' heq rfl
    obtain rfl := (List.cons.inj hlast).1
    show (respond lib d.core p.msg).2.Stands lib S q
    have hok : (respond lib d.core p.msg).1.mtype = .ok := hok
    rw [respond] at hok ⊢
    split at hok
    case isFalse => cases hok
    case isTrue hdet =>
      rw [if_pos hdet]
      exact Core.stands_of_ok hS hdet hown hq hok
  · -- the answer is a later one
    rw [List.concat_eq_append] at heq hlater
    rw [← List.cons_append, ← List.append_assoc] at heq
    obtain ⟨hbefore, hlast⟩ := List.append_inj' heq rfl
    have hstands : d.core.Stands lib S q := h es e es'' q hbefore hown hq hok fun e'' he'' ↦
      hlater e'' (List.mem_append_left _ he'')
    show (respond lib d.core p.msg).2.Stands lib S q
    rw [respond, if_pos hstands.det]
    obtain rfl := (List.cons.inj hlast).1
    exact hstands.process hS fun q' hown' ↦
      hlater _ (List.mem_append_right _ (List.mem_singleton_self _)) q' hown'

theorem Standing.step {l : Label} (h : d.Standing lib S) (hl : l.IsTraffic)
    (hs : (machine lib).step d l = some d') : d'.Standing lib S := by
  cases l with
  | request m =>
    obtain ⟨-, rfl⟩ := request_eq_some_iff.1 hs
    exact h
  | wait expired => cases waitStep_of_wait hs <;> exact h
  | finish =>
    obtain ⟨-, rfl⟩ := finish_eq_some_iff.1 hs
    exact h
  | inspect rep =>
    obtain ⟨-, rfl⟩ := inspect_eq_some_iff.1 hs
    exact h
  | work =>
    cases workStep_of_work hs with
    | prepare p hw =>
      intro es e es' q heq hown hq hok hlater
      have hstands := h es e es' q heq hown hq hok hlater
      show (d.core.initializeDet lib).Stands lib S q
      rwa [Core.initializeDet_of_isSome hstands.det]
    | answer p hw => exact h.answer hS
    | _ => exact h
  | _ => simp [Label.IsTraffic] at hl

/-- **What was acknowledged stands.** Take any run of a driver in normal operation. If the last call
of `request()` for a setter was answered with Ok, then that setter is the last one the detector was
given, whatever else has timed out before or since; and the object it was given to is still
there. -/
theorem stands_of_acknowledged (hls : ∀ l ∈ ls, l.IsTraffic)
    (hrun : (machine lib).run (new hostName id) ls = some d) (hq : S q)
    (hack : Acknowledged lib.rounding S q d.journal.called d.journal.outcomes) :
    d.core.Stands lib S q := by
  obtain ⟨o, ho, rep, hown, hrep, hok, hlater⟩ := hack
  have hnew : (new hostName id).Standing lib S := fun es e es' q heq ↦ by
    cases es <;> cases heq
  have hstanding : d.Standing lib S :=
    LabelledMachine.run_invariant (P := Standing lib S) (L := fun l ↦ l.IsTraffic = true)
      (fun h hl hs ↦ h.step hS hl hs) hnew hls hrun
  have hcorr := correlated_of_run hls hrun
  obtain ⟨e, hfilter, hreq, rfl, -⟩ := hcorr.exists_exchange ho hrep
  obtain ⟨he, hcall⟩ := List.mem_filter.1 (hfilter.symm ▸ List.mem_singleton_self e)
  obtain ⟨es, es', heq⟩ := List.append_of_mem he
  refine hstanding es e es' q heq (hreq ▸ hown) hq hok fun e' he' q' hown' ↦ ?_
  -- answers are given in the order of the calls
  have hordered : (d.journal.answered.map Exchange.call).Pairwise (· < ·) := by
    have htaken := hcorr.taken_ordered
    rw [hcorr.fifo.taken, List.map_append, List.map_map] at htaken
    exact (List.pairwise_append.1 htaken).1
  have hlt : e.call < e'.call := by
    rw [heq, List.map_append, List.map_cons, List.pairwise_append, List.pairwise_cons] at hordered
    exact hordered.2.1.1 _ (List.mem_map_of_mem he')
  have hmem : e' ∈ d.journal.answered := heq ▸ List.mem_append_right _ (List.mem_cons_of_mem _ he')
  refine hlater e'.call e'.req q' ?_ (hcorr.req_of_answered hmem) hown'
  rwa [← of_decide_eq_true hcall]

end

end SlsDetDriver
