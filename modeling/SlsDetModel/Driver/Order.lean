import Mathlib.Data.List.Induction
import SlsDetModel.Driver.Commands
import SlsDetModel.Driver.Destructor
import SlsDetModel.Driver.Progress

/-!
# The order of commands

The library calls that a driver makes for its requests, as against those that belong to the life of
the detector object, are its **commands**. A request that has timed out may still be in the queue,
and its command be given later; but commands are given one at a time, in the order of the calls of
`request()`, and for no call twice. `commands_sublist_called` says so for every run of a driver.

What has been sent is not lost either. `carried_out` says that a worker who has nothing left to do
has carried out the messages of all the calls that did not give up before they had sent theirs.
-/

/-- Elements that are found in a list at increasing places are a sublist of it. -/
theorem List.sublist_of_places {α : Type} {ps : List (ℕ × α)} {l : List α}
    (hord : (ps.map Prod.fst).Pairwise (· < ·)) (hget : ∀ p ∈ ps, l[p.1]? = some p.2) :
    (ps.map Prod.snd).Sublist l := by
  induction ps using List.reverseRecOn generalizing l with
  | nil => exact List.nil_sublist l
  | append_singleton ps p ih =>
    rw [List.map_append, List.map_singleton, List.pairwise_append] at hord
    obtain ⟨hps, -, hlt⟩ := hord
    -- the others come before the last
    have hbefore : (ps.map Prod.snd).Sublist (l.take p.1) := by
      refine ih hps fun q hq ↦ ?_
      have hqp : q.1 < p.1 := hlt q.1 (List.mem_map_of_mem hq) p.1 (List.mem_singleton_self _)
      rw [List.getElem?_take, if_pos hqp]
      exact hget q (List.mem_append_left _ hq)
    obtain ⟨hp, heq⟩ := List.getElem?_eq_some_iff.1
      (hget p (List.mem_append_right _ (List.mem_singleton_self _)))
    have hlast : [p.2].Sublist (l.drop p.1) := by
      rw [List.drop_eq_getElem_cons hp, heq]
      exact (List.nil_sublist _).cons_cons _
    rw [List.map_append, List.map_singleton, ← List.take_append_drop p.1 l]
    exact hbefore.append hlast

/-- The call is made for a request. Clearing the error mask is left out: it follows a call that
failed, whatever the call was for. -/
def LibCall.IsCommand (q : LibCall) : Bool := !q.IsLifecycle && decide (q ≠ .clearAllErrorMask)

/-- The call has sent its message: it did not give up before. -/
def Outcome.wasSent (o : Outcome) : Bool :=
  match o.ending with
  | .gaveUp .flush => false
  | .gaveUp .send => false
  | _ => true

/-- The message of the call. -/
def Outcome.request (o : Outcome) : Packet := ⟨o.call, o.req⟩

namespace Core

variable {lib : Library} {c : Core} {m : SlsDetMessage}

/-- The commands given so far. -/
def commands (c : Core) : List LibCall := c.calls.filter LibCall.IsCommand

/-- Making an object takes no command. -/
theorem commands_initializeDet (lib : Library) (c : Core) :
    (c.initializeDet lib).commands = c.commands := by
  obtain ⟨new, hcalls, hnew, -⟩ := onlyLifecycle_initializeDet lib c
  have hnone : new.filter LibCall.IsCommand = [] :=
    List.filter_eq_nil_iff.2 fun q hq ↦ by simp [LibCall.IsCommand, hnew q hq]
  rw [commands, hcalls, List.filter_append, hnone, List.append_nil]
  rfl

/-- **A request gives at most its own command.** -/
theorem commands_respond (lib : Library) (c : Core) (m : SlsDetMessage) :
    (SlsDetDriver.respond lib c m).2.commands.Sublist
      (c.commands ++ (m.ownCall lib.rounding).toList) := by
  have hown : ((m.ownCall lib.rounding).toList.filter LibCall.IsCommand).Sublist
      (m.ownCall lib.rounding).toList :=
    List.filter_sublist
  rw [SlsDetDriver.respond]
  split
  case isFalse => exact List.sublist_append_left _ _
  case isTrue hdet =>
    have hcalls : CallsOwn (m.ownCall lib.rounding) c (process lib m c) := callsOwn_process hdet
    rcases hcalls with hcalls | hcalls
    · rw [commands, hcalls, List.filter_append]
      exact (List.Sublist.refl _).append hown
    · have hclear : [LibCall.clearAllErrorMask].filter LibCall.IsCommand = [] := rfl
      rw [commands, hcalls, List.filter_append, List.filter_append, hclear, List.append_nil]
      exact (List.Sublist.refl _).append hown

end Core

namespace SlsDetDriver

variable {lib : Library} {d d' : SlsDetDriver} {hostName : Text} {id : Int} {ls : List Label}

/-- The commands belong to the requests answered so far, in their order. -/
def Commanded (lib : Library) (d : SlsDetDriver) : Prop :=
  d.core.commands.Sublist (d.journal.answered.filterMap fun e ↦ e.req.ownCall lib.rounding)

/-- One more answer. -/
theorem answered_answer (fl : Rounding) (d : SlsDetDriver) (p : Packet) (rep : SlsDetMessage)
    (processed : Bool) (c : Core) :
    (d.answer p rep processed c).journal.answered.filterMap (fun e ↦ e.req.ownCall fl) =
      d.journal.answered.filterMap (fun e ↦ e.req.ownCall fl) ++ (p.msg.ownCall fl).toList := by
  rw [answer, List.filterMap_append]
  rcases hown : p.msg.ownCall fl with - | q <;> simp [hown]

theorem Commanded.step {l : Label} (h : d.Commanded lib) (hl : l.IsTraffic)
    (hs : (machine lib).step d l = some d') : d'.Commanded lib := by
  cases l with
  | request m =>
    obtain ⟨-, rfl⟩ := request_eq_some_iff.1 hs
    exact h
  | wait expired => cases waitStep_of_wait hs <;> exact h
  | finish =>
    obtain ⟨-, rfl⟩ := finish_eq_some_iff.1 hs
    exact h
  | inspect rep =>
    obtain ⟨-, rfl⟩ := inspect_eq_some_iff.1 hs
    exact h
  | work =>
    cases workStep_of_work hs with
    | prepare p hw =>
      rw [Commanded, Core.commands_initializeDet]
      exact h
    | answer p hw =>
      rw [Commanded, answered_answer]
      exact (Core.commands_respond lib d.core p.msg).trans (h.append (.refl _))
    | _ => exact h
  | _ => simp [Label.IsTraffic] at hl

/-- **Commands are given in order, and none of them twice.** -/
theorem commands_sublist_called (hls : ∀ l ∈ ls, l.IsTraffic)
    (hrun : (machine lib).run (new hostName id) ls = some d) :
    d.core.commands.Sublist (d.journal.called.filterMap (SlsDetMessage.ownCall lib.rounding)) := by
  have hnew : (new hostName id).Commanded lib := List.nil_sublist _
  have hcommanded : d.Commanded lib :=
    LabelledMachine.run_invariant (P := Commanded lib) (L := fun l ↦ l.IsTraffic = true)
      (fun h hl hs ↦ h.step hl hs) hnew hls hrun
  have hcorr := correlated_of_run hls hrun
  -- answered requests were sent, and sent requests are found among the calls at their own places
  have hanswered : (d.journal.answered.map Exchange.request).Sublist d.journal.sent := by
    refine List.Sublist.trans ?_ hcorr.taken_sublist_sent
    rw [hcorr.fifo.taken]
    exact List.sublist_append_left _ _
  have hsent : (d.journal.sent.map Packet.msg).Sublist d.journal.called := by
    have hplaces : ((d.journal.sent.map fun p ↦ (p.call, p.msg)).map Prod.snd).Sublist
        d.journal.called := by
      refine List.sublist_of_places ?_ fun q hq ↦ ?_
      · rw [List.map_map]
        exact hcorr.numbered.ordered
      · obtain ⟨p, hp, rfl⟩ := List.mem_map.1 hq
        exact hcorr.numbered.called p hp
    rwa [List.map_map] at hplaces
  have hreqs : (d.journal.answered.map Exchange.req).Sublist d.journal.called := by
    have hmsgs := (hanswered.map Packet.msg).trans hsent
    rwa [List.map_map] at hmsgs
  have hown := hreqs.filterMap (SlsDetMessage.ownCall lib.rounding)
  rw [List.filterMap_map] at hown
  exact hcommanded.trans hown

/-! ### What was sent is carried out -/

/-- What the call under way has sent. -/
def sentNow : Caller → List Packet
  | .receiving p => [p]
  | _ => []

@[simp] theorem sentNow_flushLoop (p : Packet) (n : ℕ) : sentNow (flushLoop p n) = [] := by
  rw [flushLoop]
  split <;> rfl

/-- The messages sent are those of the calls that did not give up before, and of the one under
way. -/
def Posted (d : SlsDetDriver) : Prop :=
  d.journal.sent =
    (d.journal.outcomes.filter Outcome.wasSent).map Outcome.request ++ sentNow d.caller

theorem Posted.step {l : Label} (h : d.Posted) (hl : l.IsTraffic)
    (hs : (machine lib).step d l = some d') : d'.Posted := by
  cases l with
  | request m =>
    obtain ⟨hc, rfl⟩ := request_eq_some_iff.1 hs
    rw [Posted, hc] at h
    rw [Posted, sentNow_flushLoop]
    exact h
  | wait expired =>
    cases waitStep_of_wait hs with
    | expire p stage hc =>
      rw [Posted] at h ⊢
      show d.journal.sent = (List.filter _ (d.journal.outcomes ++ [_])).map _ ++ []
      rw [h, List.filter_append, List.map_append, List.append_nil]
      congr 1
      cases stage <;> rw [show d.caller = _ from hc] <;> rfl
    | flush p q rest hc hq =>
      rw [Posted, hc] at h
      rw [Posted, sentNow_flushLoop]
      exact h
    | send p queue hc hq =>
      rw [Posted, hc] at h
      show d.journal.sent ++ [p] = _ ++ [p]
      rw [h]
      exact congrArg (· ++ [p]) (List.append_nil _)
    | receive p q rest hc hq =>
      rw [Posted, hc] at h
      show d.journal.sent = (List.filter _ (d.journal.outcomes ++ [_])).map _ ++ []
      rw [h, List.filter_append, List.map_append, List.append_nil]
      rfl
  | finish =>
    obtain ⟨⟨p, hc⟩, rfl⟩ := finish_eq_some_iff.1 hs
    rw [Posted, hc] at h
    exact h
  | inspect rep =>
    obtain ⟨-, rfl⟩ := inspect_eq_some_iff.1 hs
    exact h
  | work =>
    obtain ⟨hcaller, -, -, -, hsent, -, -, houtcomes, -⟩ := frame_work (workStep_of_work hs)
    rw [Posted, hcaller, hsent, houtcomes]
    exact h
  | _ => simp [Label.IsTraffic] at hl

/-- Between two calls every call has its outcome. -/
theorem Numbered.req_of_idle (h : d.Numbered) (hidle : d.caller = .idle) :
    d.journal.outcomes.map Outcome.req = d.journal.called := by
  have hcalls := h.endings
  rw [hidle] at hcalls
  change _ = List.range d.journal.called.length at hcalls
  have hlength := congrArg List.length hcalls
  rw [List.length_map, List.length_range] at hlength
  refine List.ext_getElem? fun i ↦ ?_
  rcases ho : d.journal.outcomes[i]? with - | o
  · rw [List.getElem?_map, ho, Option.map_none, List.getElem?_eq_none]
    exact hlength ▸ List.getElem?_eq_none_iff.1 ho
  · have hi : o.call = i := by
      have hget := congrArg (·[i]?) hcalls
      have hlt := (List.getElem?_eq_some_iff.1 ho).1
      rw [List.getElem?_map, ho, List.getElem?_range (hlength ▸ hlt)] at hget
      exact Option.some.inj hget
    rw [List.getElem?_map, ho, Option.map_some, ← h.asked o (List.mem_of_getElem? ho), hi]

/-- A worker who cannot go on waits for a request, and none is queued. -/
theorem Operating.waiting_of_stuck (h : d.Operating) (hstuck : d.work lib = none) :
    d.worker = .receiving ∧ d.requestQueue.items = [] := by
  have hacc : d.Accounted := Or.inl ⟨h.correlated.conserved, h.running⟩
  have hdisabled : ¬d.Enabled lib .work := by
    rw [Enabled, show (machine lib).step d .work = none from hstuck]
    decide
  by_contra hne
  exact hdisabled (hacc.work_enabled h.working fun hw hq ↦ hne ⟨hw, hq⟩)

/-- **Nothing that was sent is lost, and nothing is done twice.** Between two calls every call of
`request()` has its outcome, and a worker who cannot go on has answered the messages of those that
did not give up before they had sent theirs, each of them once, and no others. -/
theorem carried_out (hls : ∀ l ∈ ls, l.IsTraffic)
    (hrun : (machine lib).run (new hostName id) ls = some d) (hop : d.Operating)
    (hidle : d.caller = .idle) (hstuck : d.work lib = none) :
    d.journal.outcomes.map Outcome.req = d.journal.called ∧
      d.journal.answered.map Exchange.request =
        (d.journal.outcomes.filter Outcome.wasSent).map Outcome.request := by
  have hposted : d.Posted :=
    LabelledMachine.run_invariant (P := Posted) (L := fun l ↦ l.IsTraffic = true)
      (fun h hl hs ↦ h.step hl hs) (show (new hostName id).Posted from rfl) hls hrun
  refine ⟨hop.correlated.numbered.req_of_idle hidle, ?_⟩
  obtain ⟨hw, hq⟩ := hop.waiting_of_stuck hstuck
  have hanswered : d.journal.taken = d.journal.answered.map Exchange.request ++ [] := by
    rw [hop.correlated.fifo.taken, hw]
    rfl
  have hsent : d.journal.sent = d.journal.taken ++ [] := by rw [hop.correlated.fifo.sent, hq]
  have hcalls : d.journal.sent =
      (d.journal.outcomes.filter Outcome.wasSent).map Outcome.request ++ [] := by
    rw [Posted, hidle] at hposted
    exact hposted
  rw [List.append_nil] at hanswered hsent hcalls
  rw [← hanswered, ← hsent, hcalls]

end SlsDetDriver
