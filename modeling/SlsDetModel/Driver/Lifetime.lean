import SlsDetModel.Driver.Commands
import SlsDetModel.Driver.Initialization

/-!
# The life of a detector object

The detector library hands out objects, and what may be called when is up to the driver: an object
is constructed, configured, used and deleted, and the shared memory of its id is freed after it.
`DetState.next` is that protocol as an automaton which reads one call after the other, with what the
library answered; it has no move where a call would be out of place, on an object that is not there,
or on the memory of another id. In its strict form it has none either for a call on an object whose
configuration an exception has cut short.

`lives_of_run` says that the driver keeps to the protocol, whatever is called, and that its pointer
tells where in the protocol it is; and to the strict one where no configuration is cut short. There
is a proviso. `initialize()`, `process()` and `shutdown()` are single steps of the machine, but the
driver has no lock, and in fact the last can overlap with the others; what they then do to an object
that is being deleted is beyond any protocol. So the runs are those that are `Undisturbed`.
-/

/-- Where the driver is in the life of a detector object. -/
inductive DetState
  /-- There is none. -/
  | absent
  /-- Constructed, and nothing else. -/
  | constructed
  /-- Given its host name, but not counted. -/
  | named
  /-- Counted, with a count that is not one. -/
  | miscounted
  /-- Configured. -/
  | present
  /-- There, but an exception has cut its configuration short. -/
  | halfBuilt
  /-- Deleted, its shared memory still there. -/
  | deleted
  deriving DecidableEq

/-- The call uses a detector object: it neither makes nor unmakes one. -/
def LibCall.IsUse : LibCall → Bool
  | .new _ => false
  | .setHostname _ => false
  | .delete => false
  | .freeSharedMemory _ => false
  | _ => true

/-- The protocol of the library for the driver of the id `id` and the host `hostName`: what comes
after the call `q` if it is answered with `ans`. Whether a half-built object may be used is what the
strict protocol and the other differ in. -/
def DetState.next (strict : Bool) (id : Int) (hostName : Text) (ans : Answer) :
    DetState → LibCall → Option DetState
  | .absent, .new i => if i = id then some (if ans.throws then .absent else .constructed) else none
  | .constructed, .setHostname h =>
    if h = hostName then some (if ans.throws then .halfBuilt else .named) else none
  | .named, .getNumberOfDetectors =>
    some (if ans.throws then .halfBuilt else if ans.ret ≠ maxDets then .miscounted else .present)
  | .miscounted, .delete => some .deleted
  | .present, .delete => some .deleted
  | .halfBuilt, .delete => some .deleted
  | .deleted, .freeSharedMemory i => if i = id then some .absent else none
  | .present, q => if q.IsUse then some .present else none
  | .halfBuilt, q => if strict = false ∧ q.IsUse then some .halfBuilt else none
  | _, _ => none

/-- The moves of the protocol, whatever is answered. -/
inductive DetState.Move (id : Int) (hostName : Text) : DetState → LibCall → DetState → Prop
  | construct {st'} (h : st' = .absent ∨ st' = .constructed) :
      Move id hostName .absent (.new id) st'
  | name {st'} (h : st' = .halfBuilt ∨ st' = .named) :
      Move id hostName .constructed (.setHostname hostName) st'
  | count {st'} (h : st' = .halfBuilt ∨ st' = .miscounted ∨ st' = .present) :
      Move id hostName .named .getNumberOfDetectors st'
  | delete {st} (h : st = .present ∨ st = .miscounted ∨ st = .halfBuilt) :
      Move id hostName st .delete .deleted
  | free : Move id hostName .deleted (.freeSharedMemory id) .absent
  | use {st q} (hst : st = .present ∨ st = .halfBuilt) (h : q.IsUse = true) :
      Move id hostName st q st

theorem DetState.move_of_next {strict : Bool} {id : Int} {hostName : Text} {ans : Answer}
    {st st' : DetState} {q : LibCall} (h : st.next strict id hostName ans q = some st') :
    Move id hostName st q st' := by
  unfold next at h
  split at h
  case h_1 =>
    obtain ⟨rfl, hst⟩ := Option.ite_none_right_eq_some.1 h
    obtain rfl := Option.some.inj hst
    exact .construct (by split <;> simp)
  case h_2 =>
    obtain ⟨rfl, hst⟩ := Option.ite_none_right_eq_some.1 h
    obtain rfl := Option.some.inj hst
    exact .name (by split <;> simp)
  case h_3 =>
    obtain rfl := Option.some.inj h
    exact .count (by split_ifs <;> simp)
  case h_4 =>
    obtain rfl := Option.some.inj h
    exact .delete (Or.inr (Or.inl rfl))
  case h_5 =>
    obtain rfl := Option.some.inj h
    exact .delete (Or.inl rfl)
  case h_6 =>
    obtain rfl := Option.some.inj h
    exact .delete (Or.inr (Or.inr rfl))
  case h_7 =>
    obtain ⟨rfl, hst⟩ := Option.ite_none_right_eq_some.1 h
    obtain rfl := Option.some.inj hst
    exact .free
  case h_8 =>
    obtain ⟨hq, hst⟩ := Option.ite_none_right_eq_some.1 h
    obtain rfl := Option.some.inj hst
    exact .use (Or.inl rfl) hq
  case h_9 =>
    obtain ⟨⟨-, hq⟩, hst⟩ := Option.ite_none_right_eq_some.1 h
    obtain rfl := Option.some.inj hst
    exact .use (Or.inr rfl) hq
  case h_10 => cases h

/-- The state is one in which the driver may be between two steps, if its pointer is null or not. -/
def DetState.Fits (strict : Bool) (there : Bool) (st : DetState) : Prop :=
  if there then st = .present ∨ strict = false ∧ st = .halfBuilt else st = .absent

/-- The calls keep to the protocol, and have led to the state. -/
inductive Lives (strict : Bool) (lib : Library) (id : Int) (hostName : Text) :
    List LibCall → DetState → Prop
  | nil : Lives strict lib id hostName [] .absent
  | snoc {calls st q st'} (h : Lives strict lib id hostName calls st)
      (hnext : st.next strict id hostName (lib calls q) q = some st') :
      Lives strict lib id hostName (calls ++ [q]) st'

namespace Lives

variable {strict : Bool} {lib : Library} {id : Int} {hostName : Text} {calls : List LibCall}
  {q : LibCall} {st st' : DetState}

/-- A call that uses the object. -/
theorem use (h : Lives strict lib id hostName calls st) (hst : st.Fits strict true)
    (hq : q.IsUse = true) : Lives strict lib id hostName (calls ++ [q]) st := by
  refine h.snoc ?_
  rcases hst with rfl | ⟨rfl, rfl⟩ <;> cases q <;> first | (cases hq; done) | rfl

/-- The end of an object. -/
theorem delete (h : Lives strict lib id hostName calls st)
    (hst : st = .present ∨ st = .miscounted ∨ st = .halfBuilt) :
    Lives strict lib id hostName (calls ++ [.delete, .freeSharedMemory id]) .absent := by
  have hdeleted : Lives strict lib id hostName (calls ++ [.delete]) .deleted := by
    refine h.snoc ?_
    rcases hst with rfl | rfl | rfl <;> rfl
  rw [← List.singleton_append, ← List.append_assoc]
  exact hdeleted.snoc (if_pos rfl)

/-- **Only the driver's own shared memory** is ever claimed or freed, under the driver's own host
name. -/
theorem own (h : Lives strict lib id hostName calls st) : ∀ q ∈ calls,
    (∀ i, q = .new i ∨ q = .freeSharedMemory i → i = id) ∧
      ∀ t, q = .setHostname t → t = hostName := by
  induction h with
  | nil => exact fun q hq ↦ (List.not_mem_nil hq).elim
  | snoc _ hnext ih =>
    intro p hp
    rcases List.mem_append.1 hp with hp | hp
    · exact ih p hp
    rw [List.mem_singleton] at hp
    subst hp
    cases DetState.move_of_next hnext with
    | use _ hq => constructor <;> rintro _ hp <;> rcases hp with rfl | rfl <;> cases hq
    | _ => simp

/-- **Nothing leaks**: an object is deleted as often as its memory is freed, but for the moment in
between. -/
theorem count_delete (h : Lives strict lib id hostName calls st) : calls.count .delete =
    calls.count (.freeSharedMemory id) + if st = .deleted then 1 else 0 := by
  induction h with
  | nil => rfl
  | @snoc calls st q st' _ hnext ih =>
    rw [List.count_append, List.count_append, ih]
    cases DetState.move_of_next hnext with
    | construct h => rcases h with rfl | rfl <;> simp
    | name h => rcases h with rfl | rfl <;> simp
    | count h => rcases h with rfl | rfl | rfl <;> simp
    | delete h => rcases h with rfl | rfl | rfl <;> simp
    | free => simp
    | use hst hq =>
      have hdelete : q ≠ .delete := fun h ↦ by rw [h] at hq; cases hq
      have hfree : q ≠ .freeSharedMemory id := fun h ↦ by rw [h] at hq; cases hq
      rcases hst with rfl | rfl <;> simp [hdelete, hfree]

/-- Between two steps of the driver, what was deleted has been freed. -/
theorem count_delete_of_fits (h : Lives strict lib id hostName calls st) {there : Bool}
    (hst : st.Fits strict there) : calls.count .delete = calls.count (.freeSharedMemory id) := by
  have hcount := h.count_delete
  rwa [if_neg, Nat.add_zero] at hcount
  rintro rfl
  rw [DetState.Fits] at hst
  split at hst
  case isTrue =>
    rcases hst with hst | ⟨-, hst⟩ <;> cases hst
  case isFalse => cases hst

end Lives

/-! ### The driver keeps to the protocol -/

/-- The calls that belong to requests use the object. -/
theorem isUse_of_ownCall {fl : Rounding} {req : SlsDetMessage} {q : LibCall}
    (h : req.ownCall fl = some q) : q.IsUse = true := by
  rcases req with ⟨t, data⟩
  cases data with
  | none => cases t <;> first | (cases h; done) | (obtain rfl := Option.some.inj h; rfl)
  | int32 v => cases t <;> first | (cases h; done) | (obtain rfl := Option.some.inj h; rfl)
  | float64 v => cases t <;> first | (cases h; done) | (obtain rfl := Option.some.inj h; rfl)
  | _ => cases h

namespace Core

variable {lib : Library} {c : Core}

/-- The calls made so far keep to the protocol, and the pointer tells where they have led. -/
def Follows (strict : Bool) (lib : Library) (id : Int) (hostName : Text) (c : Core) : Prop :=
  c.id = id ∧ c.hostname = hostName ∧
    ∃ st, Lives strict lib id hostName c.calls st ∧ st.Fits strict c.det.isSome

variable {strict : Bool} {id : Int} {hostName : Text}

theorem Follows.shutdown (h : c.Follows strict lib id hostName) :
    c.shutdown.Follows strict lib id hostName := by
  obtain ⟨rfl, rfl, st, hlives, hst⟩ := h
  rw [Core.shutdown]
  split
  case isTrue hdet =>
    rw [hdet] at hst
    refine ⟨rfl, rfl, .absent, hlives.delete ?_, rfl⟩
    exact hst.imp_right fun h ↦ Or.inr h.2
  case isFalse hdet => exact ⟨rfl, rfl, st, hlives, hst⟩

/-- **Initialization keeps to the protocol**, wherever an exception stops it; and to the strict one
where none cuts the configuration short. -/
theorem Follows.initializeDet (h : c.Follows strict lib id hostName)
    (hok : strict = true → c.det = none → c.Unbroken lib) :
    (c.initializeDet lib).Follows strict lib id hostName := by
  rcases hdet : c.det with - | o
  case some =>
    rw [initializeDet_of_isSome (by rw [hdet]; rfl)]
    exact h
  obtain ⟨rfl, rfl, st, hlives, hst⟩ := h
  rw [hdet] at hst
  obtain rfl : st = .absent := hst
  have hnew : ∀ {st}, (if (constructed lib c).throws then DetState.absent else .constructed) = st →
      Lives strict lib c.id c.hostname (c.calls ++ [.new c.id]) st := by
    rintro st rfl
    exact hlives.snoc (if_pos rfl)
  -- a configuration that was cut short leaves a half-built object, which is excluded if strict
  have hbroken : ¬(constructed lib c).throws = true →
      ((named lib c).throws = true ∨ (counted lib c).throws = true) → strict = false := by
    intro hthrows hcut
    by_contra hstrict
    have hunbroken : c.Unbroken lib := hok (Bool.eq_true_of_not_eq_false hstrict) hdet
    obtain ⟨hname, hcount⟩ := hunbroken.resolve_left hthrows
    rw [hname, hcount] at hcut
    simp at hcut
  rw [Core.initializeDet, hdet, if_neg (by decide)]
  dsimp only [call, modifyDet]
  split_ifs with hthrows hname hcount hwrong
  · refine ⟨rfl, rfl, .absent, hnew (if_pos hthrows), ?_⟩
    rw [hdet]
    rfl
  · refine ⟨rfl, rfl, .halfBuilt, (hnew (if_neg hthrows)).snoc ?_, ?_⟩
    · exact (if_pos rfl).trans (congrArg some (if_pos hname))
    · exact Or.inr ⟨hbroken hthrows (Or.inl hname), rfl⟩
  all_goals
    have hnamed : Lives strict lib c.id c.hostname
        (c.calls ++ [.new c.id] ++ [.setHostname c.hostname]) .named :=
      (hnew (if_neg hthrows)).snoc ((if_pos rfl).trans (congrArg some (if_neg hname)))
  · refine ⟨rfl, rfl, .halfBuilt, hnamed.snoc (congrArg some (if_pos hcount)), ?_⟩
    exact Or.inr ⟨hbroken hthrows (Or.inr hcount), rfl⟩
  · have hcounted : Lives strict lib c.id c.hostname (c.calls ++ [.new c.id] ++
        [.setHostname c.hostname] ++ [.getNumberOfDetectors]) .miscounted :=
      hnamed.snoc (congrArg some ((if_neg hcount).trans (if_pos hwrong)))
    exact ⟨rfl, rfl, .absent, hcounted.delete (Or.inr (Or.inl rfl)), rfl⟩
  · refine ⟨rfl, rfl, .present, hnamed.snoc ?_, Or.inl rfl⟩
    exact congrArg some ((if_neg hcount).trans (if_neg hwrong))

/-- The id is part of what the driver was constructed with. -/
theorem id_query {q : LibCall} {onOk : Answer → Core → SlsDetMessage × Core}
    (hok : ∀ ans c', (onOk ans c').2.id = c'.id) : (query lib q onOk c).2.id = c.id := by
  rw [query]
  dsimp only
  split_ifs
  · exact hok _ _
  · rfl
  · rfl

theorem id_getOrSet {q : LibCall} {isRead recoverable : Bool} {onRead : Answer → SlsDetMessage}
    {verify : Answer → Bool} :
    (getOrSet lib q isRead onRead verify recoverable c).2.id = c.id := by
  rw [getOrSet]
  dsimp only
  split_ifs <;> rfl

theorem id_process (lib : Library) (req : SlsDetMessage) (c : Core) :
    (process lib req c).2.id = c.id := by
  have honline : (checkOnline lib c).2.id = c.id := by
    rw [checkOnline]
    dsimp only
    split_ifs <;> rfl
  rcases req with ⟨t, data⟩
  cases data with
  | none =>
    cases t <;> first
      | exact honline
      | exact id_getOrSet
      | exact id_query fun _ _ ↦ rfl
      | rfl
  | int32 v => cases t <;> first | exact id_getOrSet | rfl
  | float64 v => cases t <;> first | exact id_getOrSet | rfl
  | int64 v => rfl
  | string pgp => rfl

/-- **So does a request**, which only uses the object that is there. -/
theorem Follows.process (h : c.Follows strict lib id hostName) (hdet : c.det.isSome)
    (req : SlsDetMessage) : (process lib req c).2.Follows strict lib id hostName := by
  obtain ⟨rfl, rfl, st, hlives, hst⟩ := h
  have hsound : Sound lib (req.ownCall lib.rounding) c (Core.process lib req c) :=
    sound_process hdet
  have hown : CallsOwn (req.ownCall lib.rounding) c (Core.process lib req c) :=
    callsOwn_process hdet
  rw [hdet] at hst
  have huse : Lives strict lib c.id c.hostname
      (c.calls ++ (req.ownCall lib.rounding).toList) st := by
    rcases hq : req.ownCall lib.rounding with - | q
    · rwa [Option.toList_none, List.append_nil]
    · exact hlives.use hst (isUse_of_ownCall hq)
  refine ⟨id_process lib req c, (sameObject_process lib req c).1, st, ?_, ?_⟩
  · rcases hown with hcalls | hcalls
    · rw [hcalls]
      exact huse
    · rw [hcalls, ← List.append_assoc]
      exact huse.use hst rfl
  · rw [hsound.det]
    exact hst

end Core

namespace SlsDetDriver

variable {lib : Library} {d d' : SlsDetDriver} {strict : Bool} {hostName : Text} {id : Int}
  {ls : List Label}

/-- **One step keeps to the protocol**, whichever thread takes it. -/
theorem follows_step {l : Label} (h : d.core.Follows strict lib id hostName)
    (hok : strict = true → InitOk lib d l) (hs : (machine lib).step d l = some d') :
    d'.core.Follows strict lib id hostName := by
  by_cases hl : l = .work
  · subst hl
    cases workStep_of_work hs with
    | prepare p hw =>
      exact h.initializeDet fun hstrict hdet ↦ hok hstrict rfl (initializes_of_holding hw hdet)
    | answer p hw =>
      show (respond lib d.core p.msg).2.Follows strict lib id hostName
      rw [respond]
      split
      case isTrue hdet => exact h.process hdet p.msg
      case isFalse => exact h
    | _ => exact h
  · rcases core_caller hl hs with hcore | ⟨rfl, rfl⟩
    · rwa [hcore]
    · exact h.shutdown

/-- And so does a run; to the strict protocol, if its condition sees to the initializations. -/
theorem follows_of_along {C : SlsDetDriver → Label → Prop}
    (hC : ∀ {u l}, C u l → strict = true → InitOk lib u l)
    (hls : (machine lib).Along C (new hostName id) ls)
    (hrun : (machine lib).run (new hostName id) ls = some d) :
    d.core.Follows strict lib id hostName := by
  have hstart : (new hostName id).core.Follows strict lib id hostName :=
    ⟨rfl, rfl, .absent, .nil, rfl⟩
  exact LabelledMachine.run_invariant_along
    (P := fun u ↦ u.core.Follows strict lib id hostName)
    (fun hu hok hs ↦ follows_step hu (hC hok) hs) hstart hls hrun

theorem follows_of_run (hrun : (machine lib).run (new hostName id) ls = some d) :
    d.core.Follows false lib id hostName :=
  follows_of_along (C := fun _ _ ↦ True) (fun _ hstrict ↦ by cases hstrict)
    (LabelledMachine.along_of_forall (fun _ _ ↦ trivial) _) hrun

/-- The worker is in the part of its loop that works on the detector object. -/
def AtWork (d : SlsDetDriver) : Bool :=
  match d.worker with
  | .holding _ => true
  | .ready _ => true
  | _ => false

/-- **The condition on a step**: `shutdown()` and the worker's work on the object keep apart.
Nothing in the code sees to it, and where they overlap neither is the single step that it is
here. -/
def Undisturbed (d : SlsDetDriver) (l : Label) : Prop := l = .shutdown → d.AtWork = false

instance (l : Label) : Decidable (d.Undisturbed l) :=
  inferInstanceAs (Decidable (l = .shutdown → d.AtWork = false))

/-- **The driver keeps to the protocol of the library**, in every run that nothing disturbs: with
any requests and expiries, its destructor, and `shutdown()` whenever the worker is not at work on
the object, and whatever the library answers. Every call is made where the protocol has a place for
it. An object is constructed only where there is none, configured in the order of the protocol, used
only while it is there, and its memory is freed right after it was deleted. The pointer tells if
there is one, and what was deleted has been freed. Only the driver's own memory and host name occur.

Where no exception cuts a configuration short, the protocol is the strict one, and what is used is
configured. -/
theorem lives_of_run (hls : (machine lib).Along Undisturbed (new hostName id) ls)
    (hrun : (machine lib).run (new hostName id) ls = some d) :
    (∃ st, Lives false lib id hostName d.core.calls st ∧ st.Fits false d.core.det.isSome) ∧
      ((machine lib).Along (InitOk lib) (new hostName id) ls →
        ∃ st, Lives true lib id hostName d.core.calls st ∧ st.Fits true d.core.det.isSome) ∧
      d.core.calls.count .delete = d.core.calls.count (.freeSharedMemory id) ∧
      ∀ q ∈ d.core.calls, (∀ i, q = .new i ∨ q = .freeSharedMemory i → i = id) ∧
        ∀ t, q = .setHostname t → t = hostName := by
  have hfollows : d.core.Follows false lib id hostName :=
    follows_of_along (fun _ hstrict ↦ by cases hstrict) hls hrun
  obtain ⟨-, -, st, hlives, hst⟩ := hfollows
  refine ⟨⟨st, hlives, hst⟩, fun hinit ↦ ?_, hlives.count_delete_of_fits hst, hlives.own⟩
  have hstrict : d.core.Follows true lib id hostName :=
    follows_of_along (fun hok _ ↦ hok) hinit hrun
  exact hstrict.2.2

/-- The request and the teardown of a driver in front of a detector that answers every call. -/
theorem lives_of_run_destructor : ∃ d st, (machine healthy).run (new [] 0)
    (onlineRun ++ destructorRun ++ [.shutdown]) = some d ∧
    Lives true healthy 0 [] d.core.calls st ∧ st.Fits true d.core.det.isSome ∧
    d.core.calls.count .delete = d.core.calls.count (.freeSharedMemory 0) := by
  have hsome : ((machine healthy).run (new [] 0)
      (onlineRun ++ destructorRun ++ [.shutdown])).isSome := by decide +kernel
  obtain ⟨d, hrun⟩ := Option.isSome_iff_exists.1 hsome
  obtain ⟨-, hstrict, hcount, -⟩ := lives_of_run (by decide +kernel) hrun
  obtain ⟨st, hlives, hst⟩ := hstrict (by decide +kernel)
  exact ⟨d, st, hrun, hlives, hst, hcount⟩

end SlsDetDriver
