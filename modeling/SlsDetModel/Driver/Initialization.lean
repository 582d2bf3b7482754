import SlsDetModel.Driver.Teardown

/-!
# Initialization

`initialize()` publishes the detector object in `_det` before it configures it: the object is
constructed, given its host name, and counted. Three calls can fail, and they fail in two ways. A
wrong count shuts the object down again. An exception of the constructor leaves the null pointer
behind. But an exception of the other two calls is swallowed where it is, and leaves the object as
far as it got; from then on `_det` is not null, so nobody completes it, and requests are served by
it.

`configuration_initializeDet` lists the outcomes, `allOrNothing_initializeDet_iff` singles out the
good ones, and `initialization_atomic` carries this to the runs of the driver: as long as no
exception falls between construction and counting, the driver has a fully configured detector or
none at all.
-/

namespace Core

variable {lib : Library} {c c' : Core}

/-- How far the object has been configured: its host name, and the count of its detectors. -/
def configuration (c : Core) : Option (Option Text × Option Int) :=
  c.det.map fun d ↦ (d.hostname, d.counted)

/-- The object was given the driver's host name, and counted as a single detector. -/
def Configured (c : Core) : Prop := c.configuration = some (some c.hostname, some maxDets)

instance : Decidable c.Configured :=
  inferInstanceAs (Decidable (c.configuration = some (some c.hostname, some maxDets)))

/-- There is no object, or it is fully configured. -/
def AllOrNothing (c : Core) : Prop := c.det = none ∨ c.Configured

/-- What the constructor answers, in an initialization. -/
def constructed (lib : Library) (c : Core) : Answer := lib c.calls (.new c.id)

/-- What `setHostname` answers after that. -/
def named (lib : Library) (c : Core) : Answer :=
  lib (c.calls ++ [.new c.id]) (.setHostname c.hostname)

/-- And what `getNumberOfDetectors` answers. -/
def counted (lib : Library) (c : Core) : Answer :=
  lib (c.calls ++ [.new c.id] ++ [.setHostname c.hostname]) .getNumberOfDetectors

/-- The object cannot be constructed, or neither call of its configuration ends in an exception. -/
def Unbroken (lib : Library) (c : Core) : Prop :=
  (constructed lib c).throws = true ∨
    (named lib c).throws = false ∧ (counted lib c).throws = false

instance : Decidable (Unbroken lib c) := inferInstanceAs (Decidable (_ ∨ _ ∧ _))

theorem configuration_eq_none_iff : c.configuration = none ↔ c.det = none :=
  Option.map_eq_none_iff

/-- **The outcomes of `initialize()`**, in the order of its calls. -/
theorem configuration_initializeDet (h : c.det = none) : (c.initializeDet lib).configuration =
    if (constructed lib c).throws then none
    else if (named lib c).throws then some (none, none)
    else if (counted lib c).throws then some (some c.hostname, none)
    else if (counted lib c).ret ≠ maxDets then none
    else some (some c.hostname, some maxDets) := by
  rw [initializeDet, h, if_neg (by decide), constructed, named, counted]
  dsimp only [call, modifyDet]
  split_ifs with hnew hname hcount hwrong
  · rw [configuration, h]
    rfl
  · rfl
  · rfl
  · rw [configuration_eq_none_iff, det_shutdown]
  · rw [not_not] at hwrong
    rw [hwrong]
    rfl

/-- The identity of the driver stays. -/
theorem hostname_initializeDet (lib : Library) (c : Core) :
    (c.initializeDet lib).hostname = c.hostname := by
  rw [initializeDet]
  dsimp only [call, modifyDet, shutdown]
  split_ifs <;> rfl

theorem calls_prefix_shutdown (c : Core) : c.calls <+: c.shutdown.calls := by
  rw [shutdown]
  split
  case isTrue => exact List.prefix_append _ _
  case isFalse => exact List.prefix_rfl

/-- **Without an object, initialization starts from scratch**, with the construction. -/
theorem new_prefix_initializeDet (h : c.det = none) :
    c.calls ++ [.new c.id] <+: (c.initializeDet lib).calls := by
  rw [initializeDet, h, if_neg (by decide)]
  dsimp only [call, modifyDet]
  split_ifs
  · exact List.prefix_rfl
  · exact List.prefix_append _ _
  · exact (List.prefix_append _ _).trans (List.prefix_append _ _)
  · refine List.IsPrefix.trans ?_ (calls_prefix_shutdown _)
    exact (List.prefix_append _ _).trans (List.prefix_append _ _)
  · exact (List.prefix_append _ _).trans (List.prefix_append _ _)

/-- **When initialization is all or nothing.** -/
theorem allOrNothing_initializeDet_iff (h : c.det = none) :
    (c.initializeDet lib).AllOrNothing ↔ Unbroken lib c := by
  rw [AllOrNothing, Configured, ← configuration_eq_none_iff, hostname_initializeDet,
    configuration_initializeDet h, Unbroken]
  split_ifs with hnew hname hcount hwrong
  · exact iff_of_true (Or.inl rfl) (Or.inl hnew)
  · exact iff_of_false (by simp) (by simp [hnew, hname])
  · exact iff_of_false (by simp) (by simp [hnew, hcount])
  · exact iff_of_true (Or.inl rfl) (Or.inr ⟨by simpa using hname, by simpa using hcount⟩)
  · exact iff_of_true (Or.inr rfl) (Or.inr ⟨by simpa using hname, by simpa using hcount⟩)

/-! ### Requests do not touch the configuration -/

/-- The identity of the driver and the configuration of its object are the same. -/
def SameObject (c c' : Core) : Prop :=
  c'.hostname = c.hostname ∧ c'.configuration = c.configuration

theorem SameObject.trans {c'' : Core} (h : c.SameObject c') (h' : c'.SameObject c'') :
    c.SameObject c'' := ⟨h'.1.trans h.1, h'.2.trans h.2⟩

theorem sameObject_call (lib : Library) (c : Core) (q : LibCall) :
    c.SameObject (c.call lib q).2 := by
  refine ⟨rfl, ?_⟩
  rcases h : c.det with - | d <;> simp [configuration, call, modifyDet, h]

theorem sameObject_clearAllErrorMask (c : Core) : c.SameObject c.clearAllErrorMask := by
  refine ⟨rfl, ?_⟩
  rcases h : c.det with - | d <;> simp [configuration, clearAllErrorMask, modifyDet, h]

theorem sameObject_query {q : LibCall} {onOk : Answer → Core → SlsDetMessage × Core}
    (hok : ∀ ans c', SameObject c' (onOk ans c').2) : c.SameObject (query lib q onOk c).2 := by
  rw [query]
  dsimp only
  split_ifs
  · exact (sameObject_call lib c q).trans (hok _ _)
  · exact sameObject_call lib c q
  · exact ⟨rfl, rfl⟩

theorem sameObject_getOrSet {q : LibCall} {isRead recoverable : Bool}
    {onRead : Answer → SlsDetMessage} {verify : Answer → Bool} :
    c.SameObject (getOrSet lib q isRead onRead verify recoverable c).2 := by
  have hcall := sameObject_call lib c q
  rw [getOrSet]
  dsimp only
  split_ifs
  all_goals first
    | exact hcall
    | exact hcall.trans (sameObject_clearAllErrorMask _)
    | exact ⟨rfl, rfl⟩

theorem sameObject_checkOnline : c.SameObject (checkOnline lib c).2 := by
  have hcall := sameObject_call lib c .checkOnline
  rw [checkOnline]
  dsimp only
  split_ifs
  · exact hcall.trans (sameObject_clearAllErrorMask _)
  · exact hcall
  · exact ⟨rfl, rfl⟩

/-- **No request changes the configuration** of the object. -/
theorem sameObject_process (lib : Library) (req : SlsDetMessage) (c : Core) :
    c.SameObject (process lib req c).2 := by
  rcases req with ⟨t, data⟩
  cases data with
  | none =>
    cases t
    case checkOnline => exact sameObject_checkOnline
    all_goals first
      | exact sameObject_getOrSet
      | exact sameObject_query fun _ _ ↦ ⟨rfl, rfl⟩
      | exact ⟨rfl, rfl⟩
  | int32 v => cases t <;> first | exact sameObject_getOrSet | exact ⟨rfl, rfl⟩
  | float64 v => cases t <;> first | exact sameObject_getOrSet | exact ⟨rfl, rfl⟩
  | int64 v => exact ⟨rfl, rfl⟩
  | string pgp => exact ⟨rfl, rfl⟩

theorem SameObject.allOrNothing (h : c.SameObject c') (hc : c.AllOrNothing) :
    c'.AllOrNothing := by
  rw [AllOrNothing, Configured, ← configuration_eq_none_iff, h.1, h.2, configuration_eq_none_iff]
  exact hc

end Core

namespace SlsDetDriver

variable {lib : Library} {d d' : SlsDetDriver} {hostName : Text} {id : Int} {ls : List Label}

/-- The worker is about to initialize: it holds a request, and there is no object. -/
def Initializes (d : SlsDetDriver) : Bool :=
  match d.worker with
  | .holding _ => d.core.det.isNone
  | _ => false

/-- **The condition on a step**: if it is an initialization, no exception comes between the
construction of the object and the end of its configuration. -/
def InitOk (lib : Library) (d : SlsDetDriver) (l : Label) : Prop :=
  l = .work → d.Initializes = true → d.core.Unbroken lib

instance (l : Label) : Decidable (InitOk lib d l) :=
  inferInstanceAs (Decidable (l = .work → d.Initializes = true → d.core.Unbroken lib))

theorem initializes_of_holding {p : Packet} (hw : d.worker = .holding p)
    (hdet : d.core.det = none) : d.Initializes = true := by
  rw [Initializes, hw, hdet]
  rfl

/-- The step of a worker that is about to initialize. -/
theorem work_of_initializes (h : d.Initializes = true) (hs : (machine lib).step d .work = some d') :
    d.core.det = none ∧ d'.core = d.core.initializeDet lib := by
  rw [Initializes] at h
  cases workStep_of_work hs with
  | prepare p hw =>
    rw [hw] at h
    exact ⟨Option.isNone_iff_eq_none.1 h, rfl⟩
  | test hw => rw [hw] at h; cases h
  | take p rest hw => rw [hw] at h; cases h
  | answer p hw => rw [hw] at h; cases h
  | reply p queue hw => rw [hw] at h; cases h

/-- **One step keeps the driver from half-built objects**, if it meets the condition. -/
theorem allOrNothing_step {l : Label} (h : d.core.AllOrNothing) (hok : InitOk lib d l)
    (hs : (machine lib).step d l = some d') : d'.core.AllOrNothing := by
  by_cases hl : l = .work
  · subst hl
    cases workStep_of_work hs with
    | test hw => exact h
    | take p rest hw hq => exact h
    | reply p queue hw hq => exact h
    | prepare p hw =>
      rcases hdet : d.core.det with - | o
      · have hunbroken : d.core.Unbroken lib := hok rfl (initializes_of_holding hw hdet)
        exact (Core.allOrNothing_initializeDet_iff hdet).2 hunbroken
      · show (d.core.initializeDet lib).AllOrNothing
        rw [Core.initializeDet_of_isSome (by rw [hdet]; rfl)]
        exact h
    | answer p hw =>
      show (respond lib d.core p.msg).2.AllOrNothing
      rw [respond]
      split
      case isTrue => exact (Core.sameObject_process lib p.msg d.core).allOrNothing h
      case isFalse => exact h
  · rcases core_caller hl hs with hcore | ⟨rfl, rfl⟩
    · rwa [hcore]
    · exact Or.inl (Core.det_shutdown d.core)

/-- **Initialization is all or nothing**, if no exception falls between the construction of the
object and the end of its configuration. In every state of a run whose steps all meet this condition
there is no object, or it is fully configured; so `process()` is only ever called with a fully
configured one. A worker that holds a request, and whose earlier attempts have failed, initializes
again, and starts from scratch; and whether that attempt in turn is all or nothing depends on the
condition alone. -/
theorem initialization_atomic (hls : (machine lib).Along (InitOk lib) (new hostName id) ls)
    (hrun : (machine lib).run (new hostName id) ls = some d) :
    d.core.AllOrNothing ∧
    (∀ p, d.worker = .ready p → d.core.det.isSome → d.core.Configured) ∧
    (∀ p, d.worker = .holding p → ¬d.core.Configured → d.Initializes = true) ∧
    ∀ d', d.Initializes = true → (machine lib).step d .work = some d' →
      d.core.calls ++ [.new d.core.id] <+: d'.core.calls ∧
      (d'.core.AllOrNothing ↔ d.core.Unbroken lib) := by
  have hall : d.core.AllOrNothing :=
    LabelledMachine.run_invariant_along (P := fun u ↦ u.core.AllOrNothing)
      (fun hu hok hs ↦ allOrNothing_step hu hok hs) (Or.inl rfl) hls hrun
  refine ⟨hall, fun p _ hdet ↦ ?_, fun p hw hfailed ↦ ?_, fun d' hinit hs ↦ ?_⟩
  · rcases hall with hnone | hconf
    · rw [hnone] at hdet
      cases hdet
    · exact hconf
  · exact initializes_of_holding hw (hall.resolve_right hfailed)
  · obtain ⟨hnone, hcore⟩ := work_of_initializes hinit hs
    rw [hcore]
    exact ⟨Core.new_prefix_initializeDet hnone, Core.allOrNothing_initializeDet_iff hnone⟩

/-- A first request, up to the call of `process()`. -/
def firstRun : List Label := [.request (.ofType .checkOnline), .wait false, .work, .work, .work]

/-- A detector that answers every call is fully configured by then. -/
theorem initialization_atomic_first : ∃ d, (machine healthy).run (new [] 0) firstRun = some d ∧
    d.core.Configured := by
  have hsome : ((machine healthy).run (new [] 0) firstRun).map (fun d ↦
      (d.worker, d.core.det.isSome)) = some (.ready ⟨0, .ofType .checkOnline⟩, true) := by
    decide +kernel
  obtain ⟨d, hrun, hd⟩ := Option.map_eq_some_iff.1 hsome
  obtain ⟨hw, hdet⟩ := Prod.mk.inj hd
  exact ⟨d, hrun, (initialization_atomic (by decide +kernel) hrun).2.1 _ hw hdet⟩

/-- A detector whose host cannot be reached: naming it ends in an exception. -/
def unreachable : Library where
  answer _ q :=
    match q with
    | .setHostname _ => { throws := true }
    | _ => { ret := 1 }

/-- **A half-built object is taken for a detector**: when naming it ends in an exception, the first
request is processed by an object that has no host. -/
theorem initialization_not_atomic : ¬∀ lib hostName id ls d p,
    (machine lib).run (new hostName id) ls = some d → d.worker = .ready p → d.core.det.isSome →
    d.core.Configured := by
  intro h
  have hsome : ((machine unreachable).run (new [] 0) firstRun).map (fun d ↦
      (d.worker, d.core.det.isSome, decide d.core.Configured)) =
        some (.ready ⟨0, .ofType .checkOnline⟩, true, false) := by decide +kernel
  obtain ⟨d, hrun, hd⟩ := Option.map_eq_some_iff.1 hsome
  obtain ⟨hw, hd⟩ := Prod.mk.inj hd
  obtain ⟨hdet, hconf⟩ := Prod.mk.inj hd
  exact of_decide_eq_false hconf (h _ _ _ _ d _ hrun hw hdet)

end SlsDetDriver
