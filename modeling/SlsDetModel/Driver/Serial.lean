import SlsDetModel.Driver.Synchronous

/-!
# The detector without its driver

Behind the messages, the queues and the string cache of a driver is a detector object that is used
in one way only: it is made if there is none, one call is made on it, and the sticky error mask is
looked at after the call. `SerialDet` is the detector used in this way directly. Nothing is queued,
nothing is outstanding, and there are no messages: what comes of a call is its `Verdict`.

An iteration of the worker's loop does to the library what the serial detector does (`serial_serve`,
`serial_serve_checkOnline`), and the verdict tells what it replies to a read (`read_serve`).
-/

/-- Errors of the call that are confined to the driver's own detector are cleared. -/
def LibCall.recoverable : LibCall → Bool
  | .setClockDivider _ => true
  | .setSettings _ _ => true
  | .setThresholdTemperature _ _ => true
  | .setTemperatureControl _ _ => true
  | .setTemperatureEvent _ _ => true
  | _ => false

/-- A detector: the error mask of its object, if there is one, and the calls made so far. -/
structure SerialDet where
  id : Int
  hostname : Text
  mask : Option ErrorMask := none
  calls : List LibCall := []

/-- What comes of a call. -/
inductive Verdict
  /-- No error bit is set after it. -/
  | clean (ans : Answer)
  /-- An error of the driver's own detector, which was cleared. -/
  | contained
  /-- Any other error, or no object to call. -/
  | broken

namespace SerialDet

variable (lib : Library) (d : SerialDet)

/-- Make a call. The error bits it raises are there to stay. -/
def call (q : LibCall) : Answer × SerialDet :=
  (lib d.calls q,
    { d with mask := d.mask.map (· ||| (lib d.calls q).raised), calls := d.calls ++ [q] })

/-- Clear the error mask. -/
def clear : SerialDet :=
  { d with mask := d.mask.map fun _ ↦ 0, calls := d.calls ++ [.clearAllErrorMask] }

/-- Make an object, if there is none, that has its host name and a single detector. -/
def prepare : SerialDet :=
  if d.mask.isSome then d
  else
    let (made, d) := d.call lib (.new d.id)
    if made.throws then d
    else
      let (named, d) := call lib { d with mask := some made.raised } (.setHostname d.hostname)
      if named.throws then d
      else
        let (counted, d) := d.call lib .getNumberOfDetectors
        if counted.throws ∨ counted.ret = maxDets then d
        else { d with mask := none, calls := d.calls ++ [.delete, .freeSharedMemory d.id] }

/-- Make a call on the object, and look at the error mask. -/
def consult (q : LibCall) : Verdict × SerialDet :=
  if d.mask.isSome then
    let (ans, d) := d.call lib q
    if d.mask = some 0 then (.clean ans, d)
    else if q.recoverable ∧ d.mask = some posBit then (.contained, d.clear)
    else (.broken, d)
  else (.broken, d)

/-- The call of a request. -/
def ask (q : LibCall) : Verdict × SerialDet := (d.prepare lib).consult lib q

/-- Whether the detector is online. Only then the error mask is cleared. -/
def isOnline : Bool × SerialDet :=
  let d := d.prepare lib
  if d.mask.isSome then
    let (ans, d) := d.call lib .checkOnline
    if ans.text.isEmpty then (true, d.clear) else (false, d)
  else (false, d)

end SerialDet

namespace Core

variable {lib : Library} {c : Core} {q : LibCall} {m : SlsDetMessage}

/-- The state of the worker, as the library knows it. -/
def serial (c : Core) : SerialDet := ⟨c.id, c.hostname, c.det.map Det.errorMask, c.calls⟩

theorem mask_serial (h : c.det.isSome) : c.serial.mask = some c.errorMask := by
  obtain ⟨d, hd⟩ := Option.isSome_iff_exists.1 h
  rw [serial, errorMask, hd]
  rfl

@[simp] theorem isSome_mask_serial (c : Core) : c.serial.mask.isSome = c.det.isSome :=
  Option.isSome_map

theorem serial_call (lib : Library) (c : Core) (q : LibCall) :
    (c.call lib q).2.serial = (c.serial.call lib q).2 := by
  rcases hdet : c.det with - | d <;> simp [serial, call, SerialDet.call, modifyDet, hdet]

theorem serial_clearAllErrorMask (c : Core) : c.clearAllErrorMask.serial = c.serial.clear := by
  rcases hdet : c.det with - | d <;>
    simp [serial, clearAllErrorMask, SerialDet.clear, modifyDet, hdet]

/-- **The lazy initialization** makes the calls that it takes. -/
theorem serial_initializeDet (lib : Library) (c : Core) :
    (c.initializeDet lib).serial = c.serial.prepare lib := by
  rcases hdet : c.det with - | d
  case some =>
    have hsome : c.det.isSome := by rw [hdet]; rfl
    rw [initializeDet_of_isSome hsome, SerialDet.prepare,
      if_pos (by rw [isSome_mask_serial, hsome])]
  case none =>
    -- one call after the other, until one of them throws
    by_cases hmade : (lib c.calls (.new c.id)).throws
    · simp [initializeDet, SerialDet.prepare, call, SerialDet.call, modifyDet, serial, hdet, hmade]
    by_cases hnamed : (lib (c.calls ++ [.new c.id]) (.setHostname c.hostname)).throws
    · simp [initializeDet, SerialDet.prepare, call, SerialDet.call, modifyDet, serial, hdet, hmade,
        hnamed]
    generalize hcounted : lib (c.calls ++ [.new c.id, .setHostname c.hostname])
      .getNumberOfDetectors = counted
    by_cases hthrows : counted.throws <;> by_cases hret : counted.ret = maxDets <;>
      simp [initializeDet, SerialDet.prepare, call, SerialDet.call, modifyDet, serial, shutdown,
        hdet, hmade, hnamed, hcounted, hthrows, hret]

/-- **A call and its verdict.** -/
theorem consult_serial (hdet : c.det.isSome) : c.serial.consult lib q =
    if (c.call lib q).2.errorMask = 0 then (.clean (lib c.calls q), (c.call lib q).2.serial)
    else if q.recoverable ∧ (c.call lib q).2.errorMask = posBit then
      (.contained, (c.call lib q).2.clearAllErrorMask.serial)
    else (.broken, (c.call lib q).2.serial) := by
  have hmask : (c.serial.call lib q).2.mask = some (c.call lib q).2.errorMask := by
    rw [← serial_call, mask_serial (by rw [isSome_det_call, hdet])]
  rw [SerialDet.consult, if_pos (by rw [isSome_mask_serial, hdet])]
  dsimp only
  simp only [hmask, serial_clearAllErrorMask, serial_call, Option.some_inj]
  rfl

/-- Without an object there is nothing to call. -/
theorem consult_serial_of_none (hdet : c.det.isSome = false) :
    c.serial.consult lib q = (.broken, c.serial) := by
  rw [SerialDet.consult, if_neg (by rw [isSome_mask_serial, hdet]; decide)]

/-! ### The handlers -/

theorem serial_query {onOk : Answer → Core → SlsDetMessage × Core} (hdet : c.det.isSome)
    (hrec : q.recoverable = false) (hok : ∀ ans c', (onOk ans c').2.serial = c'.serial) :
    (query lib q onOk c).2.serial = (c.serial.consult lib q).2 := by
  rw [query, if_pos hdet, consult_serial hdet, hrec]
  dsimp only
  split
  case isTrue => exact hok _ _
  case isFalse => rfl

theorem serial_getOrSet {isRead recoverable : Bool} {onRead : Answer → SlsDetMessage}
    {verify : Answer → Bool} (hdet : c.det.isSome) (hrec : q.recoverable = recoverable) :
    (getOrSet lib q isRead onRead verify recoverable c).2.serial = (c.serial.consult lib q).2 := by
  rw [getOrSet, if_pos hdet, consult_serial hdet, hrec]
  dsimp only
  split
  case isTrue => split <;> first | rfl | (split <;> rfl)
  case isFalse =>
    by_cases hown : recoverable = true ∧ (c.call lib q).2.errorMask = posBit
    · rw [if_pos (by simpa using hown), if_pos hown]
    · rw [if_neg (by simpa using hown), if_neg hown]

/-- **Every handler** makes the call of its request, and that is all it does to the library. -/
theorem serial_process (h : m.ownCall lib.rounding = some q) (hq : q ≠ .checkOnline)
    (hdet : c.det.isSome) : (process lib m c).2.serial = (c.serial.consult lib q).2 := by
  rcases m with ⟨t, data⟩
  cases data with
  | none =>
    cases t <;> first | (cases h; done) | obtain rfl := (Option.some.inj h).symm
    case checkOnline => exact (hq rfl).elim
    case readPowerChip => exact serial_getOrSet hdet rfl
    case readHighVoltage => exact serial_getOrSet hdet rfl
    case readClockDivider => exact serial_getOrSet hdet rfl
    case readGainMode => exact serial_getOrSet hdet rfl
    case readTempControl => exact serial_getOrSet hdet rfl
    case readTempEvent => exact serial_getOrSet hdet rfl
    case readTempThreshold =>
      show (thresholdTemperature lib (-1) c).2.serial = _
      rw [thresholdTemperature, thresholdOf_neg_one]
      exact serial_getOrSet hdet rfl
    all_goals exact serial_query hdet rfl fun _ _ ↦ rfl
  | int32 v =>
    cases t <;> first | (cases h; done) | obtain rfl := (Option.some.inj h).symm
    all_goals exact serial_getOrSet hdet rfl
  | float64 v =>
    cases t <;> first | (cases h; done) | obtain rfl := (Option.some.inj h).symm
    exact serial_getOrSet hdet rfl
  | int64 v => cases h
  | string pgp => cases h

end Core

namespace SlsDetDriver

variable {lib : Library} {c : Core} {q : LibCall} {m : SlsDetMessage} {t : MessageType}

/-- **An iteration of the worker's loop**, for a request with a call of its own. -/
theorem serial_serve (h : m.ownCall lib.rounding = some q) (hq : q ≠ .checkOnline) :
    (serve lib c m).2.serial = (c.serial.ask lib q).2 := by
  rw [serve, respond, SerialDet.ask, ← Core.serial_initializeDet]
  split
  case isTrue hdet => exact Core.serial_process h hq hdet
  case isFalse hdet => rw [Core.consult_serial_of_none (Bool.eq_false_iff.2 hdet)]

/-- The same for the question whether the detector is online: the reply is Ok if it is. -/
theorem serial_serve_checkOnline (lib : Library) (c : Core) :
    ((serve lib c (.ofType .checkOnline)).1.mtype = .ok ↔ (c.serial.isOnline lib).1 = true) ∧
    (serve lib c (.ofType .checkOnline)).2.serial = (c.serial.isOnline lib).2 := by
  rw [serve, respond, SerialDet.isOnline, ← Core.serial_initializeDet]
  dsimp only
  rw [Core.isSome_mask_serial]
  split
  case isFalse => exact ⟨iff_of_false (fun h ↦ by cases h) Bool.false_ne_true, rfl⟩
  case isTrue hdet =>
    have hsame : ((c.initializeDet lib).serial.call lib .checkOnline).1 =
      lib (c.initializeDet lib).calls .checkOnline := rfl
    show ((Core.checkOnline lib _).1.mtype = .ok ↔ _) ∧ (Core.checkOnline lib _).2.serial = _
    rw [Core.checkOnline, if_pos hdet, hsame]
    dsimp only
    rw [Core.call_fst]
    split
    case isTrue =>
      refine ⟨iff_of_true rfl rfl, ?_⟩
      rw [Core.serial_clearAllErrorMask, Core.serial_call]
    case isFalse =>
      exact ⟨iff_of_false (fun h ↦ by cases h) Bool.false_ne_true, Core.serial_call _ _ _⟩

/-- A request to read has the call of its type. -/
theorem ownCall_of_readCall (h : t.readCall = some q) :
    (SlsDetMessage.ofType t).ownCall lib.rounding = some q ∧ q ≠ .checkOnline := by
  cases t <;> first | (cases h; done) | obtain rfl := (Option.some.inj h).symm
  all_goals exact ⟨rfl, fun h ↦ (nomatch h)⟩

/-- **What is replied to a read.** -/
theorem read_serve (lib : Library) (c : Core) (h : t.readCall = some q) :
    match (c.serial.ask lib q).1 with
    | .clean ans => (serve lib c (.ofType t)).1.mtype = .ok ∧
        (serve lib c (.ofType t)).2.read (serve lib c (.ofType t)).1 =
          some (q.result lib.rounding ans)
    | _ => (serve lib c (.ofType t)).1.mtype = .error ∨
        (serve lib c (.ofType t)).1.mtype = .failed := by
  rw [serve, respond, SerialDet.ask, ← Core.serial_initializeDet]
  by_cases hdet : (c.initializeDet lib).det.isSome
  · have hreads : Core.ReadsAs lib q (c.initializeDet lib) _ := Core.readsAs_process h hdet
    rw [if_pos hdet, Core.consult_serial hdet]
    by_cases hmask : ((c.initializeDet lib).call lib q).2.errorMask = 0
    · obtain ⟨hm, hvalue, -⟩ := hreads.ok hmask
      rw [if_pos hmask]
      exact ⟨hm, hvalue⟩
    · obtain ⟨hm, -⟩ := hreads.error hmask
      rw [if_neg hmask]
      by_cases hown : q.recoverable ∧ ((c.initializeDet lib).call lib q).2.errorMask = posBit
      · rw [if_pos hown]
        exact hm
      · rw [if_neg hown]
        exact hm
  · rw [if_neg hdet, Core.consult_serial_of_none (Bool.eq_false_iff.2 hdet)]
    exact Or.inl rfl

end SlsDetDriver
