import Mathlib.Data.List.TakeWhile
import SlsDetModel.Arithmetic.Rounding
import SlsDetModel.Driver.Message

/-!
# The detector library and the state owned by the worker

The detector is reached through `multiSlsDetector`, an object of a vendor library. Its calls are
the type `LibCall`; what it answers is an **oracle**, the function `Library.answer` of the calls
made to it so far and of the call at hand. Every sequence of answers is the answer sequence of some
oracle, so a statement for all oracles is a statement for all detectors. With the oracle comes the
rounding of the machine that the driver runs on. It is that of doubles, `Rounding.binary64`, unless
something else is said; what holds for every `Library` holds for every rounding.

Of the library the driver relies on three documented facts, and they are built into `Core.call`
and `Core.clearAllErrorMask`:

* a call may add bits to the object's **sticky** error mask and never removes one;
* `clearAllErrorMask()` zeroes the mask;
* reading the mask, or the message text that belongs to it, changes nothing.

`Core` is the part of `SlsDetDriver` that only the worker thread touches: the detector pointer,
the string cache, and the identity the driver was constructed with. It records the calls made to
the library, in order. The record is bookkeeping: no code of the driver reads it.
-/

/-- The error mask: one bit a detector. -/
abbrev ErrorMask := BitVec 64

/-- The identifiers that `getId` can be asked for. -/
inductive IdMode
  | detectorSerialNumber | detectorFirmwareVersion | detectorSoftwareVersion
  deriving DecidableEq, Repr

/-- The converters that `getADC` can be asked for. -/
inductive DacIndex
  | temperatureFpga | temperatureAdc
  deriving DecidableEq, Repr

/-- The library calls the driver makes. The last seven read when their value is negative. -/
inductive LibCall
  | new (id : Int)
  | setHostname (name : Text)
  | delete
  | freeSharedMemory (id : Int)
  | clearAllErrorMask
  | checkOnline
  | getHostname (pos : Int)
  | getDetectorsType (pos : Int)
  | getRunStatus
  | getNumberOfDetectors
  | getId (mode : IdMode) (pos : Int)
  | getADC (index : DacIndex) (pos : Int)
  | powerChip (value : Int)
  | setHighVoltage (value : Int)
  | setClockDivider (value : Int)
  | setSettings (value : Int) (pos : Int)
  | setThresholdTemperature (value : Int) (pos : Int)
  | setTemperatureControl (value : Int) (pos : Int)
  | setTemperatureEvent (value : Int) (pos : Int)
  deriving DecidableEq, Repr

/-- An answer of the library. A call reads off the component of its own result type; `raised` are
the error bits the call adds. -/
structure Answer where
  /-- The call ended in an exception. Only the calls of `initialize()` are made under a handler. -/
  throws : Bool := false
  /-- An `int` or enumeration result. -/
  ret : Int := 0
  /-- An `int64_t` result. -/
  raw : Int64 := 0
  /-- A string result. -/
  text : Text := []
  /-- The error bits added by the call; for the constructor, the object's first mask. -/
  raised : ErrorMask := 0

/-- What one driver works with: the detector behind it, and the arithmetic of the machine. -/
structure Library where
  /-- What the detector answers to a call, given the calls made so far. -/
  answer : List LibCall → LibCall → Answer
  /-- How the results of operations on doubles are rounded. -/
  rounding : Rounding := .binary64

instance : CoeFun Library fun _ ↦ List LibCall → LibCall → Answer := ⟨Library.answer⟩

/-- A `multiSlsDetector` object, as far as the driver can tell. -/
structure Det where
  /-- The sticky error mask. -/
  errorMask : ErrorMask
  /-- The host name given by a completed `setHostname`. -/
  hostname : Option Text := none
  /-- The number of detectors counted when the driver configured the object. -/
  counted : Option Int := none
  deriving DecidableEq

/-- The one-slot string cache. Every replacement of the slot is a new version. -/
structure Cache where
  /-- How often the slot has been replaced. -/
  version : ℕ := 0
  /-- The text in the slot, `none` while `_cacheStr` is null. -/
  text : Option Text := none
  deriving DecidableEq

/-- What a pointer into the cache points to: the text, while the slot still holds the version the
pointer was made from, and nothing once the slot was freed. -/
def Cache.deref (c : Cache) (pgp : Option ℕ) : Option Text :=
  if pgp = some c.version then c.text else none

/-- The C string of a text: it ends at the first null character. -/
def cStr (s : Text) : Text := s.takeWhile (· ≠ '\x00')

theorem cStr_eq_self {s : Text} (h : '\x00' ∉ s) : cStr s = s := by
  refine List.takeWhile_eq_self_iff.2 fun c hc ↦ ?_
  have hne : c ≠ '\x00' := fun hz ↦ h (hz ▸ hc)
  simpa using hne

/-- The position of the detector inside its `multiSlsDetector` (`DET_POS`). -/
def detPos : Int := 0

/-- The number of detectors one driver expects (`MAX_DETS`). -/
def maxDets : Int := 1

/-- The detector reports temperatures in thousandths (`TEMP_UNITS`). -/
def tempUnits : ℚ := 1000

/-- The single bit of the driver's own detector, `1 << _pos`. -/
def posBit : ErrorMask := 1 <<< detPos.toNat

/-- The state only the worker touches: `_id`, `_hostname`, `_det` and `_cacheStr`, with the record
of the library calls made so far. -/
structure Core where
  /-- The detector id; it names the shared memory. -/
  id : Int
  /-- The host name the driver was constructed with. -/
  hostname : Text
  /-- The detector object, `none` for the null pointer. -/
  det : Option Det := none
  /-- The string cache. -/
  cache : Cache := {}
  /-- The library calls made so far, oldest first. -/
  calls : List LibCall := []

namespace Core

/-- The error mask of the detector object. Only read while there is one. -/
def errorMask (c : Core) : ErrorMask := (c.det.map Det.errorMask).getD 0

/-- Change the detector object, if there is one. -/
def modifyDet (c : Core) (f : Det → Det) : Core := { c with det := c.det.map f }

/-- Make a library call on the detector object: it answers, and may add error bits. -/
def call (lib : Library) (c : Core) (q : LibCall) : Answer × Core :=
  let ans := lib c.calls q
  (ans, { c.modifyDet fun d ↦ { d with errorMask := d.errorMask ||| ans.raised } with
    calls := c.calls ++ [q] })

/-- `_det->clearAllErrorMask()`. -/
def clearAllErrorMask (c : Core) : Core :=
  { c.modifyDet fun d ↦ { d with errorMask := 0 } with
    calls := c.calls ++ [.clearAllErrorMask] }

/-- `cacheStr`: free the slot, copy the text into a new one, and return the pointer to it. -/
def cacheStr (c : Core) (str : Text) : Option ℕ × Core :=
  (some (c.cache.version + 1),
    { c with cache := { version := c.cache.version + 1, text := some (cStr str) } })

/-- `shutdown`: delete the detector object and free its shared memory. -/
def shutdown (c : Core) : Core :=
  if c.det.isSome then
    { c with det := none, calls := c.calls ++ [.delete, .freeSharedMemory c.id] }
  else c

/-- `initialize`: construct the detector object, give it its host name and check that it is a
single detector. An exception of any of the three calls is swallowed and leaves the object as far
as it got; a wrong count shuts it down. -/
def initializeDet (lib : Library) (c : Core) : Core :=
  if c.det.isSome then c
  else
    let (constructed, c) := c.call lib (.new c.id)
    if constructed.throws then c
    else
      let c := { c with det := some { errorMask := constructed.raised } }
      let (named, c) := c.call lib (.setHostname c.hostname)
      if named.throws then c
      else
        let c := c.modifyDet fun d ↦ { d with hostname := some c.hostname }
        let (counted, c) := c.call lib .getNumberOfDetectors
        if counted.throws then c
        else
          let c := c.modifyDet fun d ↦ { d with counted := some counted.ret }
          if counted.ret ≠ maxDets then c.shutdown else c

/-! ### What the primitives do -/

@[simp] theorem call_fst (lib : Library) (c : Core) (q : LibCall) :
    (c.call lib q).1 = lib c.calls q := rfl

@[simp] theorem calls_call (lib : Library) (c : Core) (q : LibCall) :
    (c.call lib q).2.calls = c.calls ++ [q] := rfl

@[simp] theorem isSome_det_call (lib : Library) (c : Core) (q : LibCall) :
    (c.call lib q).2.det.isSome = c.det.isSome := by
  simp [call, modifyDet]

/-- A call adds its error bits to the mask and does nothing else to it. -/
theorem errorMask_call {lib : Library} {c : Core} (h : c.det.isSome) (q : LibCall) :
    (c.call lib q).2.errorMask = c.errorMask ||| (lib c.calls q).raised := by
  obtain ⟨d, hd⟩ := Option.isSome_iff_exists.1 h
  simp [errorMask, call, modifyDet, hd]

@[simp] theorem calls_clearAllErrorMask (c : Core) :
    c.clearAllErrorMask.calls = c.calls ++ [.clearAllErrorMask] := rfl

@[simp] theorem isSome_det_clearAllErrorMask (c : Core) :
    c.clearAllErrorMask.det.isSome = c.det.isSome := by
  simp [clearAllErrorMask, modifyDet]

@[simp] theorem errorMask_clearAllErrorMask (c : Core) : c.clearAllErrorMask.errorMask = 0 := by
  rcases h : c.det with - | d <;> simp [errorMask, clearAllErrorMask, modifyDet, h]

/-- The pointer `cacheStr` returns points to the text it was given. -/
theorem deref_cacheStr (c : Core) (s : Text) :
    (c.cacheStr s).2.cache.deref (c.cacheStr s).1 = some (cStr s) := by
  simp [cacheStr, Cache.deref]

@[simp] theorem det_shutdown (c : Core) : c.shutdown.det = none := by
  unfold shutdown
  split
  · rfl
  · rename_i h
    simpa using h

@[simp] theorem cache_shutdown (c : Core) : c.shutdown.cache = c.cache := by
  unfold shutdown
  split <;> rfl

@[simp] theorem initializeDet_of_isSome {lib : Library} {c : Core} (h : c.det.isSome) :
    c.initializeDet lib = c := by
  simp [initializeDet, h]

/-- Initialization leaves the string cache alone. -/
@[simp] theorem cache_initializeDet (lib : Library) (c : Core) :
    (c.initializeDet lib).cache = c.cache := by
  unfold initializeDet
  split
  · rfl
  · dsimp only
    split
    · rfl
    · split
      · rfl
      · split
        · rfl
        · split
          · exact cache_shutdown _
          · rfl

end Core
