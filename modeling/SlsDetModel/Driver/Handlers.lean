import Mathlib.Data.Rat.Floor
import Mathlib.Tactic.IntervalCases
import SlsDetModel.Driver.Detector

/-!
# The request handlers

The functions of `SlsDetDriver` that call the detector library, and `process`, which dispatches a
request to one of them. Apart from `checkOnline` they come in two families.

* `query` — a pure read: one call, and a reply carrying its result if the error mask is then zero.
* `getOrSet` — a combined call that reads when its value is negative and writes otherwise. The
  members differ in three respects: whether a write is compared with the value read back
  (`verify`), whether an error confined to the driver's own detector is cleared and reported as a
  mere failure (`recoverable`), and the data type of a read.

Every handler does nothing but report an error while there is no detector object.
-/

namespace Core

variable (lib : Library)

/-! ### The two families -/

/-- A pure read: make the call, and reply with its result when no error bit is set. -/
def query (q : LibCall) (onOk : Answer → Core → SlsDetMessage × Core) (c : Core) :
    SlsDetMessage × Core :=
  if c.det.isSome then
    let (ans, c) := c.call lib q
    if c.errorMask = 0 then onOk ans c else (.ofType .error, c)
  else (.ofType .error, c)

/-- A combined read and write: make the call; without error bits, reply with the value when it was
a read and say whether the write is accepted when it was one. -/
def getOrSet (q : LibCall) (isRead : Bool) (onRead : Answer → SlsDetMessage)
    (verify : Answer → Bool) (recoverable : Bool) (c : Core) : SlsDetMessage × Core :=
  if c.det.isSome then
    let (ans, c) := c.call lib q
    if c.errorMask = 0 then
      if isRead then (onRead ans, c)
      else if verify ans then (.ofType .ok, c)
      else (.ofType .failed, c)
    else if recoverable && c.errorMask == posBit then (.ofType .failed, c.clearAllErrorMask)
    else (.ofType .error, c)
  else (.ofType .error, c)

/-- A reply carrying an integer. -/
def integerReply (v : Int) : SlsDetMessage := (SlsDetMessage.ofTypes .ok .int32).setInteger v

/-- A reply carrying a double. -/
def doubleReply (v : ℚ) : SlsDetMessage := (SlsDetMessage.ofTypes .ok .float64).setDouble v

/-- A reply carrying a string: the text goes to the cache, and a pointer to it into the reply. -/
def stringReply (s : Text) (c : Core) : SlsDetMessage × Core :=
  let (pgp, c) := c.cacheStr s
  ((SlsDetMessage.ofTypes .ok .string).setString pgp, c)

/-- `"0x%lx"` of a 64-bit value: its two's complement bits, in lower case. -/
def hexText (v : Int64) : Text := '0' :: 'x' :: Nat.toDigits 16 v.toUInt64.toNat

theorem digitChar_ne_null (n : ℕ) : Nat.digitChar (n % 16) ≠ '\x00' := by
  have hlt : n % 16 < 16 := Nat.mod_lt _ (by decide)
  generalize n % 16 = d at hlt
  interval_cases d <;> decide

/-- The text of an id has no null character, so it is copied whole. -/
theorem cStr_hexText (v : Int64) : cStr (hexText v) = hexText v := by
  have hdigits : ∀ fuel n ds, '\x00' ∉ ds → '\x00' ∉ Nat.toDigitsCore 16 fuel n ds := by
    intro fuel
    induction fuel with
    | zero => exact fun n ds h ↦ h
    | succ fuel ih =>
      intro n ds h
      have hcons : '\x00' ∉ Nat.digitChar (n % 16) :: ds :=
        List.not_mem_cons_of_ne_of_not_mem (digitChar_ne_null n).symm h
      rw [Nat.toDigitsCore]
      split
      · exact hcons
      · exact ih _ _ hcons
  refine cStr_eq_self fun hmem ↦ ?_
  rcases List.mem_cons.1 hmem with h | hmem
  · exact absurd h (by decide)
  rcases List.mem_cons.1 hmem with h | hmem
  · exact absurd h (by decide)
  · exact hdigits _ _ [] List.not_mem_nil hmem

/-- Conversion of a double to `int`: truncation toward zero. What does not fit an `int`, for which C
gives no meaning, is left as it is. -/
def toInt (v : ℚ) : Int := if 0 ≤ v then ⌊v⌋ else ⌈v⌉

/-! ### The handlers -/

def checkOnline (c : Core) : SlsDetMessage × Core :=
  if c.det.isSome then
    let (ans, c) := c.call lib .checkOnline
    if ans.text.isEmpty then (.ofType .ok, c.clearAllErrorMask) else (.ofType .error, c)
  else (.ofType .error, c)

def getHostname : Core → SlsDetMessage × Core :=
  query lib (.getHostname detPos) fun ans ↦ stringReply ans.text

def getDetectorsType : Core → SlsDetMessage × Core :=
  query lib (.getDetectorsType detPos) fun ans c ↦ (integerReply ans.ret, c)

def getRunStatus : Core → SlsDetMessage × Core :=
  query lib .getRunStatus fun ans c ↦ (integerReply ans.ret, c)

def getNumberOfDetectors : Core → SlsDetMessage × Core :=
  query lib .getNumberOfDetectors fun ans c ↦ (integerReply ans.ret, c)

def getId (mode : IdMode) : Core → SlsDetMessage × Core :=
  query lib (.getId mode detPos) fun ans ↦ stringReply (hexText ans.raw)

def getTemperature (dac : DacIndex) : Core → SlsDetMessage × Core :=
  query lib (.getADC dac detPos) fun ans c ↦ (doubleReply (lib.rounding (ans.ret / tempUnits)), c)

def powerChip (value : Int) : Core → SlsDetMessage × Core :=
  getOrSet lib (.powerChip value) (value < 0) (fun ans ↦ integerReply ans.ret)
    (fun ans ↦ ans.ret == value) false

def highVoltage (value : Int) : Core → SlsDetMessage × Core :=
  getOrSet lib (.setHighVoltage value) (value < 0) (fun ans ↦ integerReply ans.ret)
    (fun ans ↦ ans.ret == value) false

def clockDivider (value : Int) : Core → SlsDetMessage × Core :=
  getOrSet lib (.setClockDivider value) (value < 0) (fun ans ↦ integerReply ans.ret)
    (fun ans ↦ ans.ret == value) true

def gainSettings (value : Int) : Core → SlsDetMessage × Core :=
  getOrSet lib (.setSettings value detPos) (value < 0) (fun ans ↦ integerReply ans.ret)
    (fun ans ↦ ans.ret == value) true

/-- The argument `thresholdTemperature` hands to the library, in thousandths of a degree. The
product is a double before it is converted. -/
def thresholdOf (fl : Rounding) (value : ℚ) : Int :=
  if value < 0 then -1 else toInt (fl (value * tempUnits))

/-- A temperature of 0.009 is a double below nine thousandths, but its product is nine. -/
example : thresholdOf .binary64 (5188146770730811 / 576460752303423488) = 9 := by decide +kernel

theorem product_nonneg (fl : Rounding) {value : ℚ} (h : 0 ≤ value) : 0 ≤ fl (value * tempUnits) :=
  fl.nonneg (mul_nonneg h (by norm_num [tempUnits]))

/-- What is not negative is cut off. -/
theorem thresholdOf_eq (fl : Rounding) (value : ℚ) :
    thresholdOf fl value = if value < 0 then -1 else ⌊fl (value * 1000)⌋ := by
  rw [thresholdOf]
  split
  case isTrue => rfl
  case isFalse h => exact if_pos (product_nonneg fl (not_lt.1 h))

/-- The sign convention survives the conversion: what is negative stays so, and only that. -/
theorem thresholdOf_neg_iff (fl : Rounding) (value : ℚ) :
    thresholdOf fl value < 0 ↔ value < 0 := by
  rw [thresholdOf_eq]
  split
  case isTrue h => exact iff_of_true (by decide) h
  case isFalse h =>
    exact iff_of_false (not_lt.2 (Int.floor_nonneg.2 (product_nonneg fl (not_lt.1 h)))) h

def thresholdTemperature (value : ℚ) : Core → SlsDetMessage × Core :=
  getOrSet lib (.setThresholdTemperature (thresholdOf lib.rounding value) detPos)
    (thresholdOf lib.rounding value < 0)
    (fun ans ↦ doubleReply (lib.rounding (ans.ret / tempUnits))) (fun _ ↦ true) true

def temperatureControl (value : Int) : Core → SlsDetMessage × Core :=
  getOrSet lib (.setTemperatureControl value detPos) (value < 0) (fun ans ↦ integerReply ans.ret)
    (fun _ ↦ true) true

def temperatureEvent (value : Int) : Core → SlsDetMessage × Core :=
  getOrSet lib (.setTemperatureEvent value detPos) (value < 0) (fun ans ↦ integerReply ans.ret)
    (fun _ ↦ true) true

/-- `process`: dispatch on the data type of the request, then on its message type. -/
def process (req : SlsDetMessage) (c : Core) : SlsDetMessage × Core :=
  match req.dtype with
  | .none =>
    match req.mtype with
    | .checkOnline => checkOnline lib c
    | .readHostname => getHostname lib c
    | .readDetType => getDetectorsType lib c
    | .readRunStatus => getRunStatus lib c
    | .readNumDetectors => getNumberOfDetectors lib c
    | .readSerialnum => getId lib .detectorSerialNumber c
    | .readFirmwareVer => getId lib .detectorFirmwareVersion c
    | .readSoftwareVer => getId lib .detectorSoftwareVersion c
    | .readFpgaTemp => getTemperature lib .temperatureFpga c
    | .readAdcTemp => getTemperature lib .temperatureAdc c
    | .readTempThreshold => thresholdTemperature lib (-1) c
    | .readTempControl => temperatureControl lib (-1) c
    | .readTempEvent => temperatureEvent lib (-1) c
    | .readPowerChip => powerChip lib (-1) c
    | .readHighVoltage => highVoltage lib (-1) c
    | .readClockDivider => clockDivider lib (-1) c
    | .readGainMode => gainSettings lib (-1) c
    | _ => (.ofType .invalid, c)
  | .int32 =>
    match req.mtype with
    | .writeTempControl => temperatureControl lib req.asInteger c
    | .writeTempEvent => temperatureEvent lib req.asInteger c
    | .writePowerChip => powerChip lib req.asInteger c
    | .writeHighVoltage => highVoltage lib req.asInteger c
    | .writeClockDivider => clockDivider lib req.asInteger c
    | .writeGainMode => gainSettings lib req.asInteger c
    | _ => (.ofType .invalid, c)
  | .float64 =>
    match req.mtype with
    | .writeTempThreshold => thresholdTemperature lib req.asDouble c
    | _ => (.ofType .invalid, c)
  | _ => (.ofType .invalid, c)

end Core
