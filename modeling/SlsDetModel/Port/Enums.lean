import Mathlib.Data.List.Basic
import SlsDetModel.Port.Params

/-!
# The enumerations of the port

The tables of names, values and severities that the port hands to its clients when an address gets
connected, and the buffers it hands them over in. The buffers belong to the port object and are
shared by all its addresses; `updateEnums` fills them anew for every enumeration, and what it hands
over are the places it has just filled (`map_range_loadEnums`).
-/

/-- Alarm severities. -/
inductive Severity
  | none | major
  deriving DecidableEq, Repr

/-- One entry of an enumeration. -/
structure SlsDetEnumInfo where
  name : Text
  value : Int
  severity : Severity
  deriving DecidableEq

/-- The number of places in the buffers (`SLS_MAX_ENUMS`). -/
def slsMaxEnums : ℕ := 16

/-- The longest name that is handed over (`MAX_ENUM_STRING_SIZE`). -/
def maxEnumStringSize : ℕ := 25

/-- The values of `SLS_CONN_STATUS`. -/
inductive ConnectionStatus
  | disconnected | connected
  deriving DecidableEq

def ConnectionStatus.toInt : ConnectionStatus → Int
  | .disconnected => 0
  | .connected => 1

/-- `OFF`, the value that disables a detector. -/
def off : Int := 0

/-! ### Names from the detector package -/

/-- `slsDetectorDefs::runStatus`, in the order of its values. -/
inductive RunStatus
  | idle | error | waiting | runFinished | transmitting | running | stopped
  deriving DecidableEq

def RunStatus.toInt : RunStatus → Int
  | .idle => 0
  | .error => 1
  | .waiting => 2
  | .runFinished => 3
  | .transmitting => 4
  | .running => 5
  | .stopped => 6

/-- `slsDetectorDefs::runStatusType`. -/
def RunStatus.text : RunStatus → Text
  | .idle => "idle".toList
  | .error => "error".toList
  | .waiting => "waiting".toList
  | .runFinished => "finished".toList
  | .transmitting => "data".toList
  | .running => "running".toList
  | .stopped => "stopped".toList

/-- `slsDetectorDefs::detectorType`, in the order of its values. -/
inductive DetectorType
  | generic | mythen | pilatus | eiger | gotthard | picasso | agipd | moench | jungfrau
  | jungfrauctb | propix | mythen3
  deriving DecidableEq

def DetectorType.toInt : DetectorType → Int
  | .generic => 0
  | .mythen => 1
  | .pilatus => 2
  | .eiger => 3
  | .gotthard => 4
  | .picasso => 5
  | .agipd => 6
  | .moench => 7
  | .jungfrau => 8
  | .jungfrauctb => 9
  | .propix => 10
  | .mythen3 => 11

/-- `slsDetectorDefs::getDetectorType`. -/
def DetectorType.text : DetectorType → Text
  | .mythen => "Mythen".toList
  | .pilatus => "Pilatus".toList
  | .eiger => "Eiger".toList
  | .gotthard => "Gotthard".toList
  | .agipd => "Agipd".toList
  | .moench => "Moench".toList
  | .jungfrau => "Jungfrau".toList
  | .jungfrauctb => "JungfrauCTB".toList
  | .propix => "Propix".toList
  | .mythen3 => "Mythen3".toList
  | _ => "Unknown".toList

/-! ### The tables -/

def slsOnOffEnums : List SlsDetEnumInfo :=
  [⟨"Off".toList, off, .none⟩, ⟨"On".toList, 1, .none⟩]

def slsOkTrippedEnums : List SlsDetEnumInfo :=
  [⟨"Ok".toList, 0, .none⟩, ⟨"Tripped".toList, 1, .major⟩]

def slsConnStatusEnums : List SlsDetEnumInfo :=
  [⟨"Disconnected".toList, ConnectionStatus.disconnected.toInt, .major⟩,
    ⟨"Connected".toList, ConnectionStatus.connected.toInt, .none⟩]

def slsRunStatusEnums : List SlsDetEnumInfo :=
  [.idle, .error, .waiting, .runFinished, .transmitting, .running, .stopped].map
    fun (s : RunStatus) ↦ ⟨s.text, s.toInt, if s = .error then .major else .none⟩

def slsDetTypesEnums : List SlsDetEnumInfo :=
  [.generic, .mythen, .pilatus, .eiger, .gotthard, .picasso, .agipd, .moench, .jungfrau,
    .jungfrauctb, .propix, .mythen3].map fun (t : DetectorType) ↦ ⟨t.text, t.toInt, .none⟩

def slsClockDivEnums : List SlsDetEnumInfo :=
  [⟨"Full".toList, 0, .none⟩, ⟨"Half".toList, 1, .none⟩, ⟨"Quarter".toList, 2, .none⟩]

/-- The gain modes, numbered as `slsDetectorDefs::detectorSettings`. -/
def slsGainEnums : List SlsDetEnumInfo :=
  [⟨"Standard".toList, 0, .none⟩, ⟨"Fast".toList, 1, .none⟩, ⟨"HighGain".toList, 2, .none⟩,
    ⟨"DynamicGain".toList, 3, .none⟩, ⟨"LowGain".toList, 4, .none⟩,
    ⟨"MediumGain".toList, 5, .none⟩, ⟨"VeryHighGain".toList, 6, .none⟩,
    ⟨"LowNoise".toList, 7, .none⟩, ⟨"DynamicHG0".toList, 8, .none⟩, ⟨"FixGain1".toList, 9, .none⟩,
    ⟨"FixGain2".toList, 10, .none⟩, ⟨"ForceSwitchG1".toList, 11, .none⟩,
    ⟨"ForceSwitchG2".toList, 12, .none⟩, ⟨"VeryLowGain".toList, 13, .none⟩]

/-- An enumeration, with the parameter it belongs to. -/
structure SlsDetEnumSet where
  enums : List SlsDetEnumInfo
  param : Param

def slsDetEnums : List SlsDetEnumSet :=
  [⟨slsOnOffEnums, .getChipPower⟩, ⟨slsOnOffEnums, .setChipPower⟩,
    ⟨slsOnOffEnums, .getTempControl⟩, ⟨slsOnOffEnums, .setTempControl⟩,
    ⟨slsOnOffEnums, .detEnabled⟩, ⟨slsOkTrippedEnums, .getTempEvent⟩,
    ⟨slsOkTrippedEnums, .setTempEvent⟩, ⟨slsConnStatusEnums, .connStatus⟩,
    ⟨slsRunStatusEnums, .runStatus⟩, ⟨slsDetTypesEnums, .detType⟩,
    ⟨slsClockDivEnums, .getClockDivider⟩, ⟨slsClockDivEnums, .setClockDivider⟩,
    ⟨slsGainEnums, .getGainMode⟩, ⟨slsGainEnums, .setGainMode⟩]

/-! ### The buffers -/

/-- What the port holds in its buffers, place by place. -/
abbrev EnumBuffers := ℕ → SlsDetEnumInfo

/-- The entry as it is handed over, its name cut to the size of the buffer. -/
def SlsDetEnumInfo.clip (e : SlsDetEnumInfo) : SlsDetEnumInfo :=
  { e with name := e.name.take maxEnumStringSize }

/-- Copy entries into the buffers, from the place `n` on. -/
def loadEnums : List SlsDetEnumInfo → ℕ → EnumBuffers → EnumBuffers
  | [], _, slots => slots
  | e :: es, n, slots => loadEnums es (n + 1) (Function.update slots n e.clip)

/-- A callback with an enumeration: what it was handed, and for which parameter and address. -/
structure EnumCallback where
  enums : List SlsDetEnumInfo
  param : Param
  addr : ℕ
  deriving DecidableEq

/-- The loop over one enumeration: as many entries as there are places, then the callback. -/
def callbackEnum (set : SlsDetEnumSet) (addr : ℕ) (slots : EnumBuffers) :
    EnumBuffers × EnumCallback :=
  let elem := set.enums.take slsMaxEnums
  let slots := loadEnums elem 0 slots
  (slots, ⟨(List.range elem.length).map slots, set.param, addr⟩)

/-- The loop over the enumerations. Their parameters exist, so none is passed over. -/
def callbacksEnum (addr : ℕ) : List SlsDetEnumSet → EnumBuffers → EnumBuffers × List EnumCallback
  | [], slots => (slots, [])
  | set :: sets, slots =>
    let (slots, callback) := callbackEnum set addr slots
    let (slots, rest) := callbacksEnum addr sets slots
    (slots, callback :: rest)

/-- Places before the first one filled are left alone. -/
theorem loadEnums_of_lt {es : List SlsDetEnumInfo} {n i : ℕ} (h : i < n) (slots : EnumBuffers) :
    loadEnums es n slots i = slots i := by
  induction es generalizing n slots with
  | nil => rfl
  | cons e es ih =>
    rw [loadEnums, ih (by omega)]
    exact Function.update_of_ne (by omega) _ _

/-- **The places just filled hold what was copied**, whatever the buffers held before. -/
theorem map_range_loadEnums (es : List SlsDetEnumInfo) (n : ℕ) (slots : EnumBuffers) :
    (List.range' n es.length).map (loadEnums es n slots) = es.map SlsDetEnumInfo.clip := by
  induction es generalizing n slots with
  | nil => rfl
  | cons e es ih =>
    have hhead : loadEnums (e :: es) n slots n = e.clip := by
      rw [loadEnums, loadEnums_of_lt (by omega)]
      exact Function.update_self _ _ _
    rw [List.length_cons, List.range'_succ, List.map_cons, List.map_cons, hhead, loadEnums, ih]

/-- What the clients are handed does not depend on the buffers. -/
theorem callbacksEnum_snd (addr : ℕ) (sets : List SlsDetEnumSet) (slots : EnumBuffers) :
    (callbacksEnum addr sets slots).2 = sets.map fun set ↦
      ⟨(set.enums.take slsMaxEnums).map SlsDetEnumInfo.clip, set.param, addr⟩ := by
  induction sets generalizing slots with
  | nil => rfl
  | cons set sets ih =>
    have hhead : (callbackEnum set addr slots).2 =
        ⟨(set.enums.take slsMaxEnums).map SlsDetEnumInfo.clip, set.param, addr⟩ := by
      show (⟨(List.range _).map _, _, _⟩ : EnumCallback) = _
      rw [List.range_eq_range', map_range_loadEnums]
    show (callbackEnum set addr slots).2 :: (callbacksEnum addr sets _).2 = _
    rw [hhead, ih]
    rfl

/-- No name and no table is too long: the clients are handed the tables as they are. -/
example : ∀ set ∈ slsDetEnums,
    (set.enums.take slsMaxEnums).map SlsDetEnumInfo.clip = set.enums := by decide
