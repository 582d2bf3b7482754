import Mathlib.Data.Rat.Defs
import Mathlib.Tactic.Common

/-!
# The messages of the detector driver

`SlsDetMessage`, the value that travels through both message queues: a message type, a data type
and a C union. The union is read only under the tag that wrote it — every setter and every getter
of the class checks `_dtype` first — so the tag and the union are one inductive payload here and a
message whose union disagrees with its tag cannot be built. `dtype` recovers the tag.

A string payload is a **pointer**. It refers to the driver's one-slot string cache, whose contents
are replaced by the next string reply, so the payload carries the version of the slot it was made
from rather than the text (`Cache`, in the next module). A freshly constructed string message
holds the null pointer.

Doubles are the rationals they denote, which leaves out the infinities and the numbers that are
none, and does not tell the two zeros apart. `char *` texts are character lists.
-/

/-- The characters of a C string, without its terminator. -/
abbrev Text := List Char

/-- The message types used by the driver. -/
inductive MessageType
  | noOp | ok | error | exit | invalid | timeout | failed | checkOnline | readHostname
  | readDetType | readRunStatus | readNumDetectors | readSerialnum | readFirmwareVer
  | readSoftwareVer | readFpgaTemp | readAdcTemp | readTempThreshold | writeTempThreshold
  | readTempControl | writeTempControl | readTempEvent | writeTempEvent | readPowerChip
  | writePowerChip | readHighVoltage | writeHighVoltage | readClockDivider | writeClockDivider
  | readGainMode | writeGainMode
  deriving DecidableEq, Repr

/-- The data types used by the driver. -/
inductive DataType
  | none | int32 | int64 | float64 | string
  deriving DecidableEq, Repr

/-- The tagged union. The pointer of a string payload is a version of the string cache. -/
inductive Payload
  | none
  | int32 (ival : Int)
  | int64 (i64val : Int64)
  | float64 (dval : ℚ)
  | string (pgp : Option ℕ)
  deriving DecidableEq

/-- A driver message. -/
structure SlsDetMessage where
  /-- The message type. -/
  mtype : MessageType
  /-- The data, tagged by its data type. -/
  data : Payload
  deriving DecidableEq

namespace SlsDetMessage

/-- The data type tag. -/
def dtype (m : SlsDetMessage) : DataType :=
  match m.data with
  | .none => .none
  | .int32 _ => .int32
  | .int64 _ => .int64
  | .float64 _ => .float64
  | .string _ => .string

/-- The constructor without a data type. -/
def ofType (mtype : MessageType) : SlsDetMessage := ⟨mtype, .none⟩

/-- The constructor with a data type; the union is zeroed. -/
def ofTypes (mtype : MessageType) : DataType → SlsDetMessage
  | .none => ⟨mtype, .none⟩
  | .int32 => ⟨mtype, .int32 0⟩
  | .int64 => ⟨mtype, .int64 0⟩
  | .float64 => ⟨mtype, .float64 0⟩
  | .string => ⟨mtype, .string none⟩

/-! ### Getters: the union's value under the right tag, a zero otherwise -/

def asInteger (m : SlsDetMessage) : Int :=
  match m.data with
  | .int32 v => v
  | _ => 0

def asDouble (m : SlsDetMessage) : ℚ :=
  match m.data with
  | .float64 v => v
  | _ => 0

/-! ### Setters: they write under the right tag and do nothing otherwise -/

def setInteger (m : SlsDetMessage) (value : Int) : SlsDetMessage :=
  match m.data with
  | .int32 _ => { m with data := .int32 value }
  | _ => m

def setDouble (m : SlsDetMessage) (value : ℚ) : SlsDetMessage :=
  match m.data with
  | .float64 _ => { m with data := .float64 value }
  | _ => m

def setString (m : SlsDetMessage) (value : Option ℕ) : SlsDetMessage :=
  match m.data with
  | .string _ => { m with data := .string value }
  | _ => m

@[simp] theorem dtype_ofType (t : MessageType) : (ofType t).dtype = .none := rfl

@[simp] theorem mtype_ofType (t : MessageType) : (ofType t).mtype = t := rfl

@[simp] theorem data_ofType (t : MessageType) : (ofType t).data = .none := rfl

end SlsDetMessage
