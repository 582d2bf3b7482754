import SlsDetModel.Driver.Replies

/-!
# The parameters of the port

What `SlsDet` uses of its base class `asynPortDriver`, which is not part of the repository: the
parameter lists, the address of a request, and the base class's own reads and writes.

* There is one **parameter list** for each address. A parameter is undefined until it is first set;
  a read of an undefined one fails and yields zero. Reading or setting a parameter of another type
  fails and changes nothing.
* `getAddress` gives the address of the user, with -1 mapped to 0, and fails when it is out of
  range.
* The base class's writes store the value. Of its reads only this is assumed, that what they return
  depends on the stored value and on the buffer of the client alone (`Asyn`).

The parameters themselves are those created by the constructor. Their indices, assigned by asyn and
used as the reasons of requests, are all different, so a reason is one of them or something else.
-/

/-- The status codes that occur in the port. -/
inductive AsynStatus
  | success | timeout | error | disconnected | disabled
  | paramWrongType | paramBadIndex | paramUndefined
  deriving DecidableEq, Repr

/-- The types of parameters. -/
inductive AsynParamType
  | int32 | int64 | float64 | octet
  deriving DecidableEq, Repr

/-- The type of a value. -/
def Value.type : Value → AsynParamType
  | .int32 _ => .int32
  | .int64 _ => .int64
  | .float64 _ => .float64
  | .octet _ => .octet

/-- The parameters created by the constructor. -/
inductive Param
  | init | numDet | runStatus | connStatus | hostName | detType | detEnabled
  | detSerialNumber | detFirmwareVersion | detSoftwareVersion
  | fpgaTemp | adcTemp | getTempThreshold | setTempThreshold | getTempControl | setTempControl
  | getTempEvent | setTempEvent | getChipPower | setChipPower | getHighVoltage | setHighVoltage
  | getClockDivider | setClockDivider | getGainMode | setGainMode
  deriving DecidableEq, Repr

/-- The type a parameter is created with. -/
def Param.type : Param → AsynParamType
  | .init => .int32
  | .numDet => .int32
  | .runStatus => .int32
  | .connStatus => .int32
  | .hostName => .octet
  | .detType => .int32
  | .detEnabled => .int32
  | .detSerialNumber => .octet
  | .detFirmwareVersion => .octet
  | .detSoftwareVersion => .octet
  | .fpgaTemp => .float64
  | .adcTemp => .float64
  | .getTempThreshold => .float64
  | .setTempThreshold => .float64
  | .getTempControl => .int32
  | .setTempControl => .int32
  | .getTempEvent => .int32
  | .setTempEvent => .int32
  | .getChipPower => .int32
  | .setChipPower => .int32
  | .getHighVoltage => .int32
  | .setHighVoltage => .int32
  | .getClockDivider => .int32
  | .setClockDivider => .int32
  | .getGainMode => .int32
  | .setGainMode => .int32

/-- The parameters that belong to the connection: its status, the count of connections, and whether
the address is enabled. -/
def Param.IsControl : Param → Bool
  | .connStatus => true
  | .numDet => true
  | .detEnabled => true
  | _ => false

/-- The reason of a request: the index of a parameter. -/
inductive Reason
  | param (p : Param)
  /-- An index that belongs to none of the parameters. -/
  | other (index : Int)
  deriving DecidableEq

/-- What a request says about itself: `pasynUser`. -/
structure AsynUser where
  reason : Reason
  addr : Int
  deriving DecidableEq

/-- What a call of the port returns: its status, and what it left in the variables handed to it. -/
structure Result where
  status : AsynStatus
  /-- `*value`, when it was written. -/
  value : Option Value := none
  /-- `*nActual`, when it was written. -/
  nActual : Option ℕ := none
  /-- `*eomReason` was set to `ASYN_EOM_END`. -/
  eomEnd : Bool := false
  deriving DecidableEq

/-- A status and nothing else. -/
def Result.ofStatus (status : AsynStatus) : Result := { status := status }

/-- The parameter lists: the value of a parameter at an address, `none` while it is undefined. -/
abbrev ParamLists := ℕ → Param → Option Value

/-- The base class. What its reads return is a function of the reason, of the stored value, and of
the size and the contents of the buffer, if there is one. -/
structure Asyn where
  /-- The version is one with 64-bit integers (`ASYN_HAS_INT64`). -/
  hasInt64 : Bool
  readInt32 : Reason → Option Value → Result
  readFloat64 : Reason → Option Value → Result
  readOctet : Reason → Option Value → ℕ → Text → Result

/-- A base class that returns the stored value, if it is of the type asked for. -/
def Asyn.plain : Asyn where
  hasInt64 := true
  readInt32 _ stored :=
    match stored with
    | some (.int32 v) => ⟨.success, some (.int32 v), none, false⟩
    | some _ => .ofStatus .paramWrongType
    | none => .ofStatus .paramUndefined
  readFloat64 _ stored :=
    match stored with
    | some (.float64 v) => ⟨.success, some (.float64 v), none, false⟩
    | some _ => .ofStatus .paramWrongType
    | none => .ofStatus .paramUndefined
  readOctet _ stored maxChars _ :=
    match stored with
    | some (.octet t) => ⟨.success, some (.octet (t.take maxChars)), some t.length, true⟩
    | some _ => .ofStatus .paramWrongType
    | none => .ofStatus .paramUndefined

/-- The address of a request, if it is one of the `n` addresses. -/
def getAddress (n : ℕ) (u : AsynUser) : Option ℕ :=
  let addr := if u.addr = -1 then 0 else u.addr
  if 0 ≤ addr ∧ addr < n then some addr.toNat else none

namespace ParamLists

variable (l : ParamLists) (a : ℕ)

/-- The stored value. -/
def stored : Reason → Option Value
  | .param p => l a p
  | .other _ => none

/-- The integer in `*value` after `getIntegerParam`: zero when the parameter is undefined. -/
def integer (p : Param) : Int :=
  match l a p with
  | some (.int32 v) => v
  | _ => 0

/-- Store a value. -/
def store (p : Param) (v : Value) : ParamLists := fun b q ↦ if b = a ∧ q = p then some v else l b q

/-- `setIntegerParam`, `setInteger64Param`, `setDoubleParam` and `setStringParam`, by the type of
the value. -/
def setParam (r : Reason) (v : Value) : AsynStatus × ParamLists :=
  match r with
  | .other _ => (.paramBadIndex, l)
  | .param p => if v.type = p.type then (.success, l.store a p v) else (.paramWrongType, l)

/-- `getIntegerParam` and `getDoubleParam`, by the type asked for. -/
def getParam (r : Reason) (t : AsynParamType) : Result :=
  match r with
  | .other _ => ⟨.paramBadIndex, none, none, false⟩
  | .param p =>
    if p.type = t then
      match l a p with
      | none => ⟨.paramUndefined, none, none, false⟩
      | some v => ⟨.success, some v, none, false⟩
    else ⟨.paramWrongType, none, none, false⟩

/-- Cut a text to a buffer: the last place is taken by the terminator. Into a buffer of no size
nothing is written. -/
def cut (maxChars : ℕ) (v : Value) : Option Value :=
  match v with
  | .octet t => if maxChars = 0 then none else some (.octet (t.take (maxChars - 1)))
  | _ => none

/-- `getStringParam`. -/
def getStringParam (r : Reason) (maxChars : ℕ) : Result :=
  let got := l.getParam a r .octet
  { got with value := got.value.bind (cut maxChars) }

variable {l a}

@[simp] theorem store_same (p : Param) (v : Value) : l.store a p v a p = some v := by
  simp [store]

@[simp] theorem store_of_ne {p q : Param} (h : q ≠ p) (v : Value) (b : ℕ) :
    l.store a p v b q = l b q := by
  simp [store, h]

theorem store_of_addr_ne {b : ℕ} (h : b ≠ a) (p q : Param) (v : Value) :
    l.store a p v b q = l b q := by
  simp [store, h]

@[simp] theorem integer_store_same (p : Param) (v : Int) :
    (l.store a p (.int32 v)).integer a p = v := by
  simp [integer]

@[simp] theorem integer_store_of_ne {p q : Param} (h : q ≠ p) (v : Value) (b : ℕ) :
    (l.store a p v).integer b q = l.integer b q := by
  simp [integer, h]

theorem integer_store_of_addr_ne {b : ℕ} (h : b ≠ a) (p q : Param) (v : Value) :
    (l.store a p v).integer b q = l.integer b q := by
  simp [integer, store_of_addr_ne h]

/-- Setting a parameter to a value of its type succeeds. -/
theorem setParam_of_type {p : Param} {v : Value} (h : v.type = p.type) :
    l.setParam a (.param p) v = (.success, l.store a p v) := if_pos h

/-- Reading back what was stored. -/
theorem getParam_store {p : Param} {v : Value} :
    (l.store a p v).getParam a (.param p) p.type = ⟨.success, some v, none, false⟩ := by
  simp [getParam]

end ParamLists

/-- The address of a request is one of those there are. -/
theorem lt_of_getAddress {n a : ℕ} {u : AsynUser} (h : getAddress n u = some a) : a < n := by
  simp only [getAddress, Option.ite_none_right_eq_some] at h
  obtain ⟨⟨hle, hlt⟩, heq⟩ := h
  obtain rfl := Option.some.inj heq
  omega
