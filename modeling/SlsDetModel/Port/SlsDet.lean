import SlsDetModel.Concurrency.Resumption
import SlsDetModel.Driver.Driver
import SlsDetModel.Port.Enums

/-!
# The port

`SlsDet`, the asyn port driver: the parameter lists, one detector driver for each address, and the
functions that clients call. A function of the port is a program over the port's state. Where it
calls into a detector driver it issues a `DetRequest`, and what happens until the answer is not the
port's doing: the driver's caller and worker take their steps, and other drivers' workers theirs.

* `initializeDet` and `uninitializeDet` connect and disconnect an address.
* `readDetector` and `writeDetector` carry out one request, and map the kinds of reply to a status
  and to the state of the connection.
* The reads and writes dispatch on the reason, and leave to the base class what they do not handle.

Traces, the notifications of parameter changes and connections, and the durations of timeouts are
not modelled.
-/

/-- What the port asks of a detector driver: to carry out a request, or to follow the pointer of a
message it returned, as `dump()` and `asString()` do. -/
inductive DetRequest
  | request (addr : ℕ) (m : SlsDetMessage)
  | inspect (addr : ℕ) (rep : SlsDetMessage)
  deriving DecidableEq

/-- The answers to requests. -/
abbrev DetRequest.Reply : DetRequest → Type
  | .request _ _ => SlsDetMessage
  | .inspect _ _ => Option Text

/-- The address a request is about. -/
def DetRequest.addr : DetRequest → ℕ
  | .request a _ => a
  | .inspect a _ => a

/-- The arguments of the port's constructor, and the base class it is built on. -/
structure SlsDetConfig where
  hostnames : List Text
  id : Int
  asyn : Asyn

/-- The state of the port. -/
structure SlsDet where
  params : ParamLists
  /-- `_dets`, `none` for the null pointer. -/
  dets : ℕ → Option SlsDetDriver := fun _ ↦ none
  /-- The shared buffers for enumerations. -/
  enums : EnumBuffers
  /-- The enumerations handed to clients, oldest first. -/
  callbacks : List EnumCallback := []

namespace SlsDet

/-- A program of the port. -/
abbrev Prog := Proc SlsDet DetRequest.Reply

variable (cfg : SlsDetConfig)

/-- The number of addresses. -/
abbrev size : ℕ := cfg.hostnames.length

/-- The constructor. The buffers for enumerations are allocated but not filled. -/
def new (enums : EnumBuffers) : SlsDet where
  params := fun a p ↦ if p = .init ∧ a < size cfg then some (.int32 0) else none
  enums := enums

/-- `isConnected`. Where the status cannot be read, it is zero. -/
def isConnected (s : SlsDet) (a : ℕ) : Bool :=
  s.params.integer a .connStatus == ConnectionStatus.connected.toInt

/-- Replace the driver at an address. -/
def setDet (s : SlsDet) (a : ℕ) (d : SlsDetDriver) : SlsDet :=
  { s with dets := Function.update s.dets a (some d) }

/-! ### Steps of the port's programs -/

/-- `getIntegerParam`, for the value. -/
def getInteger (addr : ℕ) (p : Param) : Prog Int := Proc.gets fun s ↦ s.params.integer addr p

/-- `setIntegerParam` and its siblings. -/
def setParam (addr : ℕ) (r : Reason) (v : Value) : Prog AsynStatus := do
  let status ← Proc.gets fun s ↦ (s.params.setParam addr r v).1
  Proc.modify fun s ↦ { s with params := (s.params.setParam addr r v).2 }
  pure status

/-- Call `request()` of the driver at an address. -/
def request (addr : ℕ) (m : SlsDetMessage) : Prog SlsDetMessage :=
  Proc.ask (DetRequest.request addr m)

/-- Follow the pointer of a message that driver returned. -/
def inspect (addr : ℕ) (rep : SlsDetMessage) : Prog (Option Text) :=
  Proc.ask (DetRequest.inspect addr rep)

/-- `updateEnums`. -/
def updateEnums (addr : ℕ) : Prog Unit :=
  Proc.modify fun s ↦ { s with
    enums := (callbacksEnum addr slsDetEnums s.enums).1
    callbacks := s.callbacks ++ (callbacksEnum addr slsDetEnums s.enums).2 }

/-! ### Connecting and disconnecting -/

/-- Create the driver of an address if there is none; `made` says whether its constructor
returns. -/
def construct (addr : ℕ) (made : Bool) : Prog AsynStatus := do
  if ← Proc.gets fun s ↦ (s.dets addr).isSome then
    pure .success
  else if made then do
    Proc.modify fun s ↦
      s.setDet addr (SlsDetDriver.new (cfg.hostnames.getD addr []) (cfg.id + addr))
    let _ ← setParam addr (.param .connStatus) (.int32 ConnectionStatus.disconnected.toInt)
    let _ ← setParam 0 (.param .numDet) (.int32 0)
    pure .success
  else
    pure .disabled

/-- The detector of an address was found online. -/
def goOnline (addr : ℕ) (numDet : Int) : Prog Unit := do
  updateEnums addr
  let _ ← setParam addr (.param .connStatus) (.int32 ConnectionStatus.connected.toInt)
  let _ ← setParam 0 (.param .numDet) (.int32 (numDet + 1))
  pure ()

/-- Ask a driver that is not connected whether its detector is online. -/
def checkOnline (addr : ℕ) : Prog Unit := do
  let conn ← getInteger addr .connStatus
  let numDet ← getInteger 0 .numDet
  if conn = 0 then do
    let reply ← request addr (.ofType .checkOnline)
    if reply.mtype = .ok then
      goOnline addr numDet
    else
      pure ()
  else
    pure ()

/-- `initialize`. -/
def initializeDet (u : AsynUser) (made : Bool) : Prog AsynStatus :=
  match getAddress (size cfg) u with
  | none => pure .error
  | some addr => do
    let enabled ← getInteger addr .detEnabled
    if enabled = 0 then
      pure .disabled
    else do
      let status ← construct cfg addr made
      if ← Proc.gets fun s ↦ (s.dets addr).isSome then do
        checkOnline addr
        pure status
      else if status = .success then
        pure .disabled
      else
        pure status

/-- `uninitialize`. -/
def uninitializeDet (u : AsynUser) : Prog AsynStatus :=
  match getAddress (size cfg) u with
  | none => pure .error
  | some addr => do
    let _ ← setParam addr (.param .connStatus) (.int32 ConnectionStatus.disconnected.toInt)
    let numDet ← getInteger 0 .numDet
    let _ ← setParam 0 (.param .numDet) (.int32 (numDet - 1))
    pure .success

/-! ### Requests to the detector -/

/-- Store what an Ok reply carries under the reason of the read. A pointer that leads nowhere is no
text at all; that there is none is shown, not assumed. -/
def storeReply (u : AsynUser) (addr : ℕ) (reply : SlsDetMessage) : Prog AsynStatus :=
  match reply.data with
  | .int32 v => setParam addr u.reason (.int32 v)
  | .int64 v => if cfg.asyn.hasInt64 then setParam addr u.reason (.int64 v) else pure .error
  | .float64 v => setParam addr u.reason (.float64 v)
  | .string _ => do
    let text ← inspect addr reply
    setParam addr u.reason (.octet (text.getD []))
  | .none => pure .error

/-- What a read makes of a reply. -/
def takeReadReply (u : AsynUser) (addr : ℕ) (reply : SlsDetMessage) : Prog AsynStatus :=
  match reply.mtype with
  | .ok => storeReply cfg u addr reply
  | .invalid => pure .error
  | .timeout => do
    let _ ← uninitializeDet cfg u
    pure .timeout
  | _ => do
    let _ ← uninitializeDet cfg u
    pure .disconnected

/-- `readDetector`. -/
def readDetector (u : AsynUser) (mtype : MessageType) : Prog AsynStatus :=
  match getAddress (size cfg) u with
  | none => pure .error
  | some addr => do
    if ← Proc.gets fun s ↦ s.isConnected addr then do
      let reply ← request addr (.ofType mtype)
      let _ ← inspect addr reply
      takeReadReply cfg u addr reply
    else
      pure .disconnected

/-- What a write makes of a reply. -/
def takeWriteReply (u : AsynUser) (reply : SlsDetMessage) : Prog AsynStatus :=
  match reply.mtype with
  | .ok => if reply.dtype ≠ .none then pure .error else pure .success
  | .failed => pure .error
  | .invalid => pure .error
  | .timeout => do
    let _ ← uninitializeDet cfg u
    pure .timeout
  | _ => do
    let _ ← uninitializeDet cfg u
    pure .disconnected

/-- `writeDetector` of a message. -/
def writeDetector (u : AsynUser) (msg : SlsDetMessage) : Prog AsynStatus :=
  match getAddress (size cfg) u with
  | none => pure .error
  | some addr => do
    if ← Proc.gets fun s ↦ s.isConnected addr then do
      let reply ← request addr msg
      let _ ← inspect addr reply
      takeWriteReply cfg u reply
    else
      pure .disconnected

/-- The two overloads of `writeDetector` for a value: it is stored first. -/
def writeDetectorValue (u : AsynUser) (v : Value) (msg : SlsDetMessage) : Prog AsynStatus :=
  match getAddress (size cfg) u with
  | none => pure .error
  | some addr => do
    let status ← setParam addr u.reason v
    if status = .success then
      writeDetector cfg u msg
    else
      pure status

def writeDetectorFloat64 (u : AsynUser) (mtype : MessageType) (value : ℚ) : Prog AsynStatus :=
  writeDetectorValue cfg u (.float64 value)
    ((SlsDetMessage.ofTypes mtype .float64).setDouble value)

def writeDetectorInt32 (u : AsynUser) (mtype : MessageType) (value : Int) : Prog AsynStatus :=
  writeDetectorValue cfg u (.int32 value) ((SlsDetMessage.ofTypes mtype .int32).setInteger value)

/-! ### Reads -/

/-- The request a read with this reason is dispatched to, by `readFloat64`. -/
def float64Read : Reason → Option MessageType
  | .param .fpgaTemp => some .readFpgaTemp
  | .param .adcTemp => some .readAdcTemp
  | .param .getTempThreshold => some .readTempThreshold
  | _ => none

/-- The same, by `readInt32`. -/
def int32Read : Reason → Option MessageType
  | .param .runStatus => some .readRunStatus
  | .param .detType => some .readDetType
  | .param .getTempControl => some .readTempControl
  | .param .getTempEvent => some .readTempEvent
  | .param .getChipPower => some .readPowerChip
  | .param .getHighVoltage => some .readHighVoltage
  | .param .getClockDivider => some .readClockDivider
  | .param .getGainMode => some .readGainMode
  | _ => none

/-- The same, by `readOctet`. -/
def octetRead : Reason → Option MessageType
  | .param .hostName => some .readHostname
  | .param .detSerialNumber => some .readSerialnum
  | .param .detFirmwareVersion => some .readFirmwareVer
  | .param .detSoftwareVersion => some .readSoftwareVer
  | _ => none

/-- The common shape of the reads: a request to the detector, and then the value from the parameter;
or else the base class. -/
def readParam (u : AsynUser) (dispatch : Reason → Option MessageType)
    (get : ParamLists → ℕ → Result) (base : Option Value → Result) : Prog Result :=
  match getAddress (size cfg) u with
  | none => pure (.ofStatus .error)
  | some addr =>
    match dispatch u.reason with
    | some mtype => do
      let status ← readDetector cfg u mtype
      if status = .success then
        Proc.gets fun s ↦ get s.params addr
      else
        pure (.ofStatus status)
    | none => Proc.gets fun s ↦ base (s.params.stored addr u.reason)

def readFloat64 (u : AsynUser) : Prog Result :=
  readParam cfg u float64Read (fun l addr ↦ l.getParam addr u.reason .float64)
    (cfg.asyn.readFloat64 u.reason)

def readInt32 (u : AsynUser) : Prog Result :=
  readParam cfg u int32Read (fun l addr ↦ l.getParam addr u.reason .int32)
    (cfg.asyn.readInt32 u.reason)

/-- The rest of what `readOctet` writes: the end of message, and the length with the terminator of
what the client's buffer now holds. That is `buffer`, its contents before, if it was not written. -/
def octetResult (buffer : Text) (got : Result) : Result :=
  let held := match got.value with
    | some (.octet t) => t
    | _ => buffer
  { got with nActual := some (held.length + 1), eomEnd := true }

def readOctet (u : AsynUser) (maxChars : ℕ) (buffer : Text) : Prog Result :=
  readParam cfg u octetRead
    (fun l addr ↦ octetResult buffer (l.getStringParam addr u.reason maxChars))
    fun v ↦ cfg.asyn.readOctet u.reason v maxChars buffer

/-! ### Writes -/

/-- The request a write with this reason is dispatched to, by `writeFloat64`. -/
def float64Write : Reason → Option MessageType
  | .param .setTempThreshold => some .writeTempThreshold
  | _ => none

/-- The same, by `writeInt32`. -/
def int32Write : Reason → Option MessageType
  | .param .setTempControl => some .writeTempControl
  | .param .setTempEvent => some .writeTempEvent
  | .param .setChipPower => some .writePowerChip
  | .param .setHighVoltage => some .writeHighVoltage
  | .param .setClockDivider => some .writeClockDivider
  | .param .setGainMode => some .writeGainMode
  | _ => none

def writeFloat64 (u : AsynUser) (value : ℚ) : Prog AsynStatus :=
  match getAddress (size cfg) u with
  | none => pure .error
  | some addr =>
    match float64Write u.reason with
    | some mtype => writeDetectorFloat64 cfg u mtype value
    | none => setParam addr u.reason (.float64 value)

/-- Enable or disable an address. Disabling disconnects it. -/
def writeEnabled (u : AsynUser) (addr : ℕ) (value : Int) : Prog AsynStatus := do
  let _ ← setParam addr u.reason (.int32 value)
  let conn ← Proc.gets fun s ↦ s.isConnected addr
  if value = off ∧ conn then do
    let _ ← uninitializeDet cfg u
    pure .success
  else
    pure .success

def writeInt32 (u : AsynUser) (value : Int) : Prog AsynStatus :=
  match getAddress (size cfg) u with
  | none => pure .error
  | some addr =>
    match int32Write u.reason with
    | some mtype => writeDetectorInt32 cfg u mtype value
    | none =>
      if u.reason = .param .detEnabled then writeEnabled cfg u addr value
      else setParam addr u.reason (.int32 value)

/-! ### The functions clients call -/

/-- A function of the port, with its arguments; of the client's buffer, its size and the text that
is in it. Whether a driver's constructor returns is decided by the environment. -/
inductive PortOp
  | connect (made : Bool)
  | disconnect
  | readInt32
  | readFloat64
  | readOctet (maxChars : ℕ) (buffer : Text)
  | writeInt32 (value : Int)
  | writeFloat64 (value : ℚ)
  deriving DecidableEq

/-- A call of the port. -/
structure PortCall where
  user : AsynUser
  op : PortOp
  deriving DecidableEq

/-- A call that returns a status and nothing else. -/
def statusOnly (x : Prog AsynStatus) : Prog Result := do
  let status ← x
  pure (.ofStatus status)

/-- What a call does. -/
def perform (c : PortCall) : Prog Result :=
  match c.op with
  | .connect made => statusOnly (initializeDet cfg c.user made)
  | .disconnect => statusOnly (uninitializeDet cfg c.user)
  | .readInt32 => readInt32 cfg c.user
  | .readFloat64 => readFloat64 cfg c.user
  | .readOctet maxChars buffer => readOctet cfg c.user maxChars buffer
  | .writeInt32 value => statusOnly (writeInt32 cfg c.user value)
  | .writeFloat64 value => statusOnly (writeFloat64 cfg c.user value)

end SlsDet
