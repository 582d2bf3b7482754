import SlsDetModel.Driver.Serial
import SlsDetModel.Port.ReadEnum
import SlsDetModel.Port.Writes

/-!
# The port as a sequential program

What the port is for, without the threads, queues, messages and pointers by which it does it: a
client's call reads or writes parameters, and makes the library calls that it takes, on detectors
that are used directly (`SerialDet`). `SerialPort.exec` carries out a call in this way. It is a
specification, and it can be run.

* `port_is_serial` — as long as no wait expires, the port is this program: in every run, however it
  interleaves the port with the workers of its drivers, the answers of the calls are those that the
  program computes, and so are the parameters, the callbacks, the error masks and the calls made to
  the library.
-/

instance (v : Value) : Decidable v.Negative :=
  match v with
  | .int32 v => inferInstanceAs (Decidable (v < 0))
  | .float64 v => inferInstanceAs (Decidable (v < 0))
  | .int64 _ => inferInstanceAs (Decidable False)
  | .octet _ => inferInstanceAs (Decidable False)

/-! ### The specification -/

/-- The port: its parameters, its detectors, and the callbacks made so far. -/
structure SerialPort where
  params : ParamLists
  dets : ℕ → Option SerialDet := fun _ ↦ none
  callbacks : List EnumCallback := []

namespace SlsDet

/-- The type of the values that a call reads. -/
def PortCall.readType (c : PortCall) : Option AsynParamType :=
  match c.op with
  | .readInt32 => some .int32
  | .readFloat64 => some .float64
  | .readOctet _ _ => some .octet
  | _ => none

/-- The query of a call that reads off the detector: the one that belongs to the parameter, if it is
read as what it is. -/
def PortCall.query (c : PortCall) : Option (Param × LibCall) :=
  match c.user.reason with
  | .param p => if c.readType = some p.type then p.query.map (p, ·) else none
  | .other _ => none

/-- The setter of a call that writes to the detector. -/
def PortCall.setter (c : PortCall) (fl : Rounding) (v : Value) : Option (Param × LibCall) :=
  match c.user.reason with
  | .param p => (p.setter fl v).map (p, ·)
  | .other _ => none

end SlsDet

namespace SerialPort

variable (lib : ℕ → Library) (cfg : SlsDetConfig) (c : SlsDet.PortCall) (a : ℕ) (x : SerialPort)

/-- The port just configured. -/
def new : SerialPort where
  params := fun a p ↦ if p = .init ∧ a < SlsDet.size cfg then some (.int32 0) else none

def isConnected : Bool := x.params.integer a .connStatus == ConnectionStatus.connected.toInt

def setDet (d : SerialDet) : SerialPort := { x with dets := Function.update x.dets a (some d) }

def disconnect : SerialPort := { x with params := x.params.disconnect a }

/-- A detector is online: the clients are handed the enumerations. -/
def connect : SerialPort :=
  { x with params := x.params.connect a, callbacks := x.callbacks ++ handed a }

/-- A detector is there. -/
def construct : SerialPort :=
  if (x.dets a).isSome then x
  else
    { x with params := x.params.create a }.setDet a ⟨cfg.id + a, cfg.hostnames.getD a [], none, []⟩

/-- `connect`: at an enabled address, with a detector that is not connected, ask whether it is
online. -/
def execConnect (made : Bool) : Option (Result × SerialPort) :=
  if x.params.integer a .detEnabled = 0 ∨ x.dets a = none ∧ made = false then
    some (.ofStatus .disabled, x)
  else
    let x := x.construct cfg a
    if x.params.integer a .connStatus = 0 then
      (x.dets a).map fun d ↦
        let (online, d) := d.isOnline (lib a)
        (.ofStatus .success, if online then (x.setDet a d).connect a else x.setDet a d)
    else some (.ofStatus .success, x)

/-- What a read makes of the verdict: what the query returned is stored, and handed to the
caller. -/
def takeRead (fl : Rounding) (p : Param) (q : LibCall) : Verdict → Result × SerialPort
  | .clean ans =>
    (c.deliver (q.result fl ans), { x with params := x.params.store a p (q.result fl ans) })
  | _ => (.ofStatus .disconnected, x.disconnect a)

/-- A read off the detector. -/
def execRead (p : Param) (q : LibCall) : Option (Result × SerialPort) :=
  if x.isConnected a then
    (x.dets a).map fun d ↦
      (x.setDet a (d.ask (lib a) q).2).takeRead c a (lib a).rounding p q (d.ask (lib a) q).1
  else some (.ofStatus .disconnected, x)

/-- What a write makes of the verdict. A negative value was taken for a read. -/
def takeWrite (p : Param) (v : Value) : Verdict → AsynStatus × SerialPort
  | .clean ans => (if v.Negative ∨ p.verified = true ∧ Value.int32 ans.ret ≠ v then .error
      else .success, x)
  | .contained => (.error, x)
  | .broken => (.disconnected, x.disconnect a)

/-- A write to the detector, of a value that has been stored. -/
def execWrite (p : Param) (v : Value) (q : LibCall) : Option (Result × SerialPort) :=
  if x.isConnected a then
    (x.dets a).map fun d ↦
      let (status, x) := (x.setDet a (d.ask (lib a) q).2).takeWrite a p v (d.ask (lib a) q).1
      (.ofStatus status, x)
  else some (.ofStatus .disconnected, x)

/-- Enabling and disabling. -/
def execEnable (v : Int) : Result × SerialPort :=
  let y := { x with params := x.params.store a .detEnabled (.int32 v) }
  (.ofStatus .success, if v = off ∧ x.isConnected a then y.disconnect a else y)

/-- Any write. What goes to the detector is stored first, whether it gets there or not. -/
def execValue (v : Value) : Option (Result × SerialPort) :=
  match c.setter (lib a).rounding v with
  | some (p, q) => execWrite lib a { x with params := x.params.store a p v } p v q
  | none =>
    match c.enables with
    | some w => some (x.execEnable a w)
    | none => some (.ofStatus (x.params.setParam a c.user.reason v).1,
        { x with params := (x.params.setParam a c.user.reason v).2 })

/-- **A call**, carried out. There is nothing if it needs a detector that was never there. -/
def exec : Option (Result × SerialPort) :=
  match getAddress (SlsDet.size cfg) c.user with
  | none => some (.ofStatus .error, x)
  | some a =>
    match c.op with
    | .connect made => x.execConnect lib cfg a made
    | .disconnect => some (.ofStatus .success, x.disconnect a)
    | .writeInt32 v => x.execValue lib c a (.int32 v)
    | .writeFloat64 v => x.execValue lib c a (.float64 v)
    | _ =>
      match c.query with
      | some (p, q) => x.execRead lib c a p q
      | none => (c.base cfg.asyn (x.params.stored a c.user.reason)).map fun r ↦ (r, x)

end SerialPort

/-! ### The port, as the specification sees it -/

namespace SyncSlsDet

variable {cfg : SlsDetConfig} {x : SyncSlsDet} {a : ℕ}

/-- What the queues, the messages and the string cache leave out. -/
def serial (x : SyncSlsDet) : SerialPort :=
  ⟨x.params, fun a ↦ (x.dets a).map fun y ↦ y.core.serial, x.callbacks⟩

@[simp] theorem params_serial (x : SyncSlsDet) : x.serial.params = x.params := rfl

@[simp] theorem isConnected_serial (x : SyncSlsDet) (a : ℕ) :
    x.serial.isConnected a = x.isConnected a := rfl

theorem dets_serial {y : SlsDetDriver.Sync} (h : x.dets a = some y) :
    x.serial.dets a = some y.core.serial := congrArg (Option.map _) h

theorem serial_setDet (x : SyncSlsDet) (a : ℕ) (z : SlsDetDriver.Sync) :
    (x.setDet a z).serial = x.serial.setDet a z.core.serial := by
  have hdets : (fun b ↦ ((x.setDet a z).dets b).map fun y ↦ y.core.serial) =
      Function.update (fun b ↦ (x.dets b).map fun y ↦ y.core.serial) a (some z.core.serial) := by
    funext b
    by_cases hb : b = a
    · subst hb
      rw [x.dets_setDet_same, Function.update_self]
      rfl
    · rw [x.dets_setDet_of_ne hb, Function.update_of_ne hb]
  exact congrArg (SerialPort.mk _ · _) hdets

theorem serial_connect (x : SyncSlsDet) (a : ℕ) : (x.connect a).serial = x.serial.connect a := by
  show SerialPort.mk _ _ (x.callbacks ++ (callbacksEnum a slsDetEnums x.enums).2) = _
  rw [callbacksEnum_snd]
  rfl

theorem serial_construct (cfg : SlsDetConfig) (x : SyncSlsDet) (a : ℕ) :
    (x.construct cfg a).serial = x.serial.construct cfg a := by
  rcases hdet : x.dets a with - | y
  · have hserial : x.serial.dets a = none := congrArg (Option.map _) hdet
    rw [construct, if_neg (by rw [hdet]; decide), SerialPort.construct,
      if_neg (by rw [hserial]; decide)]
    exact serial_setDet { x with params := x.params.create a } a _
  · rw [construct_of_isSome (by rw [hdet]; rfl), SerialPort.construct,
      if_pos (by rw [dets_serial hdet]; rfl)]

end SyncSlsDet

namespace SlsDet

variable {lib : ℕ → Library} {cfg : SlsDetConfig} {enums : EnumBuffers} {c : PortCall}
  {x x' : SyncSlsDet} {y : SerialPort} {r : Result} {a : ℕ} {v : Value} {p : Param} {q : LibCall}
  {fl : Rounding}
  {t : MessageType} {m : SlsDetMessage} {k : PortSystem} {ls : List PortLabel}

/-! ### The tables of the specification -/

/-- What is dispatched is what has a query. -/
theorem PortCall.isSome_query (c : PortCall) : c.query.isSome = c.read.isSome := by
  rcases c with ⟨⟨reason, addr⟩, op⟩
  rcases reason with p | i
  · cases op <;> cases p <;> rfl
  · cases op <;> rfl

theorem PortCall.query_of_read (h : c.read = some t) : ∃ p q, c.query = some (p, q) ∧
    c.user.reason = .param p ∧ t.readCall = some q ∧ (∀ fl ans, (q.result fl ans).type = p.type) ∧
    ∀ l a v, v.type = p.type → c.get (ParamLists.store l a p v) a = c.deliver v := by
  obtain ⟨p, q, hr, hquery, hcall, htype, hget⟩ := PortCall.tables_agree h
  refine ⟨p, q, ?_, hr, hcall, htype, hget⟩
  have hsome : c.query.isSome := by rw [c.isSome_query, h]; rfl
  rw [PortCall.query, hr] at hsome ⊢
  dsimp only at hsome ⊢
  rw [hquery] at hsome ⊢
  split at hsome
  case isTrue hread => rw [if_pos hread]; rfl
  case isFalse => cases hsome

theorem Param.setter_spec (h : p.setter fl v = some q) :
    q ≠ .checkOnline ∧ q.recoverable = p.recoverable := by
  cases p <;> cases v <;> first | (cases h; done) | obtain rfl := (Option.some.inj h).symm
  all_goals exact ⟨fun h ↦ (nomatch h), rfl⟩

/-- A write is dispatched to a message that makes the setter's call. -/
theorem PortCall.ownCall_of_write (h : c.write = some m) (hr : c.user.reason = .param p)
    (hv : c.value = some v) : m.ownCall fl = p.setter fl v := by
  rcases c with ⟨⟨reason, addr⟩, op⟩
  obtain rfl : reason = .param p := hr
  cases op with
  | writeInt32 w =>
    obtain rfl := Option.some.inj hv
    cases p <;> first | (cases h; done) | obtain rfl := (Option.some.inj h).symm
    all_goals rfl
  | writeFloat64 w =>
    obtain rfl := Option.some.inj hv
    cases p <;> first | (cases h; done) | obtain rfl := (Option.some.inj h).symm
    rw [Param.setter, ← Core.thresholdOf_eq]
    rfl
  | _ => cases h

/-- And nothing else has a setter. -/
theorem PortCall.setter_eq_none (hv : c.value = some v) (h : c.write = none) :
    c.setter fl v = none := by
  rcases c with ⟨⟨reason, addr⟩, op⟩
  rcases reason with p | i
  case other => rfl
  cases op with
  | writeInt32 w =>
    obtain rfl := Option.some.inj hv
    cases p <;> first | rfl | cases h
  | writeFloat64 w =>
    obtain rfl := Option.some.inj hv
    cases p <;> first | rfl | cases h
  | _ => cases hv

/-- **A write that is dispatched**, and what the port makes of the reply to it. -/
theorem PortCall.setter_of_write (h : c.write = some m) (lib : Library) : ∃ p v q,
    c.user.reason = .param p ∧ c.value = some v ∧ c.setter lib.rounding v = some (p, q) ∧
    m.ownCall lib.rounding = some q ∧ q ≠ .checkOnline ∧
    ∀ (core : Core) (x : SyncSlsDet) (a : ℕ),
      ((x.takeWrite a (SlsDetDriver.serve lib core m).1).1,
        (x.takeWrite a (SlsDetDriver.serve lib core m).1).2.serial) =
      x.serial.takeWrite a p v (core.serial.ask lib q).1 := by
  obtain ⟨p, v, hr, hv, hagree⟩ := PortCall.setters_agree h
  obtain ⟨q, hsetter, hwrites⟩ := hagree lib
  obtain ⟨hne, hrec⟩ := Param.setter_spec hsetter
  refine ⟨p, v, q, hr, hv, ?_, (PortCall.ownCall_of_write h hr hv).trans hsetter, hne,
    fun core x a ↦ ?_⟩
  · rw [PortCall.setter, hr]
    exact congrArg (Option.map _) hsetter
  rw [SlsDetDriver.serve, SlsDetDriver.respond, SerialDet.ask, ← Core.serial_initializeDet]
  by_cases hdet : (core.initializeDet lib).det.isSome
  · have hw := hwrites (core.initializeDet lib) hdet
    rw [if_pos hdet, Core.consult_serial hdet]
    by_cases hmask : ((core.initializeDet lib).call lib q).2.errorMask = 0
    · rw [if_pos hmask, SerialPort.takeWrite]
      by_cases hneg : v.Negative
      · obtain ⟨hm, hd⟩ := hw.read hmask hneg
        rw [takeWrite_of_ok hm, if_pos hd, if_pos (Or.inl hneg)]
      by_cases hacc : p.verified = true →
          Value.int32 (lib (core.initializeDet lib).calls q).ret = v
      · rw [(hw.ok hmask hneg hacc).1, if_neg fun h ↦ h.elim hneg fun h ↦ h.2 (hacc h.1)]
        rfl
      · rw [hw.refused hmask hneg hacc, if_pos (Or.inr (Classical.not_imp.1 hacc))]
        rfl
    · rw [if_neg hmask, hrec]
      by_cases hown : p.recoverable ∧ ((core.initializeDet lib).call lib q).2.errorMask = posBit
      · rw [if_pos hown, hw.failed hmask hown]
        rfl
      · rw [if_neg hown, hw.error hmask hown]
        rfl
  · rw [if_neg hdet, Core.consult_serial_of_none (Bool.eq_false_iff.2 hdet)]
    rfl

/-! ### The program carries out what the port does -/

theorem exec_of_connect {made : Bool} (ha : getAddress (size cfg) c.user = some a)
    (hop : c.op = .connect made) : SerialPort.exec lib cfg c y = y.execConnect lib cfg a made := by
  rw [SerialPort.exec, ha, hop]

theorem exec_of_disconnect (ha : getAddress (size cfg) c.user = some a)
    (hop : c.op = .disconnect) :
    SerialPort.exec lib cfg c y = some (.ofStatus .success, y.disconnect a) := by
  rw [SerialPort.exec, ha, hop]

theorem exec_of_value (ha : getAddress (size cfg) c.user = some a) (hv : c.value = some v) :
    SerialPort.exec lib cfg c y = y.execValue lib c a v := by
  rw [SerialPort.exec, ha]
  rcases c with ⟨u, op⟩
  cases op <;> first | (cases hv; done) | obtain rfl := Option.some.inj hv
  all_goals rfl

/-- Of the reads only those that are dispatched have a query. -/
theorem exec_of_query (ha : getAddress (size cfg) c.user = some a) (hq : c.query = some (p, q)) :
    SerialPort.exec lib cfg c y = y.execRead lib c a p q := by
  have hread : c.readType.isSome := by
    rw [PortCall.query] at hq
    split at hq
    · exact (Option.ite_none_right_eq_some.1 hq).1 ▸ rfl
    · cases hq
  rw [SerialPort.exec, ha]
  rcases c with ⟨u, op⟩
  cases op <;> first | (cases hread; done) | (dsimp only; rw [hq])

theorem exec_of_base (ha : getAddress (size cfg) c.user = some a) (hread : c.read = none)
    (hbase : c.base cfg.asyn (y.params.stored a c.user.reason) = some r) :
    SerialPort.exec lib cfg c y = some (r, y) := by
  have hquery : c.query = none := by
    rw [← Option.not_isSome_iff_eq_none, c.isSome_query, hread]
    decide
  rw [SerialPort.exec, ha]
  rcases c with ⟨u, op⟩
  cases op <;> first | (cases hbase; done) | (dsimp only; rw [hquery]; dsimp only; rw [hbase]; rfl)

/-- **The program does what the port does**, if no wait expires. -/
theorem Performed.exec (h : Performed lib false cfg c x r x') :
    SerialPort.exec lib cfg c x.serial = some (r, x'.serial) := by
  cases h with
  | noAddress ha => rw [SerialPort.exec, ha]
  | disabled ha hop hen =>
    rw [exec_of_connect ha hop, SerialPort.execConnect, SyncSlsDet.params_serial,
      if_pos (Or.inl hen)]
  | unmade ha hop hen hdet =>
    have hnone : x.serial.dets _ = none := congrArg (Option.map _) hdet
    rw [exec_of_connect ha hop, SerialPort.execConnect, if_pos (Or.inr ⟨hnone, rfl⟩)]
  | @already a made ha hop hen hdet hconn =>
    have hsame : x.construct cfg a = x := SyncSlsDet.construct_of_isSome hdet
    have hsome : (x.serial.dets a).isSome := by
      obtain ⟨y, hy⟩ := Option.isSome_iff_exists.1 hdet
      rw [SyncSlsDet.dets_serial hy]
      rfl
    have hthere : ¬(x.params.integer a .detEnabled = 0 ∨ x.serial.dets a = none ∧ made = false) :=
      fun h ↦ h.elim hen fun h ↦ by rw [h.1] at hsome; cases hsome
    rw [exec_of_connect ha hop, SerialPort.execConnect, SyncSlsDet.params_serial, if_neg hthere,
      ← SyncSlsDet.serial_construct, hsame]
    exact if_neg hconn
  | @checked a made y rep z ha hop hen hmade hdet hconn hreq =>
    obtain ⟨rfl, hcore, -⟩ := hreq.answered
    obtain ⟨honline, hserial⟩ := SlsDetDriver.serial_serve_checkOnline (lib a) y.core
    have hthere : ¬(x.params.integer a .detEnabled = 0 ∨ x.serial.dets a = none ∧ made = false) :=
      fun h ↦ h.elim hen fun h ↦ by rw [hmade (Option.map_eq_none_iff.1 h.1)] at h; cases h.2
    rw [exec_of_connect ha hop, SerialPort.execConnect, SyncSlsDet.params_serial, if_neg hthere,
      ← SyncSlsDet.serial_construct]
    dsimp only
    rw [SyncSlsDet.params_serial, if_pos hconn, SyncSlsDet.dets_serial hdet, Option.map_some]
    rw [← hserial, ← hcore, ← SyncSlsDet.serial_setDet, ← SyncSlsDet.serial_connect]
    simp only [← honline]
    split <;> rfl
  | disconnected ha hop => exact exec_of_disconnect ha hop
  | @offline a t ha hread hconn =>
    obtain ⟨p, q, hq, -⟩ := PortCall.query_of_read hread
    rw [exec_of_query ha hq, SerialPort.execRead, SyncSlsDet.isConnected_serial, hconn,
      if_neg (by decide)]
  | @read a t y rep z v status x' ha hread hconn hdet hreq hv htake =>
    obtain ⟨p, q, hq, hr, hcall, htype, hget⟩ := PortCall.query_of_read hread
    obtain ⟨rfl, hcore, -, hzero⟩ := hreq.answered
    obtain ⟨hown, hne⟩ := SlsDetDriver.ownCall_of_readCall hcall
    have hreply := SlsDetDriver.read_serve (lib a) y.core hcall
    rw [exec_of_query ha hq, SerialPort.execRead, SyncSlsDet.isConnected_serial, if_pos hconn,
      SyncSlsDet.dets_serial hdet, Option.map_some, ← SlsDetDriver.serial_serve hown hne, ← hcore,
      ← SyncSlsDet.serial_setDet]
    rw [hr] at htake
    rw [← hcore] at hreply
    generalize (y.core.serial.ask (lib a) q).1 = verdict at hreply ⊢
    cases verdict
    case clean ans =>
      obtain ⟨hm, hvalue⟩ := hreply
      obtain rfl := hv hzero _ hvalue
      rw [takeRead_of_ok hm (htype _ _)] at htake
      obtain ⟨rfl, rfl⟩ := Prod.mk.inj htake
      rw [if_pos rfl, hget _ _ _ (htype _ _)]
      rfl
    all_goals
      rw [takeRead_of_error hreply] at htake
      obtain ⟨rfl, rfl⟩ := Prod.mk.inj htake
      rfl
  | readBase ha hread hbase => exact exec_of_base ha hread hbase
  | @unsent a m p v ha hwrite hr hp hv hconn =>
    obtain ⟨p', v', q, hr', hv', hsetter, -⟩ := PortCall.setter_of_write hwrite (lib a)
    obtain ⟨⟩ := hr.symm.trans hr'
    obtain ⟨⟩ := hv.symm.trans hv'
    have hoff : SyncSlsDet.isConnected { x with params := x.params.store a p v } a = false :=
      ((SyncSlsDet.sameControl_store hp v).isConnected a).trans hconn
    rw [exec_of_value ha hv, SerialPort.execValue, hsetter]
    exact if_neg (Bool.eq_false_iff.1 hoff)
  | @write a m p v y rep z status x' ha hwrite hr hp hv hconn hdet hreq htake =>
    obtain ⟨p', v', q, hr', hv', hsetter, hown, hne, htaken⟩ :=
      PortCall.setter_of_write hwrite (lib a)
    obtain ⟨⟩ := hr.symm.trans hr'
    obtain ⟨⟩ := hv.symm.trans hv'
    obtain ⟨rfl, hcore, -⟩ := hreq.answered
    have hstored : SyncSlsDet.isConnected { x with params := x.params.store a p v } a = true :=
      ((SyncSlsDet.sameControl_store hp v).isConnected a).trans hconn
    have hthere : (SyncSlsDet.serial { x with params := x.params.store a p v }).dets a =
      some y.core.serial := SyncSlsDet.dets_serial hdet
    rw [exec_of_value ha hv, SerialPort.execValue, hsetter]
    show SerialPort.execWrite lib a (SyncSlsDet.serial { x with params := x.params.store a p v })
      p v q = _
    rw [SerialPort.execWrite, SyncSlsDet.isConnected_serial, if_pos hstored, hthere,
      Option.map_some, ← SlsDetDriver.serial_serve hown hne, ← hcore, ← SyncSlsDet.serial_setDet,
      ← htaken, htake]
  | @enabled a v ha henables =>
    obtain ⟨hr, hvalue, hwrite⟩ := PortCall.kind_of_enables henables
    rw [exec_of_value ha hvalue, SerialPort.execValue, PortCall.setter_eq_none hvalue hwrite,
      henables]
    refine congrArg (fun x ↦ some (Result.ofStatus .success, x)) ?_
    rw [SyncSlsDet.isConnected_serial]
    split <;> rfl
  | writeBase ha hwrite henables hv =>
    rw [exec_of_value ha hv, SerialPort.execValue, PortCall.setter_eq_none hv hwrite, henables]
    rfl

/-! ### Whole runs -/

/-- No reply is outstanding. -/
def Settled (x : SyncSlsDet) : Prop := ∀ a y, x.dets a = some y → y.pending = 0

/-- If no wait expires, nothing is left over of a request. -/
theorem Effect.settled (h : Effect lib false cfg c x x') (hx : Settled x) : Settled x' := by
  have hset : ∀ {x₀ x₁ : SyncSlsDet} {a m y rep z}, Settled x₀ →
      SlsDetDriver.Requested (lib a) false y m rep z → x₁.dets = (x₀.setDet a z).dets →
      Settled x₁ := by
    intro x₀ x₁ a m y rep z hx₀ hreq hdets b w hw
    rw [hdets] at hw
    by_cases hb : b = a
    · subst hb
      obtain rfl := Option.some.inj (hw.symm.trans (x₀.dets_setDet_same b z))
      exact hreq.answered.2.2.2
    · exact hx₀ b w ((x₀.dets_setDet_of_ne hb z).symm.trans hw)
  cases h with
  | none hdets => exact fun a y hy ↦ hx a y (hdets ▸ hy)
  | kept ha hconn hdet hreq hm hdets => exact hset hx hreq hdets
  | dropped ha hconn hdet hreq hdets => exact hset hx hreq hdets
  | @checked a made y rep z ha hop hen hmade hdet hconn hreq heq =>
    have hconstruct : Settled (x.construct cfg a) := by
      intro b w hw
      rcases hnone : x.dets a with - | y₀
      · rw [SyncSlsDet.dets_construct_of_none hnone] at hw
        split at hw
        case isTrue =>
          obtain rfl := Option.some.inj hw
          rfl
        case isFalse => exact hx b w hw
      · rw [SyncSlsDet.construct_of_isSome (by rw [hnone]; rfl)] at hw
        exact hx b w hw
    refine hset hconstruct hreq ?_
    rw [heq]
    split <;> rfl
  | disconnected ha hop heq => exact fun b y hy ↦ hx b y (by rw [heq] at hy; exact hy)
  | enabled ha henables heq =>
    intro b y hy
    rw [heq] at hy
    exact hx b y (by split at hy <;> exact hy)
  | marked hr hp hv heq => exact fun b y hy ↦ hx b y (by rw [heq] at hy; exact hy)

/-- The port, as the specification sees it. -/
def serial (s : SlsDet) : SerialPort :=
  ⟨s.params, fun a ↦ (s.dets a).map fun d ↦ d.core.serial, s.callbacks⟩

/-- Where nothing is outstanding, the workers have done what they are going to do. -/
theorem serial_sync {s : SlsDet} (hs : s.Ready) (hsettled : Settled (sync lib s)) :
    (sync lib s).serial = s.serial := by
  have hdets : (fun a ↦ ((sync lib s).dets a).map fun y ↦ y.core.serial) =
      fun a ↦ (s.dets a).map fun d ↦ d.core.serial := by
    funext a
    rcases hd : s.dets a with - | d
    · show ((s.dets a).map _).map _ = _
      rw [hd]
      rfl
    · have hy : (sync lib s).dets a = some (SlsDetDriver.sync (lib a) d) := sync_dets hd
      rw [hy, Option.map_some, Option.map_some, hs.core_sync hd (hsettled a _ hy)]
  exact congrArg (SerialPort.mk _ · _) hdets

/-- **The port is a sequential program.** Take any run in which no wait expires. However it
interleaves the port with the workers of its drivers, the calls are answered in their order, and
with the answers that the program computes for them; and between two calls the parameters, the
callbacks, the error masks of the detectors and the calls made to the library are those of the
program. -/
theorem port_is_serial (hL : ∀ e, .env e ∈ ls → e.InTime false)
    (hrun : (system lib cfg).run (start cfg enums) ls = some k) :
    k.results.map Prod.fst ++ k.current.toList = Client.calls ls ∧ ∃ x,
      (History.serially (SerialPort.exec lib cfg)).run ([], .new cfg) (k.results.map Prod.fst) =
        some (k.results.map Prod.snd, x) ∧
      (k.thread = .idle → k.shared.serial = x) := by
  refine ⟨Client.taken_run hrun, ?_⟩
  obtain ⟨x, hh, hend⟩ := history_of_run (C := fun _ ↦ True) (fun _ _ ↦ trivial) hL hrun
  have hnew : Settled (sync lib (new cfg enums)) := fun a y hy ↦ by cases hy
  obtain ⟨hsettled, hexec⟩ := hh.executes (P := Settled) (f := SyncSlsDet.serial)
    (e := SerialPort.exec lib cfg) hnew fun hP hstep ↦
      ⟨(effect_of_performed hstep.2).settled hP, hstep.2.exec⟩
  refine ⟨x.serial, hexec, fun hidle ↦ ?_⟩
  obtain ⟨hready, rfl⟩ := hend hidle
  exact (serial_sync hready hsettled).symm

/-- The one address of a small port is enabled and connected. The program enables it as well, and
finds it connected. -/
theorem port_is_serial_online : ∃ k x,
    (system (fun _ ↦ SlsDetDriver.healthy) (bench 1)).run (start (bench 1) blank) (online 0) =
      some k ∧
    (History.serially (SerialPort.exec (fun _ ↦ SlsDetDriver.healthy) (bench 1))).run
      ([], .new (bench 1)) [⟨⟨.param .detEnabled, 0⟩, .writeInt32 1⟩,
        ⟨⟨.param .init, 0⟩, .connect true⟩] = some (k.results.map Prod.snd, x) ∧
    x.isConnected 0 = true := by
  have hmap : ((system (fun _ ↦ SlsDetDriver.healthy) (bench 1)).run (start (bench 1) blank)
      (online 0)).map (fun k ↦ (k.isIdle, k.results.map Prod.fst, k.shared.isConnected 0)) =
      some (true, [⟨⟨.param .detEnabled, 0⟩, .writeInt32 1⟩,
        ⟨⟨.param .init, 0⟩, .connect true⟩], true) := by
    decide +kernel
  obtain ⟨k, hrun, hk⟩ := Option.map_eq_some_iff.1 hmap
  obtain ⟨hidle, hk⟩ := Prod.mk.inj hk
  obtain ⟨hcalls, hconn⟩ := Prod.mk.inj hk
  obtain ⟨-, x, hexec, hend⟩ := port_is_serial (by simp [online, on, exchange, Move.InTime]) hrun
  obtain rfl := hend (Client.thread_of_isIdle hidle)
  rw [hcalls] at hexec
  exact ⟨k, _, hrun, hexec, hconn⟩

end SlsDet
