import SlsDetModel.Port.System

/-!
# Calls as atomic steps

What a call of the port does from beginning to end, as one step of the port whose drivers have no
schedule. `Performed` lists the ways a call can go, one constructor for each: which branch of the
source was taken, whether the driver was asked and what it answered (`Requested`), what is returned
and what is left behind.

`sat_perform` says that the programs of the port do nothing else. The statements about whole runs
are proved by cases over `Performed`; none of them unfolds a program again.
-/

namespace ParamLists

/-- Set the status of an address and the count of connections. -/
def mark (l : ParamLists) (a : ℕ) (status : ConnectionStatus) (numDet : Int) : ParamLists :=
  (l.store a .connStatus (.int32 status.toInt)).store 0 .numDet (.int32 numDet)

/-- The parameter lists after `uninitialize`. -/
def disconnect (l : ParamLists) (a : ℕ) : ParamLists :=
  l.mark a .disconnected (l.integer 0 .numDet - 1)

/-- The parameter lists after a driver was created. -/
def create (l : ParamLists) (a : ℕ) : ParamLists := l.mark a .disconnected 0

/-- The parameter lists after a detector was found online. -/
def connect (l : ParamLists) (a : ℕ) : ParamLists :=
  l.mark a .connected (l.integer 0 .numDet + 1)

theorem integer_mark_connStatus (l : ParamLists) (a b : ℕ) (status : ConnectionStatus) (n : Int) :
    (l.mark a status n).integer b .connStatus =
      if b = a then status.toInt else l.integer b .connStatus := by
  rw [mark, integer_store_of_ne (by decide)]
  split
  case isTrue hb => rw [hb, integer_store_same]
  case isFalse hb => exact integer_store_of_addr_ne hb _ _ _

@[simp] theorem integer_mark_numDet (l : ParamLists) (a : ℕ) (status : ConnectionStatus) (n : Int) :
    (l.mark a status n).integer 0 .numDet = n := integer_store_same _ _

/-- The other parameters do not belong to the connection. -/
theorem mark_of_ne {p : Param} (hc : p ≠ .connStatus) (hn : p ≠ .numDet) (l : ParamLists)
    (a b : ℕ) (status : ConnectionStatus) (n : Int) : (l.mark a status n) b p = l b p := by
  rw [mark, store_of_ne hn, store_of_ne hc]

@[simp] theorem integer_mark_detEnabled (l : ParamLists) (a b : ℕ) (status : ConnectionStatus)
    (n : Int) : (l.mark a status n).integer b .detEnabled = l.integer b .detEnabled := by
  rw [integer, integer, mark_of_ne (by decide) (by decide)]

end ParamLists

namespace SlsDetDriver

/-- The driver just constructed, its worker forgotten. -/
def Sync.new (hostName : Text) (id : Int) : Sync where
  core := { id := id, hostname := hostName }
  replies := []
  pending := 0
  caller := .idle
  called := []
  sent := []
  outcomes := []

end SlsDetDriver

namespace SyncSlsDet

variable (cfg : SlsDetConfig) (x : SyncSlsDet) (a : ℕ)

def isConnected : Bool :=
  x.params.integer a .connStatus == ConnectionStatus.connected.toInt

def disconnect : SyncSlsDet := { x with params := x.params.disconnect a }

/-- The address is in reach of its detector: connected, or enabled. -/
def Live : Prop := x.isConnected a = true ∨ x.params.integer a .detEnabled ≠ 0

/-- A detector was found online. -/
def connect : SyncSlsDet :=
  { x with
    params := x.params.connect a
    enums := (callbacksEnum a slsDetEnums x.enums).1
    callbacks := x.callbacks ++ (callbacksEnum a slsDetEnums x.enums).2 }

/-- The driver of an address is there: it was there before, or it was created. -/
def construct : SyncSlsDet :=
  if (x.dets a).isSome then x
  else
    { x with
      params := x.params.create a
      dets := Function.update x.dets a
        (some (SlsDetDriver.Sync.new (cfg.hostnames.getD a []) (cfg.id + a))) }

/-- What a read makes of an Ok reply, when `v` is what stands behind it. -/
def storeReply (r : Reason) (v : Option Value) : AsynStatus × SyncSlsDet :=
  match v with
  | none => (.error, x)
  | some v =>
    if v.type = .int64 ∧ ¬cfg.asyn.hasInt64 then (.error, x)
    else ((x.params.setParam a r v).1, { x with params := (x.params.setParam a r v).2 })

/-- What a read makes of a reply. -/
def takeRead (r : Reason) (rep : SlsDetMessage) (v : Option Value) : AsynStatus × SyncSlsDet :=
  match rep.mtype with
  | .ok => x.storeReply cfg a r v
  | .invalid => (.error, x)
  | .timeout => (.timeout, x.disconnect a)
  | _ => (.disconnected, x.disconnect a)

/-- What a write makes of a reply. -/
def takeWrite (rep : SlsDetMessage) : AsynStatus × SyncSlsDet :=
  match rep.mtype with
  | .ok => (if rep.dtype ≠ .none then .error else .success, x)
  | .failed => (.error, x)
  | .invalid => (.error, x)
  | .timeout => (.timeout, x.disconnect a)
  | _ => (.disconnected, x.disconnect a)

end SyncSlsDet

namespace SlsDet

/-! ### What a call is about -/

/-- The request a read is dispatched to. -/
def PortCall.read (c : PortCall) : Option MessageType :=
  match c.op with
  | .readInt32 => int32Read c.user.reason
  | .readFloat64 => float64Read c.user.reason
  | .readOctet _ _ => octetRead c.user.reason
  | _ => none

/-- The message a write is dispatched to. -/
def PortCall.write (c : PortCall) : Option SlsDetMessage :=
  match c.op with
  | .writeInt32 v => (int32Write c.user.reason).map fun t ↦ ⟨t, .int32 v⟩
  | .writeFloat64 v => (float64Write c.user.reason).map fun t ↦ ⟨t, .float64 v⟩
  | _ => none

/-- The value of a write. -/
def PortCall.value (c : PortCall) : Option Value :=
  match c.op with
  | .writeInt32 v => some (.int32 v)
  | .writeFloat64 v => some (.float64 v)
  | _ => none

/-- The value that enables or disables an address. -/
def PortCall.enables (c : PortCall) : Option Int :=
  match c.op with
  | .writeInt32 v => if c.user.reason = .param .detEnabled then some v else none
  | _ => none

/-- What a successful read returns, from the parameter. -/
def PortCall.get (c : PortCall) (l : ParamLists) (a : ℕ) : Result :=
  match c.op with
  | .readFloat64 => l.getParam a c.user.reason .float64
  | .readOctet maxChars buffer => octetResult buffer (l.getStringParam a c.user.reason maxChars)
  | _ => l.getParam a c.user.reason .int32

/-- What a read returns that is left to the base class; `none` if the call is not a read. -/
def PortCall.base (c : PortCall) (asyn : Asyn) (v : Option Value) : Option Result :=
  match c.op with
  | .readInt32 => some (asyn.readInt32 c.user.reason v)
  | .readFloat64 => some (asyn.readFloat64 c.user.reason v)
  | .readOctet maxChars buffer => some (asyn.readOctet c.user.reason v maxChars buffer)
  | _ => none

/-- **Reads of the detector are dispatched on parameters of their own**, of the type they return. -/
theorem PortCall.reason_of_read {c : PortCall} {mtype : MessageType} (h : c.read = some mtype) :
    ∃ p, c.user.reason = .param p ∧ p.IsControl = false := by
  rcases c with ⟨⟨r, addr⟩, op⟩
  cases op <;> first | cases h | skip
  all_goals
    rcases r with p | i
    · refine ⟨p, rfl, ?_⟩
      cases p <;> first | rfl | cases h
    · cases h

/-- The same for writes, and the value is of the parameter's type. -/
theorem PortCall.reason_of_write {c : PortCall} {m : SlsDetMessage} (h : c.write = some m) :
    ∃ p v, c.user.reason = .param p ∧ c.value = some v ∧ v.type = p.type ∧
      p.IsControl = false := by
  rcases c with ⟨⟨r, addr⟩, op⟩
  cases op <;> first | cases h | skip
  all_goals
    rcases r with p | i
    · refine ⟨p, _, rfl, rfl, ?_⟩
      cases p <;> first | exact ⟨rfl, rfl⟩ | cases h
    · cases h

/-- A call with a value to write is nothing else. -/
theorem PortCall.kind_of_value {c : PortCall} {v : Value} (h : c.value = some v) :
    (∀ made, c.op ≠ .connect made) ∧ c.op ≠ .disconnect ∧ c.read = none ∧
      ∀ asyn w, c.base asyn w = none := by
  rcases c with ⟨u, op⟩
  cases op with
  | writeInt32 v => exact ⟨fun _ h ↦ (nomatch h), fun h ↦ (nomatch h), rfl, fun _ _ ↦ rfl⟩
  | writeFloat64 v => exact ⟨fun _ h ↦ (nomatch h), fun h ↦ (nomatch h), rfl, fun _ _ ↦ rfl⟩
  | _ => cases h

/-! ### The ways a call can go -/

/-- A call takes the port from `x` to `x'` and returns `r`. Only where expiries are admitted
(`late`) can a request to a driver time out. -/
inductive Performed (lib : ℕ → Library) (late : Bool) (cfg : SlsDetConfig) (c : PortCall)
    (x : SyncSlsDet) : Result → SyncSlsDet → Prop
  /-- The address is out of range. -/
  | noAddress (ha : getAddress (size cfg) c.user = none) :
      Performed lib late cfg c x (.ofStatus .error) x
  /-- `connect` of an address that is not enabled. -/
  | disabled {a made} (ha : getAddress (size cfg) c.user = some a) (hop : c.op = .connect made)
      (hen : x.params.integer a .detEnabled = 0) :
      Performed lib late cfg c x (.ofStatus .disabled) x
  /-- The driver could not be created. -/
  | unmade {a} (ha : getAddress (size cfg) c.user = some a) (hop : c.op = .connect false)
      (hen : x.params.integer a .detEnabled ≠ 0) (hdet : x.dets a = none) :
      Performed lib late cfg c x (.ofStatus .disabled) x
  /-- The driver is there, and not disconnected. -/
  | already {a made} (ha : getAddress (size cfg) c.user = some a) (hop : c.op = .connect made)
      (hen : x.params.integer a .detEnabled ≠ 0) (hdet : (x.dets a).isSome)
      (hconn : x.params.integer a .connStatus ≠ 0) :
      Performed lib late cfg c x (.ofStatus .success) x
  /-- The driver was asked whether its detector is online. -/
  | checked {a made y rep z} (ha : getAddress (size cfg) c.user = some a)
      (hop : c.op = .connect made) (hen : x.params.integer a .detEnabled ≠ 0)
      (hmade : x.dets a = none → made = true) (hdet : (x.construct cfg a).dets a = some y)
      (hconn : (x.construct cfg a).params.integer a .connStatus = 0)
      (hreq : SlsDetDriver.Requested (lib a) late y (.ofType .checkOnline) rep z) :
      Performed lib late cfg c x (.ofStatus .success)
        (if rep.mtype = .ok then ((x.construct cfg a).setDet a z).connect a
          else (x.construct cfg a).setDet a z)
  /-- `disconnect`. -/
  | disconnected {a} (ha : getAddress (size cfg) c.user = some a) (hop : c.op = .disconnect) :
      Performed lib late cfg c x (.ofStatus .success) (x.disconnect a)
  /-- A read at an address that is not connected. -/
  | offline {a mtype} (ha : getAddress (size cfg) c.user = some a) (hread : c.read = some mtype)
      (hconn : x.isConnected a = false) : Performed lib late cfg c x (.ofStatus .disconnected) x
  /-- A read that asked the detector. -/
  | read {a mtype y rep z v status x'} (ha : getAddress (size cfg) c.user = some a)
      (hread : c.read = some mtype) (hconn : x.isConnected a = true) (hdet : x.dets a = some y)
      (hreq : SlsDetDriver.Requested (lib a) late y (.ofType mtype) rep z)
      (hv : z.pending = 0 → ∀ w, z.core.read rep = some w → v = some w)
      (htake : (x.setDet a z).takeRead cfg a c.user.reason rep v = (status, x')) :
      Performed lib late cfg c x
        (if status = .success then c.get x'.params a else .ofStatus status) x'
  /-- A read that is left to the base class. -/
  | readBase {a r} (ha : getAddress (size cfg) c.user = some a) (hread : c.read = none)
      (hbase : c.base cfg.asyn (x.params.stored a c.user.reason) = some r) :
      Performed lib late cfg c x r x
  /-- A write at an address that is not connected: the value is stored all the same. -/
  | unsent {a m p v} (ha : getAddress (size cfg) c.user = some a) (hwrite : c.write = some m)
      (hr : c.user.reason = .param p) (hp : p.IsControl = false) (hv : c.value = some v)
      (hconn : x.isConnected a = false) :
      Performed lib late cfg c x (.ofStatus .disconnected) { x with params := x.params.store a p v }
  /-- A write that reached the detector. -/
  | write {a m p v y rep z status x'} (ha : getAddress (size cfg) c.user = some a)
      (hwrite : c.write = some m) (hr : c.user.reason = .param p) (hp : p.IsControl = false)
      (hv : c.value = some v) (hconn : x.isConnected a = true) (hdet : x.dets a = some y)
      (hreq : SlsDetDriver.Requested (lib a) late y m rep z)
      (htake : ({ x with params := x.params.store a p v }.setDet a z).takeWrite a rep =
        (status, x')) :
      Performed lib late cfg c x (.ofStatus status) x'
  /-- Enabling or disabling the address. -/
  | enabled {a v} (ha : getAddress (size cfg) c.user = some a) (henables : c.enables = some v) :
      Performed lib late cfg c x (.ofStatus .success)
        (if v = off ∧ x.isConnected a then
          { x with params := x.params.store a .detEnabled (.int32 v) }.disconnect a
          else { x with params := x.params.store a .detEnabled (.int32 v) })
  /-- A write that is left to the base class. -/
  | writeBase {a v} (ha : getAddress (size cfg) c.user = some a) (hwrite : c.write = none)
      (henables : c.enables = none) (hv : c.value = some v) :
      Performed lib late cfg c x (.ofStatus (x.params.setParam a c.user.reason v).1)
        { x with params := (x.params.setParam a c.user.reason v).2 }

/-! ### The programs do nothing else -/

variable {lib : ℕ → Library} {late : Bool} {cfg : SlsDetConfig} {P : DetRequest → SlsDet → Prop}
  {s : SlsDet} {a : ℕ} {u : AsynUser} {c : PortCall}

variable (lib) in
/-- `P` admits the requests of a call at `a` made in `s`: they are to the driver there, other
drivers are not concerned, and the driver is there, unless the address passes for connected without
one. -/
def Asks (P : DetRequest → SlsDet → Prop) (s : SlsDet) (a : ℕ) : Prop :=
  ∀ i t, i.addr = a → (∀ b, b ≠ a → (sync lib t).dets b = (sync lib s).dets b) →
    (t.dets a).isSome ∨ (sync lib s).isConnected a = true ∧ t.dets a = s.dets a → P i t

theorem Asks.of_isSome {t : SlsDet} (h : Asks lib P s a)
    (ht : ∀ b, b ≠ a → (sync lib t).dets b = (sync lib s).dets b) (hsome : (t.dets a).isSome) :
    Asks lib P t a := by
  intro i u hi hu hdet
  refine h i u hi (fun b hb ↦ (hu b hb).trans (ht b hb)) (Or.inl ?_)
  rcases hdet with hdet | ⟨-, hdet⟩
  · exact hdet
  · rwa [hdet]

theorem isSome_dets {z : SlsDetDriver.Sync} (h : (sync lib s).dets a = some z) :
    (s.dets a).isSome := by
  obtain ⟨d, hd, -⟩ := Option.map_eq_some_iff.1 h
  rw [hd]
  rfl

/-- Nothing but the drivers matters between requests. -/
theorem Ready.of_dets {t : SlsDet} (h : s.Ready) (hdets : t.dets = s.dets) : t.Ready :=
  ⟨fun b d hd ↦ h.operating b d (hdets ▸ hd), fun b d hd ↦ h.idle b d (hdets ▸ hd)⟩

section Rules

variable {α : Type} {Q : α → SlsDet → Prop}

/-- The rule for requests. -/
theorem sat_request {m : SlsDetMessage}
    {k : SlsDetMessage → SlsDet → Resumption SlsDet DetRequest.Reply α} (hready : s.Ready)
    (hP : Asks lib P s a) (hdet : (s.dets a).isSome ∨ (sync lib s).isConnected a = true)
    (h : ∀ rep t y z, t.Ready → (sync lib s).dets a = some y →
      SlsDetDriver.Requested (lib a) late y m rep z → sync lib t = (sync lib s).setDet a z →
      (k rep t).Sat (Issued P) (Answered lib late) Q) :
    ((request a m s).bind k).Sat (Issued P) (Answered lib late) Q :=
  ⟨⟨hready, hP _ s rfl (fun _ _ ↦ rfl) (hdet.imp_right fun hconn ↦ ⟨hconn, rfl⟩), trivial⟩,
    fun rep t ⟨ht, y, z, hy, hreq, hsync⟩ ↦ h rep t y z ht hy hreq hsync⟩

/-- The rule for looks. -/
theorem sat_inspect {rep : SlsDetMessage}
    {k : Option Text → SlsDet → Resumption SlsDet DetRequest.Reply α} (hready : s.Ready)
    (hP : Asks lib P s a) (hdet : (s.dets a).isSome)
    (htimely : ∀ d, s.dets a = some d → d.Timely rep)
    (h : ∀ t d, t.Ready → sync lib t = sync lib s → t.dets a = some d →
      (k (SlsDetDriver.textOf d.core rep) t).Sat (Issued P) (Answered lib late) Q) :
    ((inspect a rep s).bind k).Sat (Issued P) (Answered lib late) Q := by
  refine ⟨⟨hready, hP _ s rfl (fun _ _ ↦ rfl) (Or.inl hdet), htimely⟩, ?_⟩
  rintro text t ⟨ht, hsync, d, hd, rfl⟩
  exact h t d ht hsync hd

/-- What was just returned may be looked at. -/
theorem timely_of_requested {t : SlsDet} {m rep : SlsDetMessage} {y z : SlsDetDriver.Sync}
    (hz : (sync lib t).dets a = some z)
    (hreq : SlsDetDriver.Requested (lib a) late y m rep z) :
    ∀ d, t.dets a = some d → d.Timely rep := by
  intro d hd hstr
  rw [sync_dets hd] at hz
  obtain rfl := Option.some.inj hz
  exact hreq.timely hstr

/-- A request whose reply is then dumped. -/
theorem sat_exchange {m : SlsDetMessage}
    {k : SlsDetMessage → SlsDet → Resumption SlsDet DetRequest.Reply α} (hready : s.Ready)
    (hP : Asks lib P s a) (hdet : (s.dets a).isSome ∨ (sync lib s).isConnected a = true)
    (h : ∀ rep t y z, t.Ready → (sync lib s).dets a = some y →
      SlsDetDriver.Requested (lib a) late y m rep z → sync lib t = (sync lib s).setDet a z →
      (k rep t).Sat (Issued P) (Answered lib late) Q) :
    ((request a m s).bind fun rep t ↦ (inspect a rep t).bind fun _ t ↦ k rep t).Sat
      (Issued P) (Answered lib late) Q := by
  refine sat_request hready hP hdet fun rep t y z ht hy hreq hsync ↦ ?_
  have hother : ∀ b, b ≠ a → (sync lib t).dets b = (sync lib s).dets b := by
    intro b hb
    rw [hsync, SyncSlsDet.dets_setDet_of_ne _ hb]
  have hz : (sync lib t).dets a = some z := by rw [hsync, SyncSlsDet.dets_setDet_same]
  have hsome := isSome_dets hz
  exact sat_inspect ht (hP.of_isSome hother hsome) hsome (timely_of_requested hz hreq)
    fun t' d ht' hsync' _ ↦ h rep t' y z ht' hy hreq (hsync'.trans hsync)

/-- The rule for calls that return a status only. -/
theorem sat_statusOnly {x : Prog AsynStatus} {Q : Result → SlsDet → Prop}
    (h : (x s).Sat (Issued P) (Answered lib late) fun status t ↦ Q (.ofStatus status) t) :
    (statusOnly x s).Sat (Issued P) (Answered lib late) Q :=
  h.bind fun _ _ hQ ↦ hQ

end Rules

/-! ### Disconnecting -/

theorem uninitializeDet_apply (ha : getAddress (size cfg) u = some a) (s : SlsDet) :
    uninitializeDet cfg u s = .done .success { s with params := s.params.disconnect a } := by
  rw [uninitializeDet, ha]
  have hnumDet : (s.params.store a .connStatus
      (.int32 ConnectionStatus.disconnected.toInt)).integer 0 .numDet =
        s.params.integer 0 .numDet :=
    ParamLists.integer_store_of_ne (by decide) _ _
  rw [ParamLists.disconnect, ParamLists.mark, ← hnumDet]
  rfl

/-- Disconnecting on the way to a status. -/
theorem sat_drop {status : AsynStatus} {Q : AsynStatus → SlsDet → Prop}
    (ha : getAddress (size cfg) u = some a)
    (h : Q status { s with params := s.params.disconnect a }) :
    (((do let _ ← uninitializeDet cfg u; pure status) : Prog AsynStatus) s).Sat (Issued P)
      (Answered lib late) Q := by
  show ((uninitializeDet cfg u s).bind _).Sat _ _ _
  rw [uninitializeDet_apply ha]
  exact h

/-! ### Connecting -/

/-- The port after the creation of a driver. -/
theorem ready_construct (h : s.Ready) (hostName : Text) (id : Int) (l : ParamLists) :
    Ready { s.setDet a (SlsDetDriver.new hostName id) with params := l } := by
  constructor
  · intro b d hd
    rcases dets_setDet hd with ⟨-, rfl⟩ | ⟨-, hd⟩
    · exact SlsDetDriver.operating_new hostName id
    · exact h.operating b d hd
  · intro b d hd
    rcases dets_setDet hd with ⟨-, rfl⟩ | ⟨-, hd⟩
    · rfl
    · exact h.idle b d hd

theorem sync_construct (hnone : s.dets a = none) :
    sync lib { s.setDet a (SlsDetDriver.new (cfg.hostnames.getD a []) (cfg.id + a)) with
      params := s.params.create a } = (sync lib s).construct cfg a := by
  have hsync : sync lib (s.setDet a _) = _ :=
    sync_setDet s a (SlsDetDriver.new (cfg.hostnames.getD a []) (cfg.id + a))
  have hdets : (sync lib s).dets a = none := by
    show (s.dets a).map _ = none
    rw [hnone]
    rfl
  rw [SyncSlsDet.construct, hdets, if_neg (by decide)]
  exact congrArg (fun x : SyncSlsDet ↦ { x with params := s.params.create a }) hsync

theorem construct_of_isSome {made : Bool} (h : (s.dets a).isSome) :
    construct cfg a made s = .done .success s := by
  show (if (s.dets a).isSome = true then _ else _ : Prog AsynStatus) s = _
  rw [if_pos h]
  rfl

theorem construct_of_none {made : Bool} (h : s.dets a = none) : construct cfg a made s =
    if made then
      .done .success { s.setDet a (SlsDetDriver.new (cfg.hostnames.getD a []) (cfg.id + a)) with
        params := s.params.create a }
    else .done .disabled s := by
  show (if (s.dets a).isSome = true then _ else _ : Prog AsynStatus) s = _
  rw [h, if_neg (by decide)]
  cases made <;> rfl

/-- The program of `initialize` once the driver is there. -/
theorem sat_checkOnline {Q : Unit → SlsDet → Prop} (hready : s.Ready) (hP : Asks lib P s a)
    (hdet : (s.dets a).isSome) (hconn : s.params.integer a .connStatus ≠ 0 → Q () s)
    (hreply : s.params.integer a .connStatus = 0 → ∀ t rep y z, t.Ready →
      (sync lib s).dets a = some y →
      SlsDetDriver.Requested (lib a) late y (.ofType .checkOnline) rep z →
      sync lib t = (if rep.mtype = .ok then ((sync lib s).setDet a z).connect a
        else (sync lib s).setDet a z) → Q () t) :
    (checkOnline a s).Sat (Issued P) (Answered lib late) Q := by
  show ((if s.params.integer a .connStatus = 0 then _ else _ : Prog Unit) s).Sat _ _ _
  split
  case isFalse hne => exact hconn hne
  case isTrue hzero =>
    refine sat_request hready hP (Or.inl hdet) fun rep t y z ht hy hreq hsync ↦ ?_
    show ((if rep.mtype = .ok then _ else _ : Prog Unit) t).Sat _ _ _
    split
    case isFalse hne =>
      refine hreply hzero t rep y z ht hy hreq ?_
      rw [if_neg hne, hsync]
    case isTrue hok =>
      have hparams : s.params = t.params := (congrArg SyncSlsDet.params hsync).symm
      refine hreply hzero _ rep y z (ht.of_dets rfl) hy hreq ?_
      rw [if_pos hok, ← hsync]
      beta_reduce
      rw [hparams]
      rfl

/-- `initialize`. -/
theorem sat_initializeDet {made : Bool} {Q : AsynStatus → SlsDet → Prop}
    (ha : getAddress (size cfg) u = some a) (hready : s.Ready)
    (hP : s.params.integer a .detEnabled ≠ 0 → Asks lib P s a)
    (hdisabled : s.params.integer a .detEnabled = 0 → Q .disabled s)
    (hunmade : s.params.integer a .detEnabled ≠ 0 → (sync lib s).dets a = none → made = false →
      Q .disabled s)
    (halready : s.params.integer a .detEnabled ≠ 0 → ((sync lib s).dets a).isSome →
      s.params.integer a .connStatus ≠ 0 → Q .success s)
    (hchecked : s.params.integer a .detEnabled ≠ 0 → ((sync lib s).dets a = none → made = true) →
      ((sync lib s).construct cfg a).params.integer a .connStatus = 0 → ∀ t rep y z, t.Ready →
      ((sync lib s).construct cfg a).dets a = some y →
      SlsDetDriver.Requested (lib a) late y (.ofType .checkOnline) rep z →
      sync lib t = (if rep.mtype = .ok then
        (((sync lib s).construct cfg a).setDet a z).connect a
        else ((sync lib s).construct cfg a).setDet a z) → Q .success t) :
    (initializeDet cfg u made s).Sat (Issued P) (Answered lib late) Q := by
  rw [initializeDet, ha]
  show ((if s.params.integer a .detEnabled = 0 then _ else _ : Prog AsynStatus) s).Sat _ _ _
  split
  case isTrue hen => exact hdisabled hen
  case isFalse hen =>
    -- what is left to do once there is a driver, whatever the state
    have hrest : ∀ t, t.Ready → Asks lib P t a → (t.dets a).isSome →
        (t.params.integer a .connStatus ≠ 0 → Q .success t) →
        (t.params.integer a .connStatus = 0 → ∀ t' rep y z, t'.Ready →
          (sync lib t).dets a = some y →
          SlsDetDriver.Requested (lib a) late y (.ofType .checkOnline) rep z →
          sync lib t' = (if rep.mtype = .ok then ((sync lib t).setDet a z).connect a
            else (sync lib t).setDet a z) → Q .success t') →
        (((do
          if ← Proc.gets fun s ↦ (s.dets a).isSome then do
            checkOnline a
            pure .success
          else if AsynStatus.success = .success then
            pure .disabled
          else
            pure .success) : Prog AsynStatus) t).Sat (Issued P) (Answered lib late) Q := by
      intro t ht hPt hsome hconn hreply
      show ((if (t.dets a).isSome = true then _ else _ : Prog AsynStatus) t).Sat _ _ _
      rw [if_pos hsome]
      have hcheck := sat_checkOnline (Q := fun _ t ↦ Q .success t) ht hPt hsome hconn hreply
      exact hcheck.bind fun _ _ hQ ↦ hQ
    show ((construct cfg a made s).bind _).Sat _ _ _
    rcases hdet : s.dets a with - | d
    case some =>
      have hsync : (sync lib s).dets a = some (SlsDetDriver.sync (lib a) d) := sync_dets hdet
      have hsome : (s.dets a).isSome := by rw [hdet]; rfl
      have hsame : (sync lib s).construct cfg a = sync lib s := if_pos (by rw [hsync]; rfl)
      rw [hsame] at hchecked
      rw [construct_of_isSome hsome]
      exact hrest s hready (hP hen) hsome (halready hen (by rw [hsync]; rfl))
        (hchecked hen fun h ↦ (nomatch hsync.symm.trans h))
    case none =>
      have hsync : (sync lib s).dets a = none := Option.map_eq_none_iff.2 hdet
      rw [construct_of_none hdet]
      cases made with
      | false =>
        show ((if (s.dets a).isSome = true then _ else _ : Prog AsynStatus) s).Sat _ _ _
        rw [hdet]
        exact hunmade hen hsync rfl
      | true =>
        rw [if_pos rfl]
        have hother : ∀ b, b ≠ a → ((sync lib s).construct cfg a).dets b = (sync lib s).dets b := by
          intro b hb
          rw [SyncSlsDet.construct, hsync, if_neg (by decide)]
          exact Function.update_of_ne hb _ _
        rw [← sync_construct hdet] at hchecked hother
        have hsome : ((s.setDet a (SlsDetDriver.new (cfg.hostnames.getD a [])
            (cfg.id + a))).dets a).isSome :=
          Option.isSome_iff_exists.2 ⟨_, Function.update_self _ _ _⟩
        refine hrest _ (ready_construct hready _ _ _) ((hP hen).of_isSome hother hsome) hsome
          (fun hne ↦ (hne ?_).elim) (hchecked hen fun _ ↦ rfl)
        · show (s.params.create a).integer a .connStatus = 0
          rw [ParamLists.create, ParamLists.integer_mark_connStatus, if_pos rfl]
          rfl

/-! ### Requests to the detector -/

/-- What stands behind the reply of a driver at rest is what the caller finds there. -/
theorem read_of_textOf {d : SlsDetDriver} {rep : SlsDetMessage} {pgp : Option ℕ} {w : Value}
    (hd : d.Operating) (hzero : (SlsDetDriver.sync (lib a) d).pending = 0)
    (hrep : rep.data = .string pgp)
    (hread : (SlsDetDriver.sync (lib a) d).core.read rep = some w) :
    some (.octet ((SlsDetDriver.textOf d.core rep).getD [])) = some w := by
  have hcore : (SlsDetDriver.sync (lib a) d).core = d.core :=
    (hd.correlated.conserved.at_rest hzero).2.2.2.1
  rw [hcore, Core.read, hrep] at hread
  obtain ⟨t, ht, rfl⟩ := Option.map_eq_some_iff.1 hread
  rw [SlsDetDriver.textOf, hrep]
  dsimp only
  rw [ht]
  rfl

/-- Setting a parameter, seen from the port. -/
theorem sat_setParam {r : Reason} {v : Value} {Q : AsynStatus → SlsDet → Prop} (hready : s.Ready)
    (h : ∀ t, t.Ready → sync lib t = { sync lib s with params := (s.params.setParam a r v).2 } →
      Q (s.params.setParam a r v).1 t) :
    (setParam a r v s).Sat (Issued P) (Answered lib late) Q :=
  h { s with params := (s.params.setParam a r v).2 } (hready.of_dets rfl) rfl

theorem sat_storeReply {rep : SlsDetMessage} {z : SlsDetDriver.Sync}
    {Q : AsynStatus → SlsDet → Prop} (hready : s.Ready) (hP : Asks lib P s a)
    (hz : (sync lib s).dets a = some z) (htimely : ∀ d, s.dets a = some d → d.Timely rep)
    (h : ∀ status t v, t.Ready →
      (z.pending = 0 → ∀ w, z.core.read rep = some w → v = some w) →
      (sync lib s).storeReply cfg a u.reason v = (status, sync lib t) → Q status t) :
    (storeReply cfg u a rep s).Sat (Issued P) (Answered lib late) Q := by
  -- a value that is in the message itself
  have hvalue : ∀ w, z.core.read rep = some w → (w.type = .int64 → cfg.asyn.hasInt64 = true) →
      (setParam a u.reason w s).Sat (Issued P) (Answered lib late) Q := by
    intro w hread hint
    refine sat_setParam hready fun t ht hsync ↦ h _ t (some w) ht ?_ ?_
    · exact fun _ w' hw' ↦ hread ▸ hw'
    · rw [SyncSlsDet.storeReply, if_neg fun hn ↦ hn.2 (hint hn.1), hsync]
      rfl
  rw [storeReply]
  cases hv : rep.data with
  | int32 v => exact hvalue (.int32 v) (by rw [Core.read, hv]) fun ht ↦ (nomatch ht)
  | int64 v =>
    have hread : z.core.read rep = some (.int64 v) := by rw [Core.read, hv]
    show ((if cfg.asyn.hasInt64 = true then _ else _ : Prog AsynStatus) s).Sat _ _ _
    split
    case isTrue hint => exact hvalue (.int64 v) hread fun _ ↦ hint
    case isFalse hint =>
      refine h .error s (some (.int64 v)) hready (fun _ w hw ↦ hread ▸ hw) ?_
      rw [SyncSlsDet.storeReply, if_pos ⟨rfl, hint⟩]
  | float64 v => exact hvalue (.float64 v) (by rw [Core.read, hv]) fun ht ↦ (nomatch ht)
  | string pgp =>
    refine sat_inspect hready hP (isSome_dets hz) htimely fun t d ht hsync hd ↦ ?_
    have hsyncz : SlsDetDriver.sync (lib a) d = z := by
      have hdets : (sync lib t).dets a = _ := sync_dets hd
      rw [hsync, hz] at hdets
      exact (Option.some.inj hdets).symm
    refine sat_setParam ht fun t' ht' hsync' ↦
      h _ t' (some (.octet ((SlsDetDriver.textOf d.core rep).getD []))) ht' ?_ ?_
    · intro hzero w hw
      rw [← hsyncz] at hzero hw
      exact read_of_textOf (ht.operating a d hd) hzero hv hw
    · have hparams : t.params = s.params := congrArg SyncSlsDet.params hsync
      rw [SyncSlsDet.storeReply, if_neg fun hn ↦ (nomatch hn.1), hsync', hsync, hparams]
      rfl
  | none =>
    refine h .error s none hready (fun _ w hw ↦ ?_) rfl
    rw [Core.read, hv] at hw
    cases hw

theorem sat_takeReadReply {rep : SlsDetMessage} {z : SlsDetDriver.Sync}
    {Q : AsynStatus → SlsDet → Prop} (ha : getAddress (size cfg) u = some a) (hready : s.Ready)
    (hP : Asks lib P s a) (hz : (sync lib s).dets a = some z)
    (htimely : ∀ d, s.dets a = some d → d.Timely rep)
    (h : ∀ status t v, t.Ready →
      (z.pending = 0 → ∀ w, z.core.read rep = some w → v = some w) →
      (sync lib s).takeRead cfg a u.reason rep v = (status, sync lib t) → Q status t) :
    (takeReadReply cfg u a rep s).Sat (Issued P) (Answered lib late) Q := by
  have hdrop : ∀ status, (∀ v, (sync lib s).takeRead cfg a u.reason rep v =
      (status, (sync lib s).disconnect a)) →
      (((do let _ ← uninitializeDet cfg u; pure status) : Prog AsynStatus) s).Sat (Issued P)
        (Answered lib late) Q :=
    fun status htake ↦ sat_drop ha (h status _ _ (hready.of_dets rfl) (fun _ _ hw ↦ hw) (htake _))
  rw [takeReadReply]
  simp only [SyncSlsDet.takeRead] at h hdrop
  revert h hdrop
  cases rep.mtype <;> intro h hdrop
  case ok => exact sat_storeReply hready hP hz htimely h
  case invalid => exact h .error s _ hready (fun _ _ hw ↦ hw) rfl
  case timeout => exact hdrop .timeout fun _ ↦ rfl
  all_goals exact hdrop .disconnected fun _ ↦ rfl

theorem sat_takeWriteReply {rep : SlsDetMessage} {Q : AsynStatus → SlsDet → Prop}
    (ha : getAddress (size cfg) u = some a) (hready : s.Ready)
    (h : ∀ status t, t.Ready → (sync lib s).takeWrite a rep = (status, sync lib t) → Q status t) :
    (takeWriteReply cfg u rep s).Sat (Issued P) (Answered lib late) Q := by
  have hdrop : ∀ status, (sync lib s).takeWrite a rep = (status, (sync lib s).disconnect a) →
      (((do let _ ← uninitializeDet cfg u; pure status) : Prog AsynStatus) s).Sat (Issued P)
        (Answered lib late) Q :=
    fun status htake ↦ sat_drop ha (h status _ (hready.of_dets rfl) htake)
  rw [takeWriteReply]
  simp only [SyncSlsDet.takeWrite] at h hdrop
  revert h hdrop
  cases rep.mtype <;> intro h hdrop
  case ok =>
    show ((if rep.dtype ≠ .none then _ else _ : Prog AsynStatus) s).Sat _ _ _
    split
    case isTrue hne => exact h .error s hready (by rw [if_pos hne])
    case isFalse heq => exact h .success s hready (by rw [if_neg heq])
  case failed => exact h .error s hready rfl
  case invalid => exact h .error s hready rfl
  case timeout => exact hdrop .timeout rfl
  all_goals exact hdrop .disconnected rfl

/-- `readDetector`. -/
theorem sat_readDetector {mtype : MessageType} {Q : AsynStatus → SlsDet → Prop}
    (ha : getAddress (size cfg) u = some a) (hready : s.Ready)
    (hP : (sync lib s).isConnected a = true → Asks lib P s a)
    (hoffline : (sync lib s).isConnected a = false → Q .disconnected s)
    (h : (sync lib s).isConnected a = true → ∀ status t y rep z v, t.Ready →
      (sync lib s).dets a = some y →
      SlsDetDriver.Requested (lib a) late y (.ofType mtype) rep z →
      (z.pending = 0 → ∀ w, z.core.read rep = some w → v = some w) →
      ((sync lib s).setDet a z).takeRead cfg a u.reason rep v = (status, sync lib t) →
      Q status t) :
    (readDetector cfg u mtype s).Sat (Issued P) (Answered lib late) Q := by
  rw [readDetector, ha]
  show ((if (sync lib s).isConnected a = true then _ else _ : Prog AsynStatus) s).Sat _ _ _
  split
  case isFalse hconn => exact hoffline (Bool.eq_false_iff.2 hconn)
  case isTrue hconn =>
    refine sat_exchange hready (hP hconn) (Or.inr hconn) fun rep t y z ht hy hreq hsync ↦ ?_
    have hz : (sync lib t).dets a = some z := by rw [hsync, SyncSlsDet.dets_setDet_same]
    have hother : ∀ b, b ≠ a → (sync lib t).dets b = (sync lib s).dets b := by
      intro b hb
      rw [hsync, SyncSlsDet.dets_setDet_of_ne _ hb]
    refine sat_takeReadReply ha ht ((hP hconn).of_isSome hother (isSome_dets hz)) hz
      (timely_of_requested hz hreq)
      fun status t' v ht' hv htake ↦ h hconn status t' y rep z v ht' hy hreq hv ?_
    rw [← hsync, htake]

/-- `writeDetector`. -/
theorem sat_writeDetector {m : SlsDetMessage} {Q : AsynStatus → SlsDet → Prop}
    (ha : getAddress (size cfg) u = some a) (hready : s.Ready)
    (hP : (sync lib s).isConnected a = true → Asks lib P s a)
    (hoffline : (sync lib s).isConnected a = false → Q .disconnected s)
    (h : (sync lib s).isConnected a = true → ∀ status t y rep z, t.Ready →
      (sync lib s).dets a = some y → SlsDetDriver.Requested (lib a) late y m rep z →
      ((sync lib s).setDet a z).takeWrite a rep = (status, sync lib t) → Q status t) :
    (writeDetector cfg u m s).Sat (Issued P) (Answered lib late) Q := by
  rw [writeDetector, ha]
  show ((if (sync lib s).isConnected a = true then _ else _ : Prog AsynStatus) s).Sat _ _ _
  split
  case isFalse hconn => exact hoffline (Bool.eq_false_iff.2 hconn)
  case isTrue hconn =>
    refine sat_exchange hready (hP hconn) (Or.inr hconn) fun rep t y z ht hy hreq hsync ↦ ?_
    refine sat_takeWriteReply ha ht fun status t' ht' htake ↦
      h hconn status t' y rep z ht' hy hreq ?_
    rw [← hsync, htake]

/-! ### Whole calls -/

variable (lib) (late) (cfg) in
/-- A program for the call `c`, run in `s`, goes in one of the ways listed. -/
def Conforms (P : DetRequest → SlsDet → Prop) (c : PortCall) (s : SlsDet) (x : Prog Result) :
    Prop :=
  (x s).Sat (Issued P) (Answered lib late) fun r t ↦
    t.Ready ∧ Performed lib late cfg c (sync lib s) r (sync lib t)

/-- The reads. -/
theorem conforms_readParam {dispatch : Reason → Option MessageType}
    {get : ParamLists → ℕ → Result} {base : Option Value → Result} (hready : s.Ready)
    (hP : ∀ a, getAddress (size cfg) c.user = some a → (sync lib s).Live a → Asks lib P s a)
    (hread : c.read = dispatch c.user.reason) (hget : ∀ l a, c.get l a = get l a)
    (hbase : ∀ v, c.base cfg.asyn v = some (base v)) :
    Conforms lib late cfg P c s (readParam cfg c.user dispatch get base) := by
  rw [Conforms, readParam]
  rcases ha : getAddress (size cfg) c.user with - | a
  · exact ⟨hready, .noAddress ha⟩
  rcases hd : dispatch c.user.reason with - | mtype
  · exact ⟨hready, .readBase ha (hread.trans hd) (hbase _)⟩
  have hdet : (readDetector cfg c.user mtype s).Sat (Issued P) (Answered lib late) fun status t ↦
      t.Ready ∧ Performed lib late cfg c (sync lib s)
        (if status = .success then c.get t.params a else .ofStatus status) (sync lib t) :=
    sat_readDetector ha hready (fun hconn ↦ hP a ha (Or.inl hconn))
      (fun hconn ↦ ⟨hready, .offline ha (hread.trans hd) hconn⟩)
      fun hconn status t y rep z v ht hy hreq hv htake ↦
        ⟨ht, .read ha (hread.trans hd) hconn hy hreq hv htake⟩
  refine hdet.bind fun status t hQ ↦ ?_
  show ((if status = .success then _ else _ : Prog Result) t).Sat _ _ _
  split
  case isTrue hs =>
    rw [if_pos hs, hget] at hQ
    exact hQ
  case isFalse hs =>
    rw [if_neg hs] at hQ
    exact hQ

/-- The writes that are dispatched to the detector. -/
theorem conforms_writeDetectorValue {m : SlsDetMessage} {v : Value} (hready : s.Ready)
    (ha : getAddress (size cfg) c.user = some a)
    (hP : (sync lib s).Live a → Asks lib P s a) (hwrite : c.write = some m)
    (hv : c.value = some v) :
    Conforms lib late cfg P c s (statusOnly (writeDetectorValue cfg c.user v m)) := by
  obtain ⟨p, v', hr, hv', htype, hp⟩ := PortCall.reason_of_write hwrite
  obtain rfl := Option.some.inj (hv.symm.trans hv')
  have hset := ParamLists.setParam_of_type (l := s.params) (a := a) htype
  refine sat_statusOnly ?_
  rw [writeDetectorValue, ha]
  refine Resumption.Sat.bind (P := fun status t ↦ status = .success ∧ t.Ready ∧
    t.dets = s.dets ∧ sync lib t = { sync lib s with params := s.params.store a p v }) ?_ ?_
  · rw [hr]
    refine ⟨congrArg Prod.fst hset, hready.of_dets rfl, rfl, ?_⟩
    exact congrArg (fun l ↦ ({ sync lib s with params := l } : SyncSlsDet)) (congrArg Prod.snd hset)
  rintro status t ⟨rfl, ht, hdets, hsync⟩
  have hconn : (sync lib t).isConnected a = (sync lib s).isConnected a := by
    rw [hsync, SyncSlsDet.isConnected, SyncSlsDet.isConnected]
    refine congrArg (· == _) (ParamLists.integer_store_of_ne (fun heq ↦ ?_) _ _)
    rw [← heq] at hp
    cases hp
  show ((if AsynStatus.success = .success then _ else _ : Prog AsynStatus) t).Sat _ _ _
  rw [if_pos rfl]
  refine sat_writeDetector ha ht (fun h ↦ ?_) (fun h ↦ ?_)
    fun h status t' y rep z ht' hy hreq htake ↦ ?_
  · have hasks := hP (Or.inl (hconn ▸ h))
    intro i u hi hu hdet
    refine hasks i u hi (fun b hb ↦ ?_) ?_
    · rw [hu b hb, hsync]
    · rw [hconn] at hdet
      exact hdet.imp_right fun hdet ↦ ⟨hdet.1, hdet.2.trans (congrFun hdets a)⟩
  · refine ⟨ht, ?_⟩
    rw [hsync]
    exact .unsent ha hwrite hr hp hv (hconn ▸ h)
  · rw [hsync] at hy htake
    exact ⟨ht', .write ha hwrite hr hp hv (hconn ▸ h) hy hreq htake⟩

/-- Enabling and disabling. -/
theorem conforms_writeEnabled {value : Int} (hready : s.Ready)
    (ha : getAddress (size cfg) c.user = some a) (henables : c.enables = some value)
    (hr : c.user.reason = .param .detEnabled) :
    Conforms lib late cfg P c s (statusOnly (writeEnabled cfg c.user a value)) := by
  have hset : s.params.setParam a (.param .detEnabled) (.int32 value) =
      (.success, s.params.store a .detEnabled (.int32 value)) := ParamLists.setParam_of_type rfl
  refine sat_statusOnly ?_
  rw [writeEnabled, hr]
  refine Resumption.Sat.bind (P := fun _ t ↦ t.Ready ∧
    sync lib t = { sync lib s with params := s.params.store a .detEnabled (.int32 value) }) ?_ ?_
  · refine sat_setParam hready fun t ht hsync ↦ ⟨ht, ?_⟩
    rw [hsync, hset]
  rintro - t ⟨ht, hsync⟩
  have hparams : t.params = s.params.store a .detEnabled (.int32 value) :=
    congrArg SyncSlsDet.params hsync
  have hconn : t.isConnected a = (sync lib s).isConnected a := by
    rw [isConnected, hparams]
    exact congrArg (· == _) (ParamLists.integer_store_of_ne (by decide) _ _)
  have hend : Performed lib late cfg c (sync lib s) _ _ := .enabled ha henables
  show ((if value = off ∧ t.isConnected a = true then _ else _ : Prog AsynStatus) t).Sat _ _ _
  rw [hconn]
  split
  case isTrue hoff =>
    refine sat_drop ha ⟨ht.of_dets rfl, ?_⟩
    rw [if_pos hoff] at hend
    have hdrop : sync lib { t with params := t.params.disconnect a } =
        SyncSlsDet.disconnect { sync lib s with
          params := s.params.store a .detEnabled (.int32 value) } a := by
      rw [← hsync]
      rfl
    rw [hdrop]
    exact hend
  case isFalse hoff =>
    rw [if_neg hoff] at hend
    refine ⟨ht, ?_⟩
    rw [hsync]
    exact hend

/-- A write that is left to the base class. -/
theorem conforms_setParam {v : Value} (hready : s.Ready)
    (ha : getAddress (size cfg) c.user = some a) (hwrite : c.write = none)
    (henables : c.enables = none) (hv : c.value = some v) :
    Conforms lib late cfg P c s (statusOnly (setParam a c.user.reason v)) := by
  refine sat_statusOnly (sat_setParam hready fun t ht hsync ↦ ⟨ht, ?_⟩)
  rw [hsync]
  exact .writeBase ha hwrite henables hv

theorem conforms_writeInt32 {addr : Int} {r : Reason} {value : Int} (hready : s.Ready)
    (hP : ∀ a, getAddress (size cfg) ⟨r, addr⟩ = some a → (sync lib s).Live a → Asks lib P s a) :
    Conforms lib late cfg P ⟨⟨r, addr⟩, .writeInt32 value⟩ s
      (statusOnly (writeInt32 cfg ⟨r, addr⟩ value)) := by
  rw [writeInt32]
  rcases ha : getAddress (size cfg) ⟨r, addr⟩ with - | a
  · exact ⟨hready, .noAddress ha⟩
  dsimp only
  split
  case h_1 t ht =>
    exact conforms_writeDetectorValue hready ha (hP a ha) (congrArg (Option.map _) ht) rfl
  case h_2 hnone =>
    split
    case isTrue hr => exact conforms_writeEnabled hready ha (if_pos hr) hr
    case isFalse hr =>
      exact conforms_setParam hready ha (congrArg (Option.map _) hnone) (if_neg hr) rfl

theorem conforms_writeFloat64 {addr : Int} {r : Reason} {value : ℚ} (hready : s.Ready)
    (hP : ∀ a, getAddress (size cfg) ⟨r, addr⟩ = some a → (sync lib s).Live a → Asks lib P s a) :
    Conforms lib late cfg P ⟨⟨r, addr⟩, .writeFloat64 value⟩ s
      (statusOnly (writeFloat64 cfg ⟨r, addr⟩ value)) := by
  rw [writeFloat64]
  rcases ha : getAddress (size cfg) ⟨r, addr⟩ with - | a
  · exact ⟨hready, .noAddress ha⟩
  dsimp only
  split
  case h_1 t ht =>
    exact conforms_writeDetectorValue hready ha (hP a ha) (congrArg (Option.map _) ht) rfl
  case h_2 hnone =>
    exact conforms_setParam hready ha (congrArg (Option.map _) hnone) rfl rfl

theorem conforms_connect {made : Bool} (hready : s.Ready)
    (hP : ∀ a, getAddress (size cfg) u = some a → (sync lib s).Live a → Asks lib P s a) :
    Conforms lib late cfg P ⟨u, .connect made⟩ s (statusOnly (initializeDet cfg u made)) := by
  refine sat_statusOnly ?_
  rcases ha : getAddress (size cfg) u with - | a
  · rw [initializeDet, ha]
    exact ⟨hready, .noAddress ha⟩
  refine sat_initializeDet ha hready (fun hen ↦ hP a ha (Or.inr hen)) ?_ ?_ ?_ ?_
  · exact fun hen ↦ ⟨hready, .disabled ha rfl hen⟩
  · rintro hen hnone rfl
    exact ⟨hready, .unmade ha rfl hen hnone⟩
  · exact fun hen hsome hconn ↦ ⟨hready, .already ha rfl hen hsome hconn⟩
  · intro hen hmade hconn t rep y z ht hy hreq hsync
    rw [hsync]
    exact ⟨ht, .checked ha rfl hen hmade hy hconn hreq⟩

theorem conforms_disconnect (hready : s.Ready) :
    Conforms lib late cfg P ⟨u, .disconnect⟩ s (statusOnly (uninitializeDet cfg u)) := by
  refine sat_statusOnly ?_
  rcases ha : getAddress (size cfg) u with - | a
  · rw [uninitializeDet, ha]
    exact ⟨hready, .noAddress ha⟩
  · rw [uninitializeDet_apply ha]
    exact ⟨hready.of_dets rfl, .disconnected ha rfl⟩

/-- **A call goes in one of the ways listed**, from any state between two requests. -/
theorem sat_perform (hready : s.Ready)
    (hP : ∀ a, getAddress (size cfg) c.user = some a → (sync lib s).Live a → Asks lib P s a) :
    (perform cfg c s).Sat (Issued P) (Answered lib late) fun r t ↦
      t.Ready ∧ Performed lib late cfg c (sync lib s) r (sync lib t) := by
  rcases c with ⟨⟨r, addr⟩, op⟩
  cases op with
  | connect made => exact conforms_connect hready hP
  | disconnect => exact conforms_disconnect hready
  | readInt32 => exact conforms_readParam hready hP rfl (fun _ _ ↦ rfl) fun _ ↦ rfl
  | readFloat64 => exact conforms_readParam hready hP rfl (fun _ _ ↦ rfl) fun _ ↦ rfl
  | readOctet maxChars buffer =>
    exact conforms_readParam hready hP rfl (fun _ _ ↦ rfl) fun _ ↦ rfl
  | writeInt32 value => exact conforms_writeInt32 hready hP
  | writeFloat64 value => exact conforms_writeFloat64 hready hP

end SlsDet
