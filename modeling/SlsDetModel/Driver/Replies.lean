import SlsDetModel.Driver.Steps

/-!
# What the handlers reply

Every request the driver accepts has one library call of its own (`ownCall`), and every reply tells
the truth about that call. The handlers are covered by their two families; `process()` and a whole
iteration of the worker (`serve`) follow.

* `Sound` — what holds of any reply: a reply that is not an error leaves a present detector behind,
  Ok and Failed leave a clear error mask, Invalid leaves everything as it was, a string reply points
  into the cache, and an error or a failure on a clear mask is the fault of the request's own call.
* `ReadsAs` — a read replies with what its call returned exactly when the mask is clear afterwards.
* `WritesAs` — a write is accepted exactly when the mask is clear and the value was read back, and a
  negative value is answered like a read.
-/

/-- What stands behind a reply, its pointer followed; also the value of a parameter of the port. -/
inductive Value
  | int32 (v : Int)
  | int64 (v : Int64)
  | float64 (v : ℚ)
  | octet (t : Text)
  deriving DecidableEq

/-- What a query returned, in the units of the port: identifiers are texts in hexadecimal digits,
temperatures are thousandths, as near as doubles come to them. -/
def LibCall.result (fl : Rounding) (q : LibCall) (ans : Answer) : Value :=
  match q with
  | .getHostname _ => .octet (cStr ans.text)
  | .getId _ _ => .octet ('0' :: 'x' :: Nat.toDigits 16 ans.raw.toUInt64.toNat)
  | .getADC _ _ => .float64 (fl (ans.ret / 1000))
  | .setThresholdTemperature _ _ => .float64 (fl (ans.ret / 1000))
  | _ => .int32 ans.ret

/-- The call is to blame for an error or a failure: it raised an error bit, found the detector
offline, or did not give back the value it was to set. -/
def LibCall.Faults (q : LibCall) (ans : Answer) : Prop :=
  ans.raised ≠ 0 ∨
    match q with
    | .checkOnline => ans.text ≠ []
    | .powerChip v => ans.ret ≠ v
    | .setHighVoltage v => ans.ret ≠ v
    | .setClockDivider v => ans.ret ≠ v
    | .setSettings v _ => ans.ret ≠ v
    | _ => False

/-- The call constructs a detector object. -/
def LibCall.IsNew : LibCall → Bool
  | .new _ => true
  | _ => false

/-- The library call of a read request. -/
def MessageType.readCall : MessageType → Option LibCall
  | .readHostname => some (.getHostname detPos)
  | .readDetType => some (.getDetectorsType detPos)
  | .readRunStatus => some .getRunStatus
  | .readNumDetectors => some .getNumberOfDetectors
  | .readSerialnum => some (.getId .detectorSerialNumber detPos)
  | .readFirmwareVer => some (.getId .detectorFirmwareVersion detPos)
  | .readSoftwareVer => some (.getId .detectorSoftwareVersion detPos)
  | .readFpgaTemp => some (.getADC .temperatureFpga detPos)
  | .readAdcTemp => some (.getADC .temperatureAdc detPos)
  | .readTempThreshold => some (.setThresholdTemperature (-1) detPos)
  | .readTempControl => some (.setTemperatureControl (-1) detPos)
  | .readTempEvent => some (.setTemperatureEvent (-1) detPos)
  | .readPowerChip => some (.powerChip (-1))
  | .readHighVoltage => some (.setHighVoltage (-1))
  | .readClockDivider => some (.setClockDivider (-1))
  | .readGainMode => some (.setSettings (-1) detPos)
  | _ => none

/-- The library call of a request to write an integer. -/
def MessageType.writeCall (v : Int) : MessageType → Option LibCall
  | .writeTempControl => some (.setTemperatureControl v detPos)
  | .writeTempEvent => some (.setTemperatureEvent v detPos)
  | .writePowerChip => some (.powerChip v)
  | .writeHighVoltage => some (.setHighVoltage v)
  | .writeClockDivider => some (.setClockDivider v)
  | .writeGainMode => some (.setSettings v detPos)
  | _ => none

/-- The writes whose value is compared with the one read back. -/
def MessageType.verified : MessageType → Bool
  | .writePowerChip => true
  | .writeHighVoltage => true
  | .writeClockDivider => true
  | .writeGainMode => true
  | _ => false

/-- The writes that only fail, when the error is confined to the driver's own detector. -/
def MessageType.recoverable : MessageType → Bool
  | .writeTempThreshold => true
  | .writeTempControl => true
  | .writeTempEvent => true
  | .writeClockDivider => true
  | .writeGainMode => true
  | _ => false

/-- The library call that belongs to a request; a request without one is invalid. -/
def SlsDetMessage.ownCall (fl : Rounding) (req : SlsDetMessage) : Option LibCall :=
  match req.data with
  | .none => if req.mtype = .checkOnline then some .checkOnline else req.mtype.readCall
  | .int32 v => req.mtype.writeCall v
  | .float64 v =>
    if req.mtype = .writeTempThreshold then
      some (.setThresholdTemperature (Core.thresholdOf fl v) detPos)
    else none
  | _ => none

namespace Core

variable {lib : Library} {c : Core} {q : LibCall}

/-- What stands behind a reply while the worker is in this state. -/
def read (c : Core) (rep : SlsDetMessage) : Option Value :=
  match rep.data with
  | .none => none
  | .int32 v => some (.int32 v)
  | .int64 v => some (.int64 v)
  | .float64 v => some (.float64 v)
  | .string pgp => (c.cache.deref pgp).map .octet

/-! ### Replies are sound -/

/-- What holds of any reply, when `own` is the library call that belongs to the request. -/
structure Sound (lib : Library) (own : Option LibCall) (c : Core) (r : SlsDetMessage × Core) :
    Prop where
  det : r.2.det.isSome
  mtype : r.1.mtype = .ok ∨ r.1.mtype = .error ∨ r.1.mtype = .failed ∨ r.1.mtype = .invalid
  clean : r.1.mtype = .ok ∨ r.1.mtype = .failed → r.2.errorMask = 0
  invalid : r.1.mtype = .invalid → r.2 = c
  text : ∀ pgp, r.1.data = .string pgp → ∃ t, r.2.cache.deref pgp = some t
  calls : ∃ new, r.2.calls = c.calls ++ new ∧ (∀ q ∈ new, q.IsNew = false) ∧ (own = none → new = [])
  blame : c.errorMask = 0 → r.1.mtype = .error ∨ r.1.mtype = .failed →
    ∃ q rest, own = some q ∧ r.2.calls = c.calls ++ q :: rest ∧ q.Faults (lib c.calls q)

/-- A call that leaves error bits on a clear mask has raised them. -/
theorem raised_of_errorMask (hdet : c.det.isSome) (hclear : c.errorMask = 0)
    (h : (c.call lib q).2.errorMask ≠ 0) : (lib c.calls q).raised ≠ 0 := by
  rw [errorMask_call hdet, hclear] at h
  simpa using h

/-- The reply to a request that could not be carried out. -/
theorem sound_error (hdet : c.det.isSome) (hnew : q.IsNew = false)
    (hfault : c.errorMask = 0 → q.Faults (lib c.calls q)) :
    Sound lib (some q) c (.ofType .error, (c.call lib q).2) where
  det := by rw [isSome_det_call, hdet]
  mtype := by simp
  clean := by simp
  invalid := by simp
  text := by simp
  calls := ⟨[q], rfl, by simpa using hnew, by simp⟩
  blame := fun hclear _ ↦ ⟨q, [], rfl, rfl, hfault hclear⟩

/-- The reply to a request that failed with the error mask clear, or cleared. -/
theorem sound_failed {c' : Core} (hdet : c'.det.isSome) (hmask : c'.errorMask = 0)
    (hnew : q.IsNew = false) (hcalls : c'.calls = c.calls ++ [q] ∨
      c'.calls = c.calls ++ [q, .clearAllErrorMask])
    (hfault : c.errorMask = 0 → q.Faults (lib c.calls q)) :
    Sound lib (some q) c (.ofType .failed, c') where
  det := hdet
  mtype := by simp
  clean := fun _ ↦ hmask
  invalid := by simp
  text := by simp
  calls := by
    rcases hcalls with hcalls | hcalls
    · exact ⟨[q], hcalls, by simpa using hnew, by simp⟩
    · exact ⟨[q, .clearAllErrorMask], hcalls, by simpa [LibCall.IsNew] using hnew, by simp⟩
  blame := by
    intro hclear _
    rcases hcalls with hcalls | hcalls
    · exact ⟨q, [], rfl, hcalls, hfault hclear⟩
    · exact ⟨q, _, rfl, hcalls, hfault hclear⟩

/-- The reply to a request that was carried out. -/
theorem sound_ok {c' : Core} {rep : SlsDetMessage} (hok : rep.mtype = .ok) (hdet : c'.det.isSome)
    (hmask : c'.errorMask = 0) (hnew : q.IsNew = false)
    (hcalls : c'.calls = c.calls ++ [q] ∨ c'.calls = c.calls ++ [q, .clearAllErrorMask])
    (htext : ∀ pgp, rep.data = .string pgp → ∃ t, c'.cache.deref pgp = some t) :
    Sound lib (some q) c (rep, c') where
  det := hdet
  mtype := Or.inl hok
  clean := fun _ ↦ hmask
  invalid := by simp [hok]
  text := htext
  calls := by
    rcases hcalls with hcalls | hcalls
    · exact ⟨[q], hcalls, by simpa using hnew, by simp⟩
    · exact ⟨[q, .clearAllErrorMask], hcalls, by simpa [LibCall.IsNew] using hnew, by simp⟩
  blame := by simp [hok]

theorem sound_invalid (hdet : c.det.isSome) : Sound lib none c (.ofType .invalid, c) where
  det := hdet
  mtype := by simp
  clean := by simp
  invalid := fun _ ↦ rfl
  text := by simp
  calls := ⟨[], (List.append_nil _).symm, by simp, fun _ ↦ rfl⟩
  blame := by simp

/-- **Pure reads are sound**, whatever their reply is made of. -/
theorem sound_query {onOk : Answer → Core → SlsDetMessage × Core} (hdet : c.det.isSome)
    (hnew : q.IsNew = false) (hok : ∀ ans c', (onOk ans c').1.mtype = .ok ∧
      (onOk ans c').2.det = c'.det ∧ (onOk ans c').2.calls = c'.calls ∧
      ∀ pgp, (onOk ans c').1.data = .string pgp → ∃ t, (onOk ans c').2.cache.deref pgp = some t) :
    Sound lib (some q) c (query lib q onOk c) := by
  rw [query, if_pos hdet]
  dsimp only
  split
  case isTrue hmask =>
    obtain ⟨hrep, hd, hcalls, htext⟩ := hok (lib c.calls q) (c.call lib q).2
    have hmask' : (onOk (lib c.calls q) (c.call lib q).2).2.errorMask = 0 := by
      rw [errorMask, hd]
      exact hmask
    refine sound_ok hrep ?_ hmask' hnew (Or.inl hcalls) htext
    rw [call_fst, hd, isSome_det_call, hdet]
  case isFalse hmask =>
    exact sound_error hdet hnew fun hclear ↦ Or.inl (raised_of_errorMask hdet hclear hmask)

/-- **Combined reads and writes are sound**, if a write that is not accepted is the call's fault. -/
theorem sound_getOrSet {isRead recoverable : Bool} {onRead : Answer → SlsDetMessage}
    {verify : Answer → Bool} (hdet : c.det.isSome) (hnew : q.IsNew = false)
    (hread : ∀ ans, (onRead ans).mtype = .ok ∧ ∀ pgp, (onRead ans).data ≠ .string pgp)
    (hverify : isRead = false → ∀ ans, verify ans = false → q.Faults ans) :
    Sound lib (some q) c (getOrSet lib q isRead onRead verify recoverable c) := by
  have hdet' : (c.call lib q).2.det.isSome := by rw [isSome_det_call, hdet]
  rw [getOrSet, if_pos hdet]
  dsimp only
  split
  case isTrue hmask =>
    split
    case isTrue =>
      exact sound_ok (hread _).1 hdet' hmask hnew (Or.inl rfl) fun pgp h ↦ ((hread _).2 pgp h).elim
    case isFalse hr =>
      split
      case isTrue => exact sound_ok rfl hdet' hmask hnew (Or.inl rfl) (by simp)
      case isFalse hv =>
        refine sound_failed hdet' hmask hnew (Or.inl rfl) fun _ ↦ ?_
        exact hverify (Bool.eq_false_iff.2 hr) _ (Bool.eq_false_iff.2 hv)
  case isFalse hmask =>
    have hfault : c.errorMask = 0 → q.Faults (lib c.calls q) :=
      fun hclear ↦ Or.inl (raised_of_errorMask hdet hclear hmask)
    split
    case isTrue =>
      refine sound_failed ?_ (errorMask_clearAllErrorMask _) hnew (Or.inr ?_) hfault
      · rw [isSome_det_clearAllErrorMask, hdet']
      · rw [calls_clearAllErrorMask, calls_call, List.append_assoc]
        rfl
    case isFalse => exact sound_error hdet hnew hfault

theorem sound_checkOnline (hdet : c.det.isSome) :
    Sound lib (some .checkOnline) c (checkOnline lib c) := by
  rw [checkOnline, if_pos hdet]
  dsimp only
  split
  case isTrue =>
    refine sound_ok rfl ?_ (errorMask_clearAllErrorMask _) rfl (Or.inr ?_) (by simp)
    · rw [isSome_det_clearAllErrorMask, isSome_det_call, hdet]
    · rw [calls_clearAllErrorMask, calls_call, List.append_assoc]
      rfl
  case isFalse hoff =>
    refine sound_error hdet rfl fun _ ↦ Or.inr ?_
    intro hnil
    exact hoff (List.isEmpty_iff.2 hnil)

/-- A reply with an integer or a double does not point anywhere. -/
theorem integerReply_spec (v : Int) :
    (integerReply v).mtype = .ok ∧ ∀ pgp, (integerReply v).data ≠ .string pgp :=
  ⟨rfl, fun _ h ↦ (nomatch h)⟩

theorem doubleReply_spec (v : ℚ) :
    (doubleReply v).mtype = .ok ∧ ∀ pgp, (doubleReply v).data ≠ .string pgp :=
  ⟨rfl, fun _ h ↦ (nomatch h)⟩

/-- A string reply points to the text it was made of. -/
theorem stringReply_spec (s : Text) (c : Core) : (stringReply s c).1.mtype = .ok ∧
    (stringReply s c).2.det = c.det ∧ (stringReply s c).2.calls = c.calls ∧
    ∀ pgp, (stringReply s c).1.data = .string pgp →
      (stringReply s c).2.cache.deref pgp = some (cStr s) := by
  refine ⟨rfl, rfl, rfl, fun pgp h ↦ ?_⟩
  obtain ⟨⟩ := h
  exact deref_cacheStr c s

/-- The pure reads of integers are sound. -/
theorem sound_integer (hdet : c.det.isSome) (hnew : q.IsNew = false) :
    Sound lib (some q) c (query lib q (fun ans c ↦ (integerReply ans.ret, c)) c) :=
  sound_query hdet hnew fun _ _ ↦
    ⟨rfl, rfl, rfl, fun pgp h ↦ ((integerReply_spec _).2 pgp h).elim⟩

/-- The reads of temperatures are sound. -/
theorem sound_double (hdet : c.det.isSome) (hnew : q.IsNew = false) :
    Sound lib (some q) c
      (query lib q (fun ans c ↦ (doubleReply (lib.rounding (ans.ret / tempUnits)), c)) c) :=
  sound_query hdet hnew fun _ _ ↦
    ⟨rfl, rfl, rfl, fun pgp h ↦ ((doubleReply_spec _).2 pgp h).elim⟩

/-- The reads of texts are sound: the reply points into the cache. -/
theorem sound_string (f : Answer → Text) (hdet : c.det.isSome) (hnew : q.IsNew = false) :
    Sound lib (some q) c (query lib q (fun ans ↦ stringReply (f ans)) c) := by
  refine sound_query hdet hnew fun ans c' ↦ ?_
  obtain ⟨hm, hd, hc, ht⟩ := stringReply_spec (f ans) c'
  exact ⟨hm, hd, hc, fun pgp h ↦ ⟨_, ht pgp h⟩⟩

/-- The setters that compare what is read back with the value are sound, if a value read back wrong
is the call's fault. -/
theorem sound_verified {v : Int} {recoverable : Bool} (hdet : c.det.isSome)
    (hnew : q.IsNew = false) (hfault : ∀ ans, ans.ret ≠ v → q.Faults ans) :
    Sound lib (some q) c
      (getOrSet lib q (v < 0) (fun ans ↦ integerReply ans.ret) (fun ans ↦ ans.ret == v)
        recoverable c) := by
  refine sound_getOrSet hdet hnew (fun _ ↦ integerReply_spec _) fun _ ans hne ↦ hfault ans ?_
  simpa using hne

/-- The setters that compare nothing are sound. -/
theorem sound_blind {isRead recoverable : Bool} {onRead : Answer → SlsDetMessage}
    (hdet : c.det.isSome) (hnew : q.IsNew = false)
    (hread : ∀ ans, (onRead ans).mtype = .ok ∧ ∀ pgp, (onRead ans).data ≠ .string pgp) :
    Sound lib (some q) c (getOrSet lib q isRead onRead (fun _ ↦ true) recoverable c) :=
  sound_getOrSet hdet hnew hread fun _ _ hne ↦ (nomatch hne)

/-- **Every handler is sound.** -/
theorem sound_process {req : SlsDetMessage} (hdet : c.det.isSome) :
    Sound lib (req.ownCall lib.rounding) c (process lib req c) := by
  rcases req with ⟨t, data⟩
  cases data with
  | none =>
    cases t
    case checkOnline => exact sound_checkOnline hdet
    case readHostname => exact sound_string Answer.text hdet rfl
    case readSerialnum => exact sound_string (fun ans ↦ hexText ans.raw) hdet rfl
    case readFirmwareVer => exact sound_string (fun ans ↦ hexText ans.raw) hdet rfl
    case readSoftwareVer => exact sound_string (fun ans ↦ hexText ans.raw) hdet rfl
    case readDetType => exact sound_integer hdet rfl
    case readRunStatus => exact sound_integer hdet rfl
    case readNumDetectors => exact sound_integer hdet rfl
    case readFpgaTemp => exact sound_double hdet rfl
    case readAdcTemp => exact sound_double hdet rfl
    case readPowerChip => exact sound_verified hdet rfl fun _ h ↦ Or.inr h
    case readHighVoltage => exact sound_verified hdet rfl fun _ h ↦ Or.inr h
    case readClockDivider => exact sound_verified hdet rfl fun _ h ↦ Or.inr h
    case readGainMode => exact sound_verified hdet rfl fun _ h ↦ Or.inr h
    case readTempThreshold => exact sound_blind hdet rfl fun _ ↦ doubleReply_spec _
    case readTempControl => exact sound_blind hdet rfl fun _ ↦ integerReply_spec _
    case readTempEvent => exact sound_blind hdet rfl fun _ ↦ integerReply_spec _
    all_goals exact sound_invalid hdet
  | int32 v =>
    cases t
    case writePowerChip => exact sound_verified hdet rfl fun _ h ↦ Or.inr h
    case writeHighVoltage => exact sound_verified hdet rfl fun _ h ↦ Or.inr h
    case writeClockDivider => exact sound_verified hdet rfl fun _ h ↦ Or.inr h
    case writeGainMode => exact sound_verified hdet rfl fun _ h ↦ Or.inr h
    case writeTempControl => exact sound_blind hdet rfl fun _ ↦ integerReply_spec _
    case writeTempEvent => exact sound_blind hdet rfl fun _ ↦ integerReply_spec _
    all_goals exact sound_invalid hdet
  | float64 v =>
    cases t
    case writeTempThreshold => exact sound_blind hdet rfl fun _ ↦ doubleReply_spec _
    all_goals exact sound_invalid hdet
  | int64 v => exact sound_invalid hdet
  | string pgp => exact sound_invalid hdet

/-! ### Reads -/

/-- What is replied to a read whose library call is `q`. -/
structure ReadsAs (lib : Library) (q : LibCall) (c : Core) (r : SlsDetMessage × Core) : Prop where
  ok : (c.call lib q).2.errorMask = 0 → r.1.mtype = .ok ∧
    r.2.read r.1 = some (q.result lib.rounding (lib c.calls q)) ∧ r.2.calls = c.calls ++ [q]
  error : (c.call lib q).2.errorMask ≠ 0 → (r.1.mtype = .error ∨ r.1.mtype = .failed) ∧
    (r.2.calls = c.calls ++ [q] ∨ r.2.calls = c.calls ++ [q, .clearAllErrorMask])

theorem readsAs_query {onOk : Answer → Core → SlsDetMessage × Core} (hdet : c.det.isSome)
    (hok : ∀ ans c', (onOk ans c').1.mtype = .ok ∧
      (onOk ans c').2.read (onOk ans c').1 = some (q.result lib.rounding ans) ∧
      (onOk ans c').2.calls = c'.calls) : ReadsAs lib q c (query lib q onOk c) := by
  rw [query, if_pos hdet]
  dsimp only
  split
  case isTrue hmask => exact ⟨fun _ ↦ hok _ _, fun h ↦ (h hmask).elim⟩
  case isFalse hmask => exact ⟨fun h ↦ (hmask h).elim, fun _ ↦ ⟨Or.inl rfl, Or.inl rfl⟩⟩

theorem readsAs_getOrSet {recoverable : Bool} {onRead : Answer → SlsDetMessage}
    {verify : Answer → Bool} (hdet : c.det.isSome)
    (hok : ∀ ans c', (onRead ans).mtype = .ok ∧
      read c' (onRead ans) = some (q.result lib.rounding ans)) :
    ReadsAs lib q c (getOrSet lib q true onRead verify recoverable c) := by
  rw [getOrSet, if_pos hdet]
  dsimp only
  split
  case isTrue hmask => exact ⟨fun _ ↦ ⟨(hok _ c).1, (hok _ _).2, rfl⟩, fun h ↦ (h hmask).elim⟩
  case isFalse hmask =>
    refine ⟨fun h ↦ (hmask h).elim, fun _ ↦ ?_⟩
    split
    case isTrue =>
      refine ⟨Or.inr rfl, Or.inr ?_⟩
      rw [calls_clearAllErrorMask, calls_call, List.append_assoc]
      rfl
    case isFalse => exact ⟨Or.inl rfl, Or.inl rfl⟩

/-- A read of an integer, through a function of its own. -/
theorem readsAs_integer (hdet : c.det.isSome)
    (hres : ∀ ans, q.result lib.rounding ans = .int32 ans.ret) :
    ReadsAs lib q c (query lib q (fun ans c ↦ (integerReply ans.ret, c)) c) :=
  readsAs_query hdet fun ans _ ↦ ⟨rfl, congrArg some (hres ans).symm, rfl⟩

/-- A read of an integer, through the getter of a combined function. -/
theorem readsAs_get (verify : Answer → Bool) (recoverable : Bool) (hdet : c.det.isSome)
    (hres : ∀ ans, q.result lib.rounding ans = .int32 ans.ret) :
    ReadsAs lib q c
      (getOrSet lib q true (fun ans ↦ integerReply ans.ret) verify recoverable c) :=
  readsAs_getOrSet hdet fun ans _ ↦ ⟨rfl, congrArg some (hres ans).symm⟩

/-- A read of a temperature. -/
theorem readsAs_double (hdet : c.det.isSome)
    (hres : ∀ ans, q.result lib.rounding ans = .float64 (lib.rounding (ans.ret / 1000))) :
    ReadsAs lib q c
      (query lib q (fun ans c ↦ (doubleReply (lib.rounding (ans.ret / tempUnits)), c)) c) :=
  readsAs_query hdet fun ans _ ↦ ⟨rfl, congrArg some (hres ans).symm, rfl⟩

/-- A read of a text: the reply points to it. -/
theorem readsAs_string (f : Answer → Text) (hdet : c.det.isSome)
    (hres : ∀ ans, q.result lib.rounding ans = .octet (cStr (f ans))) :
    ReadsAs lib q c (query lib q (fun ans ↦ stringReply (f ans)) c) := by
  refine readsAs_query hdet fun ans c' ↦ ⟨rfl, ?_, rfl⟩
  rw [hres]
  exact congrArg (Option.map Value.octet) (deref_cacheStr c' (f ans))

/-- A read of a serial number or a version. -/
theorem readsAs_id {mode : IdMode} (hdet : c.det.isSome) :
    ReadsAs lib (.getId mode detPos) c
      (query lib (.getId mode detPos) (fun ans ↦ stringReply (hexText ans.raw)) c) := by
  refine readsAs_string (fun ans ↦ hexText ans.raw) hdet fun ans ↦ ?_
  rw [cStr_hexText]
  rfl

/-- The argument of a threshold read is the library's get flag. -/
theorem thresholdOf_neg_one (fl : Rounding) : thresholdOf fl (-1) = -1 := by
  rw [thresholdOf, if_pos (by norm_num)]

/-- **Every read replies with what its own library call returned**, exactly when the error mask is
clear after that call. -/
theorem readsAs_process {t : MessageType} (hq : t.readCall = some q) (hdet : c.det.isSome) :
    ReadsAs lib q c (process lib (.ofType t) c) := by
  cases t <;> first | (cases hq; done) | obtain rfl := (Option.some.inj hq).symm
  case readHostname => exact readsAs_string Answer.text hdet fun _ ↦ rfl
  case readSerialnum => exact readsAs_id hdet
  case readFirmwareVer => exact readsAs_id hdet
  case readSoftwareVer => exact readsAs_id hdet
  case readDetType => exact readsAs_integer hdet fun _ ↦ rfl
  case readRunStatus => exact readsAs_integer hdet fun _ ↦ rfl
  case readNumDetectors => exact readsAs_integer hdet fun _ ↦ rfl
  case readFpgaTemp => exact readsAs_double hdet fun _ ↦ rfl
  case readAdcTemp => exact readsAs_double hdet fun _ ↦ rfl
  case readPowerChip => exact readsAs_get (fun ans ↦ ans.ret == -1) false hdet fun _ ↦ rfl
  case readHighVoltage => exact readsAs_get (fun ans ↦ ans.ret == -1) false hdet fun _ ↦ rfl
  case readClockDivider => exact readsAs_get (fun ans ↦ ans.ret == -1) true hdet fun _ ↦ rfl
  case readGainMode => exact readsAs_get (fun ans ↦ ans.ret == -1) true hdet fun _ ↦ rfl
  case readTempControl => exact readsAs_get (fun _ ↦ true) true hdet fun _ ↦ rfl
  case readTempEvent => exact readsAs_get (fun _ ↦ true) true hdet fun _ ↦ rfl
  case readTempThreshold =>
    show ReadsAs lib _ c (thresholdTemperature lib (-1) c)
    rw [thresholdTemperature, thresholdOf_neg_one]
    exact readsAs_getOrSet hdet fun _ _ ↦ ⟨rfl, rfl⟩

/-! ### Writes -/

/-- What is replied to a write whose library call is `q`: `negative` says that the value makes the
call a read, `accepted` that the value read back will do. -/
structure WritesAs (lib : Library) (q : LibCall) (c : Core) (negative accepted recoverable : Prop)
    (r : SlsDetMessage × Core) : Prop where
  read : (c.call lib q).2.errorMask = 0 → negative → r.1.mtype = .ok ∧ r.1.dtype ≠ .none
  ok : (c.call lib q).2.errorMask = 0 → ¬negative → accepted →
    r.1 = .ofType .ok ∧ r.2.calls = c.calls ++ [q]
  refused : (c.call lib q).2.errorMask = 0 → ¬negative → ¬accepted → r.1 = .ofType .failed
  failed : (c.call lib q).2.errorMask ≠ 0 →
    recoverable ∧ (c.call lib q).2.errorMask = posBit → r.1 = .ofType .failed
  error : (c.call lib q).2.errorMask ≠ 0 →
    ¬(recoverable ∧ (c.call lib q).2.errorMask = posBit) → r.1 = .ofType .error

theorem writesAs_getOrSet {isRead recoverable : Bool} {onRead : Answer → SlsDetMessage}
    {verify : Answer → Bool} {negative accepted : Prop} (hdet : c.det.isSome)
    (hneg : isRead = true ↔ negative) (hacc : verify (lib c.calls q) = true ↔ accepted)
    (hread : ∀ ans, (onRead ans).mtype = .ok ∧ (onRead ans).dtype ≠ .none) :
    WritesAs lib q c negative accepted (recoverable = true)
      (getOrSet lib q isRead onRead verify recoverable c) := by
  rw [getOrSet, if_pos hdet]
  dsimp only
  rw [call_fst]
  split
  case isTrue hmask =>
    refine ⟨fun _ hn ↦ ?_, fun _ hn ha ↦ ?_, fun _ hn ha ↦ ?_, fun h ↦ (h hmask).elim,
      fun h ↦ (h hmask).elim⟩
    · rw [if_pos (hneg.2 hn)]
      exact hread _
    · rw [if_neg (mt hneg.1 hn), if_pos (hacc.2 ha)]
      exact ⟨rfl, rfl⟩
    · rw [if_neg (mt hneg.1 hn), if_neg (mt hacc.1 ha)]
  case isFalse hmask =>
    refine ⟨fun h ↦ (hmask h).elim, fun h ↦ (hmask h).elim, fun h ↦ (hmask h).elim,
      fun _ hr ↦ ?_, fun _ hr ↦ ?_⟩
    · rw [if_pos (by simpa using hr)]
    · rw [if_neg (by simpa using hr)]

/-- **Every write of an integer is one call of its own setter**, accepted when the error mask is
clear and, for the verified ones, the value was read back. -/
theorem writesAs_process {t : MessageType} {v : Int} (hq : t.writeCall v = some q)
    (hdet : c.det.isSome) : WritesAs lib q c (v < 0)
      (t.verified = true → (lib c.calls q).ret = v) (t.recoverable = true)
      (process lib ⟨t, .int32 v⟩ c) := by
  have hverified : ∀ {recoverable : Bool}, WritesAs lib q c (v < 0)
      (true = true → (lib c.calls q).ret = v) (recoverable = true)
      (getOrSet lib q (v < 0) (fun ans ↦ integerReply ans.ret) (fun ans ↦ ans.ret == v)
        recoverable c) := by
    intro recoverable
    exact writesAs_getOrSet hdet decide_eq_true_iff (by simp)
      fun _ ↦ ⟨rfl, fun h ↦ (nomatch h)⟩
  have hblind : ∀ {recoverable : Bool}, WritesAs lib q c (v < 0)
      (false = true → (lib c.calls q).ret = v) (recoverable = true)
      (getOrSet lib q (v < 0) (fun ans ↦ integerReply ans.ret) (fun _ ↦ true) recoverable c) := by
    intro recoverable
    exact writesAs_getOrSet hdet decide_eq_true_iff (by simp)
      fun _ ↦ ⟨rfl, fun h ↦ (nomatch h)⟩
  cases t <;> first | (cases hq; done) | obtain rfl := (Option.some.inj hq).symm
  case writePowerChip => exact hverified
  case writeHighVoltage => exact hverified
  case writeClockDivider => exact hverified
  case writeGainMode => exact hverified
  case writeTempControl => exact hblind
  case writeTempEvent => exact hblind

/-- The same for the temperature threshold, the one write of a double, which is not verified. -/
theorem writesAs_threshold {v : ℚ} {accepted : Prop} (hacc : accepted) (hdet : c.det.isSome) :
    WritesAs lib (.setThresholdTemperature (thresholdOf lib.rounding v) detPos) c (v < 0) accepted
      (MessageType.writeTempThreshold.recoverable = true)
      (process lib ⟨.writeTempThreshold, .float64 v⟩ c) := by
  show WritesAs lib _ c _ accepted (true = true) (thresholdTemperature lib v c)
  exact writesAs_getOrSet hdet (decide_eq_true_iff.trans (thresholdOf_neg_iff lib.rounding v))
    (iff_of_true rfl hacc) fun _ ↦ ⟨rfl, fun h ↦ (nomatch h)⟩

end Core
