import SlsDetModel.Port.Connection

/-!
# Reads, end to end

A read of a parameter that belongs to the detector goes through four tables: the reason is
dispatched to a message type, the message to a handler, the handler makes a library call and
replies with a data type of its own, and the value is stored under the reason as a parameter
created with some type. `Param.query` says which library call belongs to which parameter, and
`PortCall.tables_agree` that the four tables are in keeping with it.

`read_correct` follows a read at a connected address from the call to its return: what the caller
gets is what that one query returned, exactly when the error mask is clear after it.
-/

/-- The query whose result a parameter shows. -/
def Param.query : Param → Option LibCall
  | .runStatus => some .getRunStatus
  | .detType => some (.getDetectorsType detPos)
  | .getTempControl => some (.setTemperatureControl (-1) detPos)
  | .getTempEvent => some (.setTemperatureEvent (-1) detPos)
  | .getTempThreshold => some (.setThresholdTemperature (-1) detPos)
  | .getChipPower => some (.powerChip (-1))
  | .getHighVoltage => some (.setHighVoltage (-1))
  | .getClockDivider => some (.setClockDivider (-1))
  | .getGainMode => some (.setSettings (-1) detPos)
  | .fpgaTemp => some (.getADC .temperatureFpga detPos)
  | .adcTemp => some (.getADC .temperatureAdc detPos)
  | .hostName => some (.getHostname detPos)
  | .detSerialNumber => some (.getId .detectorSerialNumber detPos)
  | .detFirmwareVersion => some (.getId .detectorFirmwareVersion detPos)
  | .detSoftwareVersion => some (.getId .detectorSoftwareVersion detPos)
  | _ => none

namespace SlsDet

variable {lib : ℕ → Library} {cfg : SlsDetConfig} {enums : EnumBuffers} {c : PortCall}
  {x x' : SyncSlsDet} {r : Result} {a : ℕ} {t : MessageType} {k k' : PortSystem}
  {ls ls' : List PortLabel}

/-- What a successful read of a value hands to its caller. Of a text the buffer holds as many
characters as leave room for the terminator, and the terminator is counted; a buffer of no size
keeps what it holds. -/
def PortCall.deliver (c : PortCall) (v : Value) : Result :=
  match c.op, v with
  | .readOctet maxChars buffer, .octet t =>
    if maxChars = 0 then ⟨.success, none, some (buffer.length + 1), true⟩
    else
      ⟨.success, some (.octet (t.take (maxChars - 1))), some (min (maxChars - 1) t.length + 1),
        true⟩
  | _, v => ⟨.success, some v, none, false⟩

@[simp] theorem PortCall.status_deliver (c : PortCall) (v : Value) :
    (c.deliver v).status = .success := by
  unfold deliver
  split
  case h_1 => split <;> rfl
  case h_2 => rfl

/-- A text that leaves room for the terminator is handed over whole. -/
theorem PortCall.deliver_of_length_lt {maxChars : ℕ} {buffer t : Text}
    (hop : c.op = .readOctet maxChars buffer) (h : t.length < maxChars) :
    c.deliver (.octet t) = ⟨.success, some (.octet t), some (t.length + 1), true⟩ := by
  unfold deliver
  rw [hop]
  dsimp only
  rw [if_neg (by omega), List.take_of_length_le (by omega), Nat.min_eq_right (by omega)]

/-- No parameter of the port holds a long integer. -/
theorem Param.type_ne_int64 (p : Param) : p.type ≠ .int64 := by
  cases p <;> decide

/-- What `getStringParam` and the rest of `readOctet` make of a text. -/
theorem octetResult_cut (maxChars : ℕ) (buffer t : Text) :
    octetResult buffer ⟨.success, ParamLists.cut maxChars (.octet t), none, false⟩ =
      if maxChars = 0 then ⟨.success, none, some (buffer.length + 1), true⟩
      else ⟨.success, some (.octet (t.take (maxChars - 1))),
        some (min (maxChars - 1) t.length + 1), true⟩ := by
  rw [ParamLists.cut]
  split
  case isTrue => rfl
  case isFalse =>
    rw [octetResult, ← List.length_take]

/-- What was stored under a parameter is what a read of its type returns. -/
theorem PortCall.get_store {p : Param} (hr : c.user.reason = .param p)
    (hop : match c.op with
      | .readFloat64 => p.type = .float64
      | .readOctet _ _ => p.type = .octet
      | _ => p.type = .int32) (l : ParamLists) {v : Value} (hv : v.type = p.type) :
    c.get (l.store a p v) a = c.deliver v := by
  rcases c with ⟨⟨reason, addr⟩, op⟩
  obtain rfl : reason = .param p := hr
  have hget : ∀ {type}, p.type = type →
      (l.store a p v).getParam a (.param p) type = ⟨.success, some v, none, false⟩ := by
    rintro type rfl
    exact ParamLists.getParam_store
  cases op with
  | readOctet maxChars buffer =>
    show octetResult buffer (ParamLists.getStringParam _ _ _ _) = _
    rw [ParamLists.getStringParam, hget hop]
    cases v with
    | octet t => exact octetResult_cut maxChars buffer t
    | _ => cases hv.trans hop
  | readFloat64 => exact hget hop
  | _ => exact hget hop

/-- **The tables agree.** A read is dispatched to a message whose handler makes the parameter's own
query; its result is of the parameter's type, and the read returns it as it was stored. -/
theorem PortCall.tables_agree (h : c.read = some t) : ∃ p q, c.user.reason = .param p ∧
    p.query = some q ∧ t.readCall = some q ∧ (∀ fl ans, (q.result fl ans).type = p.type) ∧
    ∀ l a v, v.type = p.type → c.get (ParamLists.store l a p v) a = c.deliver v := by
  rcases c with ⟨⟨reason, addr⟩, op⟩
  rcases reason with p | i
  case other => cases op <;> cases h
  refine ⟨p, ?_⟩
  cases op with
  | readInt32 =>
    cases p <;> first | (cases h; done) | obtain rfl := (Option.some.inj h).symm
    all_goals
      exact ⟨_, rfl, rfl, rfl, fun _ _ ↦ rfl, fun l a v hv ↦ PortCall.get_store rfl rfl l hv⟩
  | readFloat64 =>
    cases p <;> first | (cases h; done) | obtain rfl := (Option.some.inj h).symm
    all_goals
      exact ⟨_, rfl, rfl, rfl, fun _ _ ↦ rfl, fun l a v hv ↦ PortCall.get_store rfl rfl l hv⟩
  | readOctet maxChars buffer =>
    cases p <;> first | (cases h; done) | obtain rfl := (Option.some.inj h).symm
    all_goals
      exact ⟨_, rfl, rfl, rfl, fun _ _ ↦ rfl, fun l a v hv ↦ PortCall.get_store rfl rfl l hv⟩
  | _ => cases h

/-- A read is nothing else. -/
theorem PortCall.kind_of_read (h : c.read = some t) : (∀ made, c.op ≠ .connect made) ∧
    c.op ≠ .disconnect ∧ c.write = none ∧ c.enables = none ∧ c.value = none := by
  rcases c with ⟨u, op⟩
  cases op with
  | readInt32 => exact ⟨fun _ h ↦ (nomatch h), fun h ↦ (nomatch h), rfl, rfl, rfl⟩
  | readFloat64 => exact ⟨fun _ h ↦ (nomatch h), fun h ↦ (nomatch h), rfl, rfl, rfl⟩
  | readOctet => exact ⟨fun _ h ↦ (nomatch h), fun h ↦ (nomatch h), rfl, rfl, rfl⟩
  | _ => cases h

/-- How a read of the parameter `p` with the query `q` ended: `core` and `l` are the driver's state
and the parameter lists before it, `core'` and `l'` those after it. -/
structure ReadsOff (lib : Library) (c : PortCall) (a : ℕ) (p : Param) (q : LibCall)
    (core core' : Core) (l l' : ParamLists) (r : Result) : Prop where
  /-- The query is the one call made, but for clearing the mask after an error. -/
  asked : core'.calls = core.calls ++ [q] ∨ core'.calls = core.calls ++ [q, .clearAllErrorMask]
  success : r.status = .success ↔ (core.call lib q).2.errorMask = 0
  ok : (core.call lib q).2.errorMask = 0 →
    r = c.deliver (q.result lib.rounding (lib core.calls q)) ∧
      l' = l.store a p (q.result lib.rounding (lib core.calls q))
  error : (core.call lib q).2.errorMask ≠ 0 →
    r = .ofStatus .disconnected ∧ l' = l.disconnect a ∧ l' a p = l a p ∧
      l'.integer a .connStatus = ConnectionStatus.disconnected.toInt

/-- An Ok reply to a read is stored. -/
theorem takeRead_of_ok {p : Param} {rep : SlsDetMessage} {w : Value} (hm : rep.mtype = .ok)
    (hw : w.type = p.type) : x.takeRead cfg a (.param p) rep (some w) =
      (.success, { x with params := x.params.store a p w }) := by
  have hset : x.params.setParam a (.param p) w = _ := ParamLists.setParam_of_type hw
  rw [SyncSlsDet.takeRead, hm]
  show x.storeReply cfg a (.param p) (some w) = _
  rw [SyncSlsDet.storeReply, if_neg fun h ↦ Param.type_ne_int64 p (hw.symm.trans h.1), hset]

/-- An error or a failure costs the connection. -/
theorem takeRead_of_error {reason : Reason} {rep : SlsDetMessage} {v : Option Value}
    (hm : rep.mtype = .error ∨ rep.mtype = .failed) :
    x.takeRead cfg a reason rep v = (.disconnected, x.disconnect a) := by
  rw [SyncSlsDet.takeRead]
  rcases hm with hm | hm <;> rw [hm]

/-- **What a read does**, if no wait expires. -/
theorem Performed.readsOff (h : Performed lib false cfg c x r x')
    (ha : getAddress (size cfg) c.user = some a) (hread : c.read = some t)
    (hconn : x.isConnected a = true) {y : SlsDetDriver.Sync} (hy : x.dets a = some y)
    (hclean : y.Clean) : ∃ p q z, c.user.reason = .param p ∧ p.query = some q ∧
      x'.dets a = some z ∧ z.pending = 0 ∧
      ReadsOff (lib a) c a p q y.core z.core x.params x'.params r := by
  obtain ⟨hconnect, hdisconnect, hwrite, henables, hvalue⟩ := PortCall.kind_of_read hread
  obtain ⟨p, q, hr, hquery, hcall, htype, hget⟩ := PortCall.tables_agree hread
  have hsame : ∀ {b}, getAddress (size cfg) c.user = some b → b = a := fun hb ↦
    Option.some.inj (hb.symm.trans ha)
  cases h with
  | @read b t' y' rep z v status x' hb hread' _ hdet hreq hv htake =>
    obtain rfl := hsame hb
    obtain rfl := Option.some.inj (hread.symm.trans hread')
    obtain rfl := Option.some.inj (hy.symm.trans hdet)
    obtain ⟨hrep, hcore, -, hzero⟩ := hreq.answered
    rw [SlsDetDriver.serve_of_isSome hclean.det] at hrep hcore
    have hreads : Core.ReadsAs (lib b) q y.core (rep, z.core) := by
      rw [hrep, hcore]
      exact Core.readsAs_process hcall hclean.det
    rw [hr] at htake
    by_cases hmask : (y.core.call (lib b) q).2.errorMask = 0
    · obtain ⟨hm, hvalue, hcalls⟩ := hreads.ok hmask
      obtain rfl := hv hzero _ hvalue
      rw [takeRead_of_ok hm (htype _ _)] at htake
      obtain ⟨rfl, rfl⟩ := Prod.mk.inj htake
      refine ⟨p, q, z, hr, hquery, x.dets_setDet_same b z, hzero, Or.inl hcalls, ?_, fun _ ↦ ?_,
        fun hne ↦ (hne hmask).elim⟩
      · rw [if_pos rfl]
        refine iff_of_true ?_ hmask
        rw [hget _ _ _ (htype _ _), PortCall.status_deliver]
      · rw [if_pos rfl]
        exact ⟨hget _ _ _ (htype _ _), rfl⟩
    · obtain ⟨hm, hcalls⟩ := hreads.error hmask
      rw [takeRead_of_error hm] at htake
      obtain ⟨rfl, rfl⟩ := Prod.mk.inj htake
      refine ⟨p, q, z, hr, hquery, x.dets_setDet_same b z, hzero, hcalls, ?_,
        fun h ↦ (hmask h).elim, fun _ ↦ ⟨rfl, rfl, ?_, ?_⟩⟩
      · exact iff_of_false (fun h ↦ (nomatch h)) hmask
      · refine ParamLists.mark_of_ne ?_ ?_ _ _ _ _ _ <;> rintro rfl <;> cases hquery
      · exact (ParamLists.integer_mark_connStatus _ _ _ _ _).trans (if_pos rfl)
  | noAddress hnone => exact nomatch hnone.symm.trans ha
  | offline hb _ hoff => exact nomatch (hsame hb ▸ hoff).symm.trans hconn
  | disabled _ hop => exact (hconnect _ hop).elim
  | unmade _ hop => exact (hconnect _ hop).elim
  | already _ hop => exact (hconnect _ hop).elim
  | checked _ hop => exact (hconnect _ hop).elim
  | disconnected _ hop => exact (hdisconnect hop).elim
  | readBase _ hnone => exact nomatch hnone.symm.trans hread
  | unsent _ hsome => exact nomatch hwrite.symm.trans hsome
  | write _ hsome => exact nomatch hwrite.symm.trans hsome
  | enabled _ hsome => exact nomatch henables.symm.trans hsome
  | writeBase _ _ _ hsome => exact nomatch hvalue.symm.trans hsome

/-- **Reads are correct, end to end.** Take any run, in which no client writes a status, to a state
between two calls in which an address is connected, and then a read there that is dispatched to the
detector, in which no wait expires. It can be carried to its end; and when it has ended, one query
was made, the parameter's own. If the error mask is clear after it, the read succeeds, and what it
stores and returns is what the query returned; if not, the parameter and the caller's value are
left as they were, and the address is disconnected. -/
theorem read_correct (hls : ∀ c ∈ Client.calls ls, PortCall.SparesStatus c)
    (hrun : (system lib cfg).run (start cfg enums) ls = some k) (hidle : k.thread = .idle)
    (hconn : k.shared.isConnected a = true) (ha : getAddress (size cfg) c.user = some a)
    (hread : c.read.isSome) (hls' : ∀ l ∈ ls', Client.Inside (Move.InTime false) l)
    (hrun' : (system lib cfg).run k (.call c :: ls') = some k') :
    Client.CanEnd (server lib) (perform cfg) DetRequest.addr (Move.InTime false) k' ∧
    (k'.thread = .idle → ∃ d d' p q r, k.shared.dets a = some d ∧ k'.shared.dets a = some d' ∧
      c.user.reason = .param p ∧ p.query = some q ∧ k'.results = k.results ++ [(c, r)] ∧
      ReadsOff (lib a) c a p q d.core d'.core k.shared.params k'.shared.params r) := by
  obtain ⟨hready, hcons⟩ := consistent_of_idle hls hrun hidle
  obtain ⟨hends, hcan⟩ := call_spec hready (fun _ ↦ hcons.isSome_dets) hls' hrun'
  refine ⟨hcan, fun hidle' ↦ ?_⟩
  obtain ⟨t, hread⟩ := Option.isSome_iff_exists.1 hread
  obtain ⟨y, hy, hclean⟩ := hcons.clean a hconn
  obtain ⟨r, hres, hready', hperf⟩ := hends hidle'
  obtain ⟨p, q, z, hr, hquery, hz, hzero, hoff⟩ := hperf.readsOff ha hread hconn hy hclean
  obtain ⟨d, hd, rfl⟩ := Option.map_eq_some_iff.1 hy
  obtain ⟨d', hd', rfl⟩ := Option.map_eq_some_iff.1 hz
  rw [hready.core_sync hd hclean.pending, hready'.core_sync hd' hzero] at hoff
  exact ⟨d, d', p, q, r, hd, hd', hr, hquery, hres, hoff⟩

/-- The run status is read at the one address of a small port. -/
theorem read_correct_runStatus : ∃ k k' d d' r,
    (system (fun _ ↦ SlsDetDriver.healthy) (bench 1)).run (start (bench 1) blank) (online 0) =
      some k ∧
    (system (fun _ ↦ SlsDetDriver.healthy) (bench 1)).run k
      (on .runStatus 0 .readInt32 :: (exchange 0 ++ [.resume 0])) = some k' ∧
    k'.results = k.results ++ [(⟨⟨.param .runStatus, 0⟩, .readInt32⟩, r)] ∧
    ReadsOff SlsDetDriver.healthy ⟨⟨.param .runStatus, 0⟩, .readInt32⟩ 0 .runStatus .getRunStatus
      (SlsDetDriver.core d) (SlsDetDriver.core d') k.shared.params k'.shared.params r := by
  have hbefore : ((system (fun _ ↦ SlsDetDriver.healthy) (bench 1)).run (start (bench 1) blank)
      (online 0)).map (fun k ↦ (k.isIdle, k.shared.isConnected 0)) = some (true, true) := by
    decide +kernel
  have hafter : ((system (fun _ ↦ SlsDetDriver.healthy) (bench 1)).run (start (bench 1) blank)
      (online 0 ++ on .runStatus 0 .readInt32 :: (exchange 0 ++ [.resume 0]))).map
      (fun k ↦ k.isIdle) = some true := by decide +kernel
  obtain ⟨k, k', hrun, hk, hrun', hidle'⟩ :=
    LabelledMachine.exists_run_append _ hbefore hafter
  obtain ⟨hidle, hconn⟩ := Prod.mk.inj hk
  obtain ⟨d, d', p, q, r, -, -, hp, hq, hres, hoff⟩ :=
    (read_correct (by decide) hrun (Client.thread_of_isIdle hidle) hconn rfl rfl
      (by simp [exchange, Client.Inside, Move.InTime]) hrun').2 (Client.thread_of_isIdle hidle')
  obtain ⟨⟩ := hp
  obtain ⟨⟩ := hq
  exact ⟨k, k', d, d', r, hrun, hrun', hres, hoff⟩

end SlsDet
