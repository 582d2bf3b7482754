import SlsDetModel.Port.Reads

/-!
# Writes, end to end

A write of a parameter that belongs to the detector is stored, dispatched to a message type, and
carried out by a handler that is also the getter: it reads when its argument is negative, and only
the data type of the reply tells. `Param.setter` says which library call belongs to which parameter
and value, and `PortCall.setters_agree` that dispatch and handlers are in keeping with it.

`write_correct` follows a write at a connected address from the call to its return: it is reported
as a success exactly when the value was not negative, the error mask is clear after the one call
made for it, and the library gave back the value where that is checked.
-/

/-- The call that sets a parameter to a value. Of a temperature it is given the whole thousandths,
as they come out in the machine's arithmetic. -/
def Param.setter (fl : Rounding) : Param → Value → Option LibCall
  | .setTempThreshold, .float64 v =>
    some (.setThresholdTemperature (if v < 0 then -1 else ⌊fl (v * 1000)⌋) detPos)
  | .setTempControl, .int32 v => some (.setTemperatureControl v detPos)
  | .setTempEvent, .int32 v => some (.setTemperatureEvent v detPos)
  | .setChipPower, .int32 v => some (.powerChip v)
  | .setHighVoltage, .int32 v => some (.setHighVoltage v)
  | .setClockDivider, .int32 v => some (.setClockDivider v)
  | .setGainMode, .int32 v => some (.setSettings v detPos)
  | _, _ => none

/-- The parameters whose value is compared with the one the library gives back. -/
def Param.verified : Param → Bool
  | .setChipPower => true
  | .setHighVoltage => true
  | .setClockDivider => true
  | .setGainMode => true
  | _ => false

/-- The parameters for which an error confined to the driver's own detector is a mere failure. -/
def Param.recoverable : Param → Bool
  | .setTempThreshold => true
  | .setTempControl => true
  | .setTempEvent => true
  | .setClockDivider => true
  | .setGainMode => true
  | _ => false

/-- The value is one that the handlers take for a read. -/
def Value.Negative : Value → Prop
  | .int32 v => v < 0
  | .float64 v => v < 0
  | _ => False

namespace SlsDet

variable {lib : ℕ → Library} {late : Bool} {cfg : SlsDetConfig} {enums : EnumBuffers} {c : PortCall}
  {x x' : SyncSlsDet} {y : SlsDetDriver.Sync} {r : Result} {a : ℕ} {m : SlsDetMessage}
  {k k' : PortSystem} {ls ls' : List PortLabel}

/-- **Dispatch and handlers agree.** A write is dispatched to a message that is handled as a write
of the value, by the parameter's own setter. -/
theorem PortCall.setters_agree (h : c.write = some m) : ∃ p v, c.user.reason = .param p ∧
    c.value = some v ∧ ∀ lib : Library, ∃ q, p.setter lib.rounding v = some q ∧
      ∀ core : Core, core.det.isSome → Core.WritesAs lib q core v.Negative
        (p.verified = true → Value.int32 (lib core.calls q).ret = v) (p.recoverable = true)
        (core.process lib m) := by
  rcases c with ⟨⟨reason, addr⟩, op⟩
  rcases reason with p | i
  case other => cases op <;> cases h
  cases op with
  | writeInt32 v =>
    have hwrites : ∀ (t : MessageType) {q}, t.writeCall v = some q →
        ∀ (lib : Library) (core : Core), core.det.isSome → Core.WritesAs lib q core
          (Value.Negative (.int32 v))
          (t.verified = true → Value.int32 (lib core.calls q).ret = .int32 v) (t.recoverable = true)
          (core.process lib ⟨t, .int32 v⟩) := by
      intro t q hq lib core hdet
      rw [Value.int32.injEq]
      exact Core.writesAs_process hq hdet
    -- What is left, for each parameter, is to look up its row in the tables.
    cases p <;> first | (cases h; done) | obtain rfl := (Option.some.inj h).symm
    all_goals refine ⟨_, _, rfl, rfl, fun lib ↦ ⟨_, rfl, ?_⟩⟩
    case setTempControl => exact hwrites .writeTempControl rfl lib
    case setTempEvent => exact hwrites .writeTempEvent rfl lib
    case setChipPower => exact hwrites .writePowerChip rfl lib
    case setHighVoltage => exact hwrites .writeHighVoltage rfl lib
    case setClockDivider => exact hwrites .writeClockDivider rfl lib
    case setGainMode => exact hwrites .writeGainMode rfl lib
  | writeFloat64 v =>
    cases p <;> first | (cases h; done) | obtain rfl := (Option.some.inj h).symm
    refine ⟨_, .float64 v, rfl, rfl, fun lib ↦ ⟨_, rfl, fun core hdet ↦ ?_⟩⟩
    rw [← Core.thresholdOf_eq]
    exact Core.writesAs_threshold (fun hverified ↦ (nomatch hverified)) hdet
  | _ => cases h

/-- A write to the detector is nothing else. -/
theorem PortCall.kind_of_write (h : c.write = some m) : (∀ made, c.op ≠ .connect made) ∧
    c.op ≠ .disconnect ∧ c.read = none ∧ (∀ asyn v, c.base asyn v = none) ∧ c.enables = none := by
  obtain ⟨p, v, hr, hv, -, hp⟩ := PortCall.reason_of_write h
  obtain ⟨hconnect, hdisconnect, hread, hbase⟩ := PortCall.kind_of_value hv
  refine ⟨hconnect, hdisconnect, hread, hbase, ?_⟩
  rcases c with ⟨u, op⟩
  cases op with
  | writeInt32 w =>
    -- enabling is a write of a parameter that belongs to the connection
    refine if_neg fun heq ↦ ?_
    obtain rfl := Reason.param.inj (hr.symm.trans heq)
    cases hp
  | _ => rfl

/-- A write at a connected address reaches its driver. -/
theorem Performed.reaches (h : Performed lib late cfg c x r x')
    (ha : getAddress (size cfg) c.user = some a) (hwrite : c.write = some m)
    (hconn : x.isConnected a = true) (hy : x.dets a = some y) : ∃ p v rep z status,
      c.user.reason = .param p ∧ p.IsControl = false ∧ c.value = some v ∧
      SlsDetDriver.Requested (lib a) late y m rep z ∧ r = .ofStatus status ∧
      ({ x with params := x.params.store a p v }.setDet a z).takeWrite a rep = (status, x') := by
  obtain ⟨hconnect, hdisconnect, hread, hbase, henables⟩ := PortCall.kind_of_write hwrite
  have hsame : ∀ {b}, getAddress (size cfg) c.user = some b → b = a := fun hb ↦
    Option.some.inj (hb.symm.trans ha)
  cases h with
  | @write b m' p v y' rep z status x' hb hwrite' hr hp hv _ hdet hreq htake =>
    obtain rfl := hsame hb
    obtain rfl := Option.some.inj (hwrite.symm.trans hwrite')
    obtain rfl := Option.some.inj (hy.symm.trans hdet)
    exact ⟨p, v, rep, z, status, hr, hp, hv, hreq, rfl, htake⟩
  | noAddress hnone => exact nomatch hnone.symm.trans ha
  | unsent hb _ _ _ _ hoff => exact nomatch (hsame hb ▸ hoff).symm.trans hconn
  | disabled _ hop => exact (hconnect _ hop).elim
  | unmade _ hop => exact (hconnect _ hop).elim
  | already _ hop => exact (hconnect _ hop).elim
  | checked _ hop => exact (hconnect _ hop).elim
  | disconnected _ hop => exact (hdisconnect hop).elim
  | offline _ hsome => exact nomatch hread.symm.trans hsome
  | read _ hsome => exact nomatch hread.symm.trans hsome
  | readBase _ _ hsome => exact nomatch (hbase _ _).symm.trans hsome
  | enabled _ hsome => exact nomatch henables.symm.trans hsome
  | writeBase _ hnone => exact nomatch hnone.symm.trans hwrite

/-- How a write of the value `v` to the parameter `p` by the call `q` ended: `core` is the driver's
state before it, `core'` that after it, and `l'` the parameter lists after it. -/
structure WritesOff (lib : Library) (a : ℕ) (p : Param) (v : Value) (q : LibCall)
    (core core' : Core) (l' : ParamLists) (r : Result) : Prop where
  success : r.status = .success ↔ ¬v.Negative ∧ (core.call lib q).2.errorMask = 0 ∧
    (p.verified = true → Value.int32 (lib core.calls q).ret = v)
  /-- The setter is the one call made. -/
  asked : r.status = .success → core'.calls = core.calls ++ [q]
  connected : l'.integer a .connStatus = ConnectionStatus.connected.toInt ↔
    ((core.call lib q).2.errorMask ≠ 0 →
      p.recoverable = true ∧ (core.call lib q).2.errorMask = posBit)

/-- Ok without data is a success, Ok with data was a read. -/
theorem takeWrite_of_ok {rep : SlsDetMessage} (hm : rep.mtype = .ok) :
    x.takeWrite a rep = (if rep.dtype ≠ .none then .error else .success, x) := by
  rw [SyncSlsDet.takeWrite, hm]

/-- What a write makes of the replies to it. -/
theorem WritesOff.of_writesAs {lib : Library} {p : Param} {v : Value} {q : LibCall}
    {core core' : Core} {rep : SlsDetMessage} {status : AsynStatus}
    (hw : Core.WritesAs lib q core v.Negative
      (p.verified = true → Value.int32 (lib core.calls q).ret = v) (p.recoverable = true)
      (rep, core'))
    (hkept : x.params.integer a .connStatus = ConnectionStatus.connected.toInt)
    (htake : x.takeWrite a rep = (status, x')) :
    x'.dets = x.dets ∧ WritesOff lib a p v q core core' x'.params (.ofStatus status) := by
  have hlost : (x.disconnect a).params.integer a .connStatus ≠
      ConnectionStatus.connected.toInt := by
    rw [SyncSlsDet.disconnect, ParamLists.disconnect, ParamLists.integer_mark_connStatus,
      if_pos rfl]
    decide
  have hfailed : rep = .ofType .failed → (status, x') = (.error, x) := by
    rintro rfl
    exact htake.symm
  have herror : (Result.ofStatus .error).status ≠ .success := by decide
  have hdisconnected : (Result.ofStatus .disconnected).status ≠ .success := by decide
  by_cases hmask : (core.call lib q).2.errorMask = 0
  · by_cases hneg : v.Negative
    · -- The handler took the write for a read: its reply carries data.
      obtain ⟨hm, hd⟩ := hw.read hmask hneg
      rw [takeWrite_of_ok hm, if_pos hd] at htake
      obtain ⟨rfl, rfl⟩ := Prod.mk.inj htake
      exact ⟨rfl, iff_of_false herror fun h ↦ h.1 hneg, fun h ↦ (herror h).elim,
        iff_of_true hkept fun h ↦ (h hmask).elim⟩
    by_cases hacc : p.verified = true → Value.int32 (lib core.calls q).ret = v
    · obtain ⟨hrep, hcalls⟩ := hw.ok hmask hneg hacc
      obtain rfl : rep = .ofType .ok := hrep
      obtain ⟨rfl, rfl⟩ := Prod.mk.inj htake
      exact ⟨rfl, iff_of_true rfl ⟨hneg, hmask, hacc⟩, fun _ ↦ hcalls,
        iff_of_true hkept fun h ↦ (h hmask).elim⟩
    · obtain ⟨rfl, rfl⟩ := Prod.mk.inj (hfailed (hw.refused hmask hneg hacc))
      exact ⟨rfl, iff_of_false herror fun h ↦ hacc h.2.2, fun h ↦ (herror h).elim,
        iff_of_true hkept fun h ↦ (h hmask).elim⟩
  by_cases hrec : p.recoverable = true ∧ (core.call lib q).2.errorMask = posBit
  · obtain ⟨rfl, rfl⟩ := Prod.mk.inj (hfailed (hw.failed hmask hrec))
    exact ⟨rfl, iff_of_false herror fun h ↦ hmask h.2.1, fun h ↦ (herror h).elim,
      iff_of_true hkept fun _ ↦ hrec⟩
  · obtain rfl : rep = .ofType .error := hw.error hmask hrec
    obtain ⟨rfl, rfl⟩ := Prod.mk.inj htake
    exact ⟨rfl, iff_of_false hdisconnected fun h ↦ hmask h.2.1, fun h ↦ (hdisconnected h).elim,
      iff_of_false hlost fun h ↦ hrec (h hmask)⟩

/-- **What a write does**, if no wait expires. -/
theorem Performed.writesOff (h : Performed lib false cfg c x r x')
    (ha : getAddress (size cfg) c.user = some a) (hwrite : c.write = some m)
    (hconn : x.isConnected a = true) (hy : x.dets a = some y) (hclean : y.Clean) :
    ∃ p v q z, c.user.reason = .param p ∧ c.value = some v ∧
      p.setter (lib a).rounding v = some q ∧ x'.dets a = some z ∧ z.pending = 0 ∧
      WritesOff (lib a) a p v q y.core z.core x'.params r := by
  obtain ⟨p, v, hr, hv, hagree⟩ := PortCall.setters_agree hwrite
  obtain ⟨q, hsetter, hwrites⟩ := hagree (lib a)
  obtain ⟨p', v', rep, z, status, hr', hp, hv', hreq, rfl, htake⟩ :=
    h.reaches ha hwrite hconn hy
  obtain rfl := Reason.param.inj (hr'.symm.trans hr)
  obtain rfl := Option.some.inj (hv'.symm.trans hv)
  obtain ⟨hrep, hcore, -, hzero⟩ := hreq.answered
  rw [SlsDetDriver.serve_of_isSome hclean.det] at hrep hcore
  have hw := hwrites y.core hclean.det
  rw [← Prod.eta (Core.process (lib a) m y.core), ← hrep, ← hcore] at hw
  -- Storing the value does not touch the status.
  have hkept : ({ x with params := x.params.store a p' v' }.setDet a z).params.integer a
      .connStatus = ConnectionStatus.connected.toInt :=
    ((SyncSlsDet.sameControl_store hp v').integer rfl a).trans (beq_iff_eq.1 hconn)
  obtain ⟨hdets, hoff⟩ := WritesOff.of_writesAs hw hkept htake
  exact ⟨p', v', q, z, hr, hv, hsetter, (congrFun hdets a).trans (x.dets_setDet_same a z), hzero,
    hoff⟩

/-- **Writes are correct, end to end.** Take any run, in which no client writes a status, to a
state between two calls in which an address is connected, and then a write there that is dispatched
to the detector, in which no wait expires. It can be carried to its end. When it has ended, it is a
success if and only if the value was not negative, the error mask is clear after the call of the
parameter's own setter, and, for the verified parameters, that call gave back the value; and then
this was the one call made. The address is still connected, unless error bits are set and not
confined to the driver's own detector, or the parameter makes no such exception. -/
theorem write_correct (hls : ∀ c ∈ Client.calls ls, PortCall.SparesStatus c)
    (hrun : (system lib cfg).run (start cfg enums) ls = some k) (hidle : k.thread = .idle)
    (hconn : k.shared.isConnected a = true) (ha : getAddress (size cfg) c.user = some a)
    (hwrite : c.write.isSome) (hls' : ∀ l ∈ ls', Client.Inside (Move.InTime false) l)
    (hrun' : (system lib cfg).run k (.call c :: ls') = some k') :
    Client.CanEnd (server lib) (perform cfg) DetRequest.addr (Move.InTime false) k' ∧
    (k'.thread = .idle → ∃ d d' p v q r, k.shared.dets a = some d ∧ k'.shared.dets a = some d' ∧
      c.user.reason = .param p ∧ c.value = some v ∧ p.setter (lib a).rounding v = some q ∧
      k'.results = k.results ++ [(c, r)] ∧
      WritesOff (lib a) a p v q d.core d'.core k'.shared.params r) := by
  obtain ⟨hready, hcons⟩ := consistent_of_idle hls hrun hidle
  obtain ⟨hends, hcan⟩ := call_spec hready (fun _ ↦ hcons.isSome_dets) hls' hrun'
  refine ⟨hcan, fun hidle' ↦ ?_⟩
  obtain ⟨m, hwrite⟩ := Option.isSome_iff_exists.1 hwrite
  obtain ⟨y, hy, hclean⟩ := hcons.clean a hconn
  obtain ⟨r, hres, hready', hperf⟩ := hends hidle'
  obtain ⟨p, v, q, z, hr, hv, hsetter, hz, hzero, hoff⟩ :=
    hperf.writesOff ha hwrite hconn hy hclean
  obtain ⟨d, hd, rfl⟩ := Option.map_eq_some_iff.1 hy
  obtain ⟨d', hd', rfl⟩ := Option.map_eq_some_iff.1 hz
  rw [hready.core_sync hd hclean.pending, hready'.core_sync hd' hzero] at hoff
  exact ⟨d, d', p, v, q, r, hd, hd', hr, hv, hsetter, hres, hoff⟩

/-- The high voltage is set at the one address of a small port. -/
theorem write_correct_highVoltage : ∃ k k' d d' r,
    (system (fun _ ↦ SlsDetDriver.healthy) (bench 1)).run (start (bench 1) blank) (online 0) =
      some k ∧
    (system (fun _ ↦ SlsDetDriver.healthy) (bench 1)).run k
      (on .setHighVoltage 0 (.writeInt32 1) :: (exchange 0 ++ [.resume 0])) = some k' ∧
    k'.results = k.results ++ [(⟨⟨.param .setHighVoltage, 0⟩, .writeInt32 1⟩, r)] ∧
    WritesOff SlsDetDriver.healthy 0 .setHighVoltage (.int32 1) (.setHighVoltage 1)
      (SlsDetDriver.core d) (SlsDetDriver.core d') k'.shared.params r := by
  have hbefore : ((system (fun _ ↦ SlsDetDriver.healthy) (bench 1)).run (start (bench 1) blank)
      (online 0)).map (fun k ↦ (k.isIdle, k.shared.isConnected 0)) = some (true, true) := by
    decide +kernel
  have hafter : ((system (fun _ ↦ SlsDetDriver.healthy) (bench 1)).run (start (bench 1) blank)
      (online 0 ++ on .setHighVoltage 0 (.writeInt32 1) :: (exchange 0 ++ [.resume 0]))).map
      (fun k ↦ k.isIdle) = some true := by decide +kernel
  obtain ⟨k, k', hrun, hk, hrun', hidle'⟩ :=
    LabelledMachine.exists_run_append _ hbefore hafter
  obtain ⟨hidle, hconn⟩ := Prod.mk.inj hk
  obtain ⟨d, d', p, v, q, r, -, -, hp, hv, hq, hres, hoff⟩ :=
    (write_correct (by decide) hrun (Client.thread_of_isIdle hidle) hconn rfl rfl
      (by simp [exchange, Client.Inside, Move.InTime]) hrun').2 (Client.thread_of_isIdle hidle')
  obtain ⟨⟩ := hp
  obtain ⟨⟩ := hv
  obtain ⟨⟩ := hq
  exact ⟨k, k', d, d', r, hrun, hrun', hres, hoff⟩

end SlsDet
