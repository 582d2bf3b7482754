import SlsDetModel.Driver.Settings
import SlsDetModel.Port.Order

/-!
# What was set is read back

A client that has set something and was told of success wants to read the same afterwards. In
between there are the calls of others, the loss of connections and their return, and requests that
were given up and are carried out late. `settings_read_back` says that none of it matters: what the
answers tell to have been set last is what the next successful read of it returns, on every
detector that keeps its settings.

`setting` is what the answers tell, and `Told` is what it stands for: a request that the driver has
answered with Ok, with no later one of the kind. That such a setter stands is a fact
about drivers, `SlsDetDriver.stands_of_acknowledged`.
-/

/-- The parameter that shows a setting. -/
def Param.readback : Param → Option Param
  | .setTempThreshold => some .getTempThreshold
  | .setTempControl => some .getTempControl
  | .setTempEvent => some .getTempEvent
  | .setChipPower => some .getChipPower
  | .setHighVoltage => some .getHighVoltage
  | .setClockDivider => some .getClockDivider
  | .setGainMode => some .getGainMode
  | _ => none

/-- The call sets what the parameter is for. -/
def Param.Sets (fl : Rounding) (p : Param) (q : LibCall) : Prop :=
  ∃ v, ¬v.Negative ∧ p.setter fl v = some q

/-- What a client finds of a value that was set: temperatures are whole thousandths of a degree at
the detector, and doubles on the way to it and back. -/
def Value.kept (fl : Rounding) : Value → Value
  | .float64 v => .float64 (fl (⌊fl (v * 1000)⌋ / 1000))
  | v => v

/-- The detector keeps the setting: when it was set without an error, and then not set again, the
query of the parameter that shows it returns the argument of the call that set it. -/
def KeepsSetting (lib : Library) (p : Param) : Prop :=
  ∀ before since q value g, p.Sets lib.rounding q → q.combined = some value →
    (lib before q).raised = 0 → (∀ q' ∈ since, ¬p.Sets lib.rounding q' ∧ q'.IsUse = true) →
    p.readback.bind Param.query = some g → (lib (before ++ q :: since) g).ret = value

variable {fl : Rounding}

theorem Param.combined_of_sets {p : Param} {q : LibCall} (h : p.Sets fl q) :
    q.combined.isSome := by
  obtain ⟨v, -, hq⟩ := h
  cases p <;> cases v <;> first | (cases hq; done) | (obtain rfl := Option.some.inj hq; rfl)

/-- **There and back.** Where the query returns the argument of the setter, the value it shows is
the one that was set. -/
theorem Param.result_of_setter {p : Param} {v : Value} {q g : LibCall} {ans : Answer}
    (h : p.setter fl v = some q) (hneg : ¬v.Negative) (hg : p.readback.bind Param.query = some g)
    (hans : q.combined = some ans.ret) : g.result fl ans = v.kept fl := by
  cases p <;> cases v <;> first | (cases h; done) | obtain rfl := Option.some.inj h
  case setTempThreshold.float64 w =>
    obtain rfl := Option.some.inj hg
    have hret : ⌊fl (w * 1000)⌋ = ans.ret := (if_neg hneg).symm.trans (Option.some.inj hans)
    rw [LibCall.result, Value.kept, hret]
  all_goals
    obtain rfl := Option.some.inj hg
    exact congrArg Value.int32 (Option.some.inj hans).symm

/-- What sets a parameter is no query. -/
theorem Param.not_sets_query {p p' : Param} {q : LibCall} (h : p'.query = some q) :
    ¬p.Sets fl q := by
  rintro ⟨v, hv, hq⟩
  have hminus : ∀ value, q.combined = some value → value = -1 := by
    intro value hvalue
    cases p' <;> first | (cases h; done) | obtain rfl := Option.some.inj h
    all_goals first | (cases hvalue; done) | exact (Option.some.inj hvalue).symm
  cases v with
  | int32 w =>
    have hw : q.combined = some w := by
      cases p <;> first | (cases hq; done) | (obtain rfl := Option.some.inj hq; rfl)
    obtain rfl := hminus w hw
    exact hv (by decide : (-1 : Int) < 0)
  | float64 w =>
    have hw : q.combined = some (Core.thresholdOf fl w) := by
      rw [Core.thresholdOf_eq]
      cases p <;> first | (cases hq; done) | (obtain rfl := Option.some.inj hq; rfl)
    refine hv ((Core.thresholdOf_neg_iff fl w).1 ?_)
    rw [hminus _ hw]
    decide
  | _ => cases p <;> cases hq

/-- A setter belongs to one parameter. -/
theorem Param.eq_of_setter {p p' : Param} {v v' : Value} {q : LibCall}
    (h : p.setter fl v = some q) (h' : p'.setter fl v' = some q) : p = p' := by
  cases p <;> cases v <;> first | (cases h; done) | obtain rfl := Option.some.inj h
  all_goals cases p' <;> cases v' <;> first | rfl | cases h'

namespace SlsDet

variable {lib : ℕ → Library} {late : Bool} {cfg : SlsDetConfig} {enums : EnumBuffers}
  {c : PortCall} {x x' : SyncSlsDet} {r : Result} {a : ℕ} {p g : Param} {v : Value} {q : LibCall}
  {m : SlsDetMessage} {t : MessageType} {known : Option Value} {fl : Rounding} {k k' : PortSystem}
  {ls ls' : List PortLabel}

/-! ### What the answers tell -/

/-- What a call answered with `r` tells of a setting: a write of it that was a success tells what
was set, and after any other write of it nothing is known. -/
def PortCall.tellsOf (n a : ℕ) (p : Param) (known : Option Value) (c : PortCall) (r : Result) :
    Option Value :=
  if getAddress n c.user = some a ∧ c.user.reason = .param p ∧ c.write.isSome then
    if r.status = .success then c.value else none
  else known

/-- What the answers so far tell of a setting at an address. -/
def setting (n a : ℕ) (p : Param) (h : List (PortCall × Result)) : Option Value :=
  h.foldl (fun known e ↦ e.1.tellsOf n a p known e.2) none

/-- What is known was acknowledged by the driver of the address. -/
def Told (fl : Rounding) (a : ℕ) (p : Param) (known : Option Value) (x : SyncSlsDet) : Prop :=
  ∀ v, known = some v → ¬v.Negative ∧ ∃ q, p.setter fl v = some q ∧ ∃ y, x.dets a = some y ∧
    SlsDetDriver.Acknowledged fl (p.Sets fl) q y.called y.outcomes

/-- Only the writes of a setting have its command. -/
theorem PortCall.not_sets_of_command (h : ¬(c.user.reason = .param p ∧ c.write.isSome))
    (hcmd : c.command fl = some q) : ¬p.Sets fl q := by
  have hquery : c.query.map Prod.snd = some q → ¬p.Sets fl q := by
    intro hmap
    obtain ⟨⟨p', q'⟩, hquery, rfl⟩ := Option.map_eq_some_iff.1 hmap
    rw [PortCall.query] at hquery
    split at hquery
    · obtain ⟨-, hmap'⟩ := Option.ite_none_right_eq_some.1 hquery
      obtain ⟨q'', hq, heq⟩ := Option.map_eq_some_iff.1 hmap'
      obtain ⟨rfl, rfl⟩ := Prod.mk.inj heq
      exact Param.not_sets_query hq
    · cases hquery
  have hsetter : ∀ {v}, c.value = some v → (c.setter fl v).map Prod.snd = some q →
      ¬p.Sets fl q := by
    rintro v hv hmap ⟨w, -, hw⟩
    obtain ⟨⟨p', q'⟩, hset, rfl⟩ := Option.map_eq_some_iff.1 hmap
    have hwrite : c.write.isSome := by
      by_contra hnone
      rw [PortCall.setter_eq_none hv (Option.not_isSome_iff_eq_none.1 hnone)] at hset
      cases hset
    rw [PortCall.setter] at hset
    split at hset
    case h_1 p'' hr =>
      obtain ⟨q'', hq, heq⟩ := Option.map_eq_some_iff.1 hset
      obtain ⟨rfl, rfl⟩ := Prod.mk.inj heq
      exact h ⟨hr.trans (congrArg _ (Param.eq_of_setter hq hw)), hwrite⟩
    case h_2 => cases hset
  rcases c with ⟨u, op⟩
  cases op with
  | connect made =>
    obtain rfl := Option.some.inj hcmd
    exact fun hsets ↦ absurd (Param.combined_of_sets hsets) (by decide)
  | disconnect => cases hcmd
  | writeInt32 v => exact hsetter rfl hcmd
  | writeFloat64 v => exact hsetter rfl hcmd
  | readInt32 => exact hquery hcmd
  | readFloat64 => exact hquery hcmd
  | readOctet maxChars buffer => exact hquery hcmd

/-! ### What is told is so -/

/-- A write is a success where the driver answers Ok without data. -/
theorem takeWrite_success {rep : SlsDetMessage} (h : x.takeWrite a rep = (.success, x')) :
    rep.mtype = .ok ∧ rep.dtype = .none ∧ x' = x := by
  rw [SyncSlsDet.takeWrite] at h
  split at h
  case h_1 hm =>
    obtain ⟨hstatus, rfl⟩ := Prod.mk.inj h
    refine ⟨hm, ?_, rfl⟩
    by_contra hne
    rw [if_pos hne] at hstatus
    cases hstatus
  all_goals cases (Prod.mk.inj h).1

/-- A write that is answered so had a value to set. -/
theorem PortCall.nonneg_of_ok {lib : Library} {core : Core} (hwrite : c.write = some m)
    (hv : c.value = some v) (hok : (SlsDetDriver.serve lib core m).1.mtype = .ok)
    (hdata : (SlsDetDriver.serve lib core m).1.dtype = .none) : ¬v.Negative := by
  obtain ⟨p, v', -, hv', hagree⟩ := PortCall.setters_agree hwrite
  obtain rfl := Option.some.inj (hv'.symm.trans hv)
  obtain ⟨q, -, hwrites⟩ := hagree lib
  rw [SlsDetDriver.serve, SlsDetDriver.respond] at hok hdata
  split at hok
  case isFalse => cases hok
  case isTrue hdet =>
    rw [if_pos hdet] at hdata
    have hw := hwrites (core.initializeDet lib) hdet
    intro hneg
    by_cases hmask : ((core.initializeDet lib).call lib q).2.errorMask = 0
    · exact (hw.read hmask hneg).2 hdata
    by_cases hrec : p.recoverable = true ∧
        ((core.initializeDet lib).call lib q).2.errorMask = posBit
    · rw [hw.failed hmask hrec] at hok
      cases hok
    · rw [hw.error hmask hrec] at hok
      cases hok

/-- **A write that is a success was acknowledged.** -/
theorem Performed.acknowledges (h : Performed lib late cfg c x r x')
    (ha : getAddress (size cfg) c.user = some a) (hwrite : c.write = some m)
    (hr : c.user.reason = .param p) (hs : r.status = .success) :
    Told (lib a).rounding a p c.value x' := by
  obtain ⟨hconnect, hdisconnect, hread, hbase, henables⟩ := PortCall.kind_of_write hwrite
  cases h with
  | @write b m' p' v y rep z status x' hb hwrite' hr' hp hv hconn hdet hreq htake =>
    obtain rfl := Option.some.inj (ha.symm.trans hb)
    obtain rfl := Option.some.inj (hwrite.symm.trans hwrite')
    obtain rfl := Reason.param.inj (hr.symm.trans hr')
    obtain rfl : status = .success := hs
    obtain ⟨hok, hdata, rfl⟩ := takeWrite_success htake
    obtain ⟨p'', w, hr'', hw, hagree⟩ := PortCall.setters_agree hwrite
    obtain rfl := Reason.param.inj (hr.symm.trans hr'')
    obtain rfl := Option.some.inj (hv.symm.trans hw)
    obtain ⟨q, hsetter, -⟩ := hagree (lib a)
    obtain ⟨hrep, -⟩ := (hreq.of_ok hok).answered
    intro v' hv'
    obtain rfl := Option.some.inj (hv.symm.trans hv')
    refine ⟨PortCall.nonneg_of_ok hwrite hv (hrep ▸ hok) (hrep ▸ hdata), q, hsetter, z,
      SyncSlsDet.dets_setDet_same _ _ _, hreq.acknowledges hok ?_⟩
    exact (PortCall.ownCall_of_write hwrite hr hv).trans hsetter
  | noAddress | unsent => cases hs
  | disabled _ hop => exact (hconnect _ hop).elim
  | unmade _ hop => exact (hconnect _ hop).elim
  | already _ hop => exact (hconnect _ hop).elim
  | checked _ hop => exact (hconnect _ hop).elim
  | disconnected _ hop => exact (hdisconnect hop).elim
  | offline _ hsome => cases hread.symm.trans hsome
  | read _ hsome => cases hread.symm.trans hsome
  | readBase _ _ hsome => cases (hbase _ _).symm.trans hsome
  | enabled _ hsome => cases henables.symm.trans hsome
  | writeBase _ hnone => cases hnone.symm.trans hwrite

/-- **Whatever is called, what is told is so.** -/
theorem Performed.told (h : Performed lib late cfg c x r x')
    (hx : Told (lib a).rounding a p known x) :
    Told (lib a).rounding a p (c.tellsOf (size cfg) a p known r) x' := by
  rw [PortCall.tellsOf]
  split
  case isTrue hw =>
    obtain ⟨ha, hr, hwrite⟩ := hw
    obtain ⟨m, hwrite⟩ := Option.isSome_iff_exists.1 hwrite
    split
    case isTrue hs => exact h.acknowledges ha hwrite hr hs
    case isFalse => exact fun v hv ↦ by cases hv
  case isFalse hw =>
    intro v hv
    obtain ⟨hneg, q, hq, y, hy, hack⟩ := hx v hv
    refine ⟨hneg, q, hq, ?_⟩
    rcases h.requests with hdets | ⟨b, m, rep, y', z, hb, hown, hdet, hreq, hdets⟩
    · exact ⟨y, by rw [hdets, hy], hack⟩
    by_cases hab : a = b
    · subst hab
      have hmade : x.construct cfg a = x := SyncSlsDet.construct_of_isSome (by rw [hy]; rfl)
      rw [hmade] at hdet hdets
      obtain rfl := Option.some.inj (hdet.symm.trans hy)
      refine ⟨z, by rw [hdets, x.dets_setDet_same], hreq.acknowledged hack fun q' hq' ↦ ?_⟩
      exact PortCall.not_sets_of_command (fun hwrite ↦ hw ⟨hb, hwrite⟩) (hown.trans hq')
    · refine ⟨y, ?_, hack⟩
      rw [hdets, SyncSlsDet.dets_setDet_of_ne _ hab, SyncSlsDet.dets_construct_of_ne hab, hy]

/-- A read that is a success reached the detector, and was answered in time. -/
theorem Performed.of_success (h : Performed lib late cfg c x r x')
    (ha : getAddress (size cfg) c.user = some a) (hread : c.read = some t)
    (hs : r.status = .success) : x.isConnected a = true ∧ Performed lib false cfg c x r x' := by
  obtain ⟨hconnect, hdisconnect, hwrite, henables, hvalue⟩ := PortCall.kind_of_read hread
  cases h with
  | @read b t' y rep z v status x' hb hread' hconn hdet hreq hv htake =>
    obtain rfl := Option.some.inj (ha.symm.trans hb)
    have hstatus : status = .success := by
      by_contra hne
      rw [if_neg hne] at hs
      exact hne hs
    have hok : rep.mtype = .ok := by
      rw [SyncSlsDet.takeRead, hstatus] at htake
      split at htake
      case h_1 hm => exact hm
      all_goals cases (Prod.mk.inj htake).1
    exact ⟨hconn, .read hb hread' hconn hdet (hreq.of_ok hok) hv htake⟩
  | noAddress | offline => cases hs
  | disabled _ hop => exact (hconnect _ hop).elim
  | unmade _ hop => exact (hconnect _ hop).elim
  | already _ hop => exact (hconnect _ hop).elim
  | checked _ hop => exact (hconnect _ hop).elim
  | disconnected _ hop => exact (hdisconnect hop).elim
  | readBase _ hnone => cases hnone.symm.trans hread
  | unsent _ hsome => cases hwrite.symm.trans hsome
  | write _ hsome => cases hwrite.symm.trans hsome
  | enabled _ hsome => cases henables.symm.trans hsome
  | writeBase _ _ _ hsome => cases hvalue.symm.trans hsome

/-- **What was set is read back.** Take any run, in which no client writes a status, to a state
between two calls, with whatever timeouts, errors and reconnections there were. Let the answers so
far tell of a setting of an address that the last write of it was a success. On a detector that
keeps the setting, a read of the parameter that shows it, whatever expires in it, returns the value
that was written if it is a success; of a temperature the whole thousandths that the driver made of
it. -/
theorem settings_read_back (hls : ∀ c ∈ Client.calls ls, PortCall.SparesStatus c)
    (hrun : (system lib cfg).run (start cfg enums) ls = some k) (hidle : k.thread = .idle)
    (hknown : setting (size cfg) a p k.results = some v) (hkeeps : KeepsSetting (lib a) p)
    (ha : getAddress (size cfg) c.user = some a) (hread : c.read.isSome)
    (hr : c.user.reason = .param g) (hg : p.readback = some g)
    (hls' : ∀ l ∈ ls', Client.Inside (Move.InTime true) l)
    (hrun' : (system lib cfg).run k (.call c :: ls') = some k') (hidle' : k'.thread = .idle) :
    ∃ r, k'.results = k.results ++ [(c, r)] ∧
      (r.status = .success → r.value = some (v.kept (lib a).rounding)) := by
  obtain ⟨t, hread⟩ := Option.isSome_iff_exists.1 hread
  -- what is told was acknowledged
  obtain ⟨x, hh, hend⟩ := history_of_run (C := fun _ ↦ True) (fun _ _ ↦ trivial)
    (fun e _ ↦ inTime_true e) hrun
  obtain ⟨-, rfl⟩ := hend hidle
  have hnothing : Told (lib a).rounding a p none (sync lib (new cfg enums)) := fun v hv ↦ by
    cases hv
  have htold : Told (lib a).rounding a p (setting (size cfg) a p k.results) (sync lib k.shared) :=
    hh.tracks (R := Told (lib a).rounding a p) (K := setting (size cfg) a p)
      (fun known c r ↦ c.tellsOf (size cfg) a p known r)
      (fun h c r ↦ by rw [setting, List.foldl_append]; rfl) hnothing
      fun htold ⟨_, hperf⟩ ↦ hperf.told htold
  obtain ⟨hneg, q, hq, y, hy, hack⟩ := htold v hknown
  obtain ⟨d, hd, rfl⟩ := Option.map_eq_some_iff.1 hy
  -- so it stands
  have hsets : p.Sets (lib a).rounding q := ⟨v, hneg, hq⟩
  obtain ⟨-, ls₀, hls₀, hrun₀⟩ := driven_of_run hrun a d hd
  obtain ⟨before, since, hcalls, hraised, hsince⟩ := (SlsDetDriver.stands_of_acknowledged
    (fun _ ↦ Param.combined_of_sets) hls₀ hrun₀ hsets hack).calls
  -- and is what the read finds
  obtain ⟨hready, hcons⟩ := consistent_of_idle hls hrun hidle
  obtain ⟨r, hres, -, hperf⟩ :=
    (call_spec hready (fun _ ↦ hcons.isSome_dets) hls' hrun').1 hidle'
  refine ⟨r, hres, fun hs ↦ ?_⟩
  obtain ⟨hconn, htimely⟩ := hperf.of_success ha hread hs
  obtain ⟨y, hy', hclean⟩ := hcons.clean a hconn
  obtain rfl := Option.some.inj (hy'.symm.trans hy)
  obtain ⟨g', q', z, hr', hquery, -, -, hoff⟩ := htimely.readsOff ha hread hconn hy hclean
  obtain rfl := Reason.param.inj (hr.symm.trans hr')
  rw [hready.core_sync hd hclean.pending] at hoff
  have hreadback : p.readback.bind Param.query = some q' := by
    rw [hg]
    exact hquery
  obtain ⟨value, hvalue⟩ := Option.isSome_iff_exists.1 (Param.combined_of_sets hsets)
  have hret : (lib a d.core.calls q').ret = value := by
    rw [hcalls]
    exact hkeeps before since q value q' hsets hvalue hraised hsince hreadback
  rw [(hoff.ok (hoff.success.1 hs)).1,
    Param.result_of_setter hq hneg hreadback (by rw [hret]; exact hvalue)]
  -- settings are no strings
  rcases c with ⟨⟨reason, addr⟩, op⟩
  obtain rfl : reason = .param g := hr
  cases op with
  | readOctet maxChars buffer => cases p <;> cases hg <;> cases hread
  | _ => rfl

/-- The voltage of a supply after a call. -/
def voltageAfter (last : Int) : LibCall → Int
  | .setHighVoltage value => if 0 ≤ value then value else last
  | _ => last

/-- A detector with a high voltage supply that does as it is told. -/
def supply : Library where
  answer calls q :=
    match q with
    | .setHighVoltage _ => { ret := voltageAfter (calls.foldl voltageAfter 0) q }
    | _ => { ret := 1 }

theorem keepsSetting_supply : KeepsSetting supply .setHighVoltage := by
  rintro before since q value g ⟨v, hneg, hq⟩ hvalue hraised hsince hg
  obtain rfl := Option.some.inj hg
  cases v <;> first | (cases hq; done) | obtain rfl := Option.some.inj hq
  case int32 value =>
    obtain rfl := Option.some.inj hvalue
    have hset : voltageAfter (before.foldl voltageAfter 0) (.setHighVoltage value) = value :=
      if_pos (not_lt.1 hneg)
    have hkept : since.foldl voltageAfter value = value := by
      induction since with
      | nil => rfl
      | cons q since ih =>
        have hsame : voltageAfter value q = value := by
          cases q with
          | setHighVoltage w =>
            exact if_neg fun hw ↦ (hsince _ List.mem_cons_self).1 ⟨.int32 w, not_lt.2 hw, rfl⟩
          | _ => rfl
        rw [List.foldl_cons, hsame]
        exact ih fun q' hq' ↦ hsince q' (List.mem_cons_of_mem q hq')
    show voltageAfter ((before ++ .setHighVoltage value :: since).foldl voltageAfter 0)
      (.setHighVoltage (-1)) = value
    rw [List.foldl_append, List.foldl_cons, hset, hkept]
    rfl

/-- The high voltage is set to three, then a read of the run status times out, and its reply is
flushed when the address is connected again. -/
def disturbed : List PortLabel :=
  online 0 ++ on .setHighVoltage 0 (.writeInt32 3) :: (exchange 0 ++ [.resume 0]) ++
    on .runStatus 0 .readInt32 ::
      [.env (.wait 0 false), .env (.wait 0 true), .resume 0, .resume 0] ++
    on .init 0 (.connect true) ::
      (List.replicate 5 (.env (.work 0)) ++ .env (.wait 0 false) :: exchange 0)

/-- After that, it still reads three. -/
theorem settings_read_back_disturbed : ∃ k k' r,
    (system (fun _ ↦ supply) (bench 1)).run (start (bench 1) blank) disturbed = some k ∧
    (system (fun _ ↦ supply) (bench 1)).run k
      (on .getHighVoltage 0 .readInt32 :: (exchange 0 ++ [.resume 0])) = some k' ∧
    k'.results = k.results ++ [(⟨⟨.param .getHighVoltage, 0⟩, .readInt32⟩, r)] ∧
    (r.status = .success → r.value = some (.int32 3)) := by
  have hbefore : ((system (fun _ ↦ supply) (bench 1)).run (start (bench 1) blank) disturbed).map
      (fun k ↦ (k.isIdle, setting 1 0 .setHighVoltage k.results)) =
      some (true, some (.int32 3)) := by
    decide +kernel
  have hafter : ((system (fun _ ↦ supply) (bench 1)).run (start (bench 1) blank)
      (disturbed ++ on .getHighVoltage 0 .readInt32 :: (exchange 0 ++ [.resume 0]))).map
      (fun k ↦ k.isIdle) = some true := by decide +kernel
  obtain ⟨k, k', hrun, hk, hrun', hidle'⟩ :=
    LabelledMachine.exists_run_append _ hbefore hafter
  obtain ⟨hidle, hknown⟩ := Prod.mk.inj hk
  obtain ⟨r, hres, hvalue⟩ := settings_read_back (a := 0) (by decide) hrun
    (Client.thread_of_isIdle hidle) hknown keepsSetting_supply rfl rfl rfl rfl
    (by simp [exchange, Client.Inside, Move.InTime]) hrun' (Client.thread_of_isIdle hidle')
  exact ⟨k, k', r, hrun, hrun', hres, hvalue⟩

end SlsDet
