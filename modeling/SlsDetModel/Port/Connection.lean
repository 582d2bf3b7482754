import SlsDetModel.Port.Effects

/-!
# Connected addresses

The status of an address is a parameter of the port; whether a request to its driver will find what
it needs is a matter of the driver, of its worker and of the detector library. `Consistent` ties
the two together: a connected address has a driver with nothing left over from earlier requests,
and it is enabled. The handlers treat the error mask in a dozen different ways, but each of them
leaves either a clear mask or a reply that makes the port give up the connection, and Ok to
`CheckOnline` is what restores it.

* `clean_slate` — between two calls a connected address is ready for its next request, and whatever
  error or failure that brings is the fault of its own library call.
* `disabled_never_contacted` — a connected address is enabled, and while an address is disabled
  nothing is sent to its driver; what would need the driver does not succeed.

Both are about runs in which no client writes the status itself.
-/

namespace SyncSlsDet

variable {x x' : SyncSlsDet} {a : ℕ}

/-- Connected addresses have a driver with a clean slate, and are enabled. -/
structure Consistent (x : SyncSlsDet) : Prop where
  clean : ∀ a, x.isConnected a = true → ∃ y, x.dets a = some y ∧ y.Clean
  enabled : ∀ a, x.isConnected a = true → x.params.integer a .detEnabled ≠ 0

/-- Where nothing is connected, there is nothing to say. -/
theorem consistent_of_forall (h : ∀ a, x.isConnected a = false) : x.Consistent :=
  ⟨fun a ha ↦ (nomatch ha.symm.trans (h a)), fun a ha ↦ (nomatch ha.symm.trans (h a))⟩

theorem Consistent.isSome_dets (h : x.Consistent) (ha : x.isConnected a = true) :
    (x.dets a).isSome := by
  obtain ⟨y, hy, -⟩ := h.clean a ha
  rw [hy]
  rfl

/-- Nothing new is connected, and what stays connected is as it was. -/
theorem Consistent.mono (h : x.Consistent)
    (hconn : ∀ a, x'.isConnected a = true → x.isConnected a = true)
    (hdets : ∀ a, x'.isConnected a = true → x'.dets a = x.dets a)
    (hen : ∀ a, x'.isConnected a = true →
      x'.params.integer a .detEnabled = x.params.integer a .detEnabled) : x'.Consistent where
  clean a ha := by
    rw [hdets a ha]
    exact h.clean a (hconn a ha)
  enabled a ha := by
    rw [hen a ha]
    exact h.enabled a (hconn a ha)

/-- The driver of a connected address was asked. -/
theorem Consistent.set (h : x.Consistent) {y z : SlsDetDriver.Sync}
    (hdets : x'.dets = (x.setDet a z).dets) (hsame : x.SameControl x') (hdet : x.dets a = some y)
    (hz : y.Clean → z.Clean) : x'.Consistent where
  clean b hb := by
    rw [hsame.isConnected] at hb
    rw [hdets]
    by_cases hba : b = a
    · subst hba
      obtain ⟨y', hy', hclean⟩ := h.clean b hb
      obtain rfl := Option.some.inj (hdet.symm.trans hy')
      exact ⟨z, x.dets_setDet_same b z, hz hclean⟩
    · rw [x.dets_setDet_of_ne hba]
      exact h.clean b hb
  enabled b hb := by
    rw [hsame.isConnected] at hb
    rw [hsame.integer rfl]
    exact h.enabled b hb

/-- An address was disconnected, its driver being what it may. -/
theorem Consistent.disconnect (h : x.Consistent) (hdets : ∀ b, b ≠ a → x'.dets b = x.dets b)
    (hsame : (x.disconnect a).SameControl x') : x'.Consistent := by
  have hne : ∀ b, x'.isConnected b = true → b ≠ a ∧ x.isConnected b = true := by
    intro b hb
    rw [hsame.isConnected] at hb
    exact isConnected_of_disconnect hb
  refine h.mono (fun b hb ↦ (hne b hb).2) (fun b hb ↦ hdets b (hne b hb).1) fun b _ ↦ ?_
  rw [hsame.integer rfl]
  exact ParamLists.integer_mark_detEnabled _ _ _ _ _

/-- An address was enabled or disabled, and in the latter case disconnected. -/
theorem Consistent.enable (h : x.Consistent) (a : ℕ) (v : Int)
    (heq : x' = if v = off ∧ x.isConnected a then
      { x with params := x.params.store a .detEnabled (.int32 v) }.disconnect a
      else { x with params := x.params.store a .detEnabled (.int32 v) }) : x'.Consistent := by
  have hother : ∀ b, b ≠ a →
      (x.params.store a .detEnabled (.int32 v)).integer b .detEnabled =
        x.params.integer b .detEnabled := fun b hb ↦
    ParamLists.integer_store_of_addr_ne hb _ _ _
  rw [heq]
  split
  case isTrue hoff =>
    have hne : ∀ b, (SyncSlsDet.disconnect { x with
        params := x.params.store a .detEnabled (.int32 v) } a).isConnected b = true →
        b ≠ a ∧ x.isConnected b = true := by
      intro b hb
      obtain ⟨hba, hb⟩ := isConnected_of_disconnect hb
      rw [isConnected_enable] at hb
      exact ⟨hba, hb⟩
    refine h.mono (fun b hb ↦ (hne b hb).2) (fun _ _ ↦ rfl) fun b hb ↦ ?_
    exact (ParamLists.integer_mark_detEnabled _ _ _ _ _).trans (hother b (hne b hb).1)
  case isFalse hoff =>
    constructor
    · intro b hb
      rw [isConnected_enable] at hb
      exact h.clean b hb
    · intro b hb
      rw [isConnected_enable] at hb
      by_cases hba : b = a
      · subst hba
        show (x.params.store b .detEnabled (.int32 v)).integer b .detEnabled ≠ 0
        rw [ParamLists.integer_store_same]
        exact fun hv ↦ hoff ⟨hv, hb⟩
      · exact (hother b hba).symm ▸ h.enabled b hb

/-- A driver was created, or was there. -/
theorem Consistent.construct (h : x.Consistent) (cfg : SlsDetConfig) (a : ℕ) :
    (x.construct cfg a).Consistent := by
  rcases hdet : x.dets a with - | y
  · exact h.mono (fun b hb ↦ (isConnected_of_construct hdet hb).2)
      (fun b hb ↦ dets_construct_of_ne (isConnected_of_construct hdet hb).1)
      fun b _ ↦ integer_construct_detEnabled x a b
  · rwa [construct_of_isSome (by rw [hdet]; rfl)]

/-- What the clients of a driver have put into it: the calls of `request()`, and the messages put on
its queue. -/
def record (x : SyncSlsDet) (a : ℕ) : Option (List SlsDetMessage × List Packet) :=
  (x.dets a).map fun y ↦ (y.called, y.sent)

theorem record_congr (h : x'.dets a = x.dets a) : x'.record a = x.record a := by
  rw [record, record, h]

end SyncSlsDet

namespace SlsDet

variable {lib : ℕ → Library} {late : Bool} {cfg : SlsDetConfig} {enums : EnumBuffers}
  {c : PortCall} {x x' : SyncSlsDet} {r : Result} {a : ℕ} {k k' : PortSystem}
  {ls ls' : List PortLabel}

/-- The call is no write to the status of a connection. -/
def PortCall.SparesStatus (c : PortCall) : Prop :=
  c.user.reason = .param .connStatus → c.value = none

instance : DecidablePred PortCall.SparesStatus := fun c ↦
  inferInstanceAs (Decidable (c.user.reason = .param .connStatus → c.value = none))

/-- **A call keeps connected addresses consistent.** -/
theorem Effect.consistent (h : Effect lib late cfg c x x') (hx : x.Consistent)
    (hc : c.SparesStatus) : x'.Consistent := by
  cases h with
  | none hdets hsame =>
    refine hx.mono (fun a ha ↦ ?_) (fun a _ ↦ congrFun hdets a) fun a _ ↦ hsame.integer rfl a
    rwa [hsame.isConnected] at ha
  | kept ha hconn hdet hreq hm hdets hsame =>
    exact hx.set hdets hsame hdet fun hy ↦ hy.requested hreq hm
  | dropped ha hconn hdet hreq hdets hsame =>
    refine hx.disconnect (fun b hb ↦ ?_) hsame
    rw [hdets, x.dets_setDet_of_ne hb]
  | @checked a made y rep z ha hop hen hmade hdet hconn hreq heq =>
    -- the address is not connected before; after an Ok its driver has a clean slate
    have hoff : ((x.construct cfg a).setDet a z).isConnected a = false := by
      show ((x.construct cfg a).params.integer a .connStatus == _) = false
      rw [hconn]
      rfl
    have hother : ∀ b, b ≠ a →
        ((x.construct cfg a).setDet a z).dets b = (x.construct cfg a).dets b := fun b hb ↦
      (x.construct cfg a).dets_setDet_of_ne hb z
    have hset : ((x.construct cfg a).setDet a z).Consistent := by
      refine (hx.construct cfg a).mono (fun b hb ↦ hb) (fun b hb ↦ hother b ?_) fun b _ ↦ rfl
      rintro rfl
      rw [hoff] at hb
      cases hb
    rw [heq]
    split
    case isFalse => exact hset
    case isTrue hok =>
      constructor
      · intro b hb
        rw [SyncSlsDet.isConnected_connect] at hb
        by_cases hba : b = a
        · subst hba
          exact ⟨z, (x.construct cfg b).dets_setDet_same b z, hreq.clean_of_ok hok⟩
        · rw [if_neg hba] at hb
          exact hset.clean b hb
      · intro b hb
        have hsame : (((x.construct cfg a).setDet a z).connect a).params.integer b .detEnabled =
            x.params.integer b .detEnabled :=
          (ParamLists.integer_mark_detEnabled _ _ _ _ _).trans
            (SyncSlsDet.integer_construct_detEnabled x a b)
        rw [hsame]
        by_cases hba : b = a
        · exact hba ▸ hen
        · rw [SyncSlsDet.isConnected_connect, if_neg hba] at hb
          have henb : (x.construct cfg a).params.integer b .detEnabled ≠ 0 := hset.enabled b hb
          rwa [SyncSlsDet.integer_construct_detEnabled] at henb
  | disconnected ha hop heq =>
    rw [heq]
    exact hx.disconnect (fun _ _ ↦ rfl) (.refl _)
  | enabled ha henables heq => exact hx.enable _ _ heq
  | marked hr hp hv heq =>
    rcases hp with rfl | rfl
    · rw [hc hr] at hv
      cases hv
    · rw [heq]
      refine hx.mono (fun b hb ↦ ?_) (fun _ _ ↦ rfl) fun b _ ↦
        ParamLists.integer_store_of_ne (by decide) _ _
      rwa [SyncSlsDet.isConnected, ParamLists.integer_store_of_ne (by decide)] at hb

/-! ### Clean slates -/

/-- What a call does to a driver that is there: it asks it once, or not at all. -/
theorem Effect.det (h : Effect lib late cfg c x x') {y : SlsDetDriver.Sync}
    (hy : x.dets a = some y) : x'.dets a = some y ∨
      ∃ m rep z, x'.dets a = some z ∧ SlsDetDriver.Requested (lib a) late y m rep z := by
  have hset : ∀ {b y' m rep z}, x.dets b = some y' →
      SlsDetDriver.Requested (lib b) late y' m rep z → x'.dets = (x.setDet b z).dets →
      x'.dets a = some y ∨
        ∃ m rep z, x'.dets a = some z ∧ SlsDetDriver.Requested (lib a) late y m rep z := by
    intro b y' m rep z hy' hreq hdets
    rw [hdets]
    by_cases hab : a = b
    · subst hab
      obtain rfl := Option.some.inj (hy.symm.trans hy')
      exact Or.inr ⟨m, rep, z, x.dets_setDet_same a z, hreq⟩
    · rw [x.dets_setDet_of_ne hab]
      exact Or.inl hy
  cases h with
  | none hdets => exact Or.inl (hdets ▸ hy)
  | kept ha hconn hdet hreq hm hdets => exact hset hdet hreq hdets
  | dropped ha hconn hdet hreq hdets => exact hset hdet hreq hdets
  | @checked b made y' rep z ha hop hen hmade hdet hconn hreq heq =>
    have hdets : x'.dets = ((x.construct cfg b).setDet b z).dets := by
      rw [heq]
      split <;> rfl
    by_cases hab : a = b
    · subst hab
      have hsame : x.construct cfg a = x := SyncSlsDet.construct_of_isSome (by rw [hy]; rfl)
      rw [hsame] at hdet hdets
      exact hset hdet hreq hdets
    · rw [hdets, (x.construct cfg b).dets_setDet_of_ne hab, SyncSlsDet.dets_construct_of_ne hab]
      exact Or.inl hy
  | disconnected ha hop heq =>
    rw [heq]
    exact Or.inl hy
  | enabled ha henables heq =>
    rw [heq]
    refine Or.inl ?_
    split <;> exact hy
  | marked hr hp hv heq =>
    rw [heq]
    exact Or.inl hy

/-- Nothing is connected in the beginning. -/
theorem isConnected_new (a : ℕ) : (sync lib (new cfg enums)).isConnected a = false := rfl

/-- **Runs keep connected addresses consistent**, and never follow a null pointer. -/
theorem consistent_run (hidle : k.thread = .idle) (hready : k.shared.Ready)
    (hcons : (sync lib k.shared).Consistent) (hls : ∀ c ∈ Client.calls ls, PortCall.SparesStatus c)
    (hrun : (system lib cfg).run k ls = some k') :
    Client.Runs (Issued ToDriver) (Answered lib true) (During lib true) (fun _ ↦ False)
      (fun s ↦ s.Ready ∧ (sync lib s).Consistent) (fun _ _ ↦ True) k.results k' := by
  refine run_invariant (C := fun c _ ↦ c.SparesStatus) (fun h ↦ h)
    (fun _ hJ _ _ _ ↦ asks_toDriver hJ.isSome_dets)
    (fun hJ hC hperf ↦ ⟨(effect_of_performed hperf).consistent hJ hC, trivial⟩) hidle hready hcons
    (permits_of_forall hls (fun e _ ↦ inTime_true e) _) hrun

theorem consistent_of_run (hls : ∀ c ∈ Client.calls ls, PortCall.SparesStatus c)
    (hrun : (system lib cfg).run (start cfg enums) ls = some k) :
    Client.Runs (Issued ToDriver) (Answered lib true) (During lib true) (fun _ ↦ False)
      (fun s ↦ s.Ready ∧ (sync lib s).Consistent) (fun _ _ ↦ True) [] k :=
  consistent_run rfl (ready_new cfg enums) (SyncSlsDet.consistent_of_forall isConnected_new) hls
    hrun

/-- The same between two calls. -/
theorem consistent_of_idle (hls : ∀ c ∈ Client.calls ls, PortCall.SparesStatus c)
    (hrun : (system lib cfg).run (start cfg enums) ls = some k) (hidle : k.thread = .idle) :
    k.shared.Ready ∧ (sync lib k.shared).Consistent := by
  have hholds := (consistent_of_run hls hrun).holds
  rwa [Client.Holds, hidle] at hholds

/-- What the clients of a driver have put into it, with the workers. -/
def record (s : SlsDet) (a : ℕ) : Option (List SlsDetMessage × List Packet) :=
  (s.dets a).map fun d ↦ (d.journal.called, d.journal.sent)

theorem record_sync (lib : ℕ → Library) (s : SlsDet) (a : ℕ) : (sync lib s).record a = s.record a :=
  Option.map_map _ _ _

/-- The call enables the address. -/
def PortCall.Enables (cfg : SlsDetConfig) (a : ℕ) (c : PortCall) : Prop :=
  getAddress (size cfg) c.user = some a ∧ c.enables.getD off ≠ off

instance (a : ℕ) : DecidablePred (PortCall.Enables cfg a) := fun c ↦
  inferInstanceAs (Decidable (getAddress (size cfg) c.user = some a ∧ c.enables.getD off ≠ off))

/-- The call needs the detector of the address. -/
def PortCall.NeedsDetector (cfg : SlsDetConfig) (a : ℕ) (c : PortCall) : Prop :=
  getAddress (size cfg) c.user = some a ∧
    ((∃ made, c.op = .connect made) ∨ c.read.isSome ∨ c.write.isSome)

/-- **A call leaves a disabled address disabled and its driver alone**, unless it enables it. -/
theorem Effect.disabled (h : Effect lib late cfg c x x') (hx : x.Consistent)
    (hen : x.params.integer a .detEnabled = 0) (hc : ¬c.Enables cfg a) :
    x'.params.integer a .detEnabled = 0 ∧ x'.dets a = x.dets a := by
  have hne : ∀ {b}, x.isConnected b = true → a ≠ b := by
    rintro b hb rfl
    exact hx.enabled a hb hen
  cases h with
  | none hdets hsame => exact ⟨(hsame.integer rfl a).trans hen, congrFun hdets a⟩
  | kept ha hconn hdet hreq hm hdets hsame =>
    refine ⟨(hsame.integer rfl a).trans hen, ?_⟩
    rw [hdets, x.dets_setDet_of_ne (hne hconn)]
  | dropped ha hconn hdet hreq hdets hsame =>
    refine ⟨(hsame.integer rfl a).trans ?_, ?_⟩
    · exact (ParamLists.integer_mark_detEnabled _ _ _ _ _).trans hen
    · rw [hdets, x.dets_setDet_of_ne (hne hconn)]
  | @checked b made y rep z ha hop henb hmade hdet hconn hreq heq =>
    have hab : a ≠ b := by
      rintro rfl
      exact henb hen
    have hset : ((x.construct cfg b).setDet b z).dets a = x.dets a := by
      rw [(x.construct cfg b).dets_setDet_of_ne hab, SyncSlsDet.dets_construct_of_ne hab]
    have hsame : ((x.construct cfg b).setDet b z).params.integer a .detEnabled = 0 :=
      (SyncSlsDet.integer_construct_detEnabled x b a).trans hen
    rw [heq]
    split
    · exact ⟨(ParamLists.integer_mark_detEnabled _ _ _ _ _).trans hsame, hset⟩
    · exact ⟨hsame, hset⟩
  | disconnected ha hop heq =>
    rw [heq]
    exact ⟨(ParamLists.integer_mark_detEnabled _ _ _ _ _).trans hen, rfl⟩
  | @enabled b v ha henables heq =>
    have hv : (x.params.store b .detEnabled (.int32 v)).integer a .detEnabled = 0 := by
      by_cases hab : a = b
      · subst hab
        rw [ParamLists.integer_store_same]
        by_contra hv
        exact hc ⟨ha, by rwa [henables]⟩
      · rw [ParamLists.integer_store_of_addr_ne hab, hen]
    rw [heq]
    split
    · exact ⟨(ParamLists.integer_mark_detEnabled _ _ _ _ _).trans hv, rfl⟩
    · exact ⟨hv, rfl⟩
  | marked hr hp hv heq =>
    rw [heq]
    refine ⟨(ParamLists.integer_store_of_ne ?_ _ _).trans hen, rfl⟩
    rcases hp with rfl | rfl <;> decide

/-- Calls of a kind that never needs a detector. -/
theorem PortCall.not_needsDetector (hread : c.read = none) (hwrite : c.write = none)
    (hop : ∀ made, c.op ≠ .connect made) : ¬c.NeedsDetector cfg a := by
  rintro ⟨-, ⟨made, h⟩ | h | h⟩
  · exact hop made h
  · rw [hread] at h
    cases h
  · rw [hwrite] at h
    cases h

/-- **What would need the detector of a disabled address does not succeed.** -/
theorem Performed.refused (h : Performed lib late cfg c x r x') (hx : x.Consistent)
    (hen : x.params.integer a .detEnabled = 0) (hneeds : c.NeedsDetector cfg a) :
    r.status ≠ .success := by
  have hsame : ∀ {b}, getAddress (size cfg) c.user = some b → b = a := fun hb ↦
    Option.some.inj (hb.symm.trans hneeds.1)
  have hconn : ∀ {b}, getAddress (size cfg) c.user = some b → x.isConnected b ≠ true := by
    intro b hb hconn
    exact hx.enabled b hconn (hsame hb ▸ hen)
  cases h with
  | noAddress => exact fun h ↦ (nomatch h)
  | disabled => exact fun h ↦ (nomatch h)
  | unmade => exact fun h ↦ (nomatch h)
  | offline => exact fun h ↦ (nomatch h)
  | unsent => exact fun h ↦ (nomatch h)
  -- to get past these the address would have to be enabled, or connected
  | already hb _ henb => exact (henb (hsame hb ▸ hen)).elim
  | checked hb _ henb => exact (henb (hsame hb ▸ hen)).elim
  | read hb _ hc => exact (hconn hb hc).elim
  | write hb _ _ _ _ hc => exact (hconn hb hc).elim
  -- and these need no detector
  | disconnected _ hop =>
    rcases c with ⟨u, op⟩
    obtain rfl : op = _ := hop
    have hnot : ¬PortCall.NeedsDetector cfg a ⟨u, .disconnect⟩ :=
      PortCall.not_needsDetector rfl rfl fun _ h ↦ (nomatch h)
    exact (hnot hneeds).elim
  | readBase _ hread hbase =>
    have hkind : c.write = none ∧ ∀ made, c.op ≠ .connect made := by
      rcases c with ⟨u, op⟩
      cases op
      case readInt32 => exact ⟨rfl, fun _ h ↦ (nomatch h)⟩
      case readFloat64 => exact ⟨rfl, fun _ h ↦ (nomatch h)⟩
      case readOctet => exact ⟨rfl, fun _ h ↦ (nomatch h)⟩
      all_goals cases hbase
    exact (PortCall.not_needsDetector hread hkind.1 hkind.2 hneeds).elim
  | enabled _ henables =>
    rcases c with ⟨⟨reason, addr⟩, op⟩
    cases op with
    | writeInt32 w =>
      obtain ⟨hreason, -⟩ := Option.ite_none_right_eq_some.1 henables
      obtain rfl : reason = _ := hreason
      have hnot : ¬PortCall.NeedsDetector cfg a ⟨⟨.param .detEnabled, addr⟩, .writeInt32 w⟩ :=
        PortCall.not_needsDetector rfl rfl fun _ h ↦ (nomatch h)
      exact (hnot hneeds).elim
    | _ => cases henables
  | writeBase _ hwrite _ hv =>
    have hkind : c.read = none ∧ ∀ made, c.op ≠ .connect made := by
      rcases c with ⟨u, op⟩
      cases op
      case writeInt32 => exact ⟨rfl, fun _ h ↦ (nomatch h)⟩
      case writeFloat64 => exact ⟨rfl, fun _ h ↦ (nomatch h)⟩
      all_goals cases hv
    exact (PortCall.not_needsDetector hkind.1 hwrite hkind.2 hneeds).elim

/-- A request to another driver, while this one has been given what it has been given so far. -/
def Elsewhere (lib : ℕ → Library) (a : ℕ) (given : Option (List SlsDetMessage × List Packet))
    (i : DetRequest) (s : SlsDet) : Prop :=
  i.addr ≠ a ∧ (s.dets i.addr).isSome ∧ (sync lib s).record a = given

/-- **A disabled detector is never contacted.** Between two calls of any run, a connected address
is enabled. And from any such state in which an address is not enabled, until a call enables it,
nothing is asked of its driver and nothing is put on its queue, and every call that would need the
detector returns a status that is no success. -/
theorem disabled_never_contacted (hls : ∀ c ∈ Client.calls ls, PortCall.SparesStatus c)
    (hrun : (system lib cfg).run (start cfg enums) ls = some k) (hidle : k.thread = .idle) :
    (∀ a, k.shared.isConnected a = true → k.shared.params.integer a .detEnabled ≠ 0) ∧
    ∀ a, k.shared.params.integer a .detEnabled = 0 → ∀ ls' k',
      (∀ c ∈ Client.calls ls', PortCall.SparesStatus c ∧ ¬PortCall.Enables cfg a c) →
      (system lib cfg).run k ls' = some k' →
      k'.shared.record a = k.shared.record a ∧
      ∃ new, k'.results = k.results ++ new ∧
        ∀ p ∈ new, PortCall.NeedsDetector cfg a p.1 → p.2.status ≠ .success := by
  obtain ⟨hready, hcons⟩ := consistent_of_idle hls hrun hidle
  refine ⟨hcons.enabled, fun a hen ls' k' hls' hrun' ↦ ?_⟩
  have hruns : Client.Runs (Issued (Elsewhere lib a (k.shared.record a))) (Answered lib true)
      (During lib true) (fun _ ↦ False)
      (fun s ↦ s.Ready ∧ (sync lib s).Consistent ∧
        (sync lib s).params.integer a .detEnabled = 0 ∧
        (sync lib s).record a = k.shared.record a)
      (fun c r ↦ PortCall.NeedsDetector cfg a c → r.status ≠ .success) k.results k' := by
    refine run_invariant (P := Elsewhere lib a (k.shared.record a))
      (J := fun x ↦ x.Consistent ∧ x.params.integer a .detEnabled = 0 ∧
        x.record a = k.shared.record a)
      (C := fun c _ ↦ c.SparesStatus ∧ ¬c.Enables cfg a) (fun h ↦ h.2.1) ?_ ?_ hidle hready
      ⟨hcons, hen, record_sync _ _ _⟩
      (permits_of_forall hls' (fun e _ ↦ inTime_true e) k) hrun'
    · rintro c s b - ⟨hx, hoff, hrec⟩ - - hlive i t rfl hother hdet
      -- an address within reach of its detector is enabled
      have hb : i.addr ≠ a := by
        rintro rfl
        rcases hlive with hconn | henb
        · exact hx.enabled _ hconn hoff
        · exact henb hoff
      refine ⟨hb, asks_toDriver hx.isSome_dets i t rfl hother hdet, ?_⟩
      rw [SyncSlsDet.record_congr (hother a hb.symm), hrec]
    · rintro c x r x' ⟨hx, hoff, hrec⟩ ⟨hc, hnen⟩ hperf
      have heffect := effect_of_performed hperf
      obtain ⟨hoff', hdets⟩ := heffect.disabled hx hoff hnen
      refine ⟨⟨heffect.consistent hx hc, hoff', ?_⟩, hperf.refused hx hoff⟩
      rw [SyncSlsDet.record_congr hdets, hrec]
  refine ⟨?_, hruns.results⟩
  have hholds := hruns.holds
  rw [← record_sync lib]
  unfold Client.Holds at hholds
  split at hholds
  case h_1 => exact hholds.2.2.2
  case h_2 c i kont hth =>
    obtain ⟨s, ⟨-, ⟨hb, -, hrec⟩, -⟩, ⟨-, -, hduring⟩, -⟩ := hholds
    cases i with
    | request b m =>
      obtain ⟨y, z, -, -, hsync⟩ := hduring
      change b ≠ a at hb
      rw [hsync, SyncSlsDet.record_congr ((sync lib s).dets_setDet_of_ne hb.symm z), hrec]
    | inspect b rep => rw [hduring.1, hrec]
  case h_3 => exact hholds.elim

/-- The address is disabled again, and then read. -/
def offline (addr : ℕ) : List PortLabel :=
  online addr ++ [on .detEnabled addr (.writeInt32 0)]

/-- After that a read is refused, and the driver has not been asked again. -/
theorem disabled_never_contacted_offline : ∃ k k',
    (system (fun _ ↦ SlsDetDriver.healthy) (bench 1)).run (start (bench 1) blank) (offline 0) =
      some k ∧
    (system (fun _ ↦ SlsDetDriver.healthy) (bench 1)).run k [on .runStatus 0 .readInt32] =
      some k' ∧
      k'.shared.record 0 = k.shared.record 0 := by
  have hafter : ((system (fun _ ↦ SlsDetDriver.healthy) (bench 1)).run (start (bench 1) blank)
      (offline 0 ++ [on .runStatus 0 .readInt32])).map (fun k ↦ k.isIdle) = some true := by
    decide +kernel
  have hbefore : ((system (fun _ ↦ SlsDetDriver.healthy) (bench 1)).run (start (bench 1) blank)
      (offline 0)).map (fun k ↦ (k.isIdle, k.shared.params.integer 0 .detEnabled)) =
        some (true, 0) := by decide +kernel
  obtain ⟨k, k', hk, hstate, hrun, -⟩ := LabelledMachine.exists_run_append _ hbefore hafter
  obtain ⟨hidle, hen⟩ := Prod.mk.inj hstate
  have hnever := disabled_never_contacted (by decide) hk (Client.thread_of_isIdle hidle)
  exact ⟨k, k', hk, hrun, (hnever.2 0 hen _ k' (by decide) hrun).1⟩

end SlsDet
