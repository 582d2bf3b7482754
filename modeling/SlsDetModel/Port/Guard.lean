import SlsDetModel.Port.Connection

/-!
# The guard of the requests

`readDetector` and `writeDetector` follow the pointer `_dets[addr]` where `isConnected` is true.
That is a look at a parameter, not at the pointer: `initialize`, `shutdown` and the destructor test
the pointer itself. `Backed` is what the parameter stands for, a driver behind every connected
address. Whatever the port does by itself keeps it; but `SLS_CONN_STATUS` is a parameter like any
other, and a client that writes it writes past the pointer.

* `never_missing` — as long as no client writes CONNECTED to an address that has no driver, every
  request finds its driver; and after such a write the next read does not.
* `driver_missing` — it takes two calls of a port just constructed.
-/

namespace SyncSlsDet

variable {x x' : SyncSlsDet} {a : ℕ}

/-- Connected addresses have a driver. -/
def Backed (x : SyncSlsDet) : Prop := ∀ a, x.isConnected a = true → (x.dets a).isSome

/-- Where nothing is connected, no driver is needed. -/
theorem backed_of_forall (h : ∀ a, x.isConnected a = false) : x.Backed := fun a ha ↦
  (nomatch ha.symm.trans (h a))

/-- Nothing new is connected, and no driver is gone. -/
theorem Backed.mono (h : x.Backed)
    (hconn : ∀ a, x'.isConnected a = true → x.isConnected a = true)
    (hdets : ∀ a, (x.dets a).isSome → (x'.dets a).isSome) : x'.Backed :=
  fun a ha ↦ hdets a (h a (hconn a ha))

/-- Setting a driver removes none. -/
theorem isSome_dets_setDet {y : SlsDetDriver.Sync} {b : ℕ} (h : (x.dets b).isSome) :
    ((x.setDet a y).dets b).isSome := by
  by_cases hb : b = a
  · rw [hb, dets_setDet_same]
    rfl
  · rwa [dets_setDet_of_ne _ hb]

/-- Nor does the creation of one. -/
theorem isSome_dets_construct {cfg : SlsDetConfig} {b : ℕ} (h : (x.dets b).isSome) :
    ((x.construct cfg a).dets b).isSome := by
  by_cases hb : b = a
  · rw [construct_of_isSome (hb ▸ h)]
    exact h
  · rwa [dets_construct_of_ne hb]

/-- Disconnecting connects nothing. -/
theorem Backed.disconnect (h : x.Backed) (a : ℕ) : (x.disconnect a).Backed :=
  h.mono (fun _ hb ↦ (isConnected_of_disconnect hb).2) fun _ hb ↦ hb

/-- Neither does the creation of a driver. -/
theorem Backed.construct (h : x.Backed) (cfg : SlsDetConfig) (a : ℕ) :
    (x.construct cfg a).Backed := by
  rcases hdet : x.dets a with - | y
  · exact h.mono (fun _ hb ↦ (isConnected_of_construct hdet hb).2) fun _ hb ↦
      isSome_dets_construct hb
  · rwa [construct_of_isSome (by rw [hdet]; rfl)]

end SyncSlsDet

namespace SlsDet

variable {lib : ℕ → Library} {late : Bool} {cfg : SlsDetConfig} {enums : EnumBuffers}
  {c : PortCall} {x x' : SyncSlsDet} {r : Result} {a : ℕ} {s : SlsDet} {k k' : PortSystem}
  {ls : List PortLabel}

/-- The call does not declare an address connected that has no driver. -/
def PortCall.Guarded (cfg : SlsDetConfig) (c : PortCall) (x : SyncSlsDet) : Prop :=
  c.user.reason = .param .connStatus →
    c.value = some (.int32 ConnectionStatus.connected.toInt) →
      ∀ a ∈ getAddress (size cfg) c.user, (x.dets a).isSome

instance (c : PortCall) (x : SyncSlsDet) : Decidable (PortCall.Guarded cfg c x) :=
  inferInstanceAs (Decidable (_ → c.value = some (.int32 ConnectionStatus.connected.toInt) →
    ∀ a ∈ getAddress (size cfg) c.user, (x.dets a).isSome))

/-- **What the port does by itself keeps drivers behind connected addresses.** -/
theorem Effect.backed (h : Effect lib late cfg c x x') (hx : x.Backed) (hc : c.SparesStatus) :
    x'.Backed := by
  cases h with
  | none hdets hsame =>
    refine hx.mono (fun a ha ↦ ?_) fun a ha ↦ hdets ▸ ha
    rwa [hsame.isConnected] at ha
  | kept ha hconn hdet hreq hm hdets hsame =>
    refine hx.mono (fun b hb ↦ ?_) fun b hb ↦ ?_
    · rwa [hsame.isConnected] at hb
    · rw [hdets]
      exact SyncSlsDet.isSome_dets_setDet hb
  | @dropped a m y rep z ha hconn hdet hreq hdets hsame =>
    refine (hx.disconnect a).mono (fun b hb ↦ ?_) fun b hb ↦ ?_
    · rwa [hsame.isConnected] at hb
    · rw [hdets]
      exact SyncSlsDet.isSome_dets_setDet hb
  | @checked a made y rep z ha hop hen hmade hdet hconn hreq heq =>
    have hset : ((x.construct cfg a).setDet a z).Backed :=
      (hx.construct cfg a).mono (fun b hb ↦ hb) fun b hb ↦ SyncSlsDet.isSome_dets_setDet hb
    rw [heq]
    split
    case isFalse => exact hset
    case isTrue =>
      -- the address that is connected now is the one whose driver was asked
      intro b hb
      rw [SyncSlsDet.isConnected_connect] at hb
      by_cases hba : b = a
      · rw [hba]
        exact Option.isSome_iff_exists.2 ⟨z, (x.construct cfg a).dets_setDet_same a z⟩
      · rw [if_neg hba] at hb
        exact hset b hb
  | disconnected ha hop heq =>
    rw [heq]
    exact hx.disconnect _
  | @enabled a v ha henables heq =>
    have hsame : SyncSlsDet.Backed { x with params := x.params.store a .detEnabled (.int32 v) } := by
      refine hx.mono (fun b hb ↦ ?_) fun b hb ↦ hb
      rwa [SyncSlsDet.isConnected_enable] at hb
    rw [heq]
    split
    case isTrue => exact hsame.disconnect _
    case isFalse => exact hsame
  | marked hr hp hv heq =>
    rcases hp with rfl | rfl
    · rw [hc hr] at hv
      cases hv
    · rw [heq]
      refine hx.mono (fun b hb ↦ ?_) fun b hb ↦ hb
      rwa [SyncSlsDet.isConnected, ParamLists.integer_store_of_ne (by decide)] at hb

/-- A write to the status is left to the base class. -/
theorem PortCall.base_of_connStatus (hr : c.user.reason = .param .connStatus) :
    c.write = none ∧ c.enables = none := by
  rcases c with ⟨⟨reason, addr⟩, op⟩
  obtain rfl : reason = _ := hr
  cases op <;> exact ⟨rfl, rfl⟩

/-- All that it does is to store the value, if that is an integer and the address is in range. -/
theorem Performed.of_connStatus (h : Performed lib late cfg c x r x')
    (hr : c.user.reason = .param .connStatus) {v : Value} (hv : c.value = some v) :
    x' = x ∨ ∃ a ∈ getAddress (size cfg) c.user, ∃ n, v = .int32 n ∧
      x' = { x with params := x.params.store a .connStatus v } := by
  obtain ⟨hconnect, hdisconnect, hread, hbase⟩ := PortCall.kind_of_value hv
  obtain ⟨hwrite, henables⟩ := PortCall.base_of_connStatus hr
  cases h with
  | noAddress => exact Or.inl rfl
  | @writeBase a w ha _ _ hw =>
    obtain rfl := Option.some.inj (hv.symm.trans hw)
    rw [hr]
    cases v with
    | int32 n => exact Or.inr ⟨a, ha, n, rfl, by rw [ParamLists.setParam_of_type rfl]⟩
    | _ => exact Or.inl rfl
  | disabled _ hop => exact (hconnect _ hop).elim
  | unmade _ hop => exact (hconnect _ hop).elim
  | already _ hop => exact (hconnect _ hop).elim
  | checked _ hop => exact (hconnect _ hop).elim
  | disconnected _ hop => exact (hdisconnect hop).elim
  | offline _ hsome => exact nomatch hread.symm.trans hsome
  | read _ hsome => exact nomatch hread.symm.trans hsome
  | readBase _ _ hsome => exact nomatch (hbase _ _).symm.trans hsome
  | unsent _ hsome => exact nomatch hwrite.symm.trans hsome
  | write _ hsome => exact nomatch hwrite.symm.trans hsome
  | enabled _ hsome => exact nomatch henables.symm.trans hsome

/-- **A guarded call keeps drivers behind connected addresses.** -/
theorem Performed.backed (h : Performed lib late cfg c x r x') (hx : x.Backed)
    (hc : c.Guarded cfg x) : x'.Backed := by
  by_cases hspares : c.SparesStatus
  · exact (effect_of_performed h).backed hx hspares
  rw [PortCall.SparesStatus, Classical.not_imp] at hspares
  obtain ⟨hr, hv⟩ := hspares
  obtain ⟨v, hv⟩ := Option.ne_none_iff_exists'.1 hv
  rcases h.of_connStatus hr hv with rfl | ⟨a, ha, n, rfl, rfl⟩
  · exact hx
  · intro b hb
    by_cases hba : b = a
    · subst hba
      rw [SyncSlsDet.isConnected, ParamLists.integer_store_same, beq_iff_eq] at hb
      exact hc hr (hb ▸ hv) b ha
    · rw [SyncSlsDet.isConnected, ParamLists.integer_store_of_addr_ne hba] at hb
      exact hx b hb

/-! ### Crashes -/

/-- While a request is under way, its driver is there. -/
theorem During.toDriver {i : DetRequest} {t : SlsDet} (h : During lib late i s t) :
    ToDriver i t := by
  obtain ⟨-, -, hi⟩ := h
  cases i with
  | request a m =>
    obtain ⟨x, y, -, -, ht⟩ := hi
    have hdet : (sync lib t).dets a = some y := by rw [ht, SyncSlsDet.dets_setDet_same]
    exact isSome_dets hdet
  | inspect a rep =>
    obtain ⟨-, d, hd, -⟩ := hi
    exact Option.isSome_iff_exists.2 ⟨d, hd⟩

/-- A write of the status stores it. -/
theorem perform_connStatus {addr : Int} {n : Int}
    (ha : getAddress (size cfg) ⟨.param .connStatus, addr⟩ = some a) :
    perform cfg ⟨⟨.param .connStatus, addr⟩, .writeInt32 n⟩ s =
      .done (.ofStatus .success) { s with params := s.params.store a .connStatus (.int32 n) } := by
  show statusOnly (writeInt32 cfg _ n) s = _
  rw [writeInt32, ha]
  rfl

/-- A read at an address that passes for connected goes straight to its driver. -/
theorem crash_of_none {addr : Int} {results : List (PortCall × Result)}
    (ha : getAddress (size cfg) ⟨.param .runStatus, addr⟩ = some a)
    (hconn : s.isConnected a = true) (hdet : s.dets a = none) :
    Client.proceed (server lib) ⟨⟨.param .runStatus, addr⟩, .readInt32⟩ results
      (perform cfg ⟨⟨.param .runStatus, addr⟩, .readInt32⟩ s) =
        ⟨s, .crashed ⟨⟨.param .runStatus, addr⟩, .readInt32⟩, results⟩ := by
  have hask : ∃ kont, perform cfg ⟨⟨.param .runStatus, addr⟩, .readInt32⟩ s =
      .ask (.request a (.ofType .readRunStatus)) s kont := by
    show ∃ kont, readInt32 cfg ⟨.param .runStatus, addr⟩ s = _
    rw [readInt32, readParam, ha]
    show ∃ kont, (readDetector cfg ⟨.param .runStatus, addr⟩ .readRunStatus s).bind _ = _
    rw [readDetector, ha]
    show ∃ kont, ((if s.isConnected a = true then _ else _ : Prog AsynStatus) s).bind _ = _
    rw [if_pos hconn]
    exact ⟨_, rfl⟩
  have henter : (server lib).enter (.request a (.ofType .readRunStatus)) s = none := by
    show stepDet lib s a _ = none
    rw [stepDet, hdet, Option.bind_none]
  obtain ⟨kont, hask⟩ := hask
  rw [hask, Client.proceed, henter]

/-- **After a call that is not guarded the next read crashes.** -/
theorem crash_of_not_guarded (hidle : k.thread = .idle)
    (hc : ¬PortCall.Guarded cfg c (sync lib k.shared)) : ∃ k',
    (system lib cfg).run k [.call c, .call ⟨⟨.param .runStatus, c.user.addr⟩, .readInt32⟩] =
      some k' ∧
    k'.thread = .crashed ⟨⟨.param .runStatus, c.user.addr⟩, .readInt32⟩ := by
  simp only [PortCall.Guarded, Classical.not_imp, not_forall] at hc
  obtain ⟨hr, hv, a, ha, hnone⟩ := hc
  obtain ⟨⟨reason, addr⟩, op⟩ := c
  obtain rfl : reason = _ := hr
  have hop : op = .writeInt32 ConnectionStatus.connected.toInt := by
    cases op with
    | writeInt32 n =>
      obtain ⟨⟩ := hv
      rfl
    | _ => cases hv
  obtain rfl := hop
  have hdet : k.shared.dets a = none := by
    rcases hd : k.shared.dets a with - | d
    · rfl
    · exact (hnone (Option.isSome_iff_exists.2 ⟨_, sync_dets hd⟩)).elim
  have hwrite : (system lib cfg).step k (.call ⟨⟨.param .connStatus, addr⟩, .writeInt32
      ConnectionStatus.connected.toInt⟩) = some _ := Client.step_call_eq_some_iff.2 ⟨hidle, rfl⟩
  rw [perform_connStatus ha] at hwrite
  refine ⟨_, (system lib cfg).run_cons_eq_some.2 ⟨_, hwrite,
    (system lib cfg).run_cons_eq_some.2 ⟨_, Client.step_call_eq_some_iff.2 ⟨rfl, rfl⟩, rfl⟩⟩, ?_⟩
  have hconn : SlsDet.isConnected { k.shared with
      params := k.shared.params.store a .connStatus (.int32 ConnectionStatus.connected.toInt) } a =
        true :=
    beq_iff_eq.2 (ParamLists.integer_store_same _ _)
  exact congrArg Client.thread (crash_of_none ha hconn hdet)

/-- **No request goes through a missing driver as long as no client declares one connected.** In
every run of guarded calls, whatever the detectors answer and whichever waits expire, the thread
never follows a null pointer, and while a request is under way its driver is there. And a call that
is not guarded is one too many: the read after it follows a null pointer. -/
theorem never_missing
    (hls : (system lib cfg).Along (Permits lib true (PortCall.Guarded cfg)) (start cfg enums) ls)
    (hrun : (system lib cfg).run (start cfg enums) ls = some k) :
    (∀ c, k.thread ≠ .crashed c) ∧
    (∀ c i kont, k.thread = .waiting c i kont → (k.shared.dets i.addr).isSome) ∧
    (k.thread = .idle → ∀ c, ¬PortCall.Guarded cfg c (sync lib k.shared) → ∃ k',
      (system lib cfg).run k [.call c, .call ⟨⟨.param .runStatus, c.user.addr⟩, .readInt32⟩] =
        some k' ∧
      k'.thread = .crashed ⟨⟨.param .runStatus, c.user.addr⟩, .readInt32⟩) := by
  have hruns : Client.Runs (Issued ToDriver) (Answered lib true) (During lib true) (fun _ ↦ False)
      (fun s ↦ s.Ready ∧ (sync lib s).Backed) (fun _ _ ↦ True) [] k :=
    run_invariant (fun h ↦ h) (fun _ hJ _ _ _ ↦ asks_toDriver (hJ _))
      (fun hJ hC hperf ↦ ⟨hperf.backed hJ hC, trivial⟩) rfl (ready_new cfg enums)
      (SyncSlsDet.backed_of_forall isConnected_new) hls hrun
  have hholds := hruns.holds
  refine ⟨fun c hth ↦ ?_, fun c i kont hth ↦ ?_, fun hidle c hc ↦ crash_of_not_guarded hidle hc⟩
  · rw [Client.Holds, hth] at hholds
    exact hholds
  · rw [Client.Holds, hth] at hholds
    obtain ⟨s, -, hduring, -⟩ := hholds
    exact hduring.toDriver

/-- After `connect` at the one address of a small port, declaring it connected again is no harm. -/
theorem never_missing_online : ∃ k,
    (system (fun _ ↦ SlsDetDriver.healthy) (bench 1)).run (start (bench 1) blank)
      (online 0 ++ [on .connStatus 0 (.writeInt32 1)]) = some k ∧ ∀ c, k.thread ≠ .crashed c := by
  have hmap : ((system (fun _ ↦ SlsDetDriver.healthy) (bench 1)).run (start (bench 1) blank)
      (online 0 ++ [on .connStatus 0 (.writeInt32 1)])).isSome := by decide +kernel
  obtain ⟨k, hrun⟩ := Option.isSome_iff_exists.1 hmap
  exact ⟨k, hrun, (never_missing (by decide +kernel) hrun).1⟩

/-- **A driver can be missing**: a port just constructed, whose one address is declared connected
and then read. -/
theorem driver_missing : ¬∀ (lib : ℕ → Library) (cfg : SlsDetConfig) (enums : EnumBuffers)
    (ls : List PortLabel) (k : PortSystem), (system lib cfg).run (start cfg enums) ls = some k →
    ∀ c, k.thread ≠ .crashed c := by
  intro h
  have hnot : ¬PortCall.Guarded (bench 1) ⟨⟨.param .connStatus, 0⟩, .writeInt32 1⟩
      (sync (fun _ ↦ SlsDetDriver.healthy) (start (bench 1) blank).shared) := by decide
  obtain ⟨k, hrun, hth⟩ := crash_of_not_guarded rfl hnot
  exact h _ _ _ _ k hrun _ hth

end SlsDet
