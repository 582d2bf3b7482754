import Mathlib.Data.Finset.Card
import SlsDetModel.Port.Connection

/-!
# The count of connections

`SLS_NUM_DETS` is kept up by increments and decrements: one more when an address gets connected,
one less when it is disconnected. Two things upset it. The creation of a driver, on the first
`connect` of an address, sets the count to zero, whatever other addresses are connected; and
`disconnect` takes one off even where nothing was connected.

`Orderly` is the condition under which neither happens, and `counts_connected` says that it is the
right one: where every call was orderly the count is right, and one call that is not makes it
wrong.
-/

/-- The number of connected addresses. -/
def SyncSlsDet.connections (x : SyncSlsDet) (n : ℕ) : ℕ :=
  ((Finset.range n).filter fun a ↦ x.isConnected a = true).card

/-- The same for the port with its workers. -/
def SlsDet.connections (s : SlsDet) (n : ℕ) : ℕ :=
  ((Finset.range n).filter fun a ↦ s.isConnected a = true).card

namespace SyncSlsDet

variable {x x' : SyncSlsDet} {a n : ℕ}

/-- The count is right. -/
def Counted (x : SyncSlsDet) (n : ℕ) : Prop := x.params.integer 0 .numDet = x.connections n

theorem connections_congr (h : ∀ b, x'.isConnected b = x.isConnected b) :
    x'.connections n = x.connections n := by
  rw [connections, connections]
  simp only [h]

/-- One more connection. -/
theorem connections_add_one (ha : a < n) (hoff : x.isConnected a = false)
    (hon : x'.isConnected a = true) (hother : ∀ b, b ≠ a → x'.isConnected b = x.isConnected b) :
    x'.connections n = x.connections n + 1 := by
  have hinsert : (Finset.range n).filter (fun b ↦ x'.isConnected b = true) =
      insert a ((Finset.range n).filter fun b ↦ x.isConnected b = true) := by
    ext b
    by_cases hb : b = a
    · subst hb
      simp [ha, hon]
    · simp [hb, hother b hb]
  rw [connections, hinsert, Finset.card_insert_of_notMem (by simp [hoff])]
  rfl

theorem connections_eq_zero_iff :
    x.connections n = 0 ↔ ∀ b < n, x.isConnected b = false := by
  rw [connections, Finset.card_eq_zero, Finset.filter_eq_empty_iff]
  simp

theorem Counted.same (h : x.Counted n) (hsame : x.SameControl x') : x'.Counted n := by
  rw [Counted, hsame.integer rfl, connections_congr hsame.isConnected]
  exact h

/-- **Disconnecting keeps the count right exactly where there was a connection.** -/
theorem Counted.disconnect_iff (h : x.Counted n) (ha : a < n) :
    (x.disconnect a).Counted n ↔ x.isConnected a = true := by
  have hnum : (x.disconnect a).params.integer 0 .numDet = x.params.integer 0 .numDet - 1 :=
    ParamLists.integer_mark_numDet _ _ _ _
  have hoff : (x.disconnect a).isConnected a = false := by
    rw [isConnected_disconnect, if_pos rfl]
  have hother : ∀ b, b ≠ a → (x.disconnect a).isConnected b = x.isConnected b := by
    intro b hb
    rw [isConnected_disconnect, if_neg hb]
  rw [Counted] at h
  rw [Counted, hnum, h]
  rcases hconn : x.isConnected a with - | -
  · -- nothing was connected, so nothing has changed but the count
    have hsame : (x.disconnect a).connections n = x.connections n := by
      refine connections_congr fun b ↦ ?_
      by_cases hb : b = a
      · rw [hb, hoff, hconn]
      · exact hother b hb
    rw [hsame]
    exact iff_of_false (by omega) (by simp)
  · have hone : x.connections n = (x.disconnect a).connections n + 1 :=
      connections_add_one ha hoff hconn fun b hb ↦ (hother b hb).symm
    exact iff_of_true (by omega) rfl

/-- Connecting an address that was not connected. -/
theorem counted_connect_iff (ha : a < n) (hoff : x.isConnected a = false) :
    (x.connect a).Counted n ↔ x.Counted n := by
  have hnum : (x.connect a).params.integer 0 .numDet = x.params.integer 0 .numDet + 1 :=
    ParamLists.integer_mark_numDet _ _ _ _
  have hone : (x.connect a).connections n = x.connections n + 1 := by
    refine connections_add_one ha hoff ?_ fun b hb ↦ ?_
    · rw [isConnected_connect, if_pos rfl]
    · rw [isConnected_connect, if_neg hb]
  rw [Counted, Counted, hnum, hone]
  omega

/-- **The creation of a driver keeps the count right exactly where nothing is connected.** -/
theorem counted_construct_iff {cfg : SlsDetConfig} (hnone : x.dets a = none)
    (hoff : x.isConnected a = false) :
    (x.construct cfg a).Counted n ↔ ∀ b < n, x.isConnected b = false := by
  have hnum : (x.construct cfg a).params.integer 0 .numDet = 0 := by
    rw [params_construct_of_none hnone]
    exact ParamLists.integer_mark_numDet _ _ _ _
  have hsame : (x.construct cfg a).connections n = x.connections n := by
    refine connections_congr fun b ↦ ?_
    rw [isConnected_construct_of_none hnone]
    split
    case isTrue hb => rw [hb, hoff]
    case isFalse => rfl
  rw [Counted, hnum, hsame, ← connections_eq_zero_iff]
  omega

/-- The same for a whole `connect` that gets as far as asking the driver. -/
theorem counted_checked_iff {cfg : SlsDetConfig} {rep : SlsDetMessage} {z : SlsDetDriver.Sync}
    (ha : a < n) (hx : x.Consistent) (hcount : x.Counted n)
    (hconn : (x.construct cfg a).params.integer a .connStatus = 0) :
    (if rep.mtype = .ok then ((x.construct cfg a).setDet a z).connect a
      else (x.construct cfg a).setDet a z).Counted n ↔
      (x.dets a = none → ∀ b < n, x.isConnected b = false) := by
  have hoff : ((x.construct cfg a).setDet a z).isConnected a = false := by
    show ((x.construct cfg a).params.integer a .connStatus == _) = false
    rw [hconn]
    rfl
  have hanswer : (if rep.mtype = .ok then ((x.construct cfg a).setDet a z).connect a
      else (x.construct cfg a).setDet a z).Counted n ↔ (x.construct cfg a).Counted n := by
    split
    case isTrue => exact counted_connect_iff ha hoff
    case isFalse => exact Iff.rfl
  rw [hanswer]
  rcases hdet : x.dets a with - | y
  · have hxoff : x.isConnected a = false := by
      refine Bool.eq_false_iff.2 fun hon ↦ ?_
      have hsome := hx.isSome_dets hon
      rw [hdet] at hsome
      cases hsome
    rw [counted_construct_iff hdet hxoff]
    exact ⟨fun h _ ↦ h, fun h ↦ h rfl⟩
  · rw [construct_of_isSome (by rw [hdet]; rfl)]
    exact iff_of_true hcount fun h ↦ (nomatch h)

end SyncSlsDet

namespace SlsDet

variable {lib : ℕ → Library} {late : Bool} {cfg : SlsDetConfig} {enums : EnumBuffers}
  {c : PortCall} {x x' : SyncSlsDet} {r : Result} {k : PortSystem} {ls : List PortLabel}

/-- The call is no write to the status of a connection, nor to their count. -/
def PortCall.SparesControl (c : PortCall) : Prop :=
  c.user.reason = .param .connStatus ∨ c.user.reason = .param .numDet → c.value = none

instance : DecidablePred PortCall.SparesControl := fun c ↦
  inferInstanceAs (Decidable (_ ∨ c.user.reason = .param .numDet → c.value = none))

theorem PortCall.SparesControl.sparesStatus (h : c.SparesControl) : c.SparesStatus :=
  fun hr ↦ h (Or.inl hr)

/-- A `connect` that creates a driver is orderly where no address is connected, a `disconnect` where
the address is. -/
def PortCall.Orderly (cfg : SlsDetConfig) (c : PortCall) (x : SyncSlsDet) : Prop :=
  match c.op with
  | .connect made => ∀ a ∈ getAddress (size cfg) c.user, made = true →
      x.params.integer a .detEnabled ≠ 0 → (x.dets a).isNone →
      ∀ b < size cfg, x.isConnected b = false
  | .disconnect => ∀ a ∈ getAddress (size cfg) c.user, x.isConnected a = true
  | _ => True

instance (c : PortCall) (x : SyncSlsDet) : Decidable (PortCall.Orderly cfg c x) :=
  match c with
  | ⟨u, .connect made⟩ => inferInstanceAs (Decidable (∀ a ∈ getAddress (size cfg) u,
      made = true → x.params.integer a .detEnabled ≠ 0 → (x.dets a).isNone →
      ∀ b < size cfg, x.isConnected b = false))
  | ⟨u, .disconnect⟩ => inferInstanceAs (Decidable (∀ a ∈ getAddress (size cfg) u,
      x.isConnected a = true))
  | ⟨_, .readInt32⟩ => isTrue trivial
  | ⟨_, .readFloat64⟩ => isTrue trivial
  | ⟨_, .readOctet _ _⟩ => isTrue trivial
  | ⟨_, .writeInt32 _⟩ => isTrue trivial
  | ⟨_, .writeFloat64 _⟩ => isTrue trivial

/-- The reads and writes keep the count right. -/
theorem Effect.counted (h : Effect lib late cfg c x x') (hc : c.SparesControl)
    (hconnect : ∀ made, c.op ≠ .connect made) (hdisconnect : c.op ≠ .disconnect)
    (hx : x.Counted (size cfg)) : x'.Counted (size cfg) := by
  cases h with
  | none hdets hsame => exact hx.same hsame
  | kept ha hconn hdet hreq hm hdets hsame => exact hx.same hsame
  | dropped ha hconn hdet hreq hdets hsame =>
    exact ((hx.disconnect_iff (lt_of_getAddress ha)).2 hconn).same hsame
  | checked ha hop => exact (hconnect _ hop).elim
  | disconnected ha hop => exact (hdisconnect hop).elim
  | @enabled a v ha henables heq =>
    have hsame : SyncSlsDet.Counted
        { x with params := x.params.store a .detEnabled (.int32 v) } (size cfg) := by
      have hnum : (x.params.store a .detEnabled (.int32 v)).integer 0 .numDet =
          x.params.integer 0 .numDet := ParamLists.integer_store_of_ne (by decide) _ _
      rw [SyncSlsDet.Counted, SyncSlsDet.connections_congr (SyncSlsDet.isConnected_enable x a · _)]
      exact hnum.trans hx
    rw [heq]
    split
    case isTrue hoff =>
      refine (hsame.disconnect_iff (lt_of_getAddress ha)).2 ?_
      rw [SyncSlsDet.isConnected_enable]
      exact hoff.2
    case isFalse => exact hsame
  | marked hr hp hv heq =>
    rw [hc (by rcases hp with rfl | rfl <;> simp [hr])] at hv
    cases hv

/-- A `connect` upsets the count exactly by creating a driver while something is connected. -/
theorem Performed.counted_connect_iff {u : AsynUser} {made : Bool}
    (h : Performed lib late cfg ⟨u, .connect made⟩ x r x') (hx : x.Consistent)
    (hcount : x.Counted (size cfg)) :
    x'.Counted (size cfg) ↔ PortCall.Orderly cfg ⟨u, .connect made⟩ x := by
  have hnothing : (∀ a, getAddress (size cfg) u = some a → made = true →
      x.params.integer a .detEnabled ≠ 0 → (x.dets a).isNone → False) →
      PortCall.Orderly cfg ⟨u, .connect made⟩ x := by
    intro hno a ha hmade hen hnone
    exact (hno a ha hmade hen hnone).elim
  cases h with
  | noAddress ha =>
    refine iff_of_true hcount (hnothing fun b hb ↦ ?_)
    cases ha.symm.trans hb
  | disabled ha hop hen =>
    refine iff_of_true hcount (hnothing fun b hb _ henb ↦ ?_)
    obtain rfl := Option.some.inj (ha.symm.trans hb)
    exact (henb hen).elim
  | unmade ha hop =>
    obtain ⟨⟩ := hop
    exact iff_of_true hcount (hnothing fun b hb hmade ↦ by cases hmade)
  | already ha hop hen hdet hconn =>
    refine iff_of_true hcount (hnothing fun b hb _ _ hnone ↦ ?_)
    obtain rfl := Option.some.inj (ha.symm.trans hb)
    rw [Option.isNone_iff_eq_none] at hnone
    rw [hnone] at hdet
    cases hdet
  | @checked a made y rep z ha hop hen hmade hdet hconn hreq =>
    rw [SyncSlsDet.counted_checked_iff (lt_of_getAddress ha) hx hcount hconn]
    constructor
    · intro hall b hb _ _ hnone
      obtain rfl := Option.some.inj (ha.symm.trans hb)
      exact hall (Option.isNone_iff_eq_none.1 hnone)
    · intro hord hnone
      obtain ⟨⟩ := hop
      exact hord a ha (hmade hnone) hen (Option.isNone_iff_eq_none.2 hnone)
  | disconnected _ hop => cases hop
  | offline _ hread => cases hread
  | read _ hread => cases hread
  | readBase _ _ hbase => cases hbase
  | unsent _ hwrite => cases hwrite
  | write _ hwrite => cases hwrite
  | enabled _ henables => cases henables
  | writeBase _ _ _ hv => cases hv

/-- A `disconnect` takes one off, whether the address was connected or not. -/
theorem Performed.counted_disconnect_iff {u : AsynUser}
    (h : Performed lib late cfg ⟨u, .disconnect⟩ x r x') (hcount : x.Counted (size cfg)) :
    x'.Counted (size cfg) ↔ PortCall.Orderly cfg ⟨u, .disconnect⟩ x := by
  cases h with
  | noAddress ha =>
    refine iff_of_true hcount fun b hb ↦ ?_
    cases ha.symm.trans hb
  | disconnected ha hop =>
    rw [hcount.disconnect_iff (lt_of_getAddress ha)]
    refine ⟨fun hconn b hb ↦ ?_, fun hord ↦ hord _ ha⟩
    obtain rfl := Option.some.inj (ha.symm.trans hb)
    exact hconn
  | disabled _ hop => cases hop
  | unmade _ hop => cases hop
  | already _ hop => cases hop
  | checked _ hop => cases hop
  | offline _ hread => cases hread
  | read _ hread => cases hread
  | readBase _ _ hbase => cases hbase
  | unsent _ hwrite => cases hwrite
  | write _ hwrite => cases hwrite
  | enabled _ henables => cases henables
  | writeBase _ _ _ hv => cases hv

/-- **A call keeps the count right exactly when it is orderly.** -/
theorem Performed.counted_iff (h : Performed lib late cfg c x r x') (hc : c.SparesControl)
    (hx : x.Consistent) (hcount : x.Counted (size cfg)) :
    x'.Counted (size cfg) ↔ c.Orderly cfg x := by
  have hreadwrite : (∀ made, c.op ≠ .connect made) → c.op ≠ .disconnect →
      (x'.Counted (size cfg) ↔ c.Orderly cfg x) := by
    intro hconnect hdisconnect
    refine iff_of_true ((effect_of_performed h).counted hc hconnect hdisconnect hcount) ?_
    rw [PortCall.Orderly]
    split
    case h_1 made hop => exact (hconnect made hop).elim
    case h_2 hop => exact (hdisconnect hop).elim
    case h_3 => trivial
  rcases c with ⟨u, op⟩
  cases op with
  | connect made => exact h.counted_connect_iff hx hcount
  | disconnect => exact h.counted_disconnect_iff hcount
  | _ => exact hreadwrite (fun _ h ↦ (nomatch h)) fun h ↦ (nomatch h)

/-- **The count of connections is right as long as every call is orderly.** In every run of orderly
calls, whatever the detectors answer and whichever waits expire, the count is right between any two
calls. And it stays right after the next call exactly if that one is orderly too. -/
theorem counts_connected
    (hls : (system lib cfg).Along (Permits lib true fun c x ↦ c.SparesControl ∧ c.Orderly cfg x)
      (start cfg enums) ls)
    (hrun : (system lib cfg).run (start cfg enums) ls = some k) (hidle : k.thread = .idle) :
    k.shared.params.integer 0 .numDet = k.shared.connections (size cfg) ∧
    ∀ c ls' k', PortCall.SparesControl c → (∀ l ∈ ls', Client.Inside (Move.InTime true) l) →
      (system lib cfg).run k (.call c :: ls') = some k' → k'.thread = .idle →
      (k'.shared.params.integer 0 .numDet = k'.shared.connections (size cfg) ↔
        PortCall.Orderly cfg c (sync lib k.shared)) := by
  have hruns : Client.Runs (Issued ToDriver) (Answered lib true) (During lib true) (fun _ ↦ False)
      (fun s ↦ s.Ready ∧ (sync lib s).Consistent ∧ (sync lib s).Counted (size cfg))
      (fun _ _ ↦ True) [] k := by
    refine run_invariant (P := ToDriver)
      (J := fun x ↦ x.Consistent ∧ x.Counted (size cfg)) (fun h ↦ h)
      (fun _ hJ _ _ _ ↦ asks_toDriver hJ.1.isSome_dets) ?_ rfl (ready_new cfg enums) ⟨?_, ?_⟩
      hls hrun
    · rintro c x r x' ⟨hx, hcount⟩ ⟨hc, hord⟩ hperf
      exact ⟨⟨(effect_of_performed hperf).consistent hx hc.sparesStatus,
        (hperf.counted_iff hc hx hcount).2 hord⟩, trivial⟩
    · exact SyncSlsDet.consistent_of_forall fun a ↦ isConnected_new a
    · exact (congrArg Nat.cast
        (SyncSlsDet.connections_eq_zero_iff.2 fun b _ ↦ isConnected_new b)).symm
  have hholds := hruns.holds
  rw [Client.Holds, hidle] at hholds
  obtain ⟨hready, hcons, hcount⟩ := hholds
  refine ⟨hcount, fun c ls' k' hc hls' hrun' hidle' ↦ ?_⟩
  obtain ⟨r, -, -, hperf⟩ := (call_spec hready (fun _ ↦ hcons.isSome_dets) hls' hrun').1 hidle'
  exact hperf.counted_iff hc hcons hcount

/-- One address is connected and disconnected again. -/
theorem counts_connected_once : ∃ k,
    (system (fun _ ↦ SlsDetDriver.healthy) (bench 2)).run (start (bench 2) blank)
      (online 0 ++ [on .init 0 .disconnect]) = some k ∧
    k.shared.params.integer 0 .numDet = k.shared.connections 2 := by
  have hmap : ((system (fun _ ↦ SlsDetDriver.healthy) (bench 2)).run (start (bench 2) blank)
      (online 0 ++ [on .init 0 .disconnect])).map (fun k ↦ k.isIdle) = some true := by
    decide +kernel
  obtain ⟨k, hrun, hk⟩ := Option.map_eq_some_iff.1 hmap
  exact ⟨k, hrun, (counts_connected (by decide +kernel) hrun (Client.thread_of_isIdle hk)).1⟩

/-- **The count is lost** when a second address is connected for the first time: the creation of its
driver forgets the connection that is already there. -/
theorem count_lost : ¬∀ (lib : ℕ → Library) (cfg : SlsDetConfig) (enums : EnumBuffers)
    (ls : List PortLabel) (k : PortSystem), (∀ c ∈ Client.calls ls, PortCall.SparesControl c) →
    (system lib cfg).run (start cfg enums) ls = some k → k.thread = .idle →
    k.shared.params.integer 0 .numDet = k.shared.connections (size cfg) := by
  intro h
  have hmap : ((system (fun _ ↦ SlsDetDriver.healthy) (bench 2)).run (start (bench 2) blank)
      (online 0 ++ online 1)).map (fun k ↦ (k.isIdle, k.shared.params.integer 0 .numDet,
        k.shared.connections 2)) = some (true, 1, 2) := by decide +kernel
  obtain ⟨k, hrun, hk⟩ := Option.map_eq_some_iff.1 hmap
  obtain ⟨hidle, hk⟩ := Prod.mk.inj hk
  obtain ⟨hnum, hconn⟩ := Prod.mk.inj hk
  have hcount := h _ (bench 2) blank _ k (by decide) hrun (Client.thread_of_isIdle hidle)
  have hsize : size (bench 2) = 2 := rfl
  rw [hsize, hnum, hconn] at hcount
  cases hcount

end SlsDet
