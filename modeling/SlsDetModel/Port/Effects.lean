import SlsDetModel.Port.Runs

/-!
# What calls do to the connections

The statuses, the enabling and the count of connections are parameters like any other, but only a
few calls touch them. `Effect` says what a call can do to them and to the drivers: seven ways,
where `Performed` has thirteen, for whatever a call reads, stores or returns besides does not
matter here.
-/

namespace SyncSlsDet

variable {x x' x'' : SyncSlsDet} {a b : ℕ}

/-- The parameters that belong to the connections are the same. -/
def SameControl (x x' : SyncSlsDet) : Prop :=
  ∀ b p, p.IsControl = true → x'.params b p = x.params b p

theorem SameControl.refl (x : SyncSlsDet) : x.SameControl x := fun _ _ _ ↦ rfl

theorem SameControl.integer (h : x.SameControl x') {p : Param} (hp : p.IsControl = true) (b : ℕ) :
    x'.params.integer b p = x.params.integer b p := by
  rw [ParamLists.integer, ParamLists.integer, h b p hp]

theorem SameControl.isConnected (h : x.SameControl x') (b : ℕ) :
    x'.isConnected b = x.isConnected b :=
  congrArg (· == _) (h.integer rfl b)

/-- Disconnecting depends on nothing else. -/
theorem SameControl.disconnect (h : x.SameControl x') (a : ℕ) :
    (x.disconnect a).SameControl (x'.disconnect a) := by
  intro b p hp
  show (x'.params.mark a _ _) b p = (x.params.mark a _ _) b p
  rw [h.integer rfl 0]
  simp only [ParamLists.mark, ParamLists.store, h b p hp]

/-- Storing a value of the detector. -/
theorem sameControl_store {p : Param} (hp : p.IsControl = false) (v : Value) :
    x.SameControl { x with params := x.params.store a p v } := by
  intro b q hq
  refine ParamLists.store_of_ne (fun heq ↦ ?_) v b
  rw [heq, hp] at hq
  cases hq

/-- A status that is not connected, or connected to. -/
theorem isConnected_of_mark {status : ConnectionStatus} {n : Int}
    (h : x'.params = x.params.mark a status n) (b : ℕ) :
    x'.isConnected b = if b = a then status == .connected else x.isConnected b := by
  rw [isConnected, h, ParamLists.integer_mark_connStatus]
  by_cases hb : b = a
  · rw [if_pos hb, if_pos hb]
    cases status <;> rfl
  · rw [if_neg hb, if_neg hb, isConnected]

theorem isConnected_disconnect (x : SyncSlsDet) (a b : ℕ) :
    (x.disconnect a).isConnected b = if b = a then false else x.isConnected b := by
  have h : (x.disconnect a).params = x.params.mark a .disconnected _ := rfl
  exact isConnected_of_mark h b

/-- What is connected after a disconnection was connected before, and elsewhere. -/
theorem isConnected_of_disconnect (h : (x.disconnect a).isConnected b = true) :
    b ≠ a ∧ x.isConnected b = true := by
  rw [isConnected_disconnect] at h
  split at h
  case isTrue => cases h
  case isFalse hba => exact ⟨hba, h⟩

theorem isConnected_connect (x : SyncSlsDet) (a b : ℕ) :
    (x.connect a).isConnected b = if b = a then true else x.isConnected b := by
  have h : (x.connect a).params = x.params.mark a .connected _ := rfl
  exact isConnected_of_mark h b

/-- Enabling and disabling leave the status alone. -/
theorem isConnected_enable (x : SyncSlsDet) (a b : ℕ) (v : Value) :
    SyncSlsDet.isConnected { x with params := x.params.store a .detEnabled v } b =
      x.isConnected b :=
  congrArg (· == _) (ParamLists.integer_store_of_ne (by decide) v b)

/-! ### The creation of a driver -/

variable {cfg : SlsDetConfig}

theorem construct_of_isSome (h : (x.dets a).isSome) : x.construct cfg a = x := if_pos h

theorem dets_construct_of_none (h : x.dets a = none) (b : ℕ) : (x.construct cfg a).dets b =
    if b = a then some (SlsDetDriver.Sync.new (cfg.hostnames.getD a []) (cfg.id + a))
    else x.dets b := by
  rw [construct, h, if_neg (by decide)]
  exact Function.update_apply _ _ _ _

theorem params_construct_of_none (h : x.dets a = none) :
    (x.construct cfg a).params = x.params.create a := by
  rw [construct, h, if_neg (by decide)]

theorem isConnected_construct_of_none (h : x.dets a = none) (b : ℕ) :
    (x.construct cfg a).isConnected b = if b = a then false else x.isConnected b :=
  isConnected_of_mark (params_construct_of_none h) b

/-- Nothing that is connected then has just been created. -/
theorem isConnected_of_construct (hdet : x.dets a = none)
    (h : (x.construct cfg a).isConnected b = true) : b ≠ a ∧ x.isConnected b = true := by
  rw [isConnected_construct_of_none hdet] at h
  split at h
  case isTrue => cases h
  case isFalse hba => exact ⟨hba, h⟩

/-- Other addresses do not notice. -/
theorem dets_construct_of_ne (hb : b ≠ a) : (x.construct cfg a).dets b = x.dets b := by
  rcases hdet : x.dets a with - | y
  · rw [dets_construct_of_none hdet, if_neg hb]
  · rw [construct_of_isSome (by rw [hdet]; rfl)]

@[simp] theorem integer_construct_detEnabled (x : SyncSlsDet) (a b : ℕ) :
    (x.construct cfg a).params.integer b .detEnabled = x.params.integer b .detEnabled := by
  rcases hdet : x.dets a with - | y
  · rw [params_construct_of_none hdet, ParamLists.create, ParamLists.integer_mark_detEnabled]
  · rw [construct_of_isSome (by rw [hdet]; rfl)]

/-! ### Replies -/

/-- What a read makes of a reply: the connection stays, or it is given up. -/
theorem takeRead_cases {r : Reason} {p : Param} {rep : SlsDetMessage} {v : Option Value}
    {status : AsynStatus} (hr : r = .param p) (hp : p.IsControl = false)
    (h : x.takeRead cfg a r rep v = (status, x')) :
    ((rep.mtype = .ok ∨ rep.mtype = .failed ∨ rep.mtype = .invalid) ∧ x'.dets = x.dets ∧
      x.SameControl x') ∨ status ≠ .success ∧ x' = x.disconnect a := by
  rw [takeRead] at h
  split at h
  case h_1 hm =>
    refine Or.inl ⟨Or.inl hm, ?_⟩
    unfold storeReply at h
    split at h
    case h_1 =>
      obtain ⟨-, rfl⟩ := Prod.mk.inj h
      exact ⟨rfl, .refl x⟩
    case h_2 w =>
      split at h
      case isTrue =>
        obtain ⟨-, rfl⟩ := Prod.mk.inj h
        exact ⟨rfl, .refl x⟩
      case isFalse =>
        obtain ⟨-, rfl⟩ := Prod.mk.inj h
        refine ⟨rfl, ?_⟩
        rw [hr, ParamLists.setParam]
        split
        case isTrue => exact sameControl_store hp w
        case isFalse => exact .refl x
  case h_2 hm =>
    obtain ⟨-, rfl⟩ := Prod.mk.inj h
    exact Or.inl ⟨Or.inr (Or.inr hm), rfl, .refl x⟩
  all_goals
    obtain ⟨rfl, rfl⟩ := Prod.mk.inj h
    exact Or.inr ⟨by decide, rfl⟩

/-- The same for writes. -/
theorem takeWrite_cases {rep : SlsDetMessage} {status : AsynStatus}
    (h : x.takeWrite a rep = (status, x')) :
    ((rep.mtype = .ok ∨ rep.mtype = .failed ∨ rep.mtype = .invalid) ∧ x' = x) ∨
      status ≠ .success ∧ x' = x.disconnect a := by
  rw [takeWrite] at h
  split at h <;> obtain ⟨rfl, rfl⟩ := Prod.mk.inj h
  case h_1 hm => exact Or.inl ⟨Or.inl hm, rfl⟩
  case h_2 hm => exact Or.inl ⟨Or.inr (Or.inl hm), rfl⟩
  case h_3 hm => exact Or.inl ⟨Or.inr (Or.inr hm), rfl⟩
  all_goals exact Or.inr ⟨by decide, rfl⟩

end SyncSlsDet

namespace SlsDet

variable {lib : ℕ → Library} {late : Bool} {cfg : SlsDetConfig} {c : PortCall}
  {x x' : SyncSlsDet} {r : Result}

/-- With nothing in flight, the worker's state is what it seems. -/
theorem Ready.core_sync {s : SlsDet} (hs : s.Ready) {a : ℕ} {d : SlsDetDriver}
    (hd : s.dets a = some d) (hzero : (SlsDetDriver.sync (lib a) d).pending = 0) :
    (SlsDetDriver.sync (lib a) d).core = d.core :=
  ((hs.operating a d hd).correlated.conserved.at_rest hzero).2.2.2.1

/-- The ways a call can change the connections. -/
inductive Effect (lib : ℕ → Library) (late : Bool) (cfg : SlsDetConfig) (c : PortCall)
    (x x' : SyncSlsDet) : Prop
  /-- It does not. -/
  | none (hdets : x'.dets = x.dets) (hsame : x.SameControl x')
  /-- The driver of a connected address was asked, and the connection stays. -/
  | kept {a m y rep z} (ha : getAddress (size cfg) c.user = some a) (hconn : x.isConnected a = true)
      (hdet : x.dets a = some y) (hreq : SlsDetDriver.Requested (lib a) late y m rep z)
      (hm : rep.mtype = .ok ∨ rep.mtype = .failed ∨ rep.mtype = .invalid)
      (hdets : x'.dets = (x.setDet a z).dets) (hsame : x.SameControl x')
  /-- The driver of a connected address was asked, and the connection is given up. -/
  | dropped {a m y rep z} (ha : getAddress (size cfg) c.user = some a)
      (hconn : x.isConnected a = true) (hdet : x.dets a = some y)
      (hreq : SlsDetDriver.Requested (lib a) late y m rep z)
      (hdets : x'.dets = (x.setDet a z).dets) (hsame : (x.disconnect a).SameControl x')
  /-- The driver of an enabled address was asked whether its detector is online. -/
  | checked {a made y rep z} (ha : getAddress (size cfg) c.user = some a)
      (hop : c.op = .connect made) (hen : x.params.integer a .detEnabled ≠ 0)
      (hmade : x.dets a = none → made = true) (hdet : (x.construct cfg a).dets a = some y)
      (hconn : (x.construct cfg a).params.integer a .connStatus = 0)
      (hreq : SlsDetDriver.Requested (lib a) late y (.ofType .checkOnline) rep z)
      (heq : x' = if rep.mtype = .ok then ((x.construct cfg a).setDet a z).connect a
        else (x.construct cfg a).setDet a z)
  /-- It was disconnected. -/
  | disconnected {a} (ha : getAddress (size cfg) c.user = some a) (hop : c.op = .disconnect)
      (heq : x' = x.disconnect a)
  /-- It was enabled or disabled. -/
  | enabled {a v} (ha : getAddress (size cfg) c.user = some a) (henables : c.enables = some v)
      (heq : x' = if v = off ∧ x.isConnected a then
        { x with params := x.params.store a .detEnabled (.int32 v) }.disconnect a
        else { x with params := x.params.store a .detEnabled (.int32 v) })
  /-- A client wrote the status or the count itself. -/
  | marked {a p v} (hr : c.user.reason = .param p) (hp : p = .connStatus ∨ p = .numDet)
      (hv : c.value = some v) (heq : x' = { x with params := x.params.store a p v })

/-- A write that is left to the base class concerns a connection only if it is to its status or to
the count: the enabling is handled by the port, and no parameter takes a value of another type. -/
theorem effect_writeBase {a : ℕ} {v : Value} (henables : c.enables = none)
    (hv : c.value = some v) :
    Effect lib late cfg c x { x with params := (x.params.setParam a c.user.reason v).2 } := by
  rcases hr : c.user.reason with p | i
  · rw [ParamLists.setParam]
    split
    case isFalse => exact .none rfl (.refl x)
    case isTrue htype =>
      rcases hp : p.IsControl with - | -
      · exact .none rfl (SyncSlsDet.sameControl_store hp v)
      · cases p <;> first | (cases hp; done) | skip
        case connStatus => exact .marked hr (Or.inl rfl) hv rfl
        case numDet => exact .marked hr (Or.inr rfl) hv rfl
        case detEnabled =>
          rcases c with ⟨⟨r, addr⟩, op⟩
          obtain rfl : r = _ := hr
          cases op with
          | writeInt32 w =>
            change (if Reason.param .detEnabled = .param .detEnabled then some w else none) = none
              at henables
            rw [if_pos rfl] at henables
            cases henables
          | writeFloat64 w =>
            obtain rfl := Option.some.inj hv
            cases htype
          | _ => cases hv
  · exact .none rfl (.refl x)

/-- **What a call does to the connections.** -/
theorem effect_of_performed (h : Performed lib late cfg c x r x') : Effect lib late cfg c x x' := by
  cases h with
  | checked ha hop hen hmade hdet hconn hreq =>
    exact .checked ha hop hen hmade hdet hconn hreq rfl
  | disconnected ha hop => exact .disconnected ha hop rfl
  | enabled ha henables => exact .enabled ha henables rfl
  | writeBase _ _ henables hv => exact effect_writeBase henables hv
  | unsent _ _ _ hp => exact .none rfl (SyncSlsDet.sameControl_store hp _)
  | read ha hread hconn hdet hreq _ htake =>
    obtain ⟨p, hr, hp⟩ := PortCall.reason_of_read hread
    rcases SyncSlsDet.takeRead_cases hr hp htake with ⟨hm, hdets, hsame⟩ | ⟨-, rfl⟩
    · exact .kept ha hconn hdet hreq hm hdets hsame
    · exact .dropped ha hconn hdet hreq rfl (.refl _)
  | write ha _ _ hp _ hconn hdet hreq htake =>
    rcases SyncSlsDet.takeWrite_cases htake with ⟨hm, rfl⟩ | ⟨-, rfl⟩
    · exact .kept ha hconn hdet hreq hm rfl (SyncSlsDet.sameControl_store hp _)
    · exact .dropped ha hconn hdet hreq rfl ((SyncSlsDet.sameControl_store hp _).disconnect _)
  | _ => exact .none rfl (.refl _)

end SlsDet
