import SlsDetModel.Port.System

/-!
# The footprint of a call

All addresses share one port object: the table of parameter lists, the table of drivers, the
buffers for enumerations, and in the list of address 0 the count of connections. What belongs to
one address is its `view`: its parameters without the count, its driver, and the enumerations its
clients were handed.

* `Spares` — a program does nothing to the view of an address. Every call at another address does.
* `Agrees` — two programs act alike as far as an address can see. Every call there agrees with
  itself, whatever the rest of the port looks like, but for a read of the count.
-/

namespace SlsDet

/-- The count of connections: it is kept in the list of address 0, and written by calls at any. -/
def IsCount (a : ℕ) (p : Param) : Prop := a = 0 ∧ p = .numDet

instance (a : ℕ) (p : Param) : Decidable (IsCount a p) :=
  inferInstanceAs (Decidable (a = 0 ∧ p = .numDet))

/-- What belongs to one address. -/
structure View where
  params : Param → Option Value
  det : Option SlsDetDriver.Sync
  callbacks : List EnumCallback

/-- The port as seen from the address `a`, its detector being `lib`. -/
def view (lib : Library) (a : ℕ) (s : SlsDet) : View where
  params p := if IsCount a p then none else s.params a p
  det := (s.dets a).map (SlsDetDriver.sync lib)
  callbacks := s.callbacks.filter fun e ↦ e.addr = a

variable {lib : Library} {cfg : SlsDetConfig} {a b : ℕ} {s t : SlsDet} {u : AsynUser} {α β : Type}

/-! ### Views -/

theorem params_of_view (h : view lib a s = view lib a t) {p : Param} (hp : ¬IsCount a p) :
    s.params a p = t.params a p := by
  have hview := congrFun (congrArg View.params h) p
  simp only [view, if_neg hp] at hview
  exact hview

theorem integer_of_view (h : view lib a s = view lib a t) {p : Param} (hp : ¬IsCount a p) :
    s.params.integer a p = t.params.integer a p := by
  rw [ParamLists.integer, ParamLists.integer, params_of_view h hp]

theorem isConnected_of_view (h : view lib a s = view lib a t) :
    s.isConnected a = t.isConnected a :=
  congrArg (· == _) (integer_of_view h fun hp ↦ (nomatch hp.2))

theorem sync_of_view (h : view lib a s = view lib a t) :
    (s.dets a).map (SlsDetDriver.sync lib) = (t.dets a).map (SlsDetDriver.sync lib) :=
  congrArg View.det h

theorem isSome_of_view (h : view lib a s = view lib a t) :
    (s.dets a).isSome = (t.dets a).isSome := by
  have hsome := congrArg Option.isSome (sync_of_view h)
  rwa [Option.isSome_map, Option.isSome_map] at hsome

/-- New parameter lists, seen from an address. -/
theorem view_params {l l' : ParamLists} (h : view lib a s = view lib a t)
    (hl : ∀ p, ¬IsCount a p → l a p = l' a p) :
    view lib a { s with params := l } = view lib a { t with params := l' } := by
  have hparams : (view lib a { s with params := l }).params =
      (view lib a { t with params := l' }).params := by
    funext p
    simp only [view]
    split
    case isTrue => rfl
    case isFalse hp => exact hl p hp
  have hdet := sync_of_view h
  have hcallbacks := congrArg View.callbacks h
  rw [View.mk.injEq]
  exact ⟨hparams, hdet, hcallbacks⟩

/-- Nothing of the address is set. -/
theorem view_store_of_addr_ne (hb : b ≠ a) (p : Param) (v : Value) :
    view lib a { s with params := s.params.store b p v } = view lib a s :=
  view_params rfl fun _ _ ↦ ParamLists.store_of_addr_ne hb.symm _ _ _

/-- The count is nothing an address could see. -/
theorem view_store_count (v : Value) :
    view lib a { s with params := s.params.store 0 .numDet v } = view lib a s := by
  refine view_params rfl fun p hp ↦ if_neg fun h ↦ hp ⟨h.1, h.2⟩

/-- A new driver at another address. -/
theorem view_setDet_of_ne (hb : b ≠ a) (d : SlsDetDriver) :
    view lib a (s.setDet b d) = view lib a s := by
  have hdet : (s.setDet b d).dets a = s.dets a := Function.update_of_ne hb.symm _ _
  rw [view, hdet]
  rfl

/-- A new driver at the address itself. -/
theorem view_setDet_same (h : view lib a s = view lib a t) {d d' : SlsDetDriver}
    (hd : SlsDetDriver.sync lib d = SlsDetDriver.sync lib d') :
    view lib a (s.setDet a d) = view lib a (t.setDet a d') := by
  have hdet : ((s.setDet a d).dets a).map (SlsDetDriver.sync lib) =
      ((t.setDet a d').dets a).map (SlsDetDriver.sync lib) := by
    simp [setDet, hd]
  have hparams := congrArg View.params h
  have hcallbacks := congrArg View.callbacks h
  rw [View.mk.injEq]
  exact ⟨hparams, hdet, hcallbacks⟩

/-! ### What a program leaves alone -/

variable (lib a) in
/-- The program does nothing at the address, and asks nothing of its driver. -/
abbrev Spares (x : Prog α) : Prop :=
  Proc.Frames (fun i ↦ i.addr ≠ a) (fun s s' ↦ view lib a s' = view lib a s) x

theorem spares_pure (v : α) : Spares lib a (pure v : Prog α) := fun s ↦ Eq.refl (view lib a s)

theorem spares_gets (f : SlsDet → α) : Spares lib a (Proc.gets f : Prog α) :=
  fun s ↦ Eq.refl (view lib a s)

theorem Spares.bind {x : Prog α} {f : α → Prog β} (hx : Spares lib a x)
    (hf : ∀ v, Spares lib a (f v)) : Spares lib a (x >>= f) :=
  Proc.Frames.bind (fun _ _ _ h h' ↦ h'.trans h) hx hf

theorem spares_setParam (hb : b ≠ a) (r : Reason) (v : Value) :
    Spares lib a (setParam b r v) := by
  refine (spares_gets _).bind fun _ ↦ Spares.bind (Proc.frames_modify fun s ↦ ?_) fun _ ↦
    spares_pure _
  cases r with
  | other i => rfl
  | param p =>
    rw [ParamLists.setParam]
    split
    case isTrue => exact view_store_of_addr_ne hb p v
    case isFalse => rfl

theorem spares_setCount (n : Int) :
    Spares lib a (setParam 0 (.param .numDet) (.int32 n)) :=
  (spares_gets _).bind fun _ ↦ Spares.bind (Proc.frames_modify fun _ ↦ view_store_count _) fun _ ↦
    spares_pure _

theorem spares_request (hb : b ≠ a) (m : SlsDetMessage) : Spares lib a (request b m) :=
  fun s ↦ ⟨hb, Eq.refl (view lib a s), fun _ t ↦ Eq.refl (view lib a t)⟩

theorem spares_inspect (hb : b ≠ a) (rep : SlsDetMessage) : Spares lib a (inspect b rep) :=
  fun s ↦ ⟨hb, Eq.refl (view lib a s), fun _ t ↦ Eq.refl (view lib a t)⟩

theorem spares_updateEnums (hb : b ≠ a) : Spares lib a (updateEnums b) := by
  refine Proc.frames_modify fun s ↦ ?_
  have hnone : (callbacksEnum b slsDetEnums s.enums).2.filter (fun e ↦ e.addr = a) = [] := by
    rw [callbacksEnum_snd, List.filter_eq_nil_iff]
    intro e he
    obtain ⟨set, -, rfl⟩ := List.mem_map.1 he
    simpa using hb
  simp only [view, List.filter_append, hnone, List.append_nil]

theorem spares_uninitializeDet (hu : getAddress (size cfg) u ≠ some a) :
    Spares lib a (uninitializeDet cfg u) := by
  rw [uninitializeDet]
  rcases hb : getAddress (size cfg) u with - | b
  · exact spares_pure _
  have hne : b ≠ a := fun h ↦ hu (h ▸ hb)
  exact (spares_setParam hne _ _).bind fun _ ↦ (spares_gets _).bind fun _ ↦
    (spares_setCount _).bind fun _ ↦ spares_pure _

/-- Giving a connection up. -/
theorem spares_drop (hu : getAddress (size cfg) u ≠ some a) (status : AsynStatus) :
    Spares lib a (do let _ ← uninitializeDet cfg u; pure status) :=
  (spares_uninitializeDet hu).bind fun _ ↦ spares_pure _

theorem spares_construct (hb : b ≠ a) (made : Bool) : Spares lib a (construct cfg b made) := by
  refine (spares_gets _).bind fun found ↦ ?_
  refine Proc.frames_ite (fun _ ↦ spares_pure _) fun _ ↦ Proc.frames_ite (fun _ ↦ ?_) fun _ ↦
    spares_pure _
  exact Spares.bind (Proc.frames_modify fun _ ↦ view_setDet_of_ne hb _) fun _ ↦
    (spares_setParam hb _ _).bind fun _ ↦ (spares_setCount _).bind fun _ ↦ spares_pure _

theorem spares_checkOnline (hb : b ≠ a) : Spares lib a (checkOnline b) := by
  refine (spares_gets _).bind fun conn ↦ (spares_gets _).bind fun numDet ↦ ?_
  refine Proc.frames_ite (fun _ ↦ ?_) fun _ ↦ spares_pure _
  refine (spares_request hb _).bind fun reply ↦ Proc.frames_ite (fun _ ↦ ?_) fun _ ↦ spares_pure _
  exact (spares_updateEnums hb).bind fun _ ↦ (spares_setParam hb _ _).bind fun _ ↦
    (spares_setCount _).bind fun _ ↦ spares_pure _

theorem spares_initializeDet (hu : getAddress (size cfg) u ≠ some a) (made : Bool) :
    Spares lib a (initializeDet cfg u made) := by
  rw [initializeDet]
  rcases hb : getAddress (size cfg) u with - | b
  · exact spares_pure _
  have hne : b ≠ a := fun h ↦ hu (h ▸ hb)
  refine (spares_gets _).bind fun enabled ↦ Proc.frames_ite (fun _ ↦ spares_pure _) fun _ ↦ ?_
  refine (spares_construct hne made).bind fun status ↦ (spares_gets _).bind fun found ↦ ?_
  refine Proc.frames_ite (fun _ ↦ (spares_checkOnline hne).bind fun _ ↦ spares_pure _) fun _ ↦ ?_
  exact Proc.frames_ite (fun _ ↦ spares_pure _) fun _ ↦ spares_pure _

theorem spares_takeReadReply (hu : getAddress (size cfg) u ≠ some a) (hb : b ≠ a)
    (reply : SlsDetMessage) : Spares lib a (takeReadReply cfg u b reply) := by
  rw [takeReadReply]
  split
  case h_1 =>
    rw [storeReply]
    split
    case h_2 => exact Proc.frames_ite (fun _ ↦ spares_setParam hb _ _) fun _ ↦ spares_pure _
    case h_4 => exact (spares_inspect hb reply).bind fun _ ↦ spares_setParam hb _ _
    case h_5 => exact spares_pure _
    all_goals exact spares_setParam hb _ _
  case h_2 => exact spares_pure _
  all_goals exact spares_drop hu _

theorem spares_readDetector (hu : getAddress (size cfg) u ≠ some a) (mtype : MessageType) :
    Spares lib a (readDetector cfg u mtype) := by
  rw [readDetector]
  rcases hb : getAddress (size cfg) u with - | b
  · exact spares_pure _
  have hne : b ≠ a := fun h ↦ hu (h ▸ hb)
  refine (spares_gets _).bind fun conn ↦ Proc.frames_ite (fun _ ↦ ?_) fun _ ↦ spares_pure _
  exact (spares_request hne _).bind fun reply ↦ (spares_inspect hne reply).bind fun _ ↦
    spares_takeReadReply hu hne reply

theorem spares_takeWriteReply (hu : getAddress (size cfg) u ≠ some a) (reply : SlsDetMessage) :
    Spares lib a (takeWriteReply cfg u reply) := by
  rw [takeWriteReply]
  split
  case h_1 => exact Proc.frames_ite (fun _ ↦ spares_pure _) fun _ ↦ spares_pure _
  case h_2 => exact spares_pure _
  case h_3 => exact spares_pure _
  all_goals exact spares_drop hu _

theorem spares_writeDetectorValue (hu : getAddress (size cfg) u ≠ some a) (v : Value)
    (m : SlsDetMessage) : Spares lib a (writeDetectorValue cfg u v m) := by
  rw [writeDetectorValue]
  rcases hb : getAddress (size cfg) u with - | b
  · exact spares_pure _
  have hne : b ≠ a := fun h ↦ hu (h ▸ hb)
  refine (spares_setParam hne _ _).bind fun status ↦ Proc.frames_ite (fun _ ↦ ?_) fun _ ↦
    spares_pure _
  rw [writeDetector, hb]
  refine (spares_gets _).bind fun conn ↦ Proc.frames_ite (fun _ ↦ ?_) fun _ ↦ spares_pure _
  exact (spares_request hne m).bind fun reply ↦ (spares_inspect hne reply).bind fun _ ↦
    spares_takeWriteReply hu reply

theorem spares_readParam (hu : getAddress (size cfg) u ≠ some a)
    (dispatch : Reason → Option MessageType) (get : ParamLists → ℕ → Result)
    (base : Option Value → Result) : Spares lib a (readParam cfg u dispatch get base) := by
  rw [readParam]
  rcases getAddress (size cfg) u with - | b
  · exact spares_pure _
  rcases dispatch u.reason with - | mtype
  · exact spares_gets _
  exact (spares_readDetector hu mtype).bind fun status ↦
    Proc.frames_ite (fun _ ↦ spares_gets _) fun _ ↦ spares_pure _

theorem spares_reads (hu : getAddress (size cfg) u ≠ some a) (maxChars : ℕ) (buffer : Text) :
    Spares lib a (readInt32 cfg u) ∧ Spares lib a (readFloat64 cfg u) ∧
      Spares lib a (readOctet cfg u maxChars buffer) := by
  rw [readInt32, readFloat64, readOctet]
  exact ⟨spares_readParam hu _ _ _, spares_readParam hu _ _ _, spares_readParam hu _ _ _⟩

theorem spares_writeInt32 (hu : getAddress (size cfg) u ≠ some a) (value : Int) :
    Spares lib a (writeInt32 cfg u value) := by
  rw [writeInt32]
  rcases hb : getAddress (size cfg) u with - | b
  · exact spares_pure _
  have hne : b ≠ a := fun h ↦ hu (h ▸ hb)
  dsimp only
  split
  case h_1 => exact spares_writeDetectorValue hu _ _
  case h_2 =>
    refine Proc.frames_ite (fun _ ↦ ?_) fun _ ↦ spares_setParam hne _ _
    refine (spares_setParam hne _ _).bind fun _ ↦ (spares_gets _).bind fun conn ↦ ?_
    exact Proc.frames_ite (fun _ ↦ spares_drop hu _) fun _ ↦ spares_pure _

theorem spares_writeFloat64 (hu : getAddress (size cfg) u ≠ some a) (value : ℚ) :
    Spares lib a (writeFloat64 cfg u value) := by
  rw [writeFloat64]
  rcases hb : getAddress (size cfg) u with - | b
  · exact spares_pure _
  have hne : b ≠ a := fun h ↦ hu (h ▸ hb)
  dsimp only
  split
  case h_1 => exact spares_writeDetectorValue hu _ _
  case h_2 => exact spares_setParam hne _ _

/-- **Calls at other addresses leave an address alone.** -/
theorem spares_perform {c : PortCall} (hc : getAddress (size cfg) c.user ≠ some a) :
    Spares lib a (perform cfg c) := by
  have hstatus : ∀ {x : Prog AsynStatus}, Spares lib a x → Spares lib a (statusOnly x) :=
    fun hx ↦ hx.bind fun _ ↦ spares_pure _
  rcases c with ⟨u, op⟩
  cases op with
  | connect made => exact hstatus (spares_initializeDet hc made)
  | disconnect => exact hstatus (spares_uninitializeDet hc)
  | readInt32 => exact (spares_reads hc 0 []).1
  | readFloat64 => exact (spares_reads hc 0 []).2.1
  | readOctet maxChars buffer => exact (spares_reads hc maxChars buffer).2.2
  | writeInt32 value => exact hstatus (spares_writeInt32 hc value)
  | writeFloat64 value => exact hstatus (spares_writeFloat64 hc value)

/-! ### What a program depends on -/

variable (lib a) in
/-- Run in two ports that look the same from the address, the programs ask the same things of its
driver, leave ports that look the same, and return values related by `V`. -/
abbrev Agrees (V : α → β → Prop) (x : Prog α) (y : Prog β) : Prop :=
  Proc.Rel (fun i ↦ i.addr = a) (fun s t ↦ view lib a s = view lib a t) V x y

variable (lib a) in
/-- What the program does depends on nothing but the view of the address. -/
abbrev Local (x : Prog α) : Prop := Agrees lib a Eq x x

theorem local_pure (v : α) : Local lib a (pure v : Prog α) := Proc.rel_pure rfl

theorem local_gets {f : SlsDet → α} (hf : ∀ s t, view lib a s = view lib a t → f s = f t) :
    Local lib a (Proc.gets f : Prog α) := Proc.rel_gets hf

theorem local_modify {f : SlsDet → SlsDet}
    (hf : ∀ s t, view lib a s = view lib a t → view lib a (f s) = view lib a (f t)) :
    Local lib a (Proc.modify f : Prog Unit) := (Proc.rel_modify hf).imp fun _ _ _ ↦ rfl

theorem Local.bind {V : β → β → Prop} {x : Prog α} {f : α → Prog β} (hx : Local lib a x)
    (hf : ∀ v, Agrees lib a V (f v) (f v)) : Agrees lib a V (x >>= f) (x >>= f) := by
  refine Proc.Rel.bind hx fun v w hvw ↦ ?_
  subst hvw
  exact hf v

theorem local_ite {c : Prop} [Decidable c] {x y : Prog α} (hx : Local lib a x)
    (hy : Local lib a y) : Local lib a (if c then x else y) :=
  Proc.rel_ite Iff.rfl (fun _ ↦ hx) fun _ ↦ hy

theorem local_request (m : SlsDetMessage) : Local lib a (request a m) :=
  Proc.rel_ask (A := fun i : DetRequest ↦ i.addr = a) (i := .request a m) rfl

theorem local_inspect (rep : SlsDetMessage) : Local lib a (inspect a rep) :=
  Proc.rel_ask (A := fun i : DetRequest ↦ i.addr = a) (i := .inspect a rep) rfl

theorem local_getInteger {p : Param} (hp : p ≠ .numDet) : Local lib a (getInteger a p) :=
  local_gets fun _ _ h ↦ integer_of_view h fun hcount ↦ hp hcount.2

theorem local_isConnected : Local lib a (Proc.gets fun s ↦ s.isConnected a : Prog Bool) :=
  local_gets fun _ _ h ↦ isConnected_of_view h

theorem local_isSome : Local lib a (Proc.gets fun s ↦ (s.dets a).isSome : Prog Bool) :=
  local_gets fun _ _ h ↦ isSome_of_view h

theorem local_setParam (r : Reason) (v : Value) : Local lib a (setParam a r v) := by
  have hstatus : ∀ l l' : ParamLists, (l.setParam a r v).1 = (l'.setParam a r v).1 := by
    intro l l'
    cases r with
    | other i => rfl
    | param p =>
      rw [ParamLists.setParam, ParamLists.setParam]
      split <;> rfl
  refine Local.bind (local_gets fun s t _ ↦ hstatus s.params t.params) fun status ↦
    Local.bind (local_modify fun s t h ↦ ?_) fun _ ↦ local_pure status
  cases r with
  | other i => exact h
  | param p =>
    rw [ParamLists.setParam, ParamLists.setParam]
    split
    case isFalse => exact h
    case isTrue =>
      refine view_params h fun q hq ↦ ?_
      simp only [ParamLists.store, params_of_view h hq]

/-- The count may be set to different values. -/
theorem agrees_setCount (n n' : Int) : Agrees lib a Eq
    (setParam 0 (.param .numDet) (.int32 n)) (setParam 0 (.param .numDet) (.int32 n')) := by
  refine Proc.Rel.bind (Proc.rel_gets fun s t _ ↦ (rfl : AsynStatus.success = .success))
    fun status status' hstatus ↦ Proc.Rel.bind (Proc.rel_modify fun s t h ↦ ?_) fun _ _ _ ↦
      Proc.rel_pure hstatus
  exact (view_store_count _).trans (h.trans (view_store_count _).symm)

/-- What is done with the count stays within it. -/
theorem Local.count {x : Int → Prog α} (h : ∀ n n', Agrees lib a Eq (x n) (x n')) :
    Local lib a (getInteger 0 .numDet >>= x) :=
  Proc.Rel.bind (V := fun _ _ ↦ True) (Proc.rel_gets fun _ _ _ ↦ trivial) fun n n' _ ↦ h n n'

theorem local_updateEnums : Local lib a (updateEnums a) := by
  refine local_modify fun s t h ↦ ?_
  have hsame : (callbacksEnum a slsDetEnums s.enums).2 =
      (callbacksEnum a slsDetEnums t.enums).2 := by
    rw [callbacksEnum_snd, callbacksEnum_snd]
  have hcallbacks := congrArg View.callbacks h
  simp only [view] at hcallbacks
  have hparams := congrArg View.params h
  have hdet := congrArg View.det h
  rw [View.mk.injEq]
  refine ⟨hparams, hdet, ?_⟩
  simp only [view, List.filter_append, hcallbacks, hsame]

theorem local_uninitializeDet (hu : getAddress (size cfg) u = some a) :
    Local lib a (uninitializeDet cfg u) := by
  rw [uninitializeDet, hu]
  exact (local_setParam _ _).bind fun _ ↦ Local.count fun n n' ↦
    Proc.Rel.bind (agrees_setCount _ _) fun _ _ _ ↦ local_pure _

theorem local_drop (hu : getAddress (size cfg) u = some a) (status : AsynStatus) :
    Local lib a (do let _ ← uninitializeDet cfg u; pure status) :=
  (local_uninitializeDet hu).bind fun _ ↦ local_pure _

theorem local_construct (made : Bool) : Local lib a (construct cfg a made) := by
  refine local_isSome.bind fun found ↦ local_ite (local_pure _) (local_ite ?_ (local_pure _))
  refine Local.bind (local_modify fun s t h ↦ view_setDet_same h rfl) fun _ ↦ ?_
  exact (local_setParam _ _).bind fun _ ↦ Proc.Rel.bind (agrees_setCount 0 0) fun _ _ _ ↦
    local_pure _

theorem local_checkOnline : Local lib a (checkOnline a) := by
  refine (local_getInteger (p := .connStatus) (by decide)).bind fun conn ↦ Local.count fun n n' ↦ ?_
  refine Proc.rel_ite Iff.rfl (fun _ ↦ ?_) fun _ ↦ local_pure _
  refine Proc.Rel.bind (local_request _) fun reply reply' hreply ↦ ?_
  subst hreply
  refine Proc.rel_ite Iff.rfl (fun _ ↦ ?_) fun _ ↦ local_pure _
  refine Proc.Rel.bind local_updateEnums fun _ _ _ ↦ ?_
  refine Proc.Rel.bind (local_setParam _ _) fun _ _ _ ↦ ?_
  exact Proc.Rel.bind (agrees_setCount _ _) fun _ _ _ ↦ local_pure _

theorem local_initializeDet (hu : getAddress (size cfg) u = some a) (made : Bool) :
    Local lib a (initializeDet cfg u made) := by
  rw [initializeDet, hu]
  refine (local_getInteger (p := .detEnabled) (by decide)).bind fun enabled ↦ ?_
  refine local_ite (local_pure _) ?_
  refine (local_construct made).bind fun status ↦ local_isSome.bind fun found ↦ local_ite ?_ ?_
  · exact local_checkOnline.bind fun _ ↦ local_pure _
  · exact local_ite (local_pure _) (local_pure _)

theorem local_takeReadReply (hu : getAddress (size cfg) u = some a) (reply : SlsDetMessage) :
    Local lib a (takeReadReply cfg u a reply) := by
  rw [takeReadReply]
  split
  case h_1 =>
    rw [storeReply]
    split
    case h_2 => exact local_ite (local_setParam _ _) (local_pure _)
    case h_4 => exact (local_inspect reply).bind fun _ ↦ local_setParam _ _
    case h_5 => exact local_pure _
    all_goals exact local_setParam _ _
  case h_2 => exact local_pure _
  all_goals exact local_drop hu _

theorem local_readDetector (hu : getAddress (size cfg) u = some a) (mtype : MessageType) :
    Local lib a (readDetector cfg u mtype) := by
  rw [readDetector, hu]
  refine local_isConnected.bind fun conn ↦ local_ite ?_ (local_pure _)
  exact (local_request _).bind fun reply ↦ (local_inspect reply).bind fun _ ↦
    local_takeReadReply hu reply

theorem local_takeWriteReply (hu : getAddress (size cfg) u = some a) (reply : SlsDetMessage) :
    Local lib a (takeWriteReply cfg u reply) := by
  rw [takeWriteReply]
  split
  case h_1 => exact local_ite (local_pure _) (local_pure _)
  case h_2 => exact local_pure _
  case h_3 => exact local_pure _
  all_goals exact local_drop hu _

theorem local_writeDetectorValue (hu : getAddress (size cfg) u = some a) (v : Value)
    (m : SlsDetMessage) : Local lib a (writeDetectorValue cfg u v m) := by
  rw [writeDetectorValue, hu]
  refine (local_setParam _ _).bind fun status ↦ local_ite ?_ (local_pure _)
  rw [writeDetector, hu]
  refine local_isConnected.bind fun conn ↦ local_ite ?_ (local_pure _)
  exact (local_request m).bind fun reply ↦ (local_inspect reply).bind fun _ ↦
    local_takeWriteReply hu reply

theorem local_writeInt32 (hu : getAddress (size cfg) u = some a) (value : Int) :
    Local lib a (writeInt32 cfg u value) := by
  rw [writeInt32, hu]
  dsimp only
  split
  case h_1 => exact local_writeDetectorValue hu _ _
  case h_2 =>
    refine local_ite ((local_setParam _ _).bind fun _ ↦ ?_) (local_setParam _ _)
    exact local_isConnected.bind fun conn ↦ local_ite (local_drop hu _) (local_pure _)

theorem local_writeFloat64 (hu : getAddress (size cfg) u = some a) (value : ℚ) :
    Local lib a (writeFloat64 cfg u value) := by
  rw [writeFloat64, hu]
  dsimp only
  split
  case h_1 => exact local_writeDetectorValue hu _ _
  case h_2 => exact local_setParam _ _

/-! ### Reads -/

/-- A read returns the same, unless it reads the count. -/
theorem agrees_readParam (hu : getAddress (size cfg) u = some a)
    {dispatch : Reason → Option MessageType} {get : ParamLists → ℕ → Result}
    {base : Option Value → Result} (hdispatch : dispatch (.param .numDet) = none)
    (hget : ∀ l l' : ParamLists, (∀ p, p ≠ .numDet → l a p = l' a p) →
      u.reason ≠ .param .numDet → get l a = get l' a) :
    Agrees lib a (fun r r' ↦ ¬(a = 0 ∧ u.reason = .param .numDet) → r = r')
      (readParam cfg u dispatch get base) (readParam cfg u dispatch get base) := by
  rw [readParam, hu]
  dsimp only
  split
  case h_1 mtype hd =>
    have hr : u.reason ≠ .param .numDet := by
      intro h
      rw [h, hdispatch] at hd
      cases hd
    refine (local_readDetector hu mtype).bind fun status ↦ Proc.Rel.imp (V := Eq) ?_ fun _ _ h _ ↦ h
    refine local_ite (local_gets fun s t h ↦ ?_) (local_pure _)
    exact hget _ _ (fun p hp ↦ params_of_view h fun hcount ↦ hp hcount.2) hr
  case h_2 =>
    refine Proc.rel_gets fun s t h hne ↦ congrArg base ?_
    rcases hr : u.reason with p | i
    · exact params_of_view h fun hcount ↦ hne ⟨hcount.1, by rw [hr, hcount.2]⟩
    · rfl

theorem agrees_reads (hu : getAddress (size cfg) u = some a) (maxChars : ℕ) (buffer : Text) :
    Agrees lib a (fun r r' ↦ ¬(a = 0 ∧ u.reason = .param .numDet) → r = r')
        (readInt32 cfg u) (readInt32 cfg u) ∧
      Agrees lib a (fun r r' ↦ ¬(a = 0 ∧ u.reason = .param .numDet) → r = r')
        (readFloat64 cfg u) (readFloat64 cfg u) ∧
      Agrees lib a (fun r r' ↦ ¬(a = 0 ∧ u.reason = .param .numDet) → r = r')
        (readOctet cfg u maxChars buffer) (readOctet cfg u maxChars buffer) := by
  have hget : ∀ {l l' : ParamLists} {type}, (∀ p, p ≠ .numDet → l a p = l' a p) →
      u.reason ≠ .param .numDet → l.getParam a u.reason type = l'.getParam a u.reason type := by
    intro l l' type hl hr
    rcases hu : u.reason with p | i
    · rw [ParamLists.getParam, ParamLists.getParam, hl p fun h ↦ hr (h ▸ hu)]
    · rfl
  rw [readInt32, readFloat64, readOctet]
  refine ⟨agrees_readParam hu rfl fun l l' ↦ hget, agrees_readParam hu rfl fun l l' ↦ hget,
    agrees_readParam hu rfl fun l l' hl hr ↦ ?_⟩
  simp only [ParamLists.getStringParam, hget hl hr]

/-- The call reads the count of connections. -/
def PortCall.ReadsCount (cfg : SlsDetConfig) (c : PortCall) : Prop :=
  getAddress (size cfg) c.user = some 0 ∧ c.user.reason = .param .numDet ∧
    (c.op = .readInt32 ∨ c.op = .readFloat64 ∨
      ∃ maxChars buffer, c.op = .readOctet maxChars buffer)

/-- **Calls at an address depend on nothing else**, but for reads of the count. -/
theorem agrees_perform {c : PortCall} (hc : getAddress (size cfg) c.user = some a) :
    Agrees lib a (fun r r' ↦ ¬c.ReadsCount cfg → r = r') (perform cfg c) (perform cfg c) := by
  have hstatus : ∀ {x : Prog AsynStatus}, Local lib a x →
      Agrees lib a (fun r r' ↦ ¬c.ReadsCount cfg → r = r') (statusOnly x) (statusOnly x) :=
    fun hx ↦ hx.bind fun status ↦ Proc.rel_pure fun _ ↦ rfl
  have hread : ∀ {x : Prog Result}, (c.op = .readInt32 ∨ c.op = .readFloat64 ∨
        ∃ maxChars buffer, c.op = .readOctet maxChars buffer) →
      Agrees lib a (fun r r' ↦ ¬(a = 0 ∧ c.user.reason = .param .numDet) → r = r') x x →
      Agrees lib a (fun r r' ↦ ¬c.ReadsCount cfg → r = r') x x :=
    fun hop hx ↦ hx.imp fun _ _ h hne ↦ h fun ⟨ha, hr⟩ ↦ hne ⟨ha ▸ hc, hr, hop⟩
  rcases c with ⟨u, op⟩
  cases op with
  | connect made => exact hstatus (local_initializeDet hc made)
  | disconnect => exact hstatus (local_uninitializeDet hc)
  | readInt32 => exact hread (Or.inl rfl) (agrees_reads hc 0 []).1
  | readFloat64 => exact hread (Or.inr (Or.inl rfl)) (agrees_reads hc 0 []).2.1
  | readOctet maxChars buffer =>
    have hop : ∃ m b, PortOp.readOctet maxChars buffer = .readOctet m b := ⟨_, _, rfl⟩
    exact hread (Or.inr (Or.inr hop)) (agrees_reads hc maxChars buffer).2.2
  | writeInt32 value => exact hstatus (local_writeInt32 hc value)
  | writeFloat64 value => exact hstatus (local_writeFloat64 hc value)

end SlsDet
