import SlsDetModel.Concurrency.Client
import SlsDetModel.Driver.Contract
import SlsDetModel.Driver.Progress
import SlsDetModel.Port.SlsDet

/-!
# The port among its drivers

The whole system: the port thread, which carries out one call after the other, and at each address a
detector driver with its worker. It is a client of the server formed by the drivers. While the port
waits for one of them the environment moves: the wait of that driver's caller ends, or the worker of
any driver takes a step.

Seen from the port the workers have no schedule (`Synchronous`). `sync` forgets them for all
addresses at once, and `contract` says what a request then promises: the addressed driver serves it
as `Requested` says, and nothing else has changed.
-/

/-- A move of the environment: the wait of the driver's caller at an address ends, or the worker
there takes a step. -/
inductive Move
  | wait (addr : ℕ) (expired : Bool)
  | work (addr : ℕ)
  deriving DecidableEq

/-- The moves in which no wait expires, unless that is admitted. -/
def Move.InTime (late : Bool) : Move → Prop
  | .wait _ expired => expired = true → late = true
  | .work _ => True

theorem Move.InTime.mono {e : Move} (h : e.InTime false) (late : Bool) : e.InTime late := by
  cases e with
  | wait a expired => exact fun he ↦ nomatch h he
  | work a => trivial

instance (late : Bool) : DecidablePred (Move.InTime late)
  | .wait _ expired => inferInstanceAs (Decidable (expired = true → late = true))
  | .work _ => isTrue trivial

/-- The port, the workers of its drivers forgotten. -/
structure SyncSlsDet where
  params : ParamLists
  dets : ℕ → Option SlsDetDriver.Sync
  enums : EnumBuffers
  callbacks : List EnumCallback

/-- Replace the driver at an address. -/
def SyncSlsDet.setDet (x : SyncSlsDet) (a : ℕ) (y : SlsDetDriver.Sync) : SyncSlsDet :=
  { x with dets := Function.update x.dets a (some y) }

@[simp] theorem SyncSlsDet.dets_setDet_same (x : SyncSlsDet) (a : ℕ) (y : SlsDetDriver.Sync) :
    (x.setDet a y).dets a = some y := Function.update_self _ _ _

theorem SyncSlsDet.dets_setDet_of_ne (x : SyncSlsDet) {a b : ℕ} (h : b ≠ a)
    (y : SlsDetDriver.Sync) : (x.setDet a y).dets b = x.dets b := Function.update_of_ne h _ _

@[simp] theorem SyncSlsDet.setDet_setDet (x : SyncSlsDet) (a : ℕ) (y z : SlsDetDriver.Sync) :
    (x.setDet a y).setDet a z = x.setDet a z := by
  simp [setDet]

theorem SyncSlsDet.setDet_eq_self {x : SyncSlsDet} {a : ℕ} {y : SlsDetDriver.Sync}
    (h : x.dets a = some y) : x.setDet a y = x := by
  rw [setDet, ← h, Function.update_eq_self]

namespace SlsDet

variable (lib : ℕ → Library)

/-- A step of the driver at an address. -/
def stepDet (s : SlsDet) (a : ℕ) (l : SlsDetDriver.Label) : Option SlsDet :=
  (s.dets a).bind fun d ↦ ((SlsDetDriver.machine (lib a)).step d l).map (s.setDet a)

/-- The drivers as a server. There is no calling a driver that does not exist. -/
def server : Server SlsDet Move DetRequest.Reply where
  enter i s :=
    match i with
    | .request a m => stepDet lib s a (.request m)
    | .inspect a _ => (s.dets a).map fun _ ↦ s
  env e s :=
    match e with
    | .wait a expired => stepDet lib s a (.wait expired)
    | .work a => stepDet lib s a .work
  leave i s :=
    match i with
    | .request a _ => (s.dets a).bind fun d ↦
      match d.caller with
      | .returned p => (stepDet lib s a .finish).map fun t ↦ (p.msg, t)
      | _ => none
    | .inspect a rep => (s.dets a).bind fun d ↦
      (stepDet lib s a (.inspect rep)).map fun t ↦ (SlsDetDriver.textOf d.core rep, t)

/-- The port thread with the drivers, and the results of the calls so far. -/
abbrev PortSystem := Client SlsDet DetRequest.Reply PortCall Result

/-- A call, the end of a request to the driver at an address, or a move of the environment. -/
abbrev PortLabel := ClientLabel PortCall ℕ Move

/-- The system of a port in front of the detectors `lib`. -/
def system (cfg : SlsDetConfig) : LabelledMachine PortSystem PortLabel :=
  Client.machine (server lib) (perform cfg) DetRequest.addr

/-- The system after the construction of the port. -/
def start (cfg : SlsDetConfig) (enums : EnumBuffers) : PortSystem := { shared := new cfg enums }

/-- The port, the workers of its drivers forgotten. -/
def sync (s : SlsDet) : SyncSlsDet where
  params := s.params
  dets := fun a ↦ (s.dets a).map (SlsDetDriver.sync (lib a))
  enums := s.enums
  callbacks := s.callbacks

/-- Between two requests: every driver operates, and no call of `request()` is under way. -/
structure Ready (s : SlsDet) : Prop where
  operating : ∀ b d, s.dets b = some d → d.Operating
  idle : ∀ b d, s.dets b = some d → d.caller = .idle

/-! ### Steps of the drivers -/

variable {lib} {s t : SlsDet} {a b : ℕ}

theorem stepDet_eq_some_iff {l : SlsDetDriver.Label} : stepDet lib s a l = some t ↔
    ∃ d d', s.dets a = some d ∧ (SlsDetDriver.machine (lib a)).step d l = some d' ∧
      t = s.setDet a d' := by
  rw [stepDet, Option.bind_eq_some_iff]
  constructor
  · rintro ⟨d, hd, h⟩
    obtain ⟨d', hd', rfl⟩ := Option.map_eq_some_iff.1 h
    exact ⟨d, d', hd, hd', rfl⟩
  · rintro ⟨d, d', hd, hd', rfl⟩
    exact ⟨d, hd, Option.map_eq_some_iff.2 ⟨d', hd', rfl⟩⟩

/-- The answer to a request is what `request()` returned. -/
theorem leave_request_eq_some_iff {m r : SlsDetMessage} :
    (server lib).leave (.request a m) s = some (r, t) ↔ ∃ d p, s.dets a = some d ∧
      d.caller = .returned p ∧ r = p.msg ∧ stepDet lib s a .finish = some t := by
  show ((s.dets a).bind _) = _ ↔ _
  rw [Option.bind_eq_some_iff]
  constructor
  · rintro ⟨d, hd, h⟩
    split at h
    case h_1 p hc =>
      obtain ⟨t', ht', heq⟩ := Option.map_eq_some_iff.1 h
      obtain ⟨rfl, rfl⟩ := Prod.mk.inj heq
      exact ⟨d, p, hd, hc, rfl, ht'⟩
    case h_2 => cases h
  · rintro ⟨d, p, hd, hc, rfl, ht⟩
    refine ⟨d, hd, ?_⟩
    rw [hc]
    exact Option.map_eq_some_iff.2 ⟨t, ht, rfl⟩

/-- The answer to a look is the text found. -/
theorem leave_inspect_eq_some_iff {rep : SlsDetMessage} {text : Option Text} :
    (server lib).leave (.inspect a rep) s = some (text, t) ↔ ∃ d, s.dets a = some d ∧
      text = SlsDetDriver.textOf d.core rep ∧ stepDet lib s a (.inspect rep) = some t := by
  show ((s.dets a).bind _) = _ ↔ _
  rw [Option.bind_eq_some_iff]
  constructor
  · rintro ⟨d, hd, h⟩
    obtain ⟨t', ht', heq⟩ := Option.map_eq_some_iff.1 h
    obtain ⟨rfl, rfl⟩ := Prod.mk.inj heq
    exact ⟨d, hd, rfl, ht'⟩
  · rintro ⟨d, hd, rfl, ht⟩
    exact ⟨d, hd, Option.map_eq_some_iff.2 ⟨t, ht, rfl⟩⟩

theorem dets_setDet {d d' : SlsDetDriver} (h : (s.setDet a d).dets b = some d') :
    b = a ∧ d' = d ∨ b ≠ a ∧ s.dets b = some d' := by
  by_cases hb : b = a
  · subst hb
    have hd : (s.setDet b d).dets b = some d := Function.update_self _ _ _
    rw [hd] at h
    exact Or.inl ⟨rfl, (Option.some.inj h).symm⟩
  · have hd : (s.setDet a d).dets b = s.dets b := Function.update_of_ne hb _ _
    exact Or.inr ⟨hb, hd ▸ h⟩

theorem sync_dets {d : SlsDetDriver} (h : s.dets a = some d) :
    (sync lib s).dets a = some (SlsDetDriver.sync (lib a) d) := by
  show (s.dets a).map _ = _
  rw [h]
  rfl

theorem sync_setDet (s : SlsDet) (a : ℕ) (d : SlsDetDriver) :
    sync lib (s.setDet a d) = (sync lib s).setDet a (SlsDetDriver.sync (lib a) d) := by
  have hdets : (fun b ↦ ((s.setDet a d).dets b).map (SlsDetDriver.sync (lib b))) =
      ((sync lib s).setDet a (SlsDetDriver.sync (lib a) d)).dets := by
    funext b
    by_cases hb : b = a
    · subst hb
      simp [setDet, SyncSlsDet.setDet]
    · simp [setDet, SyncSlsDet.setDet, hb, sync]
  exact congrArg (fun dets ↦ (⟨s.params, dets, s.enums, s.callbacks⟩ : SyncSlsDet)) hdets

/-- A step that the port cannot see. -/
theorem sync_setDet_eq_self {d d' : SlsDetDriver} (h : s.dets a = some d)
    (hsync : SlsDetDriver.sync (lib a) d' = SlsDetDriver.sync (lib a) d) :
    sync lib (s.setDet a d') = sync lib s := by
  rw [sync_setDet, hsync]
  exact SyncSlsDet.setDet_eq_self (sync_dets h)

/-- Ports that look alike have drivers whose callers are at the same place. -/
theorem idle_of_sync_eq (h : s.Ready) (hsync : (sync lib t).dets b = (sync lib s).dets b)
    {d : SlsDetDriver} (hd : t.dets b = some d) : d.caller = .idle := by
  rw [sync_dets hd] at hsync
  obtain ⟨d₀, hd₀, heq⟩ := Option.map_eq_some_iff.1 hsync.symm
  have hcaller : d₀.caller = d.caller := congrArg SlsDetDriver.Sync.caller heq
  rw [← hcaller, h.idle b d₀ hd₀]

/-- A driver keeps operating, whatever the port's requests and the environment do to it. -/
theorem operating_stepDet {l : SlsDetDriver.Label}
    (h : ∀ b d, s.dets b = some d → d.Operating)
    (hl : ∀ d, s.dets a = some d → d.Prompt l) (hs : stepDet lib s a l = some t) :
    ∀ b d, t.dets b = some d → d.Operating := by
  obtain ⟨d, d', hd, hstep, rfl⟩ := stepDet_eq_some_iff.1 hs
  intro b e he
  rcases dets_setDet he with ⟨rfl, rfl⟩ | ⟨-, he⟩
  · exact (h b d hd).step (hl d hd) hstep
  · exact h b e he

/-- An idle driver has no wait that could end. -/
theorem wait_of_idle {d : SlsDetDriver} (h : d.caller = .idle) (expired : Bool) :
    d.wait expired = none := by
  rw [SlsDetDriver.wait, h]

/-- A step of a worker, seen from the port. -/
theorem work_spec (h : ∀ b d, s.dets b = some d → d.Operating)
    (hs : stepDet lib s a .work = some t) :
    (∀ b d, t.dets b = some d → d.Operating) ∧ sync lib t = sync lib s := by
  refine ⟨operating_stepDet h (fun d _ ↦ d.prompt_work) hs, ?_⟩
  obtain ⟨d, d', hd, hstep, rfl⟩ := stepDet_eq_some_iff.1 hs
  exact sync_setDet_eq_self hd (SlsDetDriver.sync_work (SlsDetDriver.workStep_of_work hstep))

/-- **Between requests the environment does nothing the port could see.** -/
theorem ready_env {e : Move} (h : s.Ready) (hs : (server lib).env e s = some t) :
    t.Ready ∧ sync lib t = sync lib s := by
  cases e with
  | wait a expired =>
    obtain ⟨d, d', hd, hstep, rfl⟩ := stepDet_eq_some_iff.1 hs
    have hnone := wait_of_idle (h.idle a d hd) expired
    exact nomatch hnone.symm.trans hstep
  | work a =>
    obtain ⟨hop, hsync⟩ := work_spec h.operating hs
    exact ⟨⟨hop, fun b d hd ↦
      idle_of_sync_eq h (congrFun (congrArg SyncSlsDet.dets hsync) b) hd⟩, hsync⟩

/-! ### The contract of the drivers -/

variable (lib) in
/-- A request may be issued between two requests, a look only at what was just returned; `P` is
whatever else is known. -/
def Issued (P : DetRequest → SlsDet → Prop) (i : DetRequest) (s : SlsDet) : Prop :=
  s.Ready ∧ P i s ∧
    match i with
    | .request _ _ => True
    | .inspect a rep => ∀ d, s.dets a = some d → d.Timely rep

variable (lib) in
/-- The request `i`, issued in `s`, is under way. -/
def During (late : Bool) (i : DetRequest) (s t : SlsDet) : Prop :=
  (∀ b d, t.dets b = some d → d.Operating) ∧ s.Ready ∧
    match i with
    | .request a m => ∃ x y, (sync lib s).dets a = some x ∧
      SlsDetDriver.InCall (lib a) late x m y ∧ sync lib t = (sync lib s).setDet a y
    | .inspect a rep => sync lib t = sync lib s ∧ ∃ d, t.dets a = some d ∧ d.Timely rep

variable (lib) in
/-- The request `i`, issued in `s`, is answered. -/
def Answered (late : Bool) : (i : DetRequest) → SlsDet → i.Reply → SlsDet → Prop
  | .request a m, s, rep, t => t.Ready ∧ ∃ x y, (sync lib s).dets a = some x ∧
      SlsDetDriver.Requested (lib a) late x m rep y ∧ sync lib t = (sync lib s).setDet a y
  | .inspect a rep, s, text, t => t.Ready ∧ sync lib t = sync lib s ∧
      ∃ d, t.dets a = some d ∧ text = SlsDetDriver.textOf d.core rep

/-- Timeliness is a matter of what the caller was returned. -/
theorem timely_of_sync {d d' : SlsDetDriver} {rep : SlsDetMessage} (h : d.Timely rep)
    (hsync : SlsDetDriver.sync (lib a) d' = SlsDetDriver.sync (lib a) d) : d'.Timely rep := by
  have houtcomes : d'.journal.outcomes = d.journal.outcomes :=
    congrArg SlsDetDriver.Sync.outcomes hsync
  rw [SlsDetDriver.Timely, houtcomes]
  exact h

theorem during_request {late : Bool} {m : SlsDetMessage} (h : s.Ready)
    (hs : stepDet lib s a (.request m) = some t) : During lib late (.request a m) s t := by
  have hop := operating_stepDet h.operating (fun d _ ↦ d.prompt_request m) hs
  obtain ⟨d, d', hd, hstep, rfl⟩ := stepDet_eq_some_iff.1 hs
  refine ⟨hop, h, _, _, sync_dets hd, SlsDetDriver.inCall_request ?_
    (SlsDetDriver.sync_step (l := .request m) rfl hstep), sync_setDet s a d'⟩
  exact (h.operating a d hd).correlated.conserved.pending_sync

/-- **A move of the environment takes a request further.** -/
theorem During.env {late : Bool} {i : DetRequest} {e : Move} {t' : SlsDet}
    (h : During lib late i s t) (he : e.InTime late) (hs : (server lib).env e t = some t') :
    During lib late i s t' := by
  obtain ⟨hop, hready, hi⟩ := h
  cases e with
  | work b =>
    obtain ⟨hop', hsync⟩ := work_spec hop hs
    refine ⟨hop', hready, ?_⟩
    cases i with
    | request a m =>
      obtain ⟨x, y, hx, hcall, ht⟩ := hi
      exact ⟨x, y, hx, hcall, hsync.trans ht⟩
    | inspect a rep =>
      obtain ⟨ht, d, hd, htimely⟩ := hi
      have hdets : (sync lib t').dets a = some (SlsDetDriver.sync (lib a) d) := by
        rw [hsync]
        exact sync_dets hd
      obtain ⟨d', hd', heq⟩ := Option.map_eq_some_iff.1 hdets
      exact ⟨hsync.trans ht, d', hd', timely_of_sync htimely heq⟩
  | wait b expired =>
    have hop' := operating_stepDet hop (fun d _ ↦ d.prompt_wait expired) hs
    obtain ⟨d, d', hd, hstep, rfl⟩ := stepDet_eq_some_iff.1 hs
    -- only the driver that serves the request has a caller that waits
    have hidle : (sync lib t).dets b = (sync lib s).dets b → False := by
      intro heq
      have hnone := wait_of_idle (idle_of_sync_eq hready heq hd) expired
      exact nomatch hnone.symm.trans hstep
    refine ⟨hop', hready, ?_⟩
    cases i with
    | inspect a rep => exact (hidle (by rw [hi.1])).elim
    | request a m =>
      obtain ⟨x, y, hx, hcall, ht⟩ := hi
      by_cases hb : b = a
      · subst hb
        have hy : y = SlsDetDriver.sync (lib b) d := by
          have hdets : (sync lib t).dets _ = _ := sync_dets hd
          rw [ht, SyncSlsDet.dets_setDet_same] at hdets
          exact Option.some.inj hdets
        rw [hy] at hcall
        refine ⟨x, SlsDetDriver.sync (lib b) d', hx, ?_, ?_⟩
        · exact hcall.wait he (SlsDetDriver.sync_step (l := .wait expired) rfl hstep)
        · rw [sync_setDet, ht, SyncSlsDet.setDet_setDet]
      · refine (hidle ?_).elim
        rw [ht, SyncSlsDet.dets_setDet_of_ne _ hb]

/-- **The end of a request.** -/
theorem During.leave {late : Bool} {i : DetRequest} {r : i.Reply} {t' : SlsDet}
    (h : During lib late i s t) (hs : (server lib).leave i t = some (r, t')) :
    Answered lib late i s r t' := by
  obtain ⟨hop, hready, hi⟩ := h
  cases i with
  | request a m =>
    obtain ⟨x, y, hx, hcall, ht⟩ := hi
    obtain ⟨d, p, hd, hc, rfl, hfinish⟩ := leave_request_eq_some_iff.1 hs
    have hop' := operating_stepDet hop (fun d _ ↦ d.prompt_finish) hfinish
    obtain ⟨d₀, d', hd₀, hstep, rfl⟩ := stepDet_eq_some_iff.1 hfinish
    obtain rfl := Option.some.inj (hd.symm.trans hd₀)
    obtain ⟨-, rfl⟩ := SlsDetDriver.finish_eq_some_iff.1 hstep
    have hy : y = SlsDetDriver.sync (lib a) d := by
      have hdets : (sync lib t).dets _ = _ := sync_dets hd
      rw [ht, SyncSlsDet.dets_setDet_same] at hdets
      exact Option.some.inj hdets
    have hsync : sync lib (t.setDet a { d with caller := .idle }) =
        (sync lib s).setDet a { y with caller := .idle } := by
      rw [sync_setDet, ht, SyncSlsDet.setDet_setDet, hy]
      rfl
    refine ⟨⟨hop', fun b e he ↦ ?_⟩, x, _, hx, hcall.finish (hy ▸ hc), hsync⟩
    by_cases hb : b = a
    · subst hb
      rcases dets_setDet he with ⟨-, rfl⟩ | ⟨hne, -⟩
      · rfl
      · exact (hne rfl).elim
    · have hother : (sync lib (t.setDet a { d with caller := .idle })).dets b =
          (sync lib s).dets b := by
        rw [hsync, SyncSlsDet.dets_setDet_of_ne _ hb]
      exact idle_of_sync_eq hready hother he
  | inspect a rep =>
    obtain ⟨ht, d', hd', htimely⟩ := hi
    obtain ⟨d, hd, rfl, ht₁⟩ := leave_inspect_eq_some_iff.1 hs
    obtain rfl := Option.some.inj (hd.symm.trans hd')
    have hprompt : ∀ e, t.dets a = some e → e.Prompt (.inspect rep) := fun e he ↦
      SlsDetDriver.prompt_inspect (Option.some.inj (hd.symm.trans he) ▸ htimely)
    have hop' := operating_stepDet hop hprompt ht₁
    obtain ⟨d₀, d', hd₀, hstep, rfl⟩ := stepDet_eq_some_iff.1 ht₁
    obtain rfl := Option.some.inj (hd.symm.trans hd₀)
    obtain ⟨-, rfl⟩ := SlsDetDriver.inspect_eq_some_iff.1 hstep
    have hsync : sync lib (t.setDet a { d with journal := { d.journal with
        inspected := d.journal.inspected ++ [⟨d.journal.called.length - 1, rep,
          SlsDetDriver.textOf d.core rep⟩] } }) = sync lib s := by
      refine Eq.trans (sync_setDet_eq_self hd ?_) ht
      rfl
    exact ⟨⟨hop', fun b e he ↦ idle_of_sync_eq hready
      (congrFun (congrArg SyncSlsDet.dets hsync) b) he⟩, hsync, _, Function.update_self _ _ _, rfl⟩

/-- Between requests a driver can be called if it exists. -/
theorem dets_of_enter {i : DetRequest} (h : s.Ready) (hs : (server lib).enter i s = none) :
    s.dets i.addr = none := by
  rcases hd : s.dets i.addr with - | d
  · rfl
  cases i with
  | request a m =>
    have hstep : (SlsDetDriver.machine (lib a)).step d (.request m) = some _ :=
      SlsDetDriver.request_eq_some_iff.2 ⟨h.idle a d hd, rfl⟩
    exact nomatch hs.symm.trans (stepDet_eq_some_iff.2 ⟨d, _, hd, hstep, rfl⟩)
  | inspect a rep => exact nomatch hs.symm.trans (Option.map_eq_some_iff.2 ⟨d, hd, rfl⟩)

/-- **The contract of the drivers.** What holds when a driver was missing (`W`) depends on what is
known when a request is issued (`P`). -/
theorem contract (late : Bool) {P : DetRequest → SlsDet → Prop} {W : SlsDet → Prop}
    (hwreck : ∀ {i s}, s.Ready → P i s → s.dets i.addr = none → W s)
    (hadrift : ∀ {s e t}, W s → (server lib).env e s = some t → W t) :
    Client.Contract (server lib) (Move.InTime late) (Issued P) (Answered lib late)
      (During lib late) W where
  enter := by
    rintro i s t ⟨hready, -, hi⟩ hs
    cases i with
    | request a m => exact during_request hready hs
    | inspect a rep =>
      obtain ⟨d, hd, rfl⟩ := Option.map_eq_some_iff.1 hs
      exact ⟨hready.operating, hready, rfl, d, hd, hi d hd⟩
  wreck := fun hG hs ↦ hwreck hG.1 hG.2.1 (dets_of_enter hG.1 hs)
  env := fun h he hs ↦ h.env he hs
  adrift := fun h _ hs ↦ hadrift h hs
  leave := fun h hs ↦ h.leave hs

/-! ### The drivers answer -/

/-- The move of the environment that a step of the driver at `a` is. -/
def moveOf (a : ℕ) : SlsDetDriver.Label → Move
  | .wait expired => .wait a expired
  | _ => .work a

/-- The driver at an address moves by itself. -/
theorem environment_run {ls : List SlsDetDriver.Label} {d d' : SlsDetDriver}
    (hls : ∀ l ∈ ls, l.OnTime) (hd : s.dets a = some d)
    (hrun : (SlsDetDriver.machine (lib a)).run d ls = some d') :
    (Client.environment (server lib)).run s (ls.map (moveOf a)) = some (s.setDet a d') := by
  induction ls generalizing s d with
  | nil =>
    obtain rfl := Option.some.inj hrun
    have hsame : s.setDet a d = s := by rw [setDet, ← hd, Function.update_eq_self]
    exact congrArg some hsame.symm
  | cons l ls ih =>
    obtain ⟨d₁, hd₁, hrest⟩ := (SlsDetDriver.machine (lib a)).run_cons_eq_some.1 hrun
    have hstep : (server lib).env (moveOf a l) s = some (s.setDet a d₁) := by
      rcases hls l List.mem_cons_self with rfl | rfl
      all_goals exact stepDet_eq_some_iff.2 ⟨d, d₁, hd, hd₁, rfl⟩
    have hset : (s.setDet a d₁).setDet a d' = s.setDet a d' := by simp [setDet]
    rw [← hset]
    exact (Client.environment (server lib)).run_cons_eq_some.2 ⟨_, hstep,
      ih (fun l' hl' ↦ hls l' (List.mem_cons_of_mem l hl')) (Function.update_self _ _ _) hrest⟩

/-- **A request under way can be answered**, without any wait expiring. -/
theorem responsive_inTime (late : Bool) :
    Client.Responsive (server lib) (Move.InTime false) (During lib late) := by
  rintro i s t ⟨hop, hready, hi⟩
  cases i with
  | inspect a rep =>
    obtain ⟨ht, d, hd, -⟩ := hi
    refine ⟨[], fun e he ↦ (List.not_mem_nil he).elim, t, rfl, ?_⟩
    have hstep : stepDet lib t a (.inspect rep) = some _ := stepDet_eq_some_iff.2 ⟨d, _, hd,
      SlsDetDriver.inspect_eq_some_iff.2 ⟨idle_of_sync_eq hready (by rw [ht]) hd, rfl⟩, rfl⟩
    show ((t.dets a).bind _).isSome
    rw [hd, Option.bind_some, hstep]
    rfl
  | request a m =>
    obtain ⟨x, y, -, hcall, ht⟩ := hi
    have hdets : (sync lib t).dets a = some y := by rw [ht, SyncSlsDet.dets_setDet_same]
    obtain ⟨d, hd, hy⟩ := Option.map_eq_some_iff.1 hdets
    -- the call has returned, or it will
    have hend : ∃ ls, (∀ l ∈ ls, l.OnTime) ∧ ∃ d' p,
        (SlsDetDriver.machine (lib a)).run d ls = some d' ∧ d'.caller = .returned p := by
      rcases hcall.returned_or with ⟨p, hp⟩ | hp
      · exact ⟨[], fun l hl ↦ (List.not_mem_nil hl).elim, d, p, rfl, by rw [← hp, ← hy]; rfl⟩
      · exact (hop a d hd).returns (by rw [← hy] at hp; exact hp)
    obtain ⟨ls, hls, d', p, hrun, hp⟩ := hend
    refine ⟨ls.map (moveOf a), fun e he ↦ ?_, _, environment_run hls hd hrun, ?_⟩
    · obtain ⟨l, hl, rfl⟩ := List.mem_map.1 he
      rcases hls l hl with rfl | rfl
      · trivial
      · exact fun h ↦ (nomatch h)
    · have hd' : (t.setDet a d').dets a = some d' := Function.update_self _ _ _
      have hstep : stepDet lib (t.setDet a d') a .finish = some _ := stepDet_eq_some_iff.2
        ⟨d', _, hd', SlsDetDriver.finish_eq_some_iff.2 ⟨⟨p, hp⟩, rfl⟩, rfl⟩
      show (((t.setDet a d').dets a).bind _).isSome
      rw [hd', Option.bind_some, hp]
      dsimp only
      rw [hstep]
      rfl

/-- The same where waits may expire. -/
theorem responsive (late : Bool) :
    Client.Responsive (server lib) (Move.InTime late) (During lib late) := by
  intro i s t h
  obtain ⟨es, hes, hend⟩ := responsive_inTime late i s t h
  exact ⟨es, fun e he ↦ (hes e he).mono late, hend⟩

end SlsDet
