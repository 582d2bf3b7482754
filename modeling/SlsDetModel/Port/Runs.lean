import SlsDetModel.Port.Atomic

/-!
# Runs of the port

How the statements about whole runs are obtained from the ways a single call can go.

* `run_invariant` — what every permitted call keeps, holds between any two calls of any run, however
  the workers are scheduled and whichever waits expire; and every result is as specified.
* `call_spec` — a single call, carried out with nothing in between, goes in one of the ways listed,
  and can be carried to its end.
-/

namespace SlsDet

variable {lib : ℕ → Library} {late : Bool} {cfg : SlsDetConfig} {enums : EnumBuffers}
  {k k' : PortSystem} {ls : List PortLabel}

/-- The driver a request goes to is there. -/
def ToDriver (i : DetRequest) (s : SlsDet) : Prop := (s.dets i.addr).isSome

/-- A port in which connected addresses have drivers asks only drivers that are there. -/
theorem asks_toDriver {s : SlsDet} {a : ℕ}
    (h : (sync lib s).isConnected a = true → ((sync lib s).dets a).isSome) :
    Asks lib ToDriver s a := by
  rintro i t rfl - (hdet | ⟨hconn, hdet⟩)
  · exact hdet
  · obtain ⟨z, hz⟩ := Option.isSome_iff_exists.1 (h hconn)
    rw [ToDriver, hdet]
    exact isSome_dets hz

/-- The contract of the drivers where no driver is ever missing. -/
theorem contract_of_isSome {P : DetRequest → SlsDet → Prop}
    (hP : ∀ {i s}, P i s → (s.dets i.addr).isSome) :
    Client.Contract (server lib) (Move.InTime late) (Issued P) (Answered lib late)
      (During lib late) fun _ ↦ False := by
  refine contract late (fun {i s} _ hi hnone ↦ ?_) fun h _ ↦ h.elim
  have hsome := hP hi
  rw [hnone] at hsome
  cases hsome

/-- The labels a run consists of when its calls are as `C` says. -/
abbrev Permits (lib : ℕ → Library) (late : Bool) (C : PortCall → SyncSlsDet → Prop) :
    PortSystem → PortLabel → Prop :=
  Client.Permits (fun c s ↦ C c (sync lib s)) (Move.InTime late)

/-- Where waits may expire, every move is in time. -/
theorem inTime_true (e : Move) : e.InTime true := by
  cases e with
  | wait a expired => exact fun _ ↦ rfl
  | work a => trivial

/-- A condition on the calls alone. -/
theorem permits_of_forall {C : PortCall → Prop} (hC : ∀ c ∈ Client.calls ls, C c)
    (hL : ∀ e, .env e ∈ ls → e.InTime late) (k : PortSystem) :
    (system lib cfg).Along (Permits lib late fun c _ ↦ C c) k ls := by
  have hlabel : ∀ l ∈ ls, ∀ s, Permits lib late (fun c _ ↦ C c) s l := by
    intro l hl s
    cases l with
    | call c => exact hC c (Client.mem_calls.2 hl)
    | resume a => trivial
    | env e => exact hL e hl
  exact (LabelledMachine.along_of_forall hlabel k).mono fun s l hl ↦ hl s

/-- **The invariant rule of the port**, where the requests of permitted calls meet `P`. -/
theorem run_invariant {P : DetRequest → SlsDet → Prop} {J : SyncSlsDet → Prop}
    {C : PortCall → SyncSlsDet → Prop} {T : PortCall → Result → Prop}
    (hP : ∀ {i s}, P i s → (s.dets i.addr).isSome)
    (hasks : ∀ {c s a}, s.Ready → J (sync lib s) → C c (sync lib s) →
      getAddress (size cfg) c.user = some a → (sync lib s).Live a → Asks lib P s a)
    (hstep : ∀ {c x r x'}, J x → C c x → Performed lib late cfg c x r x' → J x' ∧ T c r)
    (hidle : k.thread = .idle) (hready : k.shared.Ready) (hJ : J (sync lib k.shared))
    (hls : (system lib cfg).Along (Permits lib late C) k ls)
    (hrun : (system lib cfg).run k ls = some k') :
    Client.Runs (Issued P) (Answered lib late) (During lib late) (fun _ ↦ False)
      (fun s ↦ s.Ready ∧ J (sync lib s)) T k.results k' := by
  refine Client.invariant (L := Move.InTime late) (contract_of_isSome hP) ?_ ?_ hidle ⟨hready, hJ⟩
    hls hrun
  · rintro c s ⟨hs, hJs⟩ hC
    refine (sat_perform hs fun a ha hlive ↦ hasks hs hJs hC ha hlive).imp fun r t ⟨ht, hperf⟩ ↦ ?_
    obtain ⟨hJt, hT⟩ := hstep hJs hC hperf
    exact ⟨⟨ht, hJt⟩, hT⟩
  · rintro e s t ⟨hs, hJs⟩ - hstep
    obtain ⟨ht, hsync⟩ := ready_env hs hstep
    exact ⟨ht, hsync ▸ hJs⟩

/-- The port just constructed has no drivers. -/
theorem ready_new (cfg : SlsDetConfig) (enums : EnumBuffers) : (new cfg enums).Ready :=
  ⟨fun _ _ h ↦ (nomatch h), fun _ _ h ↦ (nomatch h)⟩

/-- **Whatever clients call**, requests are issued between two requests, and are under way until
they are answered. A driver may be missing: then the thread has crashed, with no request under
way. -/
theorem runs_of_run (hrun : (system lib cfg).run (start cfg enums) ls = some k) :
    Client.Runs (Issued fun _ _ ↦ True) (Answered lib true) (During lib true) Ready Ready
      (fun _ _ ↦ True) [] k := by
  have hcontract : Client.Contract (server lib) (Move.InTime true) (Issued fun _ _ ↦ True)
      (Answered lib true) (During lib true) Ready :=
    contract true (fun h _ _ ↦ h) fun h hs ↦ (ready_env h hs).1
  have hsat : ∀ {c s}, Ready s → (perform cfg c s).Sat (Issued fun _ _ ↦ True)
      (Answered lib true) fun _ t ↦ t.Ready ∧ True := fun hs ↦
    (sat_perform hs fun _ _ _ _ _ _ _ _ ↦ trivial).imp fun _ _ h ↦ ⟨h.1, trivial⟩
  exact Client.invariant hcontract (fun hs _ ↦ hsat hs)
    (fun hs _ hstep ↦ (ready_env hs hstep).1) rfl (ready_new cfg enums)
    (permits_of_forall (C := fun _ ↦ True) (fun _ _ ↦ trivial) (fun e _ ↦ inTime_true e) _) hrun

/-- **What a call does**, carried out with nothing in between: when it has ended it went in one of
the ways listed, and until then it can be carried to its end. -/
theorem call_spec {c : PortCall} (hready : k.shared.Ready)
    (hdets : ∀ a, (sync lib k.shared).isConnected a = true → ((sync lib k.shared).dets a).isSome)
    (hls : ∀ l ∈ ls, Client.Inside (Move.InTime late) l)
    (hrun : (system lib cfg).run k (.call c :: ls) = some k') :
    (k'.thread = .idle → ∃ r, k'.results = k.results ++ [(c, r)] ∧ k'.shared.Ready ∧
      Performed lib late cfg c (sync lib k.shared) r (sync lib k'.shared)) ∧
    Client.CanEnd (server lib) (perform cfg) DetRequest.addr (Move.InTime late) k' := by
  have hcontract : Client.Contract (server lib) (Move.InTime late) (Issued ToDriver)
      (Answered lib late) (During lib late) fun _ ↦ False := contract_of_isSome fun h ↦ h
  have hsat : (perform cfg c k.shared).Sat (Issued ToDriver) (Answered lib late) fun r t ↦
      t.Ready ∧ Performed lib late cfg c (sync lib k.shared) r (sync lib t) :=
    sat_perform hready fun a _ _ ↦ asks_toDriver (hdets a)
  have hstable : ∀ {r e s t}, (s.Ready ∧
      Performed lib late cfg c (sync lib k.shared) r (sync lib s)) → e.InTime late →
      (server lib).env e s = some t →
      t.Ready ∧ Performed lib late cfg c (sync lib k.shared) r (sync lib t) := by
    rintro r e s t ⟨hs, hperf⟩ - hstep
    obtain ⟨ht, hsync⟩ := ready_env hs hstep
    exact ⟨ht, hsync ▸ hperf⟩
  exact ⟨fun hidle ↦ Client.call hcontract hsat hstable hls hrun hidle,
    Client.Performs.canEnd hcontract (responsive late)
      (Client.performs_run hcontract hsat hstable hls hrun)⟩

/-! ### Small runs -/

/-- A port with `n` addresses. -/
def bench (n : ℕ) : SlsDetConfig := ⟨List.replicate n [], 0, .plain⟩

/-- Buffers with nothing in them. -/
def blank : EnumBuffers := fun _ ↦ ⟨[], 0, .none⟩

/-- A call with a parameter at an address. -/
def on (p : Param) (addr : ℕ) (op : PortOp) : PortLabel := .call ⟨⟨.param p, addr⟩, op⟩

/-- A request is sent, served and answered. -/
def exchange (addr : ℕ) : List PortLabel :=
  .env (.wait addr false) :: List.replicate 5 (.env (.work addr)) ++
    [.env (.wait addr false), .resume addr]

/-- An address is enabled and connected. -/
def online (addr : ℕ) : List PortLabel :=
  on .detEnabled addr (.writeInt32 1) :: on .init addr (.connect true) :: exchange addr

end SlsDet
