import Mathlib.Data.List.Forall2
import SlsDetModel.Concurrency.LabelledMachine
import SlsDetModel.Concurrency.Resumption

/-!
# A sequential client among concurrent servers

One thread that carries out operations one after the other, each a program with requests
(`Resumption`), while the environment — the servers it talks to — moves on its own. A `Server` says
how a request is issued, how the environment moves, and when a request is answered; `Client.machine`
interleaves the two, with a label for every move.

* `Contract` — what a request promises, established step by step at the level of the server: from
  the state in which it is issued (`During`), through every move of the environment, to its answer.
* `Client.invariant` — if every operation is correct in the sense of `Resumption.Sat` under a
  contract, what the operations and the idle environment preserve holds between any two operations
  of any run, and every result satisfies its specification.
* `Client.call` — what a single operation guarantees about its result and the state it leaves.
* `Client.Performs.canEnd` — and that it can always be carried on to its end, if the server can
  always answer.
* `Client.Keeping.run` — what the programs' own steps, the requests and the environment all keep,
  every run keeps.
* `Client.unwinds` — noninterference: operations of two kinds, those that concern an observer and
  those that do not, give an instance of the unwinding conditions.
-/

/-- A server: how a request is issued, how the environment moves, and when a request is answered. -/
structure Server (σ ε : Type) {ι : Type} (ρ : ι → Type) where
  /-- Issue a request. Undefined when that is an error of the program. -/
  enter : ι → σ → Option σ
  /-- A move of the environment. -/
  env : ε → σ → Option σ
  /-- The answer to a request, once it is there. -/
  leave : (i : ι) → σ → Option (ρ i × σ)

/-- The thread of a client. -/
inductive Thread (σ : Type) {ι : Type} (ρ : ι → Type) (τ α : Type) : Type
  | idle
  | waiting (t : τ) (i : ι) (k : ρ i → σ → Resumption σ ρ α)
  | crashed (t : τ)

/-- A client: the shared state, the thread, and the results so far, oldest first. -/
structure Client (σ : Type) {ι : Type} (ρ : ι → Type) (τ α : Type) : Type where
  shared : σ
  thread : Thread σ ρ τ α := .idle
  results : List (τ × α) := []

/-- Start an operation, resume the one that waits for a request of this kind, or let the environment
move. -/
inductive ClientLabel (τ κ ε : Type) : Type
  | call (t : τ)
  | resume (q : κ)
  | env (e : ε)
  deriving DecidableEq

namespace Client

variable {σ ε ι τ α κ : Type} {ρ : ι → Type}

/-- Whether the thread is idle. -/
def isIdle (c : Client σ ρ τ α) : Bool :=
  match c.thread with
  | .idle => true
  | _ => false

theorem thread_of_isIdle {c : Client σ ρ τ α} (h : c.isIdle = true) : c.thread = .idle := by
  unfold isIdle at h
  split at h
  · assumption
  · cases h

/-- The operations started in a run. -/
def calls (ls : List (ClientLabel τ κ ε)) : List τ :=
  ls.filterMap fun l ↦
    match l with
    | .call t => some t
    | _ => none

theorem mem_calls {t : τ} {ls : List (ClientLabel τ κ ε)} : t ∈ calls ls ↔ .call t ∈ ls := by
  rw [calls, List.mem_filterMap]
  constructor
  · rintro ⟨l, hl, h⟩
    cases l with
    | call t' => exact Option.some.inj h ▸ hl
    | resume q => cases h
    | env e => cases h
  · exact fun h ↦ ⟨_, h, rfl⟩

/-- Go on until the operation ends or waits. -/
def proceed (S : Server σ ε ρ) (t : τ) (results : List (τ × α)) :
    Resumption σ ρ α → Client σ ρ τ α
  | .done a s => ⟨s, .idle, results ++ [(t, a)]⟩
  | .ask i s k =>
    match S.enter i s with
    | some s' => ⟨s', .waiting t i k, results⟩
    | none => ⟨s, .crashed t, results⟩

/-- The client with its environment. -/
def machine [DecidableEq κ] (S : Server σ ε ρ) (prog : τ → Proc σ ρ α) (kind : ι → κ) :
    LabelledMachine (Client σ ρ τ α) (ClientLabel τ κ ε) where
  step c
    | .call t =>
      match c.thread with
      | .idle => some (proceed S t c.results (prog t c.shared))
      | _ => none
    | .resume q =>
      match c.thread with
      | .waiting t i k =>
        if kind i = q then (S.leave i c.shared).map fun (r, s) ↦ proceed S t c.results (k r s)
        else none
      | _ => none
    | .env e => (S.env e c.shared).map fun s ↦ { c with shared := s }

/-! ### The moves -/

section Moves

variable [DecidableEq κ] {S : Server σ ε ρ} {prog : τ → Proc σ ρ α} {kind : ι → κ}
  {c c' : Client σ ρ τ α}

theorem step_call_eq_some_iff {t : τ} : (machine S prog kind).step c (.call t) = some c' ↔
    c.thread = .idle ∧ c' = proceed S t c.results (prog t c.shared) := by
  rcases c with ⟨s, thread, results⟩
  cases thread with
  | idle => exact ⟨fun h ↦ ⟨rfl, (Option.some.inj h).symm⟩, fun h ↦ congrArg some h.2.symm⟩
  | waiting t' i k => exact ⟨fun h ↦ (nomatch h), fun h ↦ (nomatch h.1)⟩
  | crashed t' => exact ⟨fun h ↦ (nomatch h), fun h ↦ (nomatch h.1)⟩

theorem step_resume_eq_some_iff {q : κ} : (machine S prog kind).step c (.resume q) = some c' ↔
    ∃ t i k r s, c.thread = .waiting t i k ∧ kind i = q ∧ S.leave i c.shared = some (r, s) ∧
      c' = proceed S t c.results (k r s) := by
  rcases c with ⟨s, thread, results⟩
  cases thread with
  | idle => exact ⟨fun h ↦ (nomatch h), fun ⟨_, _, _, _, _, h, _⟩ ↦ (nomatch h)⟩
  | crashed t' => exact ⟨fun h ↦ (nomatch h), fun ⟨_, _, _, _, _, h, _⟩ ↦ (nomatch h)⟩
  | waiting t i k =>
    show (if kind i = q then _ else none) = some c' ↔ _
    constructor
    · intro h
      split at h
      case isTrue hq =>
        obtain ⟨⟨r, s'⟩, hrs, rfl⟩ := Option.map_eq_some_iff.1 h
        exact ⟨t, i, k, r, s', rfl, hq, hrs, rfl⟩
      case isFalse => cases h
    · rintro ⟨t', i', k', r, s', hth, rfl, hrs, rfl⟩
      obtain ⟨⟩ := hth
      rw [if_pos rfl]
      exact Option.map_eq_some_iff.2 ⟨(r, s'), hrs, rfl⟩

theorem step_env_eq_some_iff {e : ε} : (machine S prog kind).step c (.env e) = some c' ↔
    ∃ s, S.env e c.shared = some s ∧ c' = { c with shared := s } := by
  show (S.env e c.shared).map _ = some c' ↔ _
  rw [Option.map_eq_some_iff]
  exact ⟨fun ⟨s, hs, h⟩ ↦ ⟨s, hs, h.symm⟩, fun ⟨s, hs, h⟩ ↦ ⟨s, hs, h.symm⟩⟩

end Moves

/-! ### Contracts -/

/-- A contract of a server for the moves `L` of its environment. `During i s t` relates the state
in which the request `i` was issued to the states in which it is under way; `Wrecked` is what holds
when the program has crashed on a request. Where it is never met, no program that respects `G`
crashes. -/
structure Contract (S : Server σ ε ρ) (L : ε → Prop) (G : ι → σ → Prop)
    (R : (i : ι) → σ → ρ i → σ → Prop) (During : ι → σ → σ → Prop) (Wrecked : σ → Prop) : Prop where
  enter : ∀ {i s t}, G i s → S.enter i s = some t → During i s t
  wreck : ∀ {i s}, G i s → S.enter i s = none → Wrecked s
  env : ∀ {i s t e t'}, During i s t → L e → S.env e t = some t' → During i s t'
  adrift : ∀ {s e s'}, Wrecked s → L e → S.env e s = some s' → Wrecked s'
  leave : ∀ {i s t r t'}, During i s t → S.leave i t = some (r, t') → R i s r t'

section Contract

variable [DecidableEq κ] {S : Server σ ε ρ} {prog : τ → Proc σ ρ α} {kind : ι → κ}
  {L : ε → Prop} {G : ι → σ → Prop} {R : (i : ι) → σ → ρ i → σ → Prop} {During : ι → σ → σ → Prop}
  {Wrecked : σ → Prop} {c c' : Client σ ρ τ α}

/-- The thread is idle in a state as `I` says, or what it waits for will let it end as `Q` says, or
it has crashed. -/
def Holds (G : ι → σ → Prop) (R : (i : ι) → σ → ρ i → σ → Prop) (During : ι → σ → σ → Prop)
    (Wrecked : σ → Prop) (I : σ → Prop) (Q : τ → α → σ → Prop) (c : Client σ ρ τ α) : Prop :=
  match c.thread with
  | .idle => I c.shared
  | .waiting t i k => ∃ s, G i s ∧ During i s c.shared ∧ ∀ r s', R i s r s' → (k r s').Sat G R (Q t)
  | .crashed _ => Wrecked c.shared

/-- Going on with a correct program: it has ended with a result as `Q` says, or it has not, and will
not end otherwise. -/
theorem proceed_of_sat (hS : Contract S L G R During Wrecked) {I : σ → Prop}
    {Q : τ → α → σ → Prop} {t : τ} {x : Resumption σ ρ α} (hx : x.Sat G R (Q t))
    (results : List (τ × α)) :
    (∃ a s, proceed S t results x = ⟨s, .idle, results ++ [(t, a)]⟩ ∧ Q t a s) ∨
      (∃ s th, proceed S t results x = ⟨s, th, results⟩ ∧ th ≠ .idle) ∧
        (proceed S t results x).Holds G R During Wrecked I Q := by
  cases x with
  | done a s => exact Or.inl ⟨a, s, rfl, hx⟩
  | ask i s k =>
    rw [proceed]
    rcases hs : S.enter i s with - | s'
    · exact Or.inr ⟨⟨s, _, rfl, fun h ↦ (nomatch h)⟩, hS.wreck hx.1 hs⟩
    · exact Or.inr ⟨⟨s', _, rfl, fun h ↦ (nomatch h)⟩, s, hx.1, hS.enter hx.1 hs, hx.2⟩

/-- The invariant of a client, with a specification `T` of the results it adds to `old`. -/
structure Runs (G : ι → σ → Prop) (R : (i : ι) → σ → ρ i → σ → Prop) (During : ι → σ → σ → Prop)
    (Wrecked : σ → Prop) (I : σ → Prop) (T : τ → α → Prop) (old : List (τ × α))
    (c : Client σ ρ τ α) : Prop where
  holds : c.Holds G R During Wrecked I fun t a s ↦ I s ∧ T t a
  results : ∃ new, c.results = old ++ new ∧ ∀ p ∈ new, T p.1 p.2

theorem Runs.proceed (hS : Contract S L G R During Wrecked) {I : σ → Prop} {T : τ → α → Prop}
    {old : List (τ × α)} {t : τ} {x : Resumption σ ρ α}
    (hres : ∃ new, c.results = old ++ new ∧ ∀ p ∈ new, T p.1 p.2)
    (hx : x.Sat G R fun a s ↦ I s ∧ T t a) :
    Runs G R During Wrecked I T old (proceed S t c.results x) := by
  obtain ⟨new, hnew, hT⟩ := hres
  rcases proceed_of_sat hS (I := I) (Q := fun t a s ↦ I s ∧ T t a) hx c.results with
    ⟨a, s, hp, hI, ha⟩ | ⟨⟨s, th, hp, -⟩, hh⟩
  · rw [hp]
    refine ⟨hI, new ++ [(t, a)], ?_, fun p hpm ↦ ?_⟩
    · rw [hnew, List.append_assoc]
    · rcases List.mem_append.1 hpm with hpm | hpm
      · exact hT p hpm
      · rw [List.mem_singleton.1 hpm]
        exact ha
  · refine ⟨hh, ?_⟩
    rw [hp]
    exact ⟨new, hnew, hT⟩

/-- The moves permitted to a client: operations as `C` says, moves of the environment as `L`
says. -/
def Permits (C : τ → σ → Prop) (L : ε → Prop) (c : Client σ ρ τ α) : ClientLabel τ κ ε → Prop
  | .call t => C t c.shared
  | .resume _ => True
  | .env e => L e

instance (C : τ → σ → Prop) (L : ε → Prop) [∀ t s, Decidable (C t s)] [DecidablePred L]
    (c : Client σ ρ τ α) : ∀ l : ClientLabel τ κ ε, Decidable (Permits C L c l)
  | .call t => inferInstanceAs (Decidable (C t c.shared))
  | .resume _ => isTrue trivial
  | .env e => inferInstanceAs (Decidable (L e))

/-- **The invariant rule for clients.** If every permitted operation is correct under the contract,
and the idle environment keeps the invariant, then the invariant holds whenever the thread is idle,
and every result is as specified. -/
theorem invariant (hS : Contract S L G R During Wrecked) {I : σ → Prop} {C : τ → σ → Prop}
    {T : τ → α → Prop} (hprog : ∀ {t s}, I s → C t s → (prog t s).Sat G R fun a s' ↦ I s' ∧ T t a)
    (henv : ∀ {e s s'}, I s → L e → S.env e s = some s' → I s') {ls : List (ClientLabel τ κ ε)}
    (hidle : c.thread = .idle) (hI : I c.shared)
    (hls : (machine S prog kind).Along (Permits C L) c ls)
    (hrun : (machine S prog kind).run c ls = some c') :
    Runs G R During Wrecked I T c.results c' := by
  have hstart : Runs G R During Wrecked I T c.results c := by
    refine ⟨?_, [], (List.append_nil _).symm, fun p hp ↦ (List.not_mem_nil hp).elim⟩
    rw [Holds, hidle]
    exact hI
  refine LabelledMachine.run_invariant_along (P := Runs G R During Wrecked I T c.results) ?_ hstart
    hls hrun
  rintro u l v ⟨hholds, hres⟩ hl hstep
  cases l with
  | call t =>
    obtain ⟨hth, rfl⟩ := step_call_eq_some_iff.1 hstep
    rw [Holds, hth] at hholds
    exact .proceed hS hres (hprog hholds hl)
  | resume q =>
    obtain ⟨t, i, k, r, s, hth, -, hleave, rfl⟩ := step_resume_eq_some_iff.1 hstep
    rw [Holds, hth] at hholds
    obtain ⟨s₀, -, hd, hk⟩ := hholds
    exact .proceed hS hres (hk r s (hS.leave hd hleave))
  | env e =>
    obtain ⟨s, hs, rfl⟩ := step_env_eq_some_iff.1 hstep
    refine ⟨?_, hres⟩
    unfold Holds at hholds ⊢
    split at hholds
    · rename_i hth
      rw [hth]
      exact henv hholds hl hs
    · rename_i hth
      rw [hth]
      obtain ⟨s₀, hG, hd, hk⟩ := hholds
      exact ⟨s₀, hG, hS.env hd hl hs, hk⟩
    · rename_i hth
      rw [hth]
      exact hS.adrift hholds hl hs

/-- A single operation `t`: ended with one result as `Q` says, or under way to that. -/
def Performs (G : ι → σ → Prop) (R : (i : ι) → σ → ρ i → σ → Prop) (During : ι → σ → σ → Prop)
    (Wrecked : σ → Prop) (Q : α → σ → Prop) (t : τ) (old : List (τ × α)) (c : Client σ ρ τ α) :
    Prop :=
  (c.thread = .idle ∧ ∃ a, c.results = old ++ [(t, a)] ∧ Q a c.shared) ∨
    c.thread ≠ .idle ∧ c.results = old ∧
      c.Holds G R During Wrecked (fun _ ↦ True) fun t' a s ↦ t' = t ∧ Q a s

theorem performs_proceed (hS : Contract S L G R During Wrecked) {Q : α → σ → Prop} {t t' : τ}
    {old : List (τ × α)} {x : Resumption σ ρ α} (hx : x.Sat G R fun a s ↦ t' = t ∧ Q a s) :
    Performs G R During Wrecked Q t old (proceed S t' old x) := by
  rcases proceed_of_sat hS (I := fun _ ↦ True) (Q := fun t' a s ↦ t' = t ∧ Q a s) hx old with
    ⟨a, s, hp, rfl, ha⟩ | ⟨⟨s, th, hp, hth⟩, hh⟩
  · rw [hp]
    exact Or.inl ⟨rfl, a, rfl, ha⟩
  · refine Or.inr ⟨?_, ?_, hh⟩
    · rwa [hp]
    · rw [hp]

/-- The labels of a single operation that is under way: no other is started, and the environment
moves as `L` says. -/
def Inside (L : ε → Prop) : ClientLabel τ κ ε → Prop
  | .call _ => False
  | .resume _ => True
  | .env e => L e

/-- The operation while it is under way. -/
theorem performs_run (hS : Contract S L G R During Wrecked) {t : τ} {Q : α → σ → Prop}
    (hsat : (prog t c.shared).Sat G R Q)
    (hQ : ∀ {a e s s'}, Q a s → L e → S.env e s = some s' → Q a s')
    {ls : List (ClientLabel τ κ ε)} (hls : ∀ l ∈ ls, Inside L l)
    (hrun : (machine S prog kind).run c (.call t :: ls) = some c') :
    Performs G R During Wrecked Q t c.results c' := by
  obtain ⟨c₁, hc₁, hrun⟩ := (machine S prog kind).run_cons_eq_some.1 hrun
  obtain ⟨-, rfl⟩ := step_call_eq_some_iff.1 hc₁
  have hstart : Performs G R During Wrecked Q t c.results
      (proceed S t c.results (prog t c.shared)) :=
    performs_proceed hS (hsat.imp fun _ _ h ↦ ⟨rfl, h⟩)
  refine LabelledMachine.run_invariant (P := Performs G R During Wrecked Q t c.results)
    (L := Inside L) ?_ hstart hls hrun
  rintro u l v hu hl hstep
  cases l with
  | call t' => exact hl.elim
  | resume q =>
    obtain ⟨t', i, k, r, s, hth, -, hleave, rfl⟩ := step_resume_eq_some_iff.1 hstep
    rcases hu with ⟨hth', -⟩ | ⟨-, hres, hh⟩
    · rw [hth] at hth'
      cases hth'
    · rw [Holds, hth] at hh
      obtain ⟨s₀, -, hd, hk⟩ := hh
      rw [hres]
      exact performs_proceed hS (hk r s (hS.leave hd hleave))
  | env e =>
    obtain ⟨s, hs, rfl⟩ := step_env_eq_some_iff.1 hstep
    rcases hu with ⟨hth, a, ha, hQa⟩ | ⟨hth, hres, hh⟩
    · exact Or.inl ⟨hth, a, ha, hQ hQa hl hs⟩
    · refine Or.inr ⟨hth, hres, ?_⟩
      unfold Holds at hh ⊢
      split at hh
      · rename_i hw
        exact (hth hw).elim
      · rename_i hw
        rw [hw]
        obtain ⟨s₀, hG, hd, hk⟩ := hh
        exact ⟨s₀, hG, hS.env hd hl hs, hk⟩
      · rename_i hw
        rw [hw]
        exact hS.adrift hh hl hs

/-- **What one operation guarantees.** It adds one result, and leaves a state as its postcondition
says, provided the environment does not unsettle that. -/
theorem call (hS : Contract S L G R During Wrecked) {t : τ} {Q : α → σ → Prop}
    (hsat : (prog t c.shared).Sat G R Q)
    (hQ : ∀ {a e s s'}, Q a s → L e → S.env e s = some s' → Q a s')
    {ls : List (ClientLabel τ κ ε)} (hls : ∀ l ∈ ls, Inside L l)
    (hrun : (machine S prog kind).run c (.call t :: ls) = some c')
    (hidle' : c'.thread = .idle) : ∃ a, c'.results = c.results ++ [(t, a)] ∧ Q a c'.shared := by
  rcases performs_run hS hsat hQ hls hrun with ⟨-, a, ha⟩ | ⟨hth, -⟩
  · exact ⟨a, ha⟩
  · exact (hth hidle').elim

/-! ### Completion -/

/-- The environment of a server by itself. -/
def environment (S : Server σ ε ρ) : LabelledMachine σ ε := ⟨fun s e ↦ S.env e s⟩

/-- A request under way can be answered, by moves of the environment as `L` says. -/
def Responsive (S : Server σ ε ρ) (L : ε → Prop) (During : ι → σ → σ → Prop) : Prop :=
  ∀ i s t, During i s t → ∃ es, (∀ e ∈ es, L e) ∧
    ∃ t', (environment S).run t es = some t' ∧ (S.leave i t').isSome

/-- A request stays under way. -/
theorem Contract.env_run (hS : Contract S L G R During Wrecked) {i : ι} {s t t' : σ} {es : List ε}
    (h : During i s t) (hes : ∀ e ∈ es, L e) (hrun : (environment S).run t es = some t') :
    During i s t' :=
  LabelledMachine.run_invariant (P := During i s) (L := L) (fun hd hl hs ↦ hS.env hd hl hs) h hes
    hrun

/-- The environment moves while the client does nothing. -/
theorem run_env {es : List ε} {t : σ} (hrun : (environment S).run c.shared es = some t) :
    (machine S prog kind).run c (es.map .env) = some { c with shared := t } := by
  induction es generalizing c with
  | nil =>
    obtain rfl := Option.some.inj hrun
    rfl
  | cons e es ih =>
    obtain ⟨u, hu, hrest⟩ := (environment S).run_cons_eq_some.1 hrun
    have hstep : (machine S prog kind).step c (.env e) = some { c with shared := u } :=
      step_env_eq_some_iff.2 ⟨u, hu, rfl⟩
    rw [List.map_cons, LabelledMachine.run_cons, hstep]
    exact ih (c := { c with shared := u }) hrest

/-- The operation under way can end. -/
def CanEnd (S : Server σ ε ρ) (prog : τ → Proc σ ρ α) (kind : ι → κ) (L : ε → Prop)
    (c : Client σ ρ τ α) : Prop :=
  ∃ ls, (∀ l ∈ ls, Inside L l) ∧ ∃ c', (machine S prog kind).run c ls = some c' ∧ c'.thread = .idle

/-- Waiting for a request comes to an end, if what follows it does. -/
theorem canEnd_of_waiting (hS : Contract S L G R During Wrecked) (hresp : Responsive S L During)
    {t : τ} {i : ι} {k : ρ i → σ → Resumption σ ρ α} {s : σ} (hth : c.thread = .waiting t i k)
    (hd : During i s c.shared) (hk : ∀ r s', R i s r s' →
      CanEnd S prog kind L (proceed S t c.results (k r s'))) : CanEnd S prog kind L c := by
  obtain ⟨es, hes, u, hu, hleave⟩ := hresp i s c.shared hd
  obtain ⟨⟨r, v⟩, hrv⟩ := Option.isSome_iff_exists.1 hleave
  obtain ⟨ls, hls, c', hrun, hidle⟩ := hk r v (hS.leave (hS.env_run hd hes hu) hrv)
  refine ⟨es.map .env ++ .resume (kind i) :: ls, fun l hl ↦ ?_, c', ?_, hidle⟩
  · rcases List.mem_append.1 hl with hl | hl
    · obtain ⟨e, he, rfl⟩ := List.mem_map.1 hl
      exact hes e he
    · rcases List.mem_cons.1 hl with rfl | hl
      · trivial
      · exact hls l hl
  · refine (machine S prog kind).run_append_eq_some.2 ⟨_, run_env hu, ?_⟩
    exact (machine S prog kind).run_cons_eq_some.2
      ⟨_, step_resume_eq_some_iff.2 ⟨t, i, k, r, v, hth, rfl, hrv, rfl⟩, hrun⟩

/-- **A correct program can end**, if no program crashes and the server answers. -/
theorem canEnd_of_sat (hS : Contract S L G R During fun _ ↦ False) (hresp : Responsive S L During)
    {Q : α → σ → Prop} {t : τ} (results : List (τ × α)) {x : Resumption σ ρ α} (hx : x.Sat G R Q) :
    CanEnd S prog kind L (proceed S t results x) := by
  induction x generalizing results with
  | done a s => exact ⟨[], fun l hl ↦ (List.not_mem_nil hl).elim, _, rfl, rfl⟩
  | ask i s k ih =>
    rw [proceed]
    rcases hs : S.enter i s with - | s'
    · exact (hS.wreck hx.1 hs).elim
    · exact canEnd_of_waiting hS hresp rfl (hS.enter hx.1 hs) fun r s' hr ↦
        ih r s' results (hx.2 r s' hr)

/-- **An operation under way can end.** -/
theorem Performs.canEnd (hS : Contract S L G R During fun _ ↦ False)
    (hresp : Responsive S L During) {Q : α → σ → Prop} {t : τ} {old : List (τ × α)}
    (h : Performs G R During (fun _ ↦ False) Q t old c) : CanEnd S prog kind L c := by
  rcases h with ⟨hidle, -⟩ | ⟨-, -, hh⟩
  · exact ⟨[], fun l hl ↦ (List.not_mem_nil hl).elim, c, rfl, hidle⟩
  · unfold Holds at hh
    split at hh
    case h_1 hidle => exact ⟨[], fun l hl ↦ (List.not_mem_nil hl).elim, c, rfl, hidle⟩
    case h_2 t' i k hth =>
      obtain ⟨s, -, hd, hk⟩ := hh
      exact canEnd_of_waiting hS hresp hth hd fun r s' hr ↦
        canEnd_of_sat hS hresp c.results (hk r s' hr)
    case h_3 => exact hh.elim

end Contract

/-! ### What the programs keep -/

section Keeping

variable {prog : τ → Proc σ ρ α} {kind : ι → κ} {S : Server σ ε ρ} {A : ι → Prop}
  {E : σ → σ → Prop} {J : σ → Prop} {c c' : Client σ ρ τ α}

/-- The shared state is as `J` says, and the operation under way moves it along `E`. -/
def Keeping (A : ι → Prop) (E : σ → σ → Prop) (J : σ → Prop) (c : Client σ ρ τ α) : Prop :=
  J c.shared ∧ ∀ t i k, c.thread = .waiting t i k → ∀ r s, (k r s).Frames A E s

theorem keeping_proceed (hE : ∀ {s s'}, J s → E s s' → J s')
    (henter : ∀ {i s s'}, J s → A i → S.enter i s = some s' → J s') {t : τ}
    {results : List (τ × α)} {x : Resumption σ ρ α} {s₀ : σ} (hx : x.Frames A E s₀) (hJ : J s₀) :
    Keeping A E J (proceed S t results x) := by
  cases x with
  | done a s => exact ⟨hE hJ hx, fun _ _ _ h ↦ (nomatch h)⟩
  | ask i s k =>
    obtain ⟨hi, hs, hk⟩ := hx
    rw [proceed]
    split
    case h_1 s' hs' =>
      refine ⟨henter (hE hJ hs) hi hs', ?_⟩
      rintro t i k ⟨⟩
      exact hk
    case h_2 => exact ⟨hE hJ hs, fun _ _ _ h ↦ (nomatch h)⟩

/-- **What the programs and the servers keep, every run keeps**, whatever the clients call. -/
theorem Keeping.run [DecidableEq κ] (hprog : ∀ t, (prog t).Frames A E)
    (hE : ∀ {s s'}, J s → E s s' → J s')
    (henter : ∀ {i s s'}, J s → A i → S.enter i s = some s' → J s')
    (henv : ∀ {e s s'}, J s → S.env e s = some s' → J s')
    (hleave : ∀ {i s r s'}, J s → S.leave i s = some (r, s') → J s')
    {ls : List (ClientLabel τ κ ε)} (h : Keeping A E J c)
    (hrun : (machine S prog kind).run c ls = some c') : Keeping A E J c' := by
  refine LabelledMachine.Reaches.invariant (P := Keeping A E J) ?_ h ⟨ls, hrun⟩
  rintro u l v ⟨hJ, hk⟩ hstep
  cases l with
  | call t =>
    obtain ⟨-, rfl⟩ := step_call_eq_some_iff.1 hstep
    exact keeping_proceed (fun hJ hs ↦ hE hJ hs) (fun hJ hi hs ↦ henter hJ hi hs)
      (hprog t u.shared) hJ
  | resume q =>
    obtain ⟨t, i, k, r, s, hth, -, hs, rfl⟩ := step_resume_eq_some_iff.1 hstep
    exact keeping_proceed (fun hJ hs ↦ hE hJ hs) (fun hJ hi hs ↦ henter hJ hi hs)
      (hk t i k hth r s) (hleave hJ hs)
  | env e =>
    obtain ⟨s, hs, rfl⟩ := step_env_eq_some_iff.1 hstep
    exact ⟨henv hJ hs, hk⟩

end Keeping

/-! ### Noninterference -/

section Noninterference

variable {ν β : Type} {prog : τ → Proc σ ρ α} {kind : ι → κ} {view : σ → ν}
  {concerns : τ → Bool} {own : κ} {seen : ε → Option β} {V : τ → α → α → Prop}

/-- What does not concern an observer who sees `view` keeps the view: the operations that are not
his, the requests that are not of his kind `own`, and the moves of the environment of which he has
`seen` nothing. -/
structure Keeps (S : Server σ ε ρ) (prog : τ → Proc σ ρ α) (kind : ι → κ) (view : σ → ν)
    (concerns : τ → Bool) (own : κ) (seen : ε → Option β) : Prop where
  prog : ∀ {t}, concerns t = false →
    (prog t).Frames (fun i ↦ kind i ≠ own) fun s s' ↦ view s' = view s
  enter : ∀ {i s s'}, kind i ≠ own → S.enter i s = some s' → view s' = view s
  leave : ∀ {i s r s'}, kind i ≠ own → S.leave i s = some (r, s') → view s' = view s
  env : ∀ {e s s'}, seen e = none → S.env e s = some s' → view s' = view s

/-- What concerns the observer acts on the view alone, with the same results up to `V`; and while an
answer to him is ready, the environment makes no move that he would see. Of the states in which the
request `i` is under way, `U i` may be assumed. -/
structure Acts (S₁ S₂ : Server σ ε ρ) (prog : τ → Proc σ ρ α) (kind : ι → κ) (view : σ → ν)
    (concerns : τ → Bool) (own : κ) (seen : ε → Option β) (V : τ → α → α → Prop)
    (U : ι → σ → Prop) : Prop where
  prog : ∀ {t}, concerns t = true →
    (prog t).Rel (fun i ↦ kind i = own) (fun s s' ↦ view s = view s') (V t) (prog t)
  enter : ∀ {i s₁ s₂}, kind i = own → view s₁ = view s₂ →
    (S₁.enter i s₁).map view = (S₂.enter i s₂).map view
  leave : ∀ {i s₁ s₂ r₁ r₂ t₁ t₂}, kind i = own → view s₁ = view s₂ → U i s₁ → U i s₂ →
    S₁.leave i s₁ = some (r₁, t₁) → S₂.leave i s₂ = some (r₂, t₂) → r₁ = r₂ ∧ view t₁ = view t₂
  env : ∀ {e₁ e₂ s₁ s₂ t₁ t₂ b}, view s₁ = view s₂ → seen e₁ = some b → seen e₂ = some b →
    S₁.env e₁ s₁ = some t₁ → S₂.env e₂ s₂ = some t₂ → view t₁ = view t₂
  exclude₁ : ∀ {i e b s₁ s₂ p t}, kind i = own → view s₁ = view s₂ → seen e = some b →
    S₁.leave i s₁ = some p → S₂.env e s₂ = some t → False
  exclude₂ : ∀ {i e b s₁ s₂ p t}, kind i = own → view s₁ = view s₂ → seen e = some b →
    S₁.env e s₁ = some t → S₂.leave i s₂ = some p → False

/-- The thread is not in an operation of the observer's, and what it goes on with keeps the view. -/
def Elsewhere (kind : ι → κ) (view : σ → ν) (concerns : τ → Bool) (own : κ) :
    Thread σ ρ τ α → Prop
  | .waiting t i k => concerns t = false ∧ kind i ≠ own ∧ ∀ r s,
      (k r s).Frames (fun j ↦ kind j ≠ own) (fun s s' ↦ view s' = view s) s
  | _ => True

/-- The threads wait for the same request of the observer's, and go on alike. -/
inductive Abreast (kind : ι → κ) (view : σ → ν) (concerns : τ → Bool) (own : κ)
    (V : τ → α → α → Prop) : Thread σ ρ τ α → Thread σ ρ τ α → Prop
  | mk {t i k k'} (ht : concerns t = true) (hi : kind i = own)
      (hk : ∀ r s s', view s = view s' → (k r s).Rel (fun i ↦ kind i = own)
        (fun s s' ↦ view s = view s') (V t) (k' r s')) :
      Abreast kind view concerns own V (.waiting t i k) (.waiting t i k')

/-- The results of the observer's operations. -/
def resultsOf (concerns : τ → Bool) (results : List (τ × α)) : List (τ × α) :=
  results.filter fun p ↦ concerns p.1

/-- The observer cannot tell the clients apart. -/
structure Alike (kind : ι → κ) (view : σ → ν) (concerns : τ → Bool) (own : κ)
    (V : τ → α → α → Prop) (c₁ c₂ : Client σ ρ τ α) : Prop where
  sees : view c₁.shared = view c₂.shared
  results : List.Forall₂ (fun p q ↦ p.1 = q.1 ∧ V p.1 p.2 q.2) (resultsOf concerns c₁.results)
    (resultsOf concerns c₂.results)
  thread : Elsewhere kind view concerns own c₁.thread ∧ Elsewhere kind view concerns own c₂.thread ∨
    Abreast kind view concerns own V c₁.thread c₂.thread

/-- What the observer sees of a label: his own operations, and the moves of the environment. -/
def seenLabel (concerns : τ → Bool) (seen : ε → Option β) : ClientLabel τ κ ε → Option (τ ⊕ β)
  | .call t => if concerns t then some (.inl t) else none
  | .resume _ => none
  | .env e => (seen e).map .inr

/-- What an observer sees of a label, by cases. -/
theorem seenLabel_eq_some {l : ClientLabel τ κ ε} {b : τ ⊕ β}
    (h : seenLabel concerns seen l = some b) :
    (∃ t, l = .call t ∧ concerns t = true ∧ b = .inl t) ∨
      ∃ e b', l = .env e ∧ seen e = some b' ∧ b = .inr b' := by
  cases l with
  | call t =>
    rw [seenLabel] at h
    split at h
    case isTrue ht => exact Or.inl ⟨t, rfl, ht, (Option.some.inj h).symm⟩
    case isFalse => cases h
  | resume q => cases h
  | env e =>
    obtain ⟨b', hseen, rfl⟩ := Option.map_eq_some_iff.1 h
    exact Or.inr ⟨e, b', rfl, hseen, rfl⟩

/-- The thread is not in an operation of the observer's. -/
def Quiet (concerns : τ → Bool) (c : Client σ ρ τ α) : Prop :=
  ∀ t i k, c.thread = .waiting t i k → concerns t = false

theorem quiet_of_isIdle {c : Client σ ρ τ α} (h : c.isIdle = true) : Quiet concerns c := by
  intro t i k hw
  rw [thread_of_isIdle h] at hw
  cases hw

/-- Going on with something that keeps the view. -/
theorem proceed_of_frames {S : Server σ ε ρ} (h : Keeps S prog kind view concerns own seen)
    {t : τ} (ht : concerns t = false) {x : Resumption σ ρ α} {s₀ : σ}
    (hx : x.Frames (fun i ↦ kind i ≠ own) (fun s s' ↦ view s' = view s) s₀)
    (results : List (τ × α)) :
    view (proceed S t results x).shared = view s₀ ∧
      resultsOf concerns (proceed S t results x).results = resultsOf concerns results ∧
      Elsewhere kind view concerns own (proceed S t results x).thread := by
  cases x with
  | done a s =>
    refine ⟨hx, ?_, trivial⟩
    show resultsOf concerns (results ++ [(t, a)]) = _
    rw [resultsOf, List.filter_append, List.filter_cons_of_neg (by simp [ht]), List.filter_nil,
      List.append_nil]
    rfl
  | ask i s k =>
    rw [proceed]
    split
    case h_1 s' hs' => exact ⟨(h.enter hx.1 hs').trans hx.2.1, rfl, ht, hx.1, hx.2.2⟩
    case h_2 => exact ⟨hx.2.1, rfl, trivial⟩

/-- **A hidden move keeps the view**, and with it everything the observer knows. -/
theorem keeps_step [DecidableEq κ] {S : Server σ ε ρ} (h : Keeps S prog kind view concerns own seen)
    {c c' : Client σ ρ τ α} {l : ClientLabel τ κ ε} (hl : seenLabel concerns seen l = none)
    (hin : l ≠ .resume own) (hstep : (machine S prog kind).step c l = some c') :
    (Elsewhere kind view concerns own c.thread → view c'.shared = view c.shared ∧
      resultsOf concerns c'.results = resultsOf concerns c.results ∧
      Elsewhere kind view concerns own c'.thread) ∧
    (∀ t i k, c.thread = .waiting t i k → kind i = own → view c'.shared = view c.shared ∧
      c'.results = c.results ∧ c'.thread = c.thread) := by
  cases l with
  | call t =>
    obtain ⟨hth, rfl⟩ := step_call_eq_some_iff.1 hstep
    have ht : concerns t = false := by
      rcases hc : concerns t
      · rfl
      · rw [seenLabel, if_pos hc] at hl
        cases hl
    refine ⟨fun _ ↦ proceed_of_frames h ht (h.prog ht c.shared) c.results, fun t' i k hw ↦ ?_⟩
    rw [hth] at hw
    cases hw
  | resume q =>
    obtain ⟨t, i, k, r, s, hth, rfl, hleave, rfl⟩ := step_resume_eq_some_iff.1 hstep
    have hne : kind i ≠ own := fun heq ↦ hin (congrArg _ heq)
    constructor
    · intro hel
      rw [hth] at hel
      have hs := h.leave hne hleave
      have hp := proceed_of_frames h hel.1 (hel.2.2 r s) c.results
      rw [hs] at hp
      exact hp
    · intro t' i' k' hw heq
      rw [hth] at hw
      obtain ⟨⟩ := hw
      exact (hne heq).elim
  | env e =>
    obtain ⟨s, hs, rfl⟩ := step_env_eq_some_iff.1 hstep
    have hseen : seen e = none := Option.map_eq_none_iff.1 hl
    have hview := h.env hseen hs
    exact ⟨fun hel ↦ ⟨hview, rfl, hel⟩, fun _ _ _ _ _ ↦ ⟨hview, rfl, rfl⟩⟩

variable {S₁ S₂ : Server σ ε ρ} {U : ι → σ → Prop}

/-- Going on alike. -/
theorem proceed_of_rel (h : Acts S₁ S₂ prog kind view concerns own seen V U) {t : τ}
    (ht : concerns t = true) {x y : Resumption σ ρ α} {p q : List (τ × α)}
    (hx : x.Rel (fun i ↦ kind i = own) (fun s s' ↦ view s = view s') (V t) y)
    (hres : List.Forall₂ (fun p q ↦ p.1 = q.1 ∧ V p.1 p.2 q.2) (resultsOf concerns p)
      (resultsOf concerns q)) :
    Alike kind view concerns own V (proceed S₁ t p x) (proceed S₂ t q y) := by
  cases hx with
  | done hv hs =>
    refine ⟨hs, ?_, Or.inl ⟨trivial, trivial⟩⟩
    show List.Forall₂ _ (resultsOf concerns (p ++ _)) (resultsOf concerns (q ++ _))
    rw [resultsOf, resultsOf, List.filter_append, List.filter_append,
      List.filter_cons_of_pos (by simpa using ht), List.filter_cons_of_pos (by simpa using ht)]
    exact List.rel_append hres (.cons ⟨rfl, hv⟩ .nil)
  | @ask i s s' k k' hi hs hk =>
    have henter := h.enter hi hs
    rw [proceed, proceed]
    rcases h₁ : S₁.enter i s with - | t₁ <;> rcases h₂ : S₂.enter i s' with - | t₂
    · exact ⟨hs, hres, Or.inl ⟨trivial, trivial⟩⟩
    · rw [h₁, h₂] at henter
      cases henter
    · rw [h₁, h₂] at henter
      cases henter
    · rw [h₁, h₂] at henter
      exact ⟨Option.some.inj henter, hres, Or.inr ⟨ht, hi, hk⟩⟩

/-- An operation of the observer's waits for a request of his. -/
theorem Abreast.waiting {th₁ th₂ : Thread σ ρ τ α} (h : Abreast kind view concerns own V th₁ th₂) :
    (∃ t i k, th₁ = .waiting t i k ∧ concerns t = true ∧ kind i = own) ∧
      ∃ t i k, th₂ = .waiting t i k ∧ concerns t = true ∧ kind i = own := by
  obtain ⟨ht, hi, hk⟩ := h
  exact ⟨⟨_, _, _, rfl, ht, hi⟩, _, _, _, rfl, ht, hi⟩

/-- A thread that is elsewhere does not resume a request of the observer's. -/
theorem step_resume_of_elsewhere [DecidableEq κ] {S : Server σ ε ρ} {c c' : Client σ ρ τ α}
    (h : Elsewhere kind view concerns own c.thread)
    (hstep : (machine S prog kind).step c (.resume own) = some c') : False := by
  obtain ⟨t, i, k, r, s, hth, hi, -⟩ := step_resume_eq_some_iff.1 hstep
  rw [hth] at h
  exact h.2.1 hi

section Alike

variable [DecidableEq κ] {c₁ c₁' c₂ c₂' : Client σ ρ τ α} {l₁ l₂ : ClientLabel τ κ ε} {b : τ ⊕ β}

/-- A hidden step of the first client. -/
theorem Alike.hidden₁ (hV : Alike kind view concerns own V c₁ c₂)
    (hk : Keeps S₁ prog kind view concerns own seen) (hl : seenLabel concerns seen l₁ = none)
    (hin : l₁ ≠ .resume own) (hstep : (machine S₁ prog kind).step c₁ l₁ = some c₁') :
    Alike kind view concerns own V c₁' c₂ := by
  obtain ⟨helsewhere, hwaiting⟩ := keeps_step hk hl hin hstep
  rcases hV.thread with ⟨h₁, h₂⟩ | hab
  · obtain ⟨hview, hres, h₁'⟩ := helsewhere h₁
    exact ⟨hview.trans hV.sees, hres ▸ hV.results, Or.inl ⟨h₁', h₂⟩⟩
  · obtain ⟨t, i, k, hw, -, hi⟩ := hab.waiting.1
    obtain ⟨hview, hres, hth⟩ := hwaiting t i k hw hi
    exact ⟨hview.trans hV.sees, hres ▸ hV.results, Or.inr (hth ▸ hab)⟩

/-- A hidden step of the second client. -/
theorem Alike.hidden₂ (hV : Alike kind view concerns own V c₁ c₂)
    (hk : Keeps S₂ prog kind view concerns own seen) (hl : seenLabel concerns seen l₂ = none)
    (hin : l₂ ≠ .resume own) (hstep : (machine S₂ prog kind).step c₂ l₂ = some c₂') :
    Alike kind view concerns own V c₁ c₂' := by
  obtain ⟨helsewhere, hwaiting⟩ := keeps_step hk hl hin hstep
  rcases hV.thread with ⟨h₁, h₂⟩ | hab
  · obtain ⟨hview, hres, h₂'⟩ := helsewhere h₂
    exact ⟨hV.sees.trans hview.symm, hres ▸ hV.results, Or.inl ⟨h₁, h₂'⟩⟩
  · obtain ⟨t, i, k, hw, -, hi⟩ := hab.waiting.2
    obtain ⟨hview, hres, hth⟩ := hwaiting t i k hw hi
    exact ⟨hV.sees.trans hview.symm, hres ▸ hV.results, Or.inr (hth ▸ hab)⟩

/-- Both go on with the answer to a request of the observer's. -/
theorem Alike.resume (hV : Alike kind view concerns own V c₁ c₂)
    (h : Acts S₁ S₂ prog kind view concerns own seen V U)
    (hU₁ : ∀ t i k, c₁.thread = .waiting t i k → U i c₁.shared)
    (hU₂ : ∀ t i k, c₂.thread = .waiting t i k → U i c₂.shared)
    (hs₁ : (machine S₁ prog kind).step c₁ (.resume own) = some c₁')
    (hs₂ : (machine S₂ prog kind).step c₂ (.resume own) = some c₂') :
    Alike kind view concerns own V c₁' c₂' := by
  rcases hV.thread with ⟨h₁, -⟩ | hab
  · exact (step_resume_of_elsewhere h₁ hs₁).elim
  obtain ⟨t, i, k, r₁, s₁, hth₁, hi, hl₁, rfl⟩ := step_resume_eq_some_iff.1 hs₁
  obtain ⟨t', i', k', r₂, s₂, hth₂, -, hl₂, rfl⟩ := step_resume_eq_some_iff.1 hs₂
  have hu₁ := hU₁ t i k hth₁
  have hu₂ := hU₂ t' i' k' hth₂
  rw [hth₁, hth₂] at hab
  obtain ⟨ht, -, hk⟩ := hab
  obtain ⟨rfl, hview⟩ := h.leave hi hV.sees hu₁ hu₂ hl₁ hl₂
  exact proceed_of_rel h ht (hk r₁ s₁ s₂ hview) hV.results

/-- Both take the same input. -/
theorem Alike.input (hV : Alike kind view concerns own V c₁ c₂)
    (h : Acts S₁ S₂ prog kind view concerns own seen V U)
    (hb₁ : seenLabel concerns seen l₁ = some b) (hb₂ : seenLabel concerns seen l₂ = some b)
    (hs₁ : (machine S₁ prog kind).step c₁ l₁ = some c₁')
    (hs₂ : (machine S₂ prog kind).step c₂ l₂ = some c₂') :
    Alike kind view concerns own V c₁' c₂' := by
  rcases seenLabel_eq_some hb₁ with ⟨t, rfl, ht, rfl⟩ | ⟨e₁, b', rfl, hseen₁, rfl⟩
  · rcases seenLabel_eq_some hb₂ with ⟨t', rfl, -, heq⟩ | ⟨e, b', rfl, -, heq⟩
    · obtain rfl := Sum.inl.inj heq
      obtain ⟨-, rfl⟩ := step_call_eq_some_iff.1 hs₁
      obtain ⟨-, rfl⟩ := step_call_eq_some_iff.1 hs₂
      exact proceed_of_rel h ht (h.prog ht _ _ hV.sees) hV.results
    · cases heq
  · rcases seenLabel_eq_some hb₂ with ⟨t, rfl, -, heq⟩ | ⟨e₂, b'', rfl, hseen₂, heq⟩
    · cases heq
    · obtain rfl := Sum.inr.inj heq
      obtain ⟨s₁, he₁, rfl⟩ := step_env_eq_some_iff.1 hs₁
      obtain ⟨s₂, he₂, rfl⟩ := step_env_eq_some_iff.1 hs₂
      exact ⟨h.env hV.sees hseen₁ hseen₂ he₁ he₂, hV.results, hV.thread⟩

/-- While the first can go on, the second takes no input. -/
theorem Alike.exclude₁ (hV : Alike kind view concerns own V c₁ c₂)
    (h : Acts S₁ S₂ prog kind view concerns own seen V U)
    (hb : seenLabel concerns seen l₂ = some b)
    (hs₁ : (machine S₁ prog kind).step c₁ (.resume own) = some c₁')
    (hs₂ : (machine S₂ prog kind).step c₂ l₂ = some c₂') : False := by
  obtain ⟨t, i, k, r, s, hth₁, hi, hl₁, -⟩ := step_resume_eq_some_iff.1 hs₁
  rcases hV.thread with ⟨h₁, -⟩ | hab
  · exact step_resume_of_elsewhere h₁ hs₁
  rcases seenLabel_eq_some hb with ⟨t', rfl, -, -⟩ | ⟨e, b', rfl, hseen, -⟩
  · obtain ⟨-, t'', i'', k'', hw, -⟩ := hab.waiting
    rw [(step_call_eq_some_iff.1 hs₂).1] at hw
    cases hw
  · obtain ⟨s₂, hs₂, -⟩ := step_env_eq_some_iff.1 hs₂
    exact h.exclude₁ hi hV.sees hseen hl₁ hs₂

/-- While the second can go on, the first takes no input. -/
theorem Alike.exclude₂ (hV : Alike kind view concerns own V c₁ c₂)
    (h : Acts S₁ S₂ prog kind view concerns own seen V U)
    (hb : seenLabel concerns seen l₁ = some b)
    (hs₁ : (machine S₁ prog kind).step c₁ l₁ = some c₁')
    (hs₂ : (machine S₂ prog kind).step c₂ (.resume own) = some c₂') : False := by
  obtain ⟨t, i, k, r, s, hth₂, hi, hl₂, -⟩ := step_resume_eq_some_iff.1 hs₂
  rcases hV.thread with ⟨-, h₂⟩ | hab
  · exact step_resume_of_elsewhere h₂ hs₂
  rcases seenLabel_eq_some hb with ⟨t', rfl, -, -⟩ | ⟨e, b', rfl, hseen, -⟩
  · obtain ⟨⟨t'', i'', k'', hw, -⟩, -⟩ := hab.waiting
    rw [(step_call_eq_some_iff.1 hs₁).1] at hw
    cases hw
  · obtain ⟨s₁, hs₁, -⟩ := step_env_eq_some_iff.1 hs₁
    exact h.exclude₂ hi hV.sees hseen hs₁ hl₂

/-- If the first is quiet, the second does not go on either. -/
theorem Alike.quiet₁ (hV : Alike kind view concerns own V c₁ c₂) (hq : Quiet concerns c₁)
    (hs₂ : (machine S₂ prog kind).step c₂ (.resume own) = some c₂') : False := by
  rcases hV.thread with ⟨-, h₂⟩ | hab
  · exact step_resume_of_elsewhere h₂ hs₂
  · obtain ⟨⟨t, i, k, hw, ht, -⟩, -⟩ := hab.waiting
    rw [hq t i k hw] at ht
    cases ht

/-- If the second is quiet, the first does not go on either. -/
theorem Alike.quiet₂ (hV : Alike kind view concerns own V c₁ c₂) (hq : Quiet concerns c₂)
    (hs₁ : (machine S₁ prog kind).step c₁ (.resume own) = some c₁') : False := by
  rcases hV.thread with ⟨h₁, -⟩ | hab
  · exact step_resume_of_elsewhere h₁ hs₁
  · obtain ⟨-, t, i, k, hw, ht, -⟩ := hab.waiting
    rw [hq t i k hw] at ht
    cases ht

/-- What is known of the states of a client: the invariant `Inv`, kept by every step, says `U i`
while the request `i` is under way. -/
structure Knows (M : LabelledMachine (Client σ ρ τ α) (ClientLabel τ κ ε))
    (Inv : Client σ ρ τ α → Prop) (U : ι → σ → Prop) : Prop where
  step : ∀ {c l c'}, Inv c → M.step c l = some c' → Inv c'
  waiting : ∀ {c t i k}, Inv c → c.thread = .waiting t i k → U i c.shared

/-- **Clients unwind.** Under the conditions `Keeps` for both and `Acts` between them, clients that
are alike for an observer stay so. -/
theorem unwinds {Inv₁ Inv₂ : Client σ ρ τ α → Prop}
    (hk₁ : Keeps S₁ prog kind view concerns own seen)
    (hk₂ : Keeps S₂ prog kind view concerns own seen)
    (h : Acts S₁ S₂ prog kind view concerns own seen V U)
    (hU₁ : Knows (machine S₁ prog kind) Inv₁ U) (hU₂ : Knows (machine S₂ prog kind) Inv₂ U) :
    LabelledMachine.Unwinds (machine S₁ prog kind) (machine S₂ prog kind)
      (fun c₁ c₂ ↦ Inv₁ c₁ ∧ Inv₂ c₂ ∧ Alike kind view concerns own V c₁ c₂)
      (seenLabel concerns seen) (fun l ↦ l = .resume own) (Quiet concerns) (Quiet concerns) where
  hidden₁ := fun ⟨h₁, h₂, hV⟩ hl hin hs ↦ ⟨hU₁.step h₁ hs, h₂, hV.hidden₁ hk₁ hl hin hs⟩
  hidden₂ := fun ⟨h₁, h₂, hV⟩ hl hin hs ↦ ⟨h₁, hU₂.step h₂ hs, hV.hidden₂ hk₂ hl hin hs⟩
  both_inner := by
    rintro c₁ c₂ l₁ l₂ c₁' c₂' ⟨h₁, h₂, hV⟩ rfl rfl hs₁ hs₂
    exact ⟨hU₁.step h₁ hs₁, hU₂.step h₂ hs₂,
      hV.resume h (fun _ _ _ ↦ hU₁.waiting h₁) (fun _ _ _ ↦ hU₂.waiting h₂) hs₁ hs₂⟩
  both_input := fun ⟨h₁, h₂, hV⟩ hb₁ hb₂ hs₁ hs₂ ↦
    ⟨hU₁.step h₁ hs₁, hU₂.step h₂ hs₂, hV.input h hb₁ hb₂ hs₁ hs₂⟩
  exclude₁ := by
    rintro c₁ c₂ l₁ l₂ c₁' c₂' b ⟨-, -, hV⟩ rfl hb hs₁ hs₂
    exact hV.exclude₁ h hb hs₁ hs₂
  exclude₂ := by
    rintro c₁ c₂ l₁ l₂ c₁' c₂' b ⟨-, -, hV⟩ hb rfl hs₁ hs₂
    exact hV.exclude₂ h hb hs₁ hs₂
  quiet₁ := by
    rintro c₁ c₂ l c₂' ⟨-, -, hV⟩ hq rfl hs₂
    exact hV.quiet₁ hq hs₂
  quiet₂ := by
    rintro c₁ c₂ l c₁' ⟨-, -, hV⟩ hq rfl hs₁
    exact hV.quiet₂ hq hs₁

end Alike

end Noninterference

end Client
