import Mathlib.Algebra.Order.BigOperators.Group.Finset
import SlsDetModel.Concurrency.Client

/-!
# Budgets: operations that come to an end

A program with a bounded number of requests, served by servers whose every move uses up some of what
a request gave them to do, cannot go on forever, whoever is scheduled. This is the accounting behind
that, in three parts.

* `Resumption.Spends` — a program issues at most `n` requests on any of its paths; and, as for
  `Resumption.Frames`, its own steps move the state along a relation.
* `Meter` — a measure `μ` of what the servers have left to do. Each of their moves uses up some of
  it, a request adds at most `b`, and the answers and the programs add nothing.
* `Client.length_le` — a client under way to the end of one operation has no more moves before it
  than what is left to do, and `b + 1` for every request.

Where there are several servers the measure is a sum over them, and `sum_range_update` says how it
changes with one.
-/

namespace Resumption

variable {σ ι α β : Type} {ρ : ι → Type} {A : ι → Prop} {E : σ → σ → Prop}

/-- At most `n` requests, all of them in `A`; from `s₀` to the first of them or to the end, and from
every reply to the next, the state moves along `E`. -/
def Spends (A : ι → Prop) (E : σ → σ → Prop) : ℕ → σ → Resumption σ ρ α → Prop
  | _, s₀, .done _ s => E s₀ s
  | n, s₀, .ask i s k => A i ∧ E s₀ s ∧ ∃ m < n, ∀ r t, (k r t).Spends A E m t

theorem Spends.mono {m n : ℕ} (hmn : m ≤ n) {x : Resumption σ ρ α} {s₀ : σ}
    (h : x.Spends A E m s₀) : x.Spends A E n s₀ := by
  cases x with
  | done a s => exact h
  | ask i s k =>
    obtain ⟨hi, hs, l, hl, hk⟩ := h
    exact ⟨hi, hs, l, Nat.lt_of_lt_of_le hl hmn, hk⟩

/-- What is spent from `s` on is spent from any state that leads to `s`. -/
theorem Spends.trans (htrans : ∀ s t u, E s t → E t u → E s u) {n : ℕ} {x : Resumption σ ρ α}
    {s₀ s : σ} (hs : E s₀ s) (h : x.Spends A E n s) : x.Spends A E n s₀ := by
  cases x with
  | done a t => exact htrans s₀ s t hs h
  | ask i t k => exact ⟨h.1, htrans s₀ s t hs h.2.1, h.2.2⟩

theorem Spends.bind (htrans : ∀ s t u, E s t → E t u → E s u) {m n : ℕ} {x : Resumption σ ρ α}
    {f : α → σ → Resumption σ ρ β} {s₀ : σ} (h : x.Spends A E m s₀)
    (hf : ∀ a s, (f a s).Spends A E n s) : (x.bind f).Spends A E (m + n) s₀ := by
  induction x generalizing s₀ m with
  | done a s => exact ((hf a s).mono (Nat.le_add_left n m)).trans htrans h
  | ask i s k ih =>
    obtain ⟨hi, hs, l, hl, hk⟩ := h
    exact ⟨hi, hs, l + n, Nat.add_lt_add_right hl n, fun r t ↦ ih r t (hk r t)⟩

/-- What a program keeps, whatever it spends. -/
theorem Spends.frames {n : ℕ} {x : Resumption σ ρ α} {s₀ : σ} (h : x.Spends A E n s₀) :
    x.Frames A E s₀ := by
  induction x generalizing s₀ n with
  | done a s => exact h
  | ask i s k ih =>
    obtain ⟨hi, hs, l, -, hk⟩ := h
    exact ⟨hi, hs, fun r t ↦ ih r t (hk r t)⟩

end Resumption

namespace Proc

variable {σ ι α β : Type} {ρ : ι → Type} {A : ι → Prop} {E : σ → σ → Prop} {m n : ℕ}

/-- The program issues at most `n` requests, all of them in `A`, and its own steps move the state
along `E`. -/
def Spends (A : ι → Prop) (E : σ → σ → Prop) (n : ℕ) (x : Proc σ ρ α) : Prop :=
  ∀ s, (x s).Spends A E n s

theorem Spends.mono (hmn : m ≤ n) {x : Proc σ ρ α} (h : Spends A E m x) : Spends A E n x :=
  fun s ↦ (h s).mono hmn

theorem Spends.bind (htrans : ∀ s t u, E s t → E t u → E s u) {x : Proc σ ρ α}
    {f : α → Proc σ ρ β} (h : Spends A E m x) (hf : ∀ a, Spends A E n (f a)) :
    Spends A E (m + n) (x >>= f) :=
  fun s ↦ (h s).bind htrans fun a t ↦ hf a t

theorem spends_ite {c : Prop} [Decidable c] {x y : Proc σ ρ α} (hx : c → Spends A E n x)
    (hy : ¬c → Spends A E n y) : Spends A E n (if c then x else y) := by
  split
  case isTrue hc => exact hx hc
  case isFalse hc => exact hy hc

theorem spends_ask (hrefl : ∀ s, E s s) {i : ι} (hi : A i) :
    Spends A E 1 (ask i : Proc σ ρ (ρ i)) :=
  fun s ↦ ⟨hi, hrefl s, 0, Nat.zero_lt_one, fun _ t ↦ hrefl t⟩

end Proc

/-- A measure of what is left to do for a server in a state as `J` says, with `E` for the steps of
the programs it serves. -/
structure Meter {σ ε ι : Type} {ρ : ι → Type} (S : Server σ ε ρ) (L : ε → Prop) (A : ι → Prop)
    (E : σ → σ → Prop) (J : σ → Prop) (μ : σ → ℕ) (b : ℕ) : Prop where
  prog : ∀ {s s'}, J s → E s s' → J s' ∧ μ s' ≤ μ s
  enter : ∀ {i s s'}, J s → A i → S.enter i s = some s' → J s' ∧ μ s' ≤ μ s + b
  env : ∀ {e s s'}, J s → L e → S.env e s = some s' → J s' ∧ μ s' < μ s
  leave : ∀ {i s r s'}, J s → S.leave i s = some (r, s') → J s' ∧ μ s' ≤ μ s

/-- A sum of measures changes at the one place that is updated. -/
theorem sum_range_update {α : Type} (μ : α → ℕ) (g : ℕ → α) {a n : ℕ} (ha : a < n) (x : α) :
    ∑ b ∈ Finset.range n, μ (Function.update g a x b) + μ (g a) =
      ∑ b ∈ Finset.range n, μ (g b) + μ x := by
  have hmem : a ∈ Finset.range n := Finset.mem_range.2 ha
  have hrest : ∑ b ∈ (Finset.range n).erase a, μ (Function.update g a x b) =
      ∑ b ∈ (Finset.range n).erase a, μ (g b) :=
    Finset.sum_congr rfl fun b hb ↦ by rw [Function.update_of_ne (Finset.ne_of_mem_erase hb)]
  rw [← Finset.add_sum_erase _ _ hmem, ← Finset.add_sum_erase _ _ hmem, hrest, Function.update_self]
  omega

namespace Client

variable {σ ε ι τ α κ : Type} {ρ : ι → Type} [DecidableEq κ] {S : Server σ ε ρ}
  {prog : τ → Proc σ ρ α} {kind : ι → κ} {L : ε → Prop} {A : ι → Prop} {E : σ → σ → Prop}
  {J : σ → Prop} {μ : σ → ℕ} {b n : ℕ} {c c' : Client σ ρ τ α}

/-- What is left to do, for the servers and for the operation under way, is at most `N`. -/
def Within (A : ι → Prop) (E : σ → σ → Prop) (J : σ → Prop) (μ : σ → ℕ) (b N : ℕ)
    (c : Client σ ρ τ α) : Prop :=
  J c.shared ∧
    match c.thread with
    | .waiting _ _ k => ∃ m, (∀ r s, (k r s).Spends A E m s) ∧ μ c.shared + m * (b + 1) + 1 ≤ N
    | _ => μ c.shared ≤ N

theorem within_proceed (hM : Meter S L A E J μ b) {x : Resumption σ ρ α} {s₀ : σ} {m N : ℕ} {t : τ}
    {results : List (τ × α)} (hx : x.Spends A E m s₀) (hJ : J s₀) (hN : μ s₀ + m * (b + 1) ≤ N) :
    Within A E J μ b N (proceed S t results x) := by
  cases x with
  | done a s =>
    obtain ⟨hJs, hμ⟩ := hM.prog hJ hx
    refine ⟨hJs, ?_⟩
    show μ s ≤ N
    omega
  | ask i s k =>
    obtain ⟨hi, hs, l, hl, hk⟩ := hx
    obtain ⟨hJs, hμ⟩ := hM.prog hJ hs
    have hmul : l * (b + 1) + (b + 1) ≤ m * (b + 1) := by
      rw [← Nat.succ_mul]
      exact Nat.mul_le_mul_right _ hl
    rw [proceed]
    rcases henter : S.enter i s with - | s'
    · refine ⟨hJs, ?_⟩
      show μ s ≤ N
      omega
    · obtain ⟨hJs', hμ'⟩ := hM.enter hJs hi henter
      refine ⟨hJs', l, hk, ?_⟩
      show μ s' + l * (b + 1) + 1 ≤ N
      omega

/-- **A move uses up some of it.** -/
theorem Within.step (hM : Meter S L A E J μ b) {l : ClientLabel τ κ ε} (hl : Inside L l) {N : ℕ}
    (h : Within A E J μ b N c) (hs : (machine S prog kind).step c l = some c') :
    ∃ N', N = N' + 1 ∧ Within A E J μ b N' c' := by
  obtain ⟨hJ, hN⟩ := h
  cases l with
  | call t => exact hl.elim
  | resume q =>
    obtain ⟨t, i, k, r, s, hth, -, hleave, rfl⟩ := step_resume_eq_some_iff.1 hs
    rw [hth] at hN
    obtain ⟨m, hk, hN⟩ := hN
    obtain ⟨hJs, hμ⟩ := hM.leave hJ hleave
    obtain ⟨N', rfl⟩ : ∃ N', N = N' + 1 := ⟨N - 1, by omega⟩
    exact ⟨N', rfl, within_proceed hM (hk r s) hJs (by omega)⟩
  | env e =>
    obtain ⟨s, henv, rfl⟩ := step_env_eq_some_iff.1 hs
    obtain ⟨hJs, hμ⟩ := hM.env hJ hl henv
    rcases c with ⟨s₀, thread, results⟩
    change μ s < μ s₀ at hμ
    cases thread with
    | waiting t i k =>
      obtain ⟨m, hk, hN⟩ := hN
      change μ s₀ + m * (b + 1) + 1 ≤ N at hN
      obtain ⟨N', rfl⟩ : ∃ N', N = N' + 1 := ⟨N - 1, by omega⟩
      refine ⟨N', rfl, hJs, m, hk, ?_⟩
      show μ s + m * (b + 1) + 1 ≤ N'
      omega
    | idle =>
      change μ s₀ ≤ N at hN
      obtain ⟨N', rfl⟩ : ∃ N', N = N' + 1 := ⟨N - 1, by omega⟩
      exact ⟨N', rfl, hJs, Nat.le_of_lt_succ (Nat.lt_of_lt_of_le hμ hN)⟩
    | crashed t =>
      change μ s₀ ≤ N at hN
      obtain ⟨N', rfl⟩ : ∃ N', N = N' + 1 := ⟨N - 1, by omega⟩
      exact ⟨N', rfl, hJs, Nat.le_of_lt_succ (Nat.lt_of_lt_of_le hμ hN)⟩

theorem Within.length_le (hM : Meter S L A E J μ b) {ls : List (ClientLabel τ κ ε)} {N : ℕ}
    (h : Within A E J μ b N c) (hls : ∀ l ∈ ls, Inside L l)
    (hrun : (machine S prog kind).run c ls = some c') : ls.length ≤ N := by
  induction ls generalizing c N with
  | nil => exact Nat.zero_le N
  | cons l ls ih =>
    obtain ⟨u, hu, hrest⟩ := (machine S prog kind).run_cons_eq_some.1 hrun
    obtain ⟨N', rfl, hu⟩ := h.step hM (hls l List.mem_cons_self) hu
    exact Nat.succ_le_succ (ih hu (fun l' hl' ↦ hls l' (List.mem_cons_of_mem l hl')) hrest)

/-- **An operation comes to its end, or to a standstill**, within its budget. -/
theorem length_le (hM : Meter S L A E J μ b) {t : τ} (hprog : (prog t).Spends A E n)
    (hJ : J c.shared) {ls : List (ClientLabel τ κ ε)} (hls : ∀ l ∈ ls, Inside L l)
    (hrun : (machine S prog kind).run c (.call t :: ls) = some c') :
    ls.length ≤ μ c.shared + n * (b + 1) := by
  obtain ⟨u, hu, hrest⟩ := (machine S prog kind).run_cons_eq_some.1 hrun
  obtain ⟨hth, rfl⟩ := step_call_eq_some_iff.1 hu
  exact (within_proceed hM (hprog c.shared) hJ (Nat.le_refl _)).length_le hM hls hrest

/-- Where no operation is started, none is answered. -/
theorem idle_run {ls : List (ClientLabel τ κ ε)} (hth : c.thread = .idle)
    (hls : ∀ l ∈ ls, Inside L l) (hrun : (machine S prog kind).run c ls = some c') :
    c'.thread = .idle ∧ c'.results = c.results := by
  induction ls generalizing c with
  | nil =>
    obtain rfl := Option.some.inj hrun
    exact ⟨hth, rfl⟩
  | cons l ls ih =>
    obtain ⟨u, hu, hrest⟩ := (machine S prog kind).run_cons_eq_some.1 hrun
    have hu : u.thread = .idle ∧ u.results = c.results := by
      cases l with
      | call t => exact (hls _ List.mem_cons_self).elim
      | resume q =>
        obtain ⟨t, i, k, r, s, hwaiting, -⟩ := step_resume_eq_some_iff.1 hu
        cases hth.symm.trans hwaiting
      | env e =>
        obtain ⟨s, -, rfl⟩ := step_env_eq_some_iff.1 hu
        exact ⟨hth, rfl⟩
    obtain ⟨hth', hres⟩ := ih hu.1 (fun l' hl' ↦ hls l' (List.mem_cons_of_mem l hl')) hrest
    exact ⟨hth', hres.trans hu.2⟩

/-! ### No standstill -/

/-- **While an operation is under way, something can move**, if the server can always answer. -/
theorem enabled_of_waiting {During : ι → σ → σ → Prop} (hresp : Responsive S L During) {t : τ}
    {i : ι} {k : ρ i → σ → Resumption σ ρ α} {s : σ} (hth : c.thread = .waiting t i k)
    (hd : During i s c.shared) :
    ∃ l, Inside L l ∧ ((machine S prog kind).step c l).isSome := by
  obtain ⟨es, hes, u, hu, hleave⟩ := hresp i s c.shared hd
  cases es with
  | nil =>
    obtain rfl := Option.some.inj hu
    obtain ⟨⟨r, v⟩, hrv⟩ := Option.isSome_iff_exists.1 hleave
    exact ⟨.resume (kind i), trivial, Option.isSome_iff_exists.2
      ⟨_, step_resume_eq_some_iff.2 ⟨t, i, k, r, v, hth, rfl, hrv, rfl⟩⟩⟩
  | cons e es =>
    obtain ⟨v, hv, -⟩ := (environment S).run_cons_eq_some.1 hu
    exact ⟨.env e, hes e List.mem_cons_self, Option.isSome_iff_exists.2
      ⟨_, step_env_eq_some_iff.2 ⟨v, hv, rfl⟩⟩⟩

end Client
