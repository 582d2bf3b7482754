import Mathlib.Data.List.Basic
import Mathlib.Tactic.Common

/-!
# Labelled machines, their runs, and unwinding

A machine whose labels carry **all** the nondeterminism: who moves, which wait expires, which
outcome the environment picks. A step is then a partial function of state and label, a run is a
fold over the label list, and small runs can be evaluated. The notions below are the ones a
concurrent program needs.

* `run` with its composition laws, and `Along`, runs whose every step meets a condition on the label
  and on the state before it.
* `run_invariant` — what every permitted step preserves holds at the end of every permitted run.
  It is the only induction over runs that clients have to use for safety.
* `run_measure` — labels that consume a measure occur no more often than it allows.
* `unwinding` — noninterference from local conditions on a relation between the states of two
  machines. Labels are hidden, inner or inputs: hidden steps of either machine keep the relation,
  inner and input steps keep it when both machines make them together. Two runs with the same
  inputs, however the rest is interleaved, then end in related states.
-/

/-- A machine that moves as its labels say: a label that is not enabled gives `none`. -/
structure LabelledMachine (σ ℓ : Type*) where
  /-- The state after the label `l`, when `l` is enabled. -/
  step : σ → ℓ → Option σ

namespace LabelledMachine

variable {σ ℓ : Type*} (M : LabelledMachine σ ℓ)

/-! ### Runs -/

/-- Perform the labels in order. -/
def run : σ → List ℓ → Option σ
  | s, [] => some s
  | s, l :: ls => (M.step s l).bind fun t ↦ run t ls

theorem run_cons (s : σ) (l : ℓ) (ls : List ℓ) :
    M.run s (l :: ls) = (M.step s l).bind fun t ↦ M.run t ls := rfl

theorem run_cons_eq_some {s u : σ} {l : ℓ} {ls : List ℓ} :
    M.run s (l :: ls) = some u ↔ ∃ t, M.step s l = some t ∧ M.run t ls = some u := by
  rw [run_cons, Option.bind_eq_some_iff]

theorem run_append (s : σ) (ls ls' : List ℓ) :
    M.run s (ls ++ ls') = (M.run s ls).bind fun t ↦ M.run t ls' := by
  induction ls generalizing s with
  | nil => rfl
  | cons l ls ih =>
    rw [List.cons_append, run_cons, run_cons, Option.bind_assoc]
    exact congrArg _ (funext ih)

theorem run_append_eq_some {s u : σ} {ls ls' : List ℓ} :
    M.run s (ls ++ ls') = some u ↔ ∃ t, M.run s ls = some t ∧ M.run t ls' = some u := by
  rw [run_append, Option.bind_eq_some_iff]

/-- A run and its continuation, by what is seen of the states they lead to. -/
theorem exists_run_append {α β : Type*} {f : σ → α} {g : σ → β} {a : α} {b : β} {s : σ}
    {ls ls' : List ℓ} (h : (M.run s ls).map f = some a) (h' : (M.run s (ls ++ ls')).map g = some b) :
    ∃ t u, M.run s ls = some t ∧ f t = a ∧ M.run t ls' = some u ∧ g u = b := by
  obtain ⟨t, ht, hf⟩ := Option.map_eq_some_iff.1 h
  obtain ⟨u, hu, hg⟩ := Option.map_eq_some_iff.1 h'
  obtain ⟨t', ht', hu⟩ := M.run_append_eq_some.1 hu
  obtain rfl := Option.some.inj (ht.symm.trans ht')
  exact ⟨t, u, ht, hf, hu, hg⟩

/-- `t` can be reached from `s`. -/
def Reaches (s t : σ) : Prop := ∃ ls, M.run s ls = some t

variable {M}

theorem Reaches.refl (s : σ) : M.Reaches s s := ⟨[], rfl⟩

theorem Reaches.trans {s t u : σ} (h₁ : M.Reaches s t) (h₂ : M.Reaches t u) : M.Reaches s u := by
  obtain ⟨ls, hls⟩ := h₁
  obtain ⟨ls', hls'⟩ := h₂
  exact ⟨ls ++ ls', M.run_append_eq_some.2 ⟨t, hls, hls'⟩⟩

/-! ### Invariants -/

/-- Every step of the run from `s` meets the condition `C`, which may look at the state before the
step. -/
def Along (M : LabelledMachine σ ℓ) (C : σ → ℓ → Prop) : σ → List ℓ → Prop
  | _, [] => True
  | s, l :: ls => C s l ∧ ∀ t, M.step s l = some t → M.Along C t ls

/-- Whether a run meets a decidable condition can be computed, by running it. -/
instance decidableAlong (C : σ → ℓ → Prop) [∀ s l, Decidable (C s l)] :
    ∀ (ls : List ℓ) (s : σ), Decidable (M.Along C s ls)
  | [], _ => isTrue trivial
  | l :: ls, s =>
    match h : M.step s l with
    | none => decidable_of_iff (C s l)
        ⟨fun hC ↦ ⟨hC, fun _ ht ↦ (nomatch h.symm.trans ht)⟩, fun hA ↦ hA.1⟩
    | some t =>
      have := decidableAlong C ls t
      decidable_of_iff (C s l ∧ M.Along C t ls)
        ⟨fun hA ↦ ⟨hA.1, fun _ hu ↦ Option.some.inj (h.symm.trans hu) ▸ hA.2⟩,
          fun hA ↦ ⟨hA.1, hA.2 t h⟩⟩

theorem along_of_forall {L : ℓ → Prop} {ls : List ℓ} (h : ∀ l ∈ ls, L l) (s : σ) :
    M.Along (fun _ ↦ L) s ls := by
  induction ls generalizing s with
  | nil => trivial
  | cons l ls ih =>
    exact ⟨h l List.mem_cons_self, fun t _ ↦ ih (fun l' hl' ↦ h l' (List.mem_cons_of_mem l hl')) t⟩

theorem Along.mono {C D : σ → ℓ → Prop} (himp : ∀ s l, C s l → D s l) {ls : List ℓ} {s : σ}
    (h : M.Along C s ls) : M.Along D s ls := by
  induction ls generalizing s with
  | nil => trivial
  | cons l ls ih => exact ⟨himp s l h.1, fun t ht ↦ ih (h.2 t ht)⟩

/-- The second part of a permitted run is a permitted run. -/
theorem Along.drop {C : σ → ℓ → Prop} {ls ls' : List ℓ} {s t : σ} (h : M.Along C s (ls ++ ls'))
    (hrun : M.run s ls = some t) : M.Along C t ls' := by
  induction ls generalizing s with
  | nil => rwa [Option.some.inj hrun] at h
  | cons l ls ih =>
    obtain ⟨u, hu, hrun'⟩ := M.run_cons_eq_some.1 hrun
    exact ih (h.2 u hu) hrun'

/-- A permitted run and a permitted continuation. -/
theorem Along.append {C : σ → ℓ → Prop} {ls ls' : List ℓ} {s t : σ} (h : M.Along C s ls)
    (hrun : M.run s ls = some t) (h' : M.Along C t ls') : M.Along C s (ls ++ ls') := by
  induction ls generalizing s with
  | nil => rwa [Option.some.inj hrun]
  | cons l ls ih =>
    obtain ⟨u, hu, hrun'⟩ := M.run_cons_eq_some.1 hrun
    refine ⟨h.1, fun v hv ↦ ?_⟩
    obtain rfl := Option.some.inj (hu.symm.trans hv)
    exact ih (h.2 u hu) hrun'

/-- **The invariant rule.** What every permitted step preserves, every permitted run preserves. -/
theorem run_invariant_along {P : σ → Prop} {C : σ → ℓ → Prop}
    (hstep : ∀ {s l t}, P s → C s l → M.step s l = some t → P t) :
    ∀ {ls : List ℓ} {s t : σ}, P s → M.Along C s ls → M.run s ls = some t → P t := by
  intro ls
  induction ls with
  | nil =>
    intro s t hs _ hrun
    rwa [Option.some.inj hrun] at hs
  | cons l ls ih =>
    intro s t hs hC hrun
    obtain ⟨u, hu, hrun'⟩ := M.run_cons_eq_some.1 hrun
    exact ih (hstep hs hC.1 hu) (hC.2 u hu) hrun'

/-- The invariant rule when the condition is on the labels alone. -/
theorem run_invariant {P : σ → Prop} {L : ℓ → Prop}
    (hstep : ∀ {s l t}, P s → L l → M.step s l = some t → P t) {ls : List ℓ} {s t : σ} (hs : P s)
    (hL : ∀ l ∈ ls, L l) (hrun : M.run s ls = some t) : P t :=
  run_invariant_along (C := fun _ ↦ L) hstep hs (along_of_forall hL s) hrun

/-- The invariant rule when every label is permitted. -/
theorem Reaches.invariant {P : σ → Prop} (hstep : ∀ {s l t}, P s → M.step s l = some t → P t)
    {s t : σ} (hs : P s) (h : M.Reaches s t) : P t := by
  obtain ⟨ls, hrun⟩ := h
  exact run_invariant (L := fun _ ↦ True) (fun hs _ ↦ hstep hs) hs (fun _ _ ↦ trivial) hrun

/-- **The measure rule.** Where the labels `p` each take something off the measure `μ`, and no label
adds to it, a run holds at most as many of them as the measure drops. -/
theorem run_measure {P : σ → Prop} {μ : σ → ℕ} {p : ℓ → Bool}
    (hstep : ∀ {s l t}, P s → M.step s l = some t → P t ∧ μ t + (if p l then 1 else 0) ≤ μ s)
    {ls : List ℓ} : ∀ {s t : σ}, P s → M.run s ls = some t → ls.countP p + μ t ≤ μ s := by
  induction ls with
  | nil =>
    intro s t _ hrun
    obtain rfl := Option.some.inj hrun
    exact Nat.le_of_eq (Nat.zero_add _)
  | cons l ls ih =>
    intro s t hs hrun
    obtain ⟨u, hu, hrun'⟩ := M.run_cons_eq_some.1 hrun
    obtain ⟨hPu, hμ⟩ := hstep hs hu
    have hrest := ih hPu hrun'
    rw [List.countP_cons]
    omega

/-! ### Unwinding -/

section Unwinding

variable {σ₁ σ₂ β : Type*} {M₁ : LabelledMachine σ₁ ℓ} {M₂ : LabelledMachine σ₂ ℓ}
  {V : σ₁ → σ₂ → Prop} {input : ℓ → Option β} {inner : ℓ → Prop}
  {Quiet₁ : σ₁ → Prop} {Quiet₂ : σ₂ → Prop}

/-- The local conditions of unwinding, for a relation `V` between the states of two machines.

A label is an **input** if `input` shows something of it, **inner** if `inner` holds of it, and
hidden otherwise. An inner step of one machine excludes inputs of the other, and a state from which
an inner step is possible is related to no quiet state; so related states agree on which of the two
comes next. -/
structure Unwinds (M₁ : LabelledMachine σ₁ ℓ) (M₂ : LabelledMachine σ₂ ℓ) (V : σ₁ → σ₂ → Prop)
    (input : ℓ → Option β) (inner : ℓ → Prop) (Quiet₁ : σ₁ → Prop) (Quiet₂ : σ₂ → Prop) : Prop where
  hidden₁ : ∀ {s₁ s₂ l t₁}, V s₁ s₂ → input l = none → ¬inner l → M₁.step s₁ l = some t₁ → V t₁ s₂
  hidden₂ : ∀ {s₁ s₂ l t₂}, V s₁ s₂ → input l = none → ¬inner l → M₂.step s₂ l = some t₂ → V s₁ t₂
  both_inner : ∀ {s₁ s₂ l₁ l₂ t₁ t₂}, V s₁ s₂ → inner l₁ → inner l₂ → M₁.step s₁ l₁ = some t₁ →
    M₂.step s₂ l₂ = some t₂ → V t₁ t₂
  both_input : ∀ {s₁ s₂ l₁ l₂ t₁ t₂ b}, V s₁ s₂ → input l₁ = some b → input l₂ = some b →
    M₁.step s₁ l₁ = some t₁ → M₂.step s₂ l₂ = some t₂ → V t₁ t₂
  exclude₁ : ∀ {s₁ s₂ l₁ l₂ t₁ t₂ b}, V s₁ s₂ → inner l₁ → input l₂ = some b →
    M₁.step s₁ l₁ = some t₁ → M₂.step s₂ l₂ = some t₂ → False
  exclude₂ : ∀ {s₁ s₂ l₁ l₂ t₁ t₂ b}, V s₁ s₂ → input l₁ = some b → inner l₂ →
    M₁.step s₁ l₁ = some t₁ → M₂.step s₂ l₂ = some t₂ → False
  quiet₁ : ∀ {s₁ s₂ l t₂}, V s₁ s₂ → Quiet₁ s₁ → inner l → M₂.step s₂ l = some t₂ → False
  quiet₂ : ∀ {s₁ s₂ l t₁}, V s₁ s₂ → Quiet₂ s₂ → inner l → M₁.step s₁ l = some t₁ → False

/-- **Unwinding.** Two runs with the same inputs, from related states to quiet ones, end in related
states. -/
theorem unwinding (h : Unwinds M₁ M₂ V input inner Quiet₁ Quiet₂)
    (hin : ∀ l, inner l → input l = none) :
    ∀ {ls₁ ls₂ : List ℓ} {s₁ t₁ : σ₁} {s₂ t₂ : σ₂}, V s₁ s₂ →
      ls₁.filterMap input = ls₂.filterMap input → M₁.run s₁ ls₁ = some t₁ →
      M₂.run s₂ ls₂ = some t₂ → Quiet₁ t₁ → Quiet₂ t₂ → V t₁ t₂ := by
  intro ls₁ ls₂
  -- a hidden label at the head of either list is consumed first; after that the heads must match
  induction hn : ls₁.length + ls₂.length using Nat.strongRecOn generalizing ls₁ ls₂ with
  | ind n ih =>
    intro s₁ t₁ s₂ t₂ hV hvis hrun₁ hrun₂ hq₁ hq₂
    have hidden_left : ∀ {l ls}, ls₁ = l :: ls → input l = none → ¬inner l → V t₁ t₂ := by
      rintro l ls rfl hl hnl
      obtain ⟨u, hu, hrun⟩ := M₁.run_cons_eq_some.1 hrun₁
      rw [List.filterMap_cons_none hl] at hvis
      exact ih _ (by simp at hn ⊢; omega) rfl (h.hidden₁ hV hl hnl hu) hvis hrun hrun₂ hq₁ hq₂
    have hidden_right : ∀ {l ls}, ls₂ = l :: ls → input l = none → ¬inner l → V t₁ t₂ := by
      rintro l ls rfl hl hnl
      obtain ⟨u, hu, hrun⟩ := M₂.run_cons_eq_some.1 hrun₂
      rw [List.filterMap_cons_none hl] at hvis
      exact ih _ (by simp at hn ⊢; omega) rfl (h.hidden₂ hV hl hnl hu) hvis hrun₁ hrun hq₁ hq₂
    rcases hls₁ : ls₁ with - | ⟨l₁, ls₁'⟩ <;> rcases hls₂ : ls₂ with - | ⟨l₂, ls₂'⟩
    · subst hls₁ hls₂
      rw [← Option.some.inj hrun₁, ← Option.some.inj hrun₂]
      exact hV
    · by_cases hi₂ : inner l₂
      · subst hls₁ hls₂
        obtain ⟨u, hu, -⟩ := M₂.run_cons_eq_some.1 hrun₂
        rw [← Option.some.inj hrun₁] at hq₁
        exact (h.quiet₁ hV hq₁ hi₂ hu).elim
      · refine hidden_right hls₂ ?_ hi₂
        subst hls₁ hls₂
        rcases hb : input l₂ with - | b
        · rfl
        · rw [List.filterMap_cons_some hb] at hvis
          cases hvis
    · by_cases hi₁ : inner l₁
      · subst hls₁ hls₂
        obtain ⟨u, hu, -⟩ := M₁.run_cons_eq_some.1 hrun₁
        rw [← Option.some.inj hrun₂] at hq₂
        exact (h.quiet₂ hV hq₂ hi₁ hu).elim
      · refine hidden_left hls₁ ?_ hi₁
        subst hls₁ hls₂
        rcases hb : input l₁ with - | b
        · rfl
        · rw [List.filterMap_cons_some hb] at hvis
          cases hvis
    · by_cases hh₁ : input l₁ = none ∧ ¬inner l₁
      · exact hidden_left hls₁ hh₁.1 hh₁.2
      by_cases hh₂ : input l₂ = none ∧ ¬inner l₂
      · exact hidden_right hls₂ hh₂.1 hh₂.2
      subst hls₁ hls₂
      obtain ⟨u₁, hu₁, hrun₁'⟩ := M₁.run_cons_eq_some.1 hrun₁
      obtain ⟨u₂, hu₂, hrun₂'⟩ := M₂.run_cons_eq_some.1 hrun₂
      have hlt : ls₁'.length + ls₂'.length < n := by
        simp at hn
        omega
      by_cases hi₁ : inner l₁ <;> by_cases hi₂ : inner l₂
      · rw [List.filterMap_cons_none (hin l₁ hi₁), List.filterMap_cons_none (hin l₂ hi₂)] at hvis
        exact ih _ hlt rfl (h.both_inner hV hi₁ hi₂ hu₁ hu₂) hvis hrun₁' hrun₂' hq₁ hq₂
      · obtain ⟨b, hb⟩ := Option.ne_none_iff_exists'.1 fun hn ↦ hh₂ ⟨hn, hi₂⟩
        exact (h.exclude₁ hV hi₁ hb hu₁ hu₂).elim
      · obtain ⟨b, hb⟩ := Option.ne_none_iff_exists'.1 fun hn ↦ hh₁ ⟨hn, hi₁⟩
        exact (h.exclude₂ hV hb hi₂ hu₁ hu₂).elim
      · obtain ⟨b₁, hb₁⟩ := Option.ne_none_iff_exists'.1 fun hn ↦ hh₁ ⟨hn, hi₁⟩
        obtain ⟨b₂, hb₂⟩ := Option.ne_none_iff_exists'.1 fun hn ↦ hh₂ ⟨hn, hi₂⟩
        rw [List.filterMap_cons_some hb₁, List.filterMap_cons_some hb₂] at hvis
        obtain ⟨rfl, hvis'⟩ := List.cons.inj hvis
        exact ih _ hlt rfl (h.both_input hV hb₁ hb₂ hu₁ hu₂) hvis' hrun₁' hrun₂' hq₁ hq₂

end Unwinding

end LabelledMachine
