import Mathlib.Tactic.Common

/-!
# Resumptions: sequential programs that wait for a server

A program over a shared state that now and then issues a **request** and waits. While it waits the
state may change under its hands, so what it does next is a function of the reply *and* of the state
it finds then. `Resumption` is the tree of such a program's behaviour, `Proc` the monad in which it
is written.

Three logics go with it.

* `Resumption.Sat` — partial correctness under a rely: a precondition `G` at every request, what may
  be assumed when it is answered (`R`), and a postcondition.
* `Resumption.Frames` — the program's own steps keep a relation, whatever happens while it waits.
* `Resumption.Rel` — two programs that keep a relation between their states, issue the same
  requests, and return related values, as long as the replies agree.

Each comes with a rule of composition and rules for the monad's operations, so that a program is
verified against them without being unfolded as a tree.
-/

/-- The behaviour of a program over states `σ`: it is done, or it issues the request `i` and goes on
with the reply and the state it finds then. -/
inductive Resumption (σ : Type) {ι : Type} (ρ : ι → Type) (α : Type) : Type
  | done (a : α) (s : σ)
  | ask (i : ι) (s : σ) (k : ρ i → σ → Resumption σ ρ α)

namespace Resumption

variable {σ ι α β γ : Type} {ρ : ι → Type}

/-- Sequential composition. -/
def bind (x : Resumption σ ρ α) (f : α → σ → Resumption σ ρ β) : Resumption σ ρ β :=
  match x with
  | .done a s => f a s
  | .ask i s k => .ask i s fun r t ↦ (k r t).bind f

/-! ### Partial correctness under a rely -/

section Sat

variable {G G' : ι → σ → Prop} {R R' : (i : ι) → σ → ρ i → σ → Prop} {Q Q' : α → σ → Prop}

/-- Every request is issued in a state that meets `G`, and if every reply `r` to a request `i`
issued in `s` finds a state `t` with `R i s r t`, the program can only end as `Q` says. -/
def Sat (G : ι → σ → Prop) (R : (i : ι) → σ → ρ i → σ → Prop) (Q : α → σ → Prop) :
    Resumption σ ρ α → Prop
  | .done a s => Q a s
  | .ask i s k => G i s ∧ ∀ r t, R i s r t → (k r t).Sat G R Q

/-- The consequence rule. -/
theorem Sat.mono {x : Resumption σ ρ α} (h : x.Sat G R Q) (hG : ∀ i s, G i s → G' i s)
    (hR : ∀ i s r t, R' i s r t → R i s r t) (hQ : ∀ a s, Q a s → Q' a s) : x.Sat G' R' Q' := by
  induction x with
  | done a s => exact hQ a s h
  | ask i s k ih => exact ⟨hG i s h.1, fun r t hr ↦ ih r t (h.2 r t (hR i s r t hr))⟩

/-- Weakening the postcondition. -/
theorem Sat.imp {x : Resumption σ ρ α} (h : x.Sat G R Q) (hQ : ∀ a s, Q a s → Q' a s) :
    x.Sat G R Q' :=
  h.mono (fun _ _ hG ↦ hG) (fun _ _ _ _ hR ↦ hR) hQ

/-- The rule of composition. -/
theorem Sat.bind {x : Resumption σ ρ β} {f : β → σ → Resumption σ ρ α} {P : β → σ → Prop}
    (h : x.Sat G R P) (hf : ∀ b s, P b s → (f b s).Sat G R Q) : (x.bind f).Sat G R Q := by
  induction x with
  | done b s => exact hf b s h
  | ask i s k ih => exact ⟨h.1, fun r t hr ↦ ih r t (h.2 r t hr)⟩

end Sat

/-! ### What the program's own steps keep -/

section Frames

variable {A : ι → Prop} {E : σ → σ → Prop}

/-- From `s₀` to the first request or the end, and from every reply to the next, the state moves
along `E`; every request is in `A`. -/
def Frames (A : ι → Prop) (E : σ → σ → Prop) : σ → Resumption σ ρ α → Prop
  | s₀, .done _ s => E s₀ s
  | s₀, .ask i s k => A i ∧ E s₀ s ∧ ∀ r t, (k r t).Frames A E t

/-- What is kept from `s` on is kept from any state that leads to `s`. -/
theorem Frames.trans (htrans : ∀ s t u, E s t → E t u → E s u) {x : Resumption σ ρ α} {s₀ s : σ}
    (hs : E s₀ s) (h : x.Frames A E s) : x.Frames A E s₀ := by
  cases x with
  | done a t => exact htrans s₀ s t hs h
  | ask i t k => exact ⟨h.1, htrans s₀ s t hs h.2.1, h.2.2⟩

theorem Frames.bind (htrans : ∀ s t u, E s t → E t u → E s u) {x : Resumption σ ρ α}
    {f : α → σ → Resumption σ ρ β} {s₀ : σ} (h : x.Frames A E s₀)
    (hf : ∀ a s, (f a s).Frames A E s) : (x.bind f).Frames A E s₀ := by
  induction x generalizing s₀ with
  | done a s => exact (hf a s).trans htrans h
  | ask i s k ih => exact ⟨h.1, h.2.1, fun r t ↦ ih r t (h.2.2 r t)⟩

end Frames

/-! ### Two programs side by side -/

section Rel

variable {A : ι → Prop} {E : σ → σ → Prop} {V : α → β → Prop}

/-- The two programs issue the same requests, all of them in `A`, in related states, go on alike
after every reply, and end in related states with related values. -/
inductive Rel (A : ι → Prop) (E : σ → σ → Prop) (V : α → β → Prop) :
    Resumption σ ρ α → Resumption σ ρ β → Prop
  | done {a b s t} (hv : V a b) (hs : E s t) : Rel A E V (.done a s) (.done b t)
  | ask {i s t k l} (hi : A i) (hs : E s t)
      (hk : ∀ r s' t', E s' t' → Rel A E V (k r s') (l r t')) : Rel A E V (.ask i s k) (.ask i t l)

/-- Weakening the relation between the values. -/
theorem Rel.imp {W : α → β → Prop} {x : Resumption σ ρ α} {y : Resumption σ ρ β} (h : x.Rel A E V y)
    (hV : ∀ a b, V a b → W a b) : x.Rel A E W y := by
  induction h with
  | done hv hs => exact .done (hV _ _ hv) hs
  | ask hi hs _ ih => exact .ask hi hs ih

theorem Rel.bind {α' β' : Type} {W : α' → β' → Prop} {x : Resumption σ ρ α} {y : Resumption σ ρ β}
    {f : α → σ → Resumption σ ρ α'} {g : β → σ → Resumption σ ρ β'} (h : x.Rel A E V y)
    (hf : ∀ a b s t, V a b → E s t → (f a s).Rel A E W (g b t)) :
    (x.bind f).Rel A E W (y.bind g) := by
  induction h with
  | done hv hs => exact hf _ _ _ _ hv hs
  | ask hi hs _ ih => exact .ask hi hs ih

end Rel

end Resumption

/-- A program over states `σ` with requests answered as `ρ` says. -/
def Proc (σ : Type) {ι : Type} (ρ : ι → Type) (α : Type) : Type := σ → Resumption σ ρ α

namespace Proc

variable {σ ι α β : Type} {ρ : ι → Type}

instance : Monad (Proc σ ρ) where
  pure a := fun s ↦ .done a s
  bind x f := fun s ↦ (x s).bind fun a t ↦ f a t

/-- Read something off the state. -/
def gets (f : σ → α) : Proc σ ρ α := fun s ↦ .done (f s) s

/-- Change the state. -/
def modify (f : σ → σ) : Proc σ ρ Unit := fun s ↦ .done () (f s)

/-- Issue a request and wait for the reply. -/
def ask (i : ι) : Proc σ ρ (ρ i) := fun s ↦ .ask i s fun r t ↦ .done r t

/-! ### The rules for what the program keeps -/

section Frames

variable {A : ι → Prop} {E : σ → σ → Prop}

/-- The program's own steps move the state along `E`, and its requests are in `A`. -/
def Frames (A : ι → Prop) (E : σ → σ → Prop) (x : Proc σ ρ α) : Prop := ∀ s, (x s).Frames A E s

theorem Frames.bind (htrans : ∀ s t u, E s t → E t u → E s u) {x : Proc σ ρ α}
    {f : α → Proc σ ρ β} (h : Frames A E x) (hf : ∀ a, Frames A E (f a)) : Frames A E (x >>= f) :=
  fun s ↦ (h s).bind htrans fun a t ↦ hf a t

theorem frames_modify {f : σ → σ} (h : ∀ s, E s (f s)) : Frames A E (modify f : Proc σ ρ Unit) :=
  fun s ↦ h s

theorem frames_ite {c : Prop} [Decidable c] {x y : Proc σ ρ α} (hx : c → Frames A E x)
    (hy : ¬c → Frames A E y) : Frames A E (if c then x else y) := by
  split
  case isTrue hc => exact hx hc
  case isFalse hc => exact hy hc

end Frames

/-! ### The relational rules -/

section Rel

variable {α' β' : Type} {A : ι → Prop} {E : σ → σ → Prop} {V : α → β → Prop} {W : α' → β' → Prop}

/-- From related states the two programs behave alike. -/
def Rel (A : ι → Prop) (E : σ → σ → Prop) (V : α → β → Prop) (x : Proc σ ρ α) (y : Proc σ ρ β) :
    Prop :=
  ∀ s t, E s t → (x s).Rel A E V (y t)

theorem rel_pure {a : α} {b : β} (h : V a b) :
    Rel A E V (pure a : Proc σ ρ α) (pure b : Proc σ ρ β) :=
  fun _ _ hs ↦ .done h hs

theorem Rel.bind {x : Proc σ ρ α} {y : Proc σ ρ β} {f : α → Proc σ ρ α'} {g : β → Proc σ ρ β'}
    (h : Rel A E V x y) (hf : ∀ a b, V a b → Rel A E W (f a) (g b)) :
    Rel A E W (x >>= f) (y >>= g) :=
  fun s t hs ↦ (h s t hs).bind fun a b s' t' hv hs' ↦ hf a b hv s' t' hs'

/-- Weakening the relation between the values. -/
theorem Rel.imp {V' : α → β → Prop} {x : Proc σ ρ α} {y : Proc σ ρ β} (h : Rel A E V x y)
    (hV : ∀ a b, V a b → V' a b) : Rel A E V' x y := fun s t hs ↦ (h s t hs).imp hV

/-- Reading related things off related states. -/
theorem rel_gets {f : σ → α} {g : σ → β} (h : ∀ s t, E s t → V (f s) (g t)) :
    Rel A E V (gets f : Proc σ ρ α) (gets g : Proc σ ρ β) :=
  fun s t hs ↦ .done (h s t hs) hs

/-- Changes that keep the relation. -/
theorem rel_modify {f g : σ → σ} (h : ∀ s t, E s t → E (f s) (g t)) :
    Rel A E (fun _ _ ↦ True) (modify f : Proc σ ρ Unit) (modify g : Proc σ ρ Unit) :=
  fun s t hs ↦ .done trivial (h s t hs)

/-- The same request on both sides. -/
theorem rel_ask {i : ι} (hi : A i) : Rel A E Eq (ask i : Proc σ ρ (ρ i)) (ask i : Proc σ ρ (ρ i)) :=
  fun _ _ hs ↦ .ask hi hs fun _ _ _ hs' ↦ .done rfl hs'

theorem rel_ite {c d : Prop} [Decidable c] [Decidable d] {x x' : Proc σ ρ α} {y y' : Proc σ ρ β}
    (hcd : c ↔ d) (h : c → Rel A E V x y) (h' : ¬c → Rel A E V x' y') :
    Rel A E V (if c then x else x') (if d then y else y') := by
  by_cases hc : c
  · rw [if_pos hc, if_pos (hcd.1 hc)]
    exact h hc
  · rw [if_neg hc, if_neg fun hd ↦ hc (hcd.2 hd)]
    exact h' hc

end Rel

end Proc
