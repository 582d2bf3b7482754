import Mathlib.Logic.Function.Basic
import Mathlib.Tactic.Common

/-!
# A heap, and an array that owns what it points to

Values that are allocated one by one and freed by address. Freeing what is not allocated is
undefined, so that a program that is defined never frees anything twice.

An array of pointers `Owns` a heap when what is allocated is exactly what it points to, each value
from one place. `Owns.replace` is the one operation that such an array needs: the value at a place,
if there is one, is freed, and another is allocated. It is defined, the array owns the heap that
results — nothing has leaked — and at all other places it points to what it pointed to.
-/

/-- A heap: what is allocated, by address, and the address where allocation goes on. -/
structure Heap (α : Type) where
  cells : ℕ → Option α
  next : ℕ
  fresh : ∀ p, next ≤ p → cells p = none

namespace Heap

variable {α : Type} {h h' : Heap α} {p q : ℕ} {v : α}

/-- Nothing is allocated. -/
def empty : Heap α := ⟨fun _ ↦ none, 0, fun _ _ ↦ rfl⟩

/-- Allocate a value, at `h.next`. -/
def alloc (h : Heap α) (v : α) : Heap α where
  cells := Function.update h.cells h.next (some v)
  next := h.next + 1
  fresh p hp := by
    rw [Function.update_of_ne (by omega)]
    exact h.fresh p (by omega)

/-- Free a value. -/
def free (h : Heap α) (p : ℕ) : Option (Heap α) :=
  if (h.cells p).isSome then some {
    cells := Function.update h.cells p none
    next := h.next
    fresh := fun q hq ↦ by
      by_cases hp : q = p
      · subst hp
        exact Function.update_self _ _ _
      · rw [Function.update_of_ne hp]
        exact h.fresh q hq }
  else none

/-- Free what a pointer points to, unless it is null. -/
def release (h : Heap α) : Option ℕ → Option (Heap α)
  | none => some h
  | some p => h.free p

@[simp] theorem alloc_next (h : Heap α) (v : α) : (h.alloc v).cells h.next = some v :=
  Function.update_self _ _ _

theorem alloc_of_ne (h : Heap α) (v : α) (hp : p ≠ h.next) : (h.alloc v).cells p = h.cells p :=
  Function.update_of_ne hp _ _

/-- What is allocated is below the next address. -/
theorem lt_next (hp : (h.cells p).isSome) : p < h.next := by
  by_contra hle
  rw [h.fresh p (Nat.le_of_not_lt hle)] at hp
  cases hp

/-- **Freeing** what is allocated is defined, and frees it alone. -/
theorem exists_free (hp : (h.cells p).isSome) : ∃ h', h.free p = some h' ∧ h'.next = h.next ∧
    h'.cells p = none ∧ ∀ q, q ≠ p → h'.cells q = h.cells q := by
  rw [free, if_pos hp]
  exact ⟨_, rfl, rfl, Function.update_self _ _ _, fun q hq ↦ Function.update_of_ne hq _ _⟩

/-! ### Arrays that own a heap -/

/-- What is allocated is what the array points to, each value from one place. -/
structure Owns (ptr : ℕ → Option ℕ) (h : Heap α) : Prop where
  inj : ∀ i j p, ptr i = some p → ptr j = some p → i = j
  live : ∀ p, (h.cells p).isSome ↔ ∃ i, ptr i = some p

variable {ptr : ℕ → Option ℕ} {i j : ℕ}

/-- What the array points to at a place. -/
def deref (h : Heap α) (ptr : ℕ → Option ℕ) (i : ℕ) : Option α := (ptr i).bind h.cells

/-- Free what a place points to, if anything, and let it point to a new value. -/
def replace (h : Heap α) (ptr : ℕ → Option ℕ) (i : ℕ) (v : α) :
    Option (Heap α × (ℕ → Option ℕ)) :=
  (h.release (ptr i)).map fun h' ↦ (h'.alloc v, Function.update ptr i (some h'.next))

theorem owns_empty : Owns (fun _ ↦ none) (empty : Heap α) :=
  ⟨fun _ _ _ h ↦ (nomatch h), fun _ ↦ ⟨fun h ↦ (nomatch h), fun ⟨_, h⟩ ↦ (nomatch h)⟩⟩

/-- The first half: after it the place dangles, and all else is as it was. -/
theorem Owns.release (hown : Owns ptr h) (i : ℕ) : ∃ h', h.release (ptr i) = some h' ∧
    (∀ p, (h'.cells p).isSome ↔ ∃ j, j ≠ i ∧ ptr j = some p) ∧
    ∀ j, j ≠ i → h'.deref ptr j = h.deref ptr j := by
  rcases hp : ptr i with - | p
  · refine ⟨h, rfl, fun q ↦ (hown.live q).trans ⟨?_, fun ⟨j, _, hj⟩ ↦ ⟨j, hj⟩⟩, fun _ _ ↦ rfl⟩
    rintro ⟨j, hj⟩
    refine ⟨j, ?_, hj⟩
    rintro rfl
    cases hp.symm.trans hj
  · obtain ⟨h', hfree, -, hnone, hrest⟩ := exists_free ((hown.live p).2 ⟨i, hp⟩)
    refine ⟨h', hfree, fun q ↦ ?_, fun j hj ↦ ?_⟩
    · by_cases hq : q = p
      · subst hq
        rw [hnone]
        exact ⟨fun h ↦ (nomatch h), fun ⟨j, hj, hpj⟩ ↦ (hj (hown.inj j i q hpj hp)).elim⟩
      · rw [hrest q hq, hown.live q]
        constructor
        · rintro ⟨j, hj⟩
          refine ⟨j, ?_, hj⟩
          rintro rfl
          exact hq (Option.some.inj (hj.symm.trans hp))
        · exact fun ⟨j, _, hj⟩ ↦ ⟨j, hj⟩
    · rw [deref, deref]
      rcases hq : ptr j with - | q
      · rfl
      · refine hrest q ?_
        rintro rfl
        exact hj (hown.inj j i q hq hp)

/-- **Replacing a value** is defined, leaks nothing, and changes no other place. -/
theorem Owns.replace (hown : Owns ptr h) (i : ℕ) (v : α) : ∃ h' ptr',
    h.replace ptr i v = some (h', ptr') ∧ Owns ptr' h' ∧ h'.deref ptr' i = some v ∧
      ∀ j, j ≠ i → h'.deref ptr' j = h.deref ptr j := by
  obtain ⟨h₁, hrelease, hlive, hsame⟩ := hown.release i
  have hself : Function.update ptr i (some h₁.next) i = some h₁.next := Function.update_self _ _ _
  have hother : ∀ j, j ≠ i → Function.update ptr i (some h₁.next) j = ptr j := fun j hj ↦
    Function.update_of_ne hj _ _
  -- the pointers that are left are below the new one
  have hlt : ∀ j, j ≠ i → ∀ p, ptr j = some p → p ≠ h₁.next := by
    rintro j hj p hp rfl
    exact Nat.lt_irrefl _ (lt_next ((hlive h₁.next).2 ⟨j, hj, hp⟩))
  refine ⟨h₁.alloc v, Function.update ptr i (some h₁.next), ?_, ⟨?_, fun p ↦ ?_⟩, ?_, ?_⟩
  · rw [Heap.replace, hrelease]
    rfl
  · intro j k p hj hk
    by_cases hji : j = i <;> by_cases hki : k = i
    · rw [hji, hki]
    · rw [hji, hself] at hj
      rw [hother k hki] at hk
      exact (hlt k hki p hk (Option.some.inj hj).symm).elim
    · rw [hki, hself] at hk
      rw [hother j hji] at hj
      exact (hlt j hji p hj (Option.some.inj hk).symm).elim
    · rw [hother j hji] at hj
      rw [hother k hki] at hk
      exact hown.inj j k p hj hk
  · by_cases hp : p = h₁.next
    · subst hp
      rw [alloc_next]
      exact ⟨fun _ ↦ ⟨i, hself⟩, fun _ ↦ rfl⟩
    · rw [alloc_of_ne h₁ v hp, hlive p]
      constructor
      · exact fun ⟨j, hj, hpj⟩ ↦ ⟨j, (hother j hj).trans hpj⟩
      · rintro ⟨j, hj⟩
        by_cases hji : j = i
        · rw [hji, hself] at hj
          exact (hp (Option.some.inj hj).symm).elim
        · exact ⟨j, hji, (hother j hji).symm.trans hj⟩
  · rw [deref, hself]
    exact alloc_next h₁ v
  · intro j hj
    rw [← hsame j hj, deref, deref, hother j hj]
    rcases hq : ptr j with - | q
    · rfl
    · exact alloc_of_ne h₁ v (hlt j hj q hq)

end Heap
