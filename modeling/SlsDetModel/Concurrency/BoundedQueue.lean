import Mathlib.Data.List.Basic
import Mathlib.Tactic.Common

/-!
# Bounded first-in first-out queues

The message queue of a real-time executive: a list of at most `capacity` items, with the bound
carried by the type. Sending to a full queue and receiving from an empty one are undefined here;
whether a caller then blocks, gives up after a timeout or fails is the caller's business, so the
two operations are partial functions and nothing more.

`send?_eq_some_iff` and `receive?_eq_some_iff` say everything the operations do in terms of the
list of items; proofs about clients use these and never look at the bound.
-/

/-- A first-in first-out queue of at most `capacity` items, oldest first. -/
structure BoundedQueue (α : Type*) (capacity : ℕ) where
  /-- The queued items, the next one to be received first. -/
  items : List α
  /-- The capacity is respected. -/
  fits : items.length ≤ capacity

namespace BoundedQueue

variable {α : Type*} {capacity : ℕ}

@[ext] theorem ext {q q' : BoundedQueue α capacity} (h : q.items = q'.items) : q = q' := by
  cases q; cases q'; congr

/-- The empty queue. -/
def empty : BoundedQueue α capacity := ⟨[], Nat.zero_le _⟩

/-- Append an item, unless the queue is full. -/
def send? (q : BoundedQueue α capacity) (a : α) : Option (BoundedQueue α capacity) :=
  if h : q.items.length < capacity then some ⟨q.items ++ [a], by
    rw [List.length_append, List.length_singleton]; exact h⟩ else none

/-- Take the oldest item, unless the queue is empty. -/
def receive? (q : BoundedQueue α capacity) : Option (α × BoundedQueue α capacity) :=
  match q with
  | ⟨[], _⟩ => none
  | ⟨a :: rest, h⟩ => some (a, ⟨rest, Nat.le_of_succ_le h⟩)

theorem send?_eq_some_iff {q q' : BoundedQueue α capacity} {a : α} :
    q.send? a = some q' ↔ q'.items = q.items ++ [a] := by
  constructor
  · intro h
    unfold send? at h
    split at h
    · exact (Option.some.inj h) ▸ rfl
    · simp at h
  · intro h
    have hlt : q.items.length < capacity := by
      have := q'.fits
      rw [h, List.length_append, List.length_singleton] at this
      omega
    rw [send?, dif_pos hlt]
    exact congrArg some (ext h.symm)

theorem exists_send?_eq_some_iff {q : BoundedQueue α capacity} {a : α} :
    (∃ q', q.send? a = some q') ↔ q.items.length < capacity := by
  unfold send?
  split <;> simp_all

theorem receive?_eq_some_iff {q q' : BoundedQueue α capacity} {a : α} :
    q.receive? = some (a, q') ↔ q.items = a :: q'.items := by
  rcases q with ⟨_ | ⟨b, rest⟩, h⟩
  · simp [receive?]
  · simp only [receive?, Option.some.injEq, Prod.mk.injEq, List.cons.injEq]
    constructor
    · rintro ⟨rfl, rfl⟩
      exact ⟨rfl, rfl⟩
    · rintro ⟨rfl, rfl⟩
      exact ⟨rfl, rfl⟩

theorem receive?_eq_none_iff {q : BoundedQueue α capacity} :
    q.receive? = none ↔ q.items = [] := by
  rcases q with ⟨_ | ⟨b, rest⟩, h⟩ <;> simp [receive?]

end BoundedQueue
