import Mathlib.Data.List.Basic
import Mathlib.Tactic.Common

/-!
# Delimited lists

A delimiter `d` divides a text into segments. Segments may be empty: delimiters may lead, trail and
follow each other. What a list of names separated by delimiters stands for are its non-empty
segments.

* `findFrom`, `substr` and `substrFrom` — searching a text and cutting it, with positions as in
  C++: a search that finds nothing says so, and a cut that starts past the end is an error.
* `segment_induction` — every text is a last segment, or a segment, a delimiter and a text.
* `segments` — the non-empty segments, in order, and the rules to compute them.
* `joined` — the texts that list given segments, with any number of delimiters where there may be
  some. `segments_joined` and `exists_joined` say that these are all the texts, and that the
  segments are found again.
-/

namespace Delimited

variable {α : Type*} {d : α} {s t : List α} {pos next : ℕ}

/-! ### Searching and cutting -/

/-- At most `len` characters from `pos` on, `none` if `pos` is out of range. -/
def substr (s : List α) (pos len : ℕ) : Option (List α) :=
  if pos ≤ s.length then some ((s.drop pos).take len) else none

/-- All characters from `pos` on, `none` if `pos` is out of range. -/
def substrFrom (s : List α) (pos : ℕ) : Option (List α) :=
  if pos ≤ s.length then some (s.drop pos) else none

/-- Cutting a segment out. -/
theorem substr_of_drop {rest : List α} (hs : s.drop pos = t ++ d :: rest) :
    substr s pos t.length = some t := by
  have hle : pos ≤ s.length := by
    by_contra hgt
    rw [List.drop_eq_nil_of_le (by omega)] at hs
    simp at hs
  rw [substr, if_pos hle, hs, List.take_left]

section Search

variable [DecidableEq α]

/-- The first position of `d` from `pos` on, `none` if there is none. -/
def findFrom (d : α) (s : List α) (pos : ℕ) : Option ℕ :=
  ((s.drop pos).idxOf? d).map (pos + ·)

theorem findFrom_eq_none_iff : findFrom d s pos = none ↔ d ∉ s.drop pos := by
  rw [findFrom, Option.map_eq_none_iff, List.idxOf?_eq_none_iff]

/-- The search stops at the end of the segment that starts at `pos`. -/
theorem findFrom_of_drop {rest : List α} (hs : s.drop pos = t ++ d :: rest) (ht : d ∉ t) :
    findFrom d s pos = some (pos + t.length) := by
  have hidx : (t ++ d :: rest).idxOf? d = some t.length := by
    refine List.idxOf?_eq_some_iff.2 ⟨by simp, by simp, fun j hj ↦ ?_⟩
    rw [List.getElem_append_left hj]
    exact fun heq ↦ ht (heq ▸ List.getElem_mem hj)
  rw [findFrom, hs, hidx]
  rfl

/-- What is found lies between where the search starts and the end. -/
theorem lt_length_of_findFrom (h : findFrom d s pos = some next) :
    pos ≤ next ∧ next < s.length := by
  obtain ⟨i, hi, rfl⟩ := Option.map_eq_some_iff.1 h
  obtain ⟨hlt, -⟩ := List.idxOf?_eq_some_iff.1 hi
  rw [List.length_drop] at hlt
  omega

end Search

/-! ### Segments -/

/-- A segment, unless it is empty. -/
def nonempty (t : List α) : List (List α) := if t = [] then [] else [t]

theorem mem_nonempty {u : List α} : u ∈ nonempty t ↔ u = t ∧ t ≠ [] := by
  rw [nonempty]
  split <;> simp_all

theorem flatten_nonempty (t : List α) : (nonempty t).flatten = t := by
  rw [nonempty]
  split <;> simp_all

section Segments

variable [DecidableEq α]

/-- **Induction over the segments** of a text. -/
theorem segment_induction {motive : List α → Prop} (d : α)
    (last : ∀ t, d ∉ t → motive t)
    (segment : ∀ t rest, d ∉ t → motive rest → motive (t ++ d :: rest)) (s : List α) :
    motive s := by
  induction hn : s.length using Nat.strongRecOn generalizing s with
  | ind n ih =>
    by_cases hd : d ∈ s
    · obtain ⟨t, rest, rfl, ht⟩ := List.eq_append_cons_of_mem hd
      refine segment t rest ht (ih rest.length ?_ rest rfl)
      rw [← hn, List.length_append, List.length_cons]
      omega
    · exact last s hd

/-- The non-empty segments, in order. -/
def segments (d : α) (s : List α) : List (List α) := (s.splitOn d).filter (· ≠ [])

theorem segments_of_notMem (h : d ∉ t) : segments d t = nonempty t := by
  rw [segments, List.splitOn_eq_singleton h, nonempty]
  split <;> simp_all

theorem segments_append_cons (h : d ∉ t) (rest : List α) :
    segments d (t ++ d :: rest) = nonempty t ++ segments d rest := by
  rw [segments, List.splitOn_append_cons_self_of_not_mem h, nonempty]
  split <;> simp_all [segments]

@[simp] theorem segments_cons_self (d : α) (rest : List α) :
    segments d (d :: rest) = segments d rest :=
  segments_append_cons List.not_mem_nil rest

theorem segments_replicate_append (d : α) (n : ℕ) (rest : List α) :
    segments d (List.replicate n d ++ rest) = segments d rest := by
  induction n with
  | zero => rfl
  | succ n ih => rw [List.replicate_succ, List.cons_append, segments_cons_self, ih]

/-- Segments are non-empty, and without a delimiter. -/
theorem of_mem_segments {u : List α} (h : u ∈ segments d s) : u ≠ [] ∧ d ∉ u := by
  induction s using segment_induction d with
  | last t ht =>
    rw [segments_of_notMem ht, mem_nonempty] at h
    exact ⟨h.1 ▸ h.2, h.1 ▸ ht⟩
  | segment t rest ht ih =>
    rw [segments_append_cons ht, List.mem_append, mem_nonempty] at h
    rcases h with ⟨rfl, hne⟩ | h
    · exact ⟨hne, ht⟩
    · exact ih h

/-- **Nothing but the delimiters is lost**, nothing added, and nothing moved. -/
theorem flatten_segments (d : α) (s : List α) :
    (segments d s).flatten = s.filter (· ≠ d) := by
  have hself : ∀ t : List α, d ∉ t → t.filter (· ≠ d) = t := by
    intro t ht
    refine List.filter_eq_self.2 fun a ha ↦ ?_
    have hne : a ≠ d := fun heq ↦ ht (heq ▸ ha)
    simpa using hne
  induction s using segment_induction d with
  | last t ht => rw [segments_of_notMem ht, flatten_nonempty, hself t ht]
  | segment t rest ht ih =>
    rw [segments_append_cons ht, List.flatten_append, flatten_nonempty, ih, List.filter_append,
      hself t ht, List.filter_cons_of_neg (by simp)]

end Segments

/-! ### Texts that list given segments -/

/-- `lead` delimiters, and then each segment with the delimiters that follow it. -/
def joined (d : α) (lead : ℕ) (ts : List (List α × ℕ)) : List α :=
  List.replicate lead d ++ ts.flatMap fun p ↦ p.1 ++ List.replicate p.2 d

/-- What can be listed: segments that are non-empty and without a delimiter, with at least one
delimiter between neighbours. -/
structure Listable (d : α) (ts : List (List α × ℕ)) : Prop where
  segment : ∀ p ∈ ts, p.1 ≠ [] ∧ d ∉ p.1
  between : ∀ p ∈ ts.dropLast, 0 < p.2

theorem Listable.tail {p : List α × ℕ} {ts : List (List α × ℕ)} (h : Listable d (p :: ts)) :
    Listable d ts where
  segment q hq := h.segment q (List.mem_cons_of_mem p hq)
  between q hq := by
    cases ts with
    | nil => cases hq
    | cons p' ts => exact h.between q (List.mem_cons_of_mem p hq)

section Joined

variable [DecidableEq α]

/-- **What was listed is found again**, whatever the delimiters. -/
theorem segments_joined {ts : List (List α × ℕ)} (h : Listable d ts) (lead : ℕ) :
    segments d (joined d lead ts) = ts.map Prod.fst := by
  rw [joined, segments_replicate_append]
  induction ts with
  | nil => rfl
  | cons p ts ih =>
    rcases p with ⟨t, n⟩
    obtain ⟨hne, hd⟩ := h.segment (t, n) List.mem_cons_self
    have hkeep : nonempty t = [t] := if_neg hne
    rw [List.flatMap_cons, List.map_cons, ← ih h.tail]
    cases n with
    | succ n =>
      have hcut : (t ++ List.replicate (n + 1) d) ++ ts.flatMap (fun p ↦ p.1 ++
          List.replicate p.2 d) = t ++ d :: (List.replicate n d ++
            ts.flatMap fun p ↦ p.1 ++ List.replicate p.2 d) := by
        simp [List.replicate_succ]
      rw [hcut, segments_append_cons hd, segments_replicate_append, hkeep]
      rfl
    | zero =>
      -- only the last segment need not be followed by a delimiter
      cases ts with
      | nil =>
        have hlast : segments d t = [t] := (segments_of_notMem hd).trans hkeep
        simpa [segments] using hlast
      | cons p' ts => exact absurd (h.between (t, 0) List.mem_cons_self) (Nat.lt_irrefl 0)

/-- **Every text lists its segments.** -/
theorem exists_joined (d : α) (s : List α) :
    ∃ lead ts, Listable d ts ∧ s = joined d lead ts := by
  induction s using segment_induction d with
  | last t ht =>
    rcases eq_or_ne t [] with rfl | hne
    · exact ⟨0, [], ⟨by simp, by simp⟩, rfl⟩
    · exact ⟨0, [(t, 0)], ⟨by simpa using ⟨hne, ht⟩, by simp⟩, by simp [joined]⟩
  | segment t rest ht ih =>
    obtain ⟨lead, ts, hts, rfl⟩ := ih
    rcases eq_or_ne t [] with rfl | hne
    · exact ⟨lead + 1, ts, hts, rfl⟩
    · refine ⟨0, (t, lead + 1) :: ts, ⟨?_, ?_⟩, by simp [joined, List.replicate_succ]⟩
      · rintro p hp
        rcases List.mem_cons.1 hp with rfl | hp
        · exact ⟨hne, ht⟩
        · exact hts.segment p hp
      · rintro p hp
        cases ts with
        | nil => cases hp
        | cons p' ts =>
          rcases List.mem_cons.1 hp with rfl | hp
          · exact Nat.succ_pos lead
          · exact hts.between p hp

end Joined

end Delimited
