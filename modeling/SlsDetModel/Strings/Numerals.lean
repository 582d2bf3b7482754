import Mathlib.Data.Nat.Digits.Defs
import Mathlib.Tactic.IntervalCases

/-!
# Numerals

Reading the numerals that `Nat.toDigits` writes, in a base up to sixteen.

* `readDigits` — the number that some digits continue, from left to right; nothing if there is a
  character among them that is no digit of the base.
* `readDigits_toDigits` — the digits of a number are read as that number.
-/

namespace Numerals

variable {b n d : ℕ} {s t : List Char}

/-- The value of a digit, in lower case. -/
def digitValue (c : Char) : Option ℕ :=
  if '0'.toNat ≤ c.toNat ∧ c.toNat ≤ '9'.toNat then some (c.toNat - '0'.toNat)
  else if 'a'.toNat ≤ c.toNat ∧ c.toNat ≤ 'f'.toNat then some (c.toNat - 'a'.toNat + 10)
  else none

/-- Read digits, after those of `n`. -/
def readDigits (b : ℕ) : ℕ → List Char → Option ℕ
  | n, [] => some n
  | n, c :: cs =>
    (digitValue c).bind fun d ↦ if d < b then readDigits b (n * b + d) cs else none

/-- Digits have their values. -/
theorem digitValue_digitChar (hd : d < 16) : digitValue d.digitChar = some d := by
  interval_cases d <;> decide

theorem readDigits_append (b n : ℕ) (s t : List Char) :
    readDigits b n (s ++ t) = (readDigits b n s).bind fun m ↦ readDigits b m t := by
  induction s generalizing n with
  | nil => rfl
  | cons c cs ih =>
    rw [List.cons_append, readDigits, readDigits]
    rcases digitValue c with - | d
    · rfl
    · dsimp only [Option.bind_some]
      split
      case isTrue => exact ih _
      case isFalse => rfl

/-- One digit. -/
theorem readDigits_digitChar (hb : b ≤ 16) (hd : d < b) :
    readDigits b n [d.digitChar] = some (n * b + d) := by
  rw [readDigits, digitValue_digitChar (by omega), Option.bind_some, if_pos hd]
  rfl

/-- **The digits of a number are read as that number.** -/
theorem readDigits_toDigits (hb : 1 < b) (hb' : b ≤ 16) (n : ℕ) :
    readDigits b 0 (Nat.toDigits b n) = some n := by
  induction n using Nat.strong_induction_on with
  | _ n ih =>
    by_cases hn : n < b
    · rw [Nat.toDigits_of_lt_base hn, readDigits_digitChar hb' hn, Nat.zero_mul, Nat.zero_add]
    · have hpos : 0 < n := by omega
      rw [Nat.toDigits_of_base_le hb (by omega), readDigits_append,
        ih (n / b) (Nat.div_lt_self hpos hb), Option.bind_some,
        readDigits_digitChar hb' (Nat.mod_lt n (by omega)), Nat.div_add_mod' n b]

end Numerals
