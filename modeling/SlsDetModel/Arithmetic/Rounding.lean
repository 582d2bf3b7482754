import Mathlib.Algebra.Order.Field.Power
import Mathlib.Data.Int.Log
import Mathlib.Data.Rat.Floor
import Mathlib.Tactic.Positivity

/-!
# Rounding

An operation on floating point numbers computes the exact result and rounds it. A program that is
written over a `Rounding` therefore has several meanings at once: with `Rounding.exact` it computes
in the rationals, with `Rounding.binary64` in the doubles of IEEE 754.

`binary64` rounds to the nearest double, and to the even one of two that are equally near. Exponents
are bounded below, by that of the subnormal numbers, but not above: overflow is not modelled.
-/

/-- How the exact result of an operation is rounded. -/
structure Rounding where
  round : ℚ → ℚ
  /-- Rounding does not change the sign of what is not negative. -/
  nonneg : ∀ {x : ℚ}, 0 ≤ x → 0 ≤ round x

namespace Rounding

instance : CoeFun Rounding fun _ ↦ ℚ → ℚ := ⟨round⟩

/-- Results are not rounded at all. -/
def exact : Rounding := ⟨id, id⟩

@[simp] theorem exact_apply (x : ℚ) : exact x = x := rfl

/-- The nearest integer, and the even one where two are equally near. -/
def nearestEven (x : ℚ) : ℤ :=
  if Int.fract x < 1 / 2 then ⌊x⌋
  else if 1 / 2 < Int.fract x then ⌊x⌋ + 1
  else if ⌊x⌋ % 2 = 0 then ⌊x⌋
  else ⌊x⌋ + 1

theorem nearestEven_nonneg {x : ℚ} (hx : 0 ≤ x) : 0 ≤ nearestEven x := by
  have hfloor : 0 ≤ ⌊x⌋ := Int.floor_nonneg.2 hx
  unfold nearestEven
  split_ifs <;> omega

/-- The distance of neighbouring doubles about `x`: there are 53 binary digits, and none beyond the
1074th. -/
def unit64 (x : ℚ) : ℚ := 2 ^ max (Int.log 2 |x| - 52) (-1074)

theorem unit64_pos (x : ℚ) : 0 < unit64 x := by
  unfold unit64
  positivity

/-- Round to the nearest double. -/
def binary64 : Rounding where
  round x := nearestEven (x / unit64 x) * unit64 x
  nonneg {x} hx := by
    have hquotient : 0 ≤ x / unit64 x := div_nonneg hx (unit64_pos x).le
    have hinteger : (0 : ℚ) ≤ nearestEven (x / unit64 x) := by
      exact_mod_cast nearestEven_nonneg hquotient
    exact mul_nonneg hinteger (unit64_pos x).le

/-- The double nearest to a tenth, from either side of zero. -/
example : binary64 (1 / 10) = 3602879701896397 / 36028797018963968 ∧
    binary64 (-1 / 10) = -3602879701896397 / 36028797018963968 := by
  decide +kernel

end Rounding
