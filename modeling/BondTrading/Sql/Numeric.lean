/-
# BondTrading.Sql.Numeric -- numbers in a column

A `NUMERIC(precision, scale)` column takes a number to the nearest one of `scale` decimals, a
half away from zero, and refuses it where that has more than `precision` digits.  What the
column holds has the sign of what was written, and a number of `scale` decimals is held as
it is.
-/
import Mathlib.Data.Rat.Floor
import Mathlib.Algebra.Order.Field.Rat
import Mathlib.Tactic.Linarith
import Mathlib.Tactic.Positivity

namespace BondTrading.Sql

/-- `Numeric(precision, scale)`. -/
structure Numeric where
  precision : ℕ
  scale : ℕ
  deriving DecidableEq, Repr

namespace Numeric

variable (c : Numeric)

/-- The nearest number of units of the last decimal, a half away from zero. -/
def units (q : ℚ) : ℤ :=
  if q < 0 then -⌊-q * 10 ^ c.scale + 1 / 2⌋ else ⌊q * 10 ^ c.scale + 1 / 2⌋

/-- What the column holds of `q`. -/
def round (q : ℚ) : ℚ := c.units q / 10 ^ c.scale

/-- The column has the digits for `q`. -/
def Holds (q : ℚ) : Prop := (c.units q).natAbs < 10 ^ c.precision

instance (q : ℚ) : Decidable (c.Holds q) := inferInstanceAs (Decidable (_ < _))

variable {c} {q : ℚ}

theorem units_nonneg (hq : 0 ≤ q) : 0 ≤ c.units q := by
  unfold units
  rw [if_neg (not_lt.mpr hq)]
  exact Int.floor_nonneg.mpr (by positivity)

/-- **A number that is not negative is held as one.** -/
theorem round_nonneg (hq : 0 ≤ q) : 0 ≤ c.round q :=
  div_nonneg (Int.cast_nonneg (units_nonneg hq)) (by positivity)

/-- The units of a number of `scale` decimals. -/
theorem units_div (n : ℤ) : c.units (n / 10 ^ c.scale) = n := by
  have hscale : (0 : ℚ) < 10 ^ c.scale := by positivity
  have hfloor : ∀ m : ℤ, ⌊(m : ℚ) + 1 / 2⌋ = m := fun m =>
    Int.floor_eq_iff.mpr ⟨by linarith, by linarith⟩
  unfold units
  split
  · rw [neg_mul, div_mul_cancel₀ _ hscale.ne', ← Int.cast_neg, hfloor, neg_neg]
  · rw [div_mul_cancel₀ _ hscale.ne', hfloor]

/-- **A number of `scale` decimals is held as it is.** -/
theorem round_div (n : ℤ) : c.round (n / 10 ^ c.scale) = n / 10 ^ c.scale := by
  unfold round
  rw [units_div]

end Numeric

end BondTrading.Sql
