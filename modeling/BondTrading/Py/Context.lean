/-
# BondTrading.Py.Context -- the digits that decimal arithmetic keeps

An operation of `decimal` has an exact result, which the context of the thread then takes: it
keeps so many digits, half to even, and a number that is too large for it is `Overflow`.  The
arithmetic is written over any `Context`.

Two are named.  `Context.exact` keeps every digit; it is the one in force where no other is
given, so that a formula of the source is the formula of its numbers.  `Context.python` is that
of a thread which sets none: 28 digits, exponents up to 999999.  On numbers of at most 28 digits
they agree (`python_keeps`).
-/
import Mathlib.Data.Int.Log
import Mathlib.Data.Rat.Floor
import Mathlib.Algebra.Order.Field.Rat
import Mathlib.Tactic.Linarith

namespace BondTrading.Py

/-- The trapped signals of the default context, with the exception text of each. -/
inductive Signal where
  | invalidOperation
  | conversionSyntax
  | divisionUndefined
  | divisionByZero
  | overflow
  deriving DecidableEq, Repr

/-- `str(exc)` of a trapped signal. -/
def Signal.str : Signal → String
  | .invalidOperation => "[<class 'decimal.InvalidOperation'>]"
  | .conversionSyntax => "[<class 'decimal.ConversionSyntax'>]"
  | .divisionUndefined => "[<class 'decimal.DivisionUndefined'>]"
  | .divisionByZero => "[<class 'decimal.DivisionByZero'>]"
  | .overflow => "[<class 'decimal.Overflow'>]"

namespace Decimal

/-! ## Rounding -/

/-- `ROUND_HALF_EVEN` to an integer. -/
def roundHalfEven (q : ℚ) : ℤ :=
  let f := ⌊q⌋
  let r := q - f
  if r < 1 / 2 then f
  else if 1 / 2 < r then f + 1
  else if f % 2 = 0 then f else f + 1

@[simp] theorem roundHalfEven_intCast (n : ℤ) : roundHalfEven (n : ℚ) = n := by
  simp [roundHalfEven]

/-- Digits of the default context. -/
def contextPrecision : ℕ := 28

end Decimal

/-! ## Contexts -/

/-- What becomes of the exact result of an operation. -/
class Context where
  fix : ℚ → Except Signal ℚ

namespace Context

/-- Every digit is kept. -/
instance (priority := low) exact : Context := ⟨.ok⟩

/-- `Emax` of the default context. -/
def maxExponent : ℤ := 999999

/-- `Emin`. -/
def minExponent : ℤ := -999999

/-- The exponent of the last digit kept: that of the 28th digit, but not below `Etiny`. -/
def lastDigit (q : ℚ) : ℤ :=
  max (Int.log 10 |q|) minExponent - (Decimal.contextPrecision - 1)

/-- The number of that exponent nearest to `q`. -/
def nearest (q : ℚ) : ℚ := Decimal.roundHalfEven (q / 10 ^ lastDigit q) * 10 ^ lastDigit q

/-- `decimal.DefaultContext`. -/
@[reducible] def python : Context where
  fix q := if Int.log 10 |nearest q| ≤ maxExponent then .ok (nearest q) else .error .overflow

section Digits

variable {q : ℚ} {c e : ℤ}

/-- A number of few digits ends no later than the last one kept. -/
theorem lastDigit_le (hq : q = c * 10 ^ e) (hzero : q ≠ 0)
    (hc : |c| < 10 ^ Decimal.contextPrecision)
    (he : minExponent - (Decimal.contextPrecision - 1) ≤ e) : lastDigit q ≤ e := by
  have hbelow : |q| < 10 ^ (Decimal.contextPrecision + e) := by
    rw [hq, abs_mul, abs_of_pos (zpow_pos (by norm_num : (0 : ℚ) < 10) e),
      zpow_add₀ (by norm_num), zpow_natCast]
    exact mul_lt_mul_of_pos_right (by exact_mod_cast hc) (zpow_pos (by norm_num) e)
  have hlog : Int.log 10 |q| < Decimal.contextPrecision + e :=
    (Int.lt_zpow_iff_log_lt (by norm_num) (abs_pos.mpr hzero)).mp (by exact_mod_cast hbelow)
  unfold lastDigit
  omega

theorem nearest_of_digits (hq : q = c * 10 ^ e) (hc : |c| < 10 ^ Decimal.contextPrecision)
    (he : minExponent - (Decimal.contextPrecision - 1) ≤ e) : nearest q = q := by
  by_cases hzero : q = 0
  · rw [hzero, nearest, zero_div]
    have hround : Decimal.roundHalfEven 0 = 0 := by
      exact_mod_cast Decimal.roundHalfEven_intCast 0
    rw [hround, Int.cast_zero, zero_mul]
  · obtain ⟨k, hk⟩ := Int.eq_ofNat_of_zero_le (sub_nonneg.mpr (lastDigit_le hq hzero hc he))
    have hne : (10 : ℚ) ^ lastDigit q ≠ 0 := zpow_ne_zero _ (by norm_num)
    -- counted in units of the last digit the number is an integer
    have hunits : q / 10 ^ lastDigit q = ((c * 10 ^ k : ℤ) : ℚ) := by
      nth_rewrite 1 [hq]
      rw [show e = lastDigit q + k by omega, zpow_add₀ (by norm_num), zpow_natCast]
      push_cast
      field_simp
    rw [nearest, hunits, Decimal.roundHalfEven_intCast, ← hunits, div_mul_cancel₀ _ hne]

/-- **Numbers of at most 28 digits are kept.** -/
theorem python_keeps (hq : q = c * 10 ^ e) (hc : |c| < 10 ^ Decimal.contextPrecision)
    (he : minExponent - (Decimal.contextPrecision - 1) ≤ e)
    (hq' : |q| < 10 ^ (maxExponent + 1)) : python.fix q = .ok q := by
  have hlog : Int.log 10 |q| ≤ maxExponent := by
    by_cases hzero : q = 0
    · rw [hzero, abs_zero, Int.log_zero_right]
      decide
    · exact Int.lt_add_one_iff.mp ((Int.lt_zpow_iff_log_lt (by norm_num)
        (abs_pos.mpr hzero)).mp (by exact_mod_cast hq'))
  show (if _ then _ else _) = _
  rw [nearest_of_digits hq hc he, if_pos hlog]

end Digits

example : python.fix (2 / 3) = .ok (6666666666666666666666666667 / 10 ^ 28) := by decide +kernel

end Context

end BondTrading.Py
