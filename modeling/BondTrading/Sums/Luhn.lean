/-
# BondTrading.Sums.Luhn -- a checksum with alternating weights

Every second digit, counted from the right, is doubled and its digits are added.  Modulo ten
both ways of counting are permutations of the digits, so one changed digit changes the sum;
and they move every digit but 0 and 9 by different amounts, so a transposition does.  The
lists below are read from the right: `total` is the sum of the reversed number.
-/
import Mathlib.Tactic.IntervalCases
import Mathlib.Data.Nat.Notation

namespace BondTrading.Sums.Luhn

/-- What a digit adds to the sum. -/
def counted (doubled : Bool) (digit : ℕ) : ℕ :=
  if doubled then digit * 2 / 10 + digit * 2 % 10 else digit

/-- The sum of the digits, the first of them doubled or not. -/
def total (doubled : Bool) : List ℕ → ℕ
  | [] => 0
  | d :: ds => counted doubled d + total (!doubled) ds

@[simp] theorem total_cons (b : Bool) (d : ℕ) (ds : List ℕ) :
    total b (d :: ds) = counted b d + total (!b) ds := rfl

/-- What stands in front shifts the sum and decides which digits are doubled. -/
theorem total_append (b : Bool) (xs : List ℕ) :
    ∃ b', ∀ ys, total b (xs ++ ys) = total b xs + total b' ys := by
  induction xs generalizing b with
  | nil => exact ⟨b, fun ys => (Nat.zero_add _).symm⟩
  | cons x xs ih =>
      obtain ⟨b', h⟩ := ih (!b)
      refine ⟨b', fun ys => ?_⟩
      rw [List.cons_append, total_cons, total_cons, h ys]
      omega

/-! ## One digit -/

theorem counted_inj {b : Bool} {d e : ℕ} (hd : d < 10) (he : e < 10)
    (h : counted b d % 10 = counted b e % 10) : d = e := by
  cases b with
  | false =>
      simp only [counted, Bool.false_eq_true, if_false] at h
      omega
  | true =>
      simp only [counted, if_true] at h
      interval_cases d <;> interval_cases e <;> simp_all

/-- **A changed digit changes the sum.** -/
theorem total_replace {b : Bool} {xs ys : List ℕ} {d e : ℕ} (hd : d < 10) (he : e < 10)
    (h : total b (xs ++ d :: ys) % 10 = total b (xs ++ e :: ys) % 10) : d = e := by
  obtain ⟨b', hsum⟩ := total_append b xs
  rw [hsum, hsum, total_cons, total_cons] at h
  apply counted_inj (b := b') hd he
  omega

/-! ## Two neighbours -/

theorem counted_swap_iff {b : Bool} {d e : ℕ} (hd : d < 10) (he : e < 10) :
    (counted b d + counted (!b) e) % 10 = (counted b e + counted (!b) d) % 10 ↔
      d = e ∨ (d = 0 ∧ e = 9) ∨ (d = 9 ∧ e = 0) := by
  cases b <;> simp only [counted, Bool.not_false, Bool.not_true, Bool.false_eq_true, if_true,
    if_false] <;> interval_cases d <;> interval_cases e <;> simp

/-- **A transposition changes the sum**, unless it is of 0 and 9. -/
theorem total_swap_iff {b : Bool} {xs ys : List ℕ} {d e : ℕ} (hd : d < 10) (he : e < 10) :
    total b (xs ++ d :: e :: ys) % 10 = total b (xs ++ e :: d :: ys) % 10 ↔
      d = e ∨ (d = 0 ∧ e = 9) ∨ (d = 9 ∧ e = 0) := by
  obtain ⟨b', hsum⟩ := total_append b xs
  rw [← counted_swap_iff (b := b') hd he, hsum, hsum]
  simp only [total_cons]
  omega

end BondTrading.Sums.Luhn
