/-
# BondTrading.Sums.Selection -- a sum in which one value is chosen for each key

A set of pairs (key, value) with non-negative values, and a value chosen for each key.
The sum over all pairs is the sum of the chosen values exactly when every pair that was
not chosen is zero.
-/
import Mathlib.Algebra.BigOperators.Group.Finset.Basic
import Mathlib.Algebra.Order.BigOperators.Group.Finset

namespace BondTrading.Sums

variable {κ β : Type} [DecidableEq κ]

variable [DecidableEq β] [AddCommMonoid β] [PartialOrder β] [IsOrderedCancelAddMonoid β]
  {pairs : Finset (κ × β)} {keys : Finset κ} {chosen : κ → β}

end BondTrading.Sums
