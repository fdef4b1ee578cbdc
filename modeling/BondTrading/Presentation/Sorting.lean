/-
# BondTrading.Presentation.Sorting -- the order of the portfolio page

The page sorts by a yield or by the difference of two, highest first, and means the rows
without one to come last: `row["delta"] or Decimal("-999999")`.  But a zero is false and is
moved with them, and a value below the stand-in falls behind them.
-/
import BondTrading.Lots.LatestAmounts
import BondTrading.Presentation.Portfolio

namespace BondTrading

open Py (Decimal)

/-! ## Columns -/

/-- The columns that are sorted by a `Decimal`. -/
inductive YieldColumn where
  | delta
  | currentYield
  deriving DecidableEq, Repr

namespace YieldColumn

/-- `sort` in the query. -/
def sort : YieldColumn → String
  | delta => "delta"
  | currentYield => "current_yield"

def value : YieldColumn → PortfolioRow → Option Decimal
  | delta, row => row.delta
  | currentYield, row => row.currentYield

/-- What stands in for a missing value. -/
def standIn : Decimal := .finite (-999999)

/-- `a` may stand in front of `b`: it has a value if `b` has one, and no smaller one. -/
def mayPrecede (a b : Option Decimal) : Prop :=
  ∀ v, b = some v → ∃ u, a = some u ∧ v.rank ≤ u.rank

/-- Two values, the first in front of the second in the unsorted list, that the page puts in
order: neither is a zero next to a value between the stand-in and zero, and none is a zero or
at most the stand-in next to a missing one, but where equal keys leave them in order. -/
def keptApart : Option Decimal → Option Decimal → Prop
  | none, none => True
  | none, some v => v ≠ .finite 0 ∧ standIn.rank < v.rank
  | some u, none => standIn.rank ≤ u.rank
  | some u, some v =>
      (u = .finite 0 → v.rank ≤ standIn.rank ∨ Decimal.rank (.finite 0) ≤ v.rank) ∧
        (v = .finite 0 → u.rank < standIn.rank ∨ Decimal.rank (.finite 0) ≤ u.rank)

instance : DecidableRel keptApart
  | none, none => inferInstanceAs (Decidable True)
  | none, some v => inferInstanceAs (Decidable (v ≠ .finite 0 ∧ standIn.rank < v.rank))
  | some u, none => inferInstanceAs (Decidable (standIn.rank ≤ u.rank))
  | some u, some v => inferInstanceAs (Decidable
      ((u = .finite 0 → v.rank ≤ standIn.rank ∨ Decimal.rank (.finite 0) ≤ v.rank) ∧
        (v = .finite 0 → u.rank < standIn.rank ∨ Decimal.rank (.finite 0) ≤ u.rank)))

/-! ## Pairs -/

section Pairs

variable {u v : Decimal} {a : Option Decimal}

@[simp] theorem mayPrecede_none : mayPrecede a none ↔ True := by
  simp [mayPrecede]

@[simp] theorem mayPrecede_some : mayPrecede (some u) (some v) ↔ v.rank ≤ u.rank := by
  simp [mayPrecede]

@[simp] theorem not_none_mayPrecede : mayPrecede none (some v) ↔ False := by
  simp [mayPrecede]

@[simp] theorem orDefault_none : orDefault none (-999999) = standIn := rfl

@[simp] theorem orDefault_zero : orDefault (some (.finite 0)) (-999999) = standIn := rfl

theorem orDefault_some (h : v ≠ .finite 0) : orDefault (some v) (-999999) = v := by
  rw [orDefault, Option.filter_some, if_pos (by simpa using h), Option.getD_some]

theorem standIn_lt_zero : standIn.rank < Decimal.rank (.finite 0) :=
  WithBot.coe_lt_coe.mpr (WithTop.coe_lt_coe.mpr (by norm_num))

/-- **A pair is put in order** by its keys exactly when it is kept apart. -/
theorem ordered_iff_keptApart (a b : Option Decimal) :
    (if (orDefault b (-999999)).rank ≤ (orDefault a (-999999)).rank then mayPrecede a b
      else mayPrecede b a) ↔ keptApart a b := by
  have hzero := standIn_lt_zero
  cases a with
  | none =>
      cases b with
      | none => simp [keptApart]
      | some v =>
          by_cases hv : v = .finite 0
          · subst hv
            simp [keptApart]
          · rw [orDefault_none, orDefault_some hv]
            simp [keptApart, hv]
  | some u =>
      cases b with
      | none =>
          by_cases hu : u = .finite 0
          · subst hu
            simp [keptApart, hzero.le]
          · rw [orDefault_none, orDefault_some hu]
            simp [keptApart]
      | some v =>
          by_cases hu : u = .finite 0 <;> by_cases hv : v = .finite 0
          · subst hu hv
            simp [keptApart]
          · subst hu
            rw [orDefault_zero, orDefault_some hv]
            simp only [keptApart, mayPrecede_some, hv, true_implies, false_implies, and_true]
            split
            · rename_i hle
              exact iff_of_true (hle.trans hzero.le) (Or.inl hle)
            · rename_i hnot
              exact (or_iff_right hnot).symm
          · subst hv
            rw [orDefault_zero, orDefault_some hu]
            simp only [keptApart, mayPrecede_some, hu, true_implies, false_implies, true_and]
            split
            · rename_i hle
              exact (or_iff_right (not_lt.mpr hle)).symm
            · rename_i hnot
              have hlt := not_le.mp hnot
              exact iff_of_true (hlt.le.trans hzero.le) (Or.inl hlt)
          · rw [orDefault_some hu, orDefault_some hv]
            simp only [keptApart, mayPrecede_some, hu, hv, false_implies, and_true, iff_true]
            split
            · rename_i hle
              exact hle
            · rename_i hnot
              exact (not_le.mp hnot).le

end Pairs

/-! ## The page -/

/-- No value of the column is a NaN. -/
def Numbers (column : YieldColumn) (rows : List PortfolioRow) : Prop :=
  ∀ row ∈ rows, ∀ v, column.value row = some v → v.isNaN = false

theorem orDefault_isNaN {a : Option Decimal} {default : ℚ}
    (h : ∀ v, a = some v → v.isNaN = false) : (orDefault a default).isNaN = false := by
  unfold orDefault
  cases hkept : a.filter fun d => d ≠ .finite 0 with
  | none => rfl
  | some v => exact h v (Option.filter_eq_some_iff.mp hkept).1

/-- A sort by a column of numbers. -/
theorem sortRows_eq {column : YieldColumn} {rows : List PortfolioRow}
    (hnumbers : column.Numbers rows) :
    sortRows column.sort rows =
      .ok (Orders.sortedDesc (fun row => (orDefault (column.value row) (-999999)).rank) rows) := by
  have hsort : sortRows column.sort rows =
      sortByDecimal (fun row => orDefault (column.value row) (-999999)) rows := by
    cases column <;> rfl
  rw [hsort, sortByDecimal, if_neg]
  rintro ⟨-, hnan⟩
  obtain ⟨row, hrow, hkey⟩ := List.any_eq_true.mp hnan
  rw [orDefault_isNaN (hnumbers row hrow)] at hkey
  cases hkey

/-- What holds of the sorted rows, as the sort returns them. -/
theorem exists_sorted_iff {column : YieldColumn} {rows : List PortfolioRow}
    (hnumbers : column.Numbers rows) (P : List PortfolioRow → Prop) :
    (∃ sorted, sortRows column.sort rows = .ok sorted ∧ sorted.Perm rows ∧ P sorted) ↔
      P (Orders.sortedDesc (fun row => (orDefault (column.value row) (-999999)).rank) rows) := by
  rw [sortRows_eq hnumbers]
  constructor
  · rintro ⟨sorted, hsorted, -, hP⟩
    obtain rfl := Except.ok.inj hsorted
    exact hP
  · intro hP
    exact ⟨_, rfl, Orders.sortedDesc_perm _ rows, hP⟩

/-- The pairs of a sorted page. -/
theorem sorted_pairs_iff (column : YieldColumn) (rows : List PortfolioRow) :
    ((Orders.sortedDesc (fun row => (orDefault (column.value row) (-999999)).rank) rows).Pairwise
        fun a b => mayPrecede (column.value a) (column.value b)) ↔
      rows.Pairwise fun a b => keptApart (column.value a) (column.value b) := by
  rw [Orders.pairwise_sortedDesc_iff]
  simp only [ordered_iff_keptApart]

/-- **When the page is in order**: the rows with a value stand in front of those without one,
from the highest value down, exactly when every two rows are kept apart. -/
theorem sorted_page_iff (column : YieldColumn) (rows : List PortfolioRow)
    (hnumbers : column.Numbers rows) :
    (∃ sorted, sortRows column.sort rows = .ok sorted ∧ sorted.Perm rows ∧
        sorted.Pairwise fun a b => mayPrecede (column.value a) (column.value b)) ↔
      rows.Pairwise fun a b => keptApart (column.value a) (column.value b) := by
  rw [← sorted_pairs_iff]
  exact exists_sorted_iff hnumbers _

/-- A lot of the page with this difference of its yields. -/
def deltaRow (delta : Option Decimal) : PortfolioRow where
  lot := parLot
  instrument := newInstrument 1 "RU000A107SX3" "RU000A107SX3" "RU000A107SX3"
  purchaseTotal := .finite 1000
  market := none
  plannedYield := delta.map fun _ => .finite 10
  currentYield := delta.map fun _ => .finite 10
  delta := delta
  liquidity := ⟨.none, some ZERO⟩
  freshness := .missing

theorem sorted_page_three_rows :
    ∃ sorted, sortRows "delta" [deltaRow none, deltaRow (some (.finite (-2))),
        deltaRow (some (.finite 3))] = .ok sorted ∧
      sorted.Perm [deltaRow none, deltaRow (some (.finite (-2))), deltaRow (some (.finite 3))] ∧
      sorted.Pairwise fun a b => mayPrecede (delta.value a) (delta.value b) := by
  refine (sorted_page_iff delta _ ?_).mpr ?_
  · intro row hrow v hv
    simp only [List.mem_cons, List.not_mem_nil, or_false] at hrow
    rcases hrow with rfl | rfl | rfl
    · cases hv
    · obtain rfl := Option.some.inj hv
      rfl
    · obtain rfl := Option.some.inj hv
      rfl
  · decide +kernel

/-- **A zero is sorted below a loss**: the page lists a lot at -1 before one at 0. -/
theorem zero_sorted_below_loss :
    ¬ ∃ sorted, sortRows "delta" [deltaRow (some (.finite 0)), deltaRow (some (.finite (-1)))] =
        .ok sorted ∧
      sorted.Perm [deltaRow (some (.finite 0)), deltaRow (some (.finite (-1)))] ∧
      sorted.Pairwise fun a b => mayPrecede (delta.value a) (delta.value b) := by
  rintro ⟨sorted, hsorted, -, hpairs⟩
  rw [show "delta" = delta.sort from rfl, sortRows_eq] at hsorted
  · obtain rfl := Except.ok.inj hsorted
    rw [sorted_pairs_iff, List.pairwise_pair] at hpairs
    revert hpairs
    decide +kernel
  · intro row hrow v hv
    simp only [List.mem_cons, List.not_mem_nil, or_false] at hrow
    rcases hrow with rfl | rfl <;> obtain rfl := Option.some.inj hv <;> rfl

end YieldColumn

end BondTrading
