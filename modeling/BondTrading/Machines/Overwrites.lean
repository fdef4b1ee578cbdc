/-
# BondTrading.Machines.Overwrites -- writes that do not look at what they replace

An overwrite gives some places a value and leaves the others alone.  After a list of
overwrites a place holds what the last one that touches it gave it.  So an overwrite that
comes again later might as well not have come before: a list that repeats itself does what
the list does in which everything stands where it came last.
-/
import Mathlib.Data.List.Dedup

namespace BondTrading.Machines

universe u v w

/-- What is given to a place, if anything. -/
abbrev Overwrite (κ : Type u) (ν : Type v) : Type (max u v) := κ → Option ν

namespace Overwrite

variable {κ : Type u} {ν : Type v} {α : Type w}

/-- The places after an overwrite. -/
def onTop (o s : Overwrite κ ν) : Overwrite κ ν := fun place => (o place).or (s place)

/-- The places after what each of the list does. -/
def all (effect : α → Overwrite κ ν) (as : List α) (s : Overwrite κ ν) : Overwrite κ ν :=
  as.foldl (fun s a => (effect a).onTop s) s

variable {effect : α → Overwrite κ ν} {as : List α} {a : α} {s : Overwrite κ ν}

@[simp] theorem all_cons : all effect (a :: as) s = all effect as ((effect a).onTop s) := rfl

/-- **A place holds what it was given last.** -/
theorem all_apply (place : κ) :
    all effect as s place = (as.filterMap (effect · place)).getLast?.or (s place) := by
  induction as generalizing s with
  | nil => rfl
  | cons a as ih =>
      rw [all_cons, ih, onTop]
      cases ha : effect a place with
      | none =>
          rw [List.filterMap_cons_none (by exact ha)]
          rfl
      | some value =>
          rw [List.filterMap_cons_some (by exact ha), List.getLast?_cons]
          cases (as.filterMap (effect · place)).getLast? with
          | none => rfl
          | some last => rfl

/-- What comes again later is covered. -/
theorem all_onTop_of_mem (ha : a ∈ as) : all effect as ((effect a).onTop s) = all effect as s := by
  funext place
  rw [all_apply, all_apply, onTop]
  cases hvalue : effect a place with
  | none => rfl
  | some value =>
      have hgiven : as.filterMap (effect · place) ≠ [] :=
        List.ne_nil_of_mem (List.mem_filterMap.mpr ⟨a, ha, hvalue⟩)
      rw [List.getLast?_eq_some_getLast hgiven]
      rfl

/-- **Once is enough**: of what comes more than once, only the last time counts. -/
theorem all_dedup [DecidableEq α] (as : List α) (s : Overwrite κ ν) :
    all effect as.dedup s = all effect as s := by
  induction as generalizing s with
  | nil => rfl
  | cons a as ih =>
      by_cases ha : a ∈ as
      · rw [List.dedup_cons_of_mem ha, ih, all_cons, all_onTop_of_mem ha]
      · rw [List.dedup_cons_of_notMem ha, all_cons, all_cons, ih]

end Overwrite

end BondTrading.Machines
