/-
# BondTrading.Orders.Reordered -- the same order for several lists

A list of positions puts any list in a new order.  Lists of one length that are put in the
same order stay aligned: zipping them before or after makes no difference.
-/
import Mathlib.Data.List.Forall2
import Mathlib.Data.List.Nodup

namespace BondTrading.Orders

variable {α β : Type*}

/-- The elements at these positions. -/
def reordered (order : List ℕ) (l : List α) : List α := order.filterMap fun i => l[i]?

theorem reordered_map (f : α → β) (order : List ℕ) (l : List α) :
    reordered order (l.map f) = (reordered order l).map f := by
  unfold reordered
  rw [List.map_filterMap]
  refine List.filterMap_congr fun i _ => ?_
  rw [List.getElem?_map]

theorem reordered_zip (order : List ℕ) {l : List α} {l' : List β} (h : l.length = l'.length) :
    (reordered order l).zip (reordered order l') = reordered order (l.zip l') := by
  induction order with
  | nil => rfl
  | cons i order ih =>
      unfold reordered at ih ⊢
      by_cases hi : i < l.length
      · have hi' : i < l'.length := by omega
        have hzip : i < (l.zip l').length := by
          rw [List.length_zip]
          omega
        rw [List.filterMap_cons_some (List.getElem?_eq_getElem hi),
          List.filterMap_cons_some (List.getElem?_eq_getElem hi'),
          List.filterMap_cons_some (List.getElem?_eq_getElem hzip), List.zip_cons_cons, ih,
          List.getElem_zip]
      · have hi : l.length ≤ i := by omega
        have hi' : l'.length ≤ i := by omega
        have hzip : (l.zip l').length ≤ i := by
          rw [List.length_zip]
          omega
        rw [List.filterMap_cons_none (List.getElem?_eq_none hi),
          List.filterMap_cons_none (List.getElem?_eq_none hi'),
          List.filterMap_cons_none (List.getElem?_eq_none hzip), ih]

theorem reordered_range (l : List α) : reordered (List.range l.length) l = l := by
  unfold reordered
  induction l with
  | nil => rfl
  | cons a l ih =>
      have hfirst : (a :: l)[0]? = some a := rfl
      rw [List.length_cons, List.range_succ_eq_map, List.filterMap_cons_some hfirst,
        List.filterMap_map]
      exact congrArg (a :: ·) ih

/-- **A permutation of the positions permutes the list.** -/
theorem reordered_perm {order : List ℕ} {l : List α} (h : order.Perm (List.range l.length)) :
    (reordered order l).Perm l := by
  have hperm := h.filterMap fun i => l[i]?
  calc (reordered order l).Perm (reordered (List.range l.length) l) := hperm
    _ = l := reordered_range l

/-! ## Related lists -/

variable {R : α → β → Prop} {γ : Type*} {f : α → Option γ} {g : β → Option γ} {l : List α}
  {l' : List β}

theorem filterMap_of_forall₂ (h : List.Forall₂ R l l') (hfg : ∀ a b, R a b → f a = g b) :
    l.filterMap f = l'.filterMap g := by
  induction h with
  | nil => rfl
  | cons hab _ ih => rw [List.filterMap_cons, List.filterMap_cons, hfg _ _ hab, ih]

theorem find?_of_forall₂ {p : α → Bool} {q : β → Bool} (h : List.Forall₂ R l l')
    (hpq : ∀ a b, R a b → p a = q b) : Option.Rel R (l.find? p) (l'.find? q) := by
  induction h with
  | nil => exact .none
  | @cons a b l l' hab _ ih =>
      rw [List.find?_cons, List.find?_cons, hpq a b hab]
      cases q b with
      | true => exact .some hab
      | false => exact ih

theorem head?_of_forall₂ (h : List.Forall₂ R l l') : Option.Rel R l.head? l'.head? := by
  cases h with
  | nil => exact .none
  | cons hab _ => exact .some hab

theorem getD_of_rel {S : α → α → Prop} {o o' : Option α} {a a' : α} (h : Option.Rel S o o')
    (ha : S a a') : S (o.getD a) (o'.getD a') := by
  cases h with
  | none => exact ha
  | some hab => exact hab

end BondTrading.Orders
