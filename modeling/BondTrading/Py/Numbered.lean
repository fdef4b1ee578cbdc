/-
# BondTrading.Py.Numbered -- runs of consecutive numbers, and what is collected over them

`itertools.takewhile` over a `range` is a shorter range.  A collection that keeps at most
one value for each number, marked with that number, has the numbers for its keys: it is in
their order, it has the value of a number under its key, and two collections of which every
number is in exactly one divide the numbers between them.
-/
import Mathlib.Data.List.Range
import Mathlib.Data.List.Perm.Basic

namespace BondTrading.Py.Numbered

variable {α β : Type}

/-- **The run at the head of a range**: it is a range, everything in it passes, and the number
after it does not, unless the range ends there. -/
theorem takeWhile_range (p : ℕ → Bool) (n k : ℕ) :
    ∃ m, m ≤ k ∧ (List.range' n k).takeWhile p = List.range' n m ∧
      (∀ i, n ≤ i → i < n + m → p i = true) ∧ (m < k → p (n + m) = false) := by
  induction k generalizing n with
  | zero =>
      refine ⟨0, Nat.le_refl 0, rfl, ?_, ?_⟩
      · intro i hlo hhi
        omega
      · intro h
        omega
  | succ k ih =>
      rw [List.range'_succ]
      cases hn : p n with
      | false =>
          refine ⟨0, by omega, ?_, ?_, fun _ => hn⟩
          · rw [List.takeWhile_cons_of_neg (by simp [hn])]
            rfl
          · intro i hlo hhi
            omega
      | true =>
          obtain ⟨m, hm, heq, hall, hstop⟩ := ih (n + 1)
          refine ⟨m + 1, by omega, ?_, ?_, ?_⟩
          · rw [List.takeWhile_cons_of_pos hn, heq, List.range'_succ]
          · intro i hlo hhi
            rcases Nat.eq_or_lt_of_le hlo with rfl | hlt
            · exact hn
            · exact hall i (by omega) (by omega)
          · intro h
            have hnext := hstop (by omega)
            rwa [show n + 1 + m = n + (m + 1) by omega] at hnext

section Keys

variable {f : ℕ → Option α} {key : α → ℕ}

theorem map_key_filterMap (hkey : ∀ n a, f n = some a → key a = n) (l : List ℕ) :
    (l.filterMap f).map key = l.filter fun n => (f n).isSome := by
  induction l with
  | nil => rfl
  | cons n l ih =>
      cases hn : f n with
      | none => simp [hn, ih]
      | some a => simp [hn, ih, hkey n a hn]

/-- The value of a number is what the collection has under that key. -/
theorem filter_key_filterMap (hkey : ∀ n a, f n = some a → key a = n) {l : List ℕ}
    (hnodup : l.Nodup) {n : ℕ} (hn : n ∈ l) :
    (l.filterMap f).filter (fun a => key a = n) = (f n).toList := by
  have hother : ∀ l : List ℕ, n ∉ l → (l.filterMap f).filter (fun a => key a = n) = [] := by
    intro l hl
    rw [List.filter_eq_nil_iff]
    intro a ha heq
    obtain ⟨m, hm, hfm⟩ := List.mem_filterMap.mp ha
    rw [decide_eq_true_eq, hkey m a hfm] at heq
    exact hl (heq ▸ hm)
  induction l with
  | nil => exact absurd hn List.not_mem_nil
  | cons m l ih =>
      obtain ⟨hfresh, hnodup⟩ := List.nodup_cons.mp hnodup
      rcases List.mem_cons.mp hn with rfl | hin
      · cases hfn : f n with
        | none => simp [hfn, hother l hfresh]
        | some a => simp [hfn, hkey n a hfn, hother l hfresh]
      · have hne : m ≠ n := fun h => hfresh (h ▸ hin)
        cases hfm : f m with
        | none => simpa [hfm] using ih hnodup hin
        | some a => simpa [hfm, hkey m a hfm, hne] using ih hnodup hin

/-- **Two collections divide the numbers** of which each is in one and not in the other. -/
theorem perm_of_division {g : ℕ → Option β} {key' : β → ℕ}
    (hkey : ∀ n a, f n = some a → key a = n) (hkey' : ∀ n b, g n = some b → key' b = n)
    {l : List ℕ} (hdivide : ∀ n ∈ l, (g n).isSome = !(f n).isSome) :
    ((l.filterMap f).map key ++ (l.filterMap g).map key').Perm l := by
  have hrest : l.filter (fun n => (g n).isSome) = l.filter fun n => !(f n).isSome :=
    List.filter_congr hdivide
  rw [map_key_filterMap hkey, map_key_filterMap hkey', hrest]
  exact List.filter_append_perm _ l

/-- The keys are increasing where the numbers are. -/
theorem pairwise_keys (hkey : ∀ n a, f n = some a → key a = n) {l : List ℕ}
    (hl : l.Pairwise (· < ·)) : ((l.filterMap f).map key).Pairwise (· < ·) := by
  rw [map_key_filterMap hkey]
  exact hl.filter _

end Keys

end BondTrading.Py.Numbered
