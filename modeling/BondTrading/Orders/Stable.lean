/-
# BondTrading.Orders.Stable -- sorting by a key, highest first

`list.sort(key=.., reverse=True)`: elements with equal keys keep their order.  What a sorted
list satisfies pair by pair can therefore be read off the unsorted list: of two elements
the one with the higher key comes first, and of two with equal keys the first one does.
-/
import Mathlib.Data.List.Sort
import Mathlib.Order.Basic

namespace BondTrading.Orders

variable {α κ : Type*} [LinearOrder κ] (key : α → κ)

/-- The order of two elements in a sorted list. -/
def keepsOrder (a b : α) : Bool := key b ≤ key a

/-- A list sorted by a key, highest first. -/
def sortedDesc (l : List α) : List α := l.mergeSort (keepsOrder key)

theorem sortedDesc_perm (l : List α) : (sortedDesc key l).Perm l := List.mergeSort_perm l _

variable {key} {a : α} {l : List α}

@[simp] theorem sortedDesc_nil : sortedDesc key [] = [] := List.mergeSort_nil

@[simp] theorem mem_sortedDesc : a ∈ sortedDesc key l ↔ a ∈ l := (sortedDesc_perm key l).mem_iff

theorem keepsOrder_trans (key : α → κ) (a b c : α) (hab : keepsOrder key a b) (hbc : keepsOrder key b c) :
    keepsOrder key a c := by
  simp only [keepsOrder, decide_eq_true_eq] at *
  exact hbc.trans hab

theorem keepsOrder_total (key : α → κ) (a b : α) : keepsOrder key a b || keepsOrder key b a := by
  simp only [keepsOrder, Bool.or_eq_true, decide_eq_true_eq]
  exact le_total _ _

/-- The keys of a sorted list go down. -/
theorem pairwise_sortedDesc (key : α → κ) (l : List α) :
    (sortedDesc key l).Pairwise fun a b => key b ≤ key a := by
  have hsorted : (l.mergeSort (keepsOrder key)).Pairwise fun a b => keepsOrder key a b = true :=
    List.pairwise_mergeSort (keepsOrder_trans key) (keepsOrder_total key) l
  exact hsorted.imp fun h => by simpa [keepsOrder] using h

/-- Where an element comes to stand: behind those with a higher key, in front of the others. -/
theorem sortedDesc_cons (key : α → κ) (a : α) (l : List α) :
    ∃ higher rest, sortedDesc key (a :: l) = higher ++ a :: rest ∧
      sortedDesc key l = higher ++ rest ∧ (∀ b ∈ higher, key a < key b) ∧
      ∀ b ∈ rest, key b ≤ key a := by
  obtain ⟨higher, rest, hcons, hsorted, hhigher⟩ :=
    List.mergeSort_cons (keepsOrder_trans key) (keepsOrder_total key) a l
  refine ⟨higher, rest, hcons, hsorted, ?_, ?_⟩
  · intro b hb
    simpa [keepsOrder] using hhigher b hb
  · intro b hb
    have hpairs := pairwise_sortedDesc key (a :: l)
    rw [sortedDesc, hcons, List.pairwise_append] at hpairs
    exact (List.pairwise_cons.mp hpairs.2.1).1 b hb

/-- **What holds between the elements of a sorted list** is what holds between those of the
unsorted one, the higher key first and equal keys in their order. -/
theorem pairwise_sortedDesc_iff (key : α → κ) (R : α → α → Prop) (l : List α) :
    (sortedDesc key l).Pairwise R ↔
      l.Pairwise fun a b => if key b ≤ key a then R a b else R b a := by
  induction l with
  | nil => simp
  | cons a l ih =>
      obtain ⟨higher, rest, hcons, hsorted, hhigher, hrest⟩ := sortedDesc_cons key a l
      have hmem : ∀ b, b ∈ l ↔ b ∈ higher ∨ b ∈ rest := by
        intro b
        rw [← (sortedDesc_perm key l).mem_iff, hsorted, List.mem_append]
      rw [List.pairwise_cons, ← ih, hcons, hsorted]
      simp only [List.pairwise_append, List.pairwise_cons, List.mem_cons]
      constructor
      · rintro ⟨hfirst, ⟨hafter, hlast⟩, hacross⟩
        refine ⟨?_, hfirst, hlast, fun b hb c hc => hacross b hb c (Or.inr hc)⟩
        intro b hb
        rcases (hmem b).mp hb with hb | hb
        · rw [if_neg (not_le.mpr (hhigher b hb))]
          exact hacross b hb a (Or.inl rfl)
        · rw [if_pos (hrest b hb)]
          exact hafter b hb
      · rintro ⟨hplace, hfirst, hlast, hacross⟩
        refine ⟨hfirst, ⟨?_, hlast⟩, ?_⟩
        · intro b hb
          have hplaced := hplace b ((hmem b).mpr (Or.inr hb))
          rwa [if_pos (hrest b hb)] at hplaced
        · rintro b hb c (rfl | hc)
          · have hplaced := hplace b ((hmem b).mpr (Or.inl hb))
            rwa [if_neg (not_le.mpr (hhigher b hb))] at hplaced
          · exact hacross b hb c hc

end BondTrading.Orders
