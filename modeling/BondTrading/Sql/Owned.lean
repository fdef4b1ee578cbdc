/-
# BondTrading.Sql.Owned -- the rows of one owner

A table whose rows have an owner falls apart into the rows of each.  The lemmas say what an
insert, an update and a delete made for one owner leave alone: the rows of every other.
Rows that have no owner of their own belong to the owner of the row they refer to
(`ownedVia`).
-/
import BondTrading.Sql.Rows

namespace BondTrading.Sql

universe u v w

variable {ρ : Type u} {κ : Type v} {ο : Type w} [DecidableEq ο]

/-- `SELECT .. WHERE owner = o`. -/
def owned (owner : ρ → ο) (o : ο) (t : List ρ) : List ρ := t.filter fun r => owner r = o

section Owned

variable {owner : ρ → ο} {o : ο} {t t' : List ρ}

@[simp] theorem mem_owned {r : ρ} : r ∈ owned owner o t ↔ r ∈ t ∧ owner r = o := by
  simp [owned]

theorem owned_append : owned owner o (t ++ t') = owned owner o t ++ owned owner o t' :=
  List.filter_append t t'

/-- Rows of other owners are not there. -/
theorem owned_eq_nil (h : ∀ r ∈ t, owner r ≠ o) : owned owner o t = [] := by
  simpa [owned] using h

/-- **Inserting** rows of other owners. -/
theorem owned_append_others (h : ∀ r ∈ t', owner r ≠ o) :
    owned owner o (t ++ t') = owned owner o t := by
  rw [owned_append, owned_eq_nil h, List.append_nil]

/-- Inserting rows of the owner. -/
theorem owned_append_own (h : ∀ r ∈ t', owner r = o) :
    owned owner o (t ++ t') = owned owner o t ++ t' := by
  rw [owned_append]
  congr 1
  exact List.filter_eq_self.mpr fun r hr => decide_eq_true (h r hr)

/-- **Updating** rows of other owners, who stay their owners. -/
theorem owned_updateWhere {p : ρ → Bool} {f : ρ → ρ}
    (h : ∀ r ∈ t, p r = true → owner r ≠ o ∧ owner (f r) ≠ o) :
    owned owner o (updateWhere p f t) = owned owner o t :=
  filter_updateWhere fun r hr hp => by simpa using h r hr hp

/-- **Deleting** rows of other owners. -/
theorem owned_filter {p : ρ → Bool} (h : ∀ r ∈ t, owner r = o → p r = true) :
    owned owner o (t.filter p) = owned owner o t := by
  rw [owned, owned, List.filter_filter]
  refine List.filter_congr fun r hr => ?_
  by_cases howner : owner r = o
  · simp [howner, h r hr howner]
  · simp [howner]

/-- The key of a row leads to nobody else's. -/
theorem UniqueOn.not_mem_owned {key : ρ → κ} (h : UniqueOn key t) {r : ρ} (hr : r ∈ t)
    (hother : owner r ≠ o) : key r ∉ (owned owner o t).map key := by
  intro hmem
  obtain ⟨s, hs, hkey⟩ := List.mem_map.mp hmem
  obtain ⟨hst, howner⟩ := mem_owned.mp hs
  exact hother (h.eq hr hst hkey.symm ▸ howner)

/-- An update by the key of somebody else's row. -/
theorem UniqueOn.owned_update [DecidableEq κ] {key : ρ → κ} (h : UniqueOn key t) {r : ρ}
    (hr : r ∈ t) (hother : owner r ≠ o) {f : ρ → ρ} (hf : owner (f r) ≠ o) :
    owned owner o (updateWhere (fun s => key s = key r) f t) = owned owner o t := by
  refine owned_updateWhere fun s hs hkey => ?_
  obtain rfl := h.eq hs hr (of_decide_eq_true hkey)
  exact ⟨hother, hf⟩

end Owned

section OwnedVia

variable {δ : Type u} [DecidableEq κ] {fk : δ → κ} {ids : List κ} {d d' : List δ}

/-- The rows that refer to one of `ids`. -/
def ownedVia (fk : δ → κ) (ids : List κ) (d : List δ) : List δ := d.filter fun r => fk r ∈ ids

theorem ownedVia_append_others (h : ∀ r ∈ d', fk r ∉ ids) :
    ownedVia fk ids (d ++ d') = ownedVia fk ids d := by
  have hnone : d'.filter (fun r => fk r ∈ ids) = [] := by simpa using h
  rw [ownedVia, List.filter_append, hnone, List.append_nil]
  rfl

theorem ownedVia_filter {p : δ → Bool} (h : ∀ r ∈ d, fk r ∈ ids → p r = true) :
    ownedVia fk ids (d.filter p) = ownedVia fk ids d := by
  rw [ownedVia, ownedVia, List.filter_filter]
  refine List.filter_congr fun r hr => ?_
  by_cases hfk : fk r ∈ ids
  · simp [hfk, h r hr hfk]
  · simp [hfk]

end OwnedVia

end BondTrading.Sql
