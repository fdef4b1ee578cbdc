/-
# BondTrading.Imports.Previews -- previews between upload and commit

`ImportPreviewCache` of `application/services/imports.py`: parsed spreadsheets wait in the
memory of the process, each for the user who uploaded it, until they are committed or
expire.
-/
import BondTrading.Imports.Service
import BondTrading.Imports.Uploads
import BondTrading.Py.Dict

namespace BondTrading

open Py (Dict)

abbrev PreviewId := ℕ

structure CachedPreview where
  preview : ImportPreview
  expiresAt : ℚ
  ownerId : Option UserId
  deriving DecidableEq, Repr

structure ImportPreviewCache where
  ttlSeconds : ℕ
  values : Dict PreviewId CachedPreview

namespace ImportPreviewCache

/-- `put` at the monotonic time `clock`. -/
def put (cache : ImportPreviewCache) (id : PreviewId) (preview : ImportPreview)
    (owner : Option UserId) (clock : ℚ) : ImportPreviewCache :=
  { cache with values := cache.values.set id ⟨preview, clock + cache.ttlSeconds, owner⟩ }

/-- `discard`: `pop(id, None)`. -/
def discard (cache : ImportPreviewCache) (id : PreviewId) : ImportPreviewCache :=
  { cache with values := cache.values.pop id }

/-- `get`; an expired preview is dropped on the way. -/
def get (cache : ImportPreviewCache) (id : PreviewId) (owner : Option UserId) (clock : ℚ) :
    ImportPreviewCache × Option ImportPreview :=
  match cache.values.get? id with
  | none => (cache, none)
  | some value =>
      if owner ≠ none ∧ value.ownerId ≠ owner then (cache, none)
      else if value.expiresAt ≤ clock then (cache.discard id, none)
      else (cache, some value.preview)

/-- What `get` returns was put there by the same owner. -/
theorem get_some {cache cache' : ImportPreviewCache} {id : PreviewId} {user : UserId} {clock : ℚ}
    {preview : ImportPreview} (h : cache.get id (some user) clock = (cache', some preview)) :
    cache' = cache ∧ ∃ value, cache.values.get? id = some value ∧ value.ownerId = some user ∧
      value.preview = preview := by
  unfold get at h
  split at h
  · cases h
  · rename_i value hvalue
    split at h
    · cases h
    · rename_i howner
      split at h
      · cases h
      · obtain ⟨hcache, hpreview⟩ := Prod.mk.inj h
        refine ⟨hcache.symm, value, hvalue, ?_, Option.some.inj hpreview⟩
        by_contra hother
        exact howner ⟨Option.some_ne_none user, hother⟩

/-- A preview of another user is answered like one that is not there. -/
theorem get_hidden {cache : ImportPreviewCache} {id : PreviewId} {user : UserId} (clock : ℚ)
    (h : ∀ value, cache.values.get? id = some value → value.ownerId ≠ some user) :
    cache.get id (some user) clock = (cache, none) := by
  unfold get
  cases hvalue : cache.values.get? id with
  | none => rfl
  | some value => exact if_pos ⟨Option.some_ne_none user, h value hvalue⟩

/-! ## The previews of a user -/

/-- The previews that wait for a user. -/
def ownedBy (cache : ImportPreviewCache) (user : UserId) (id : PreviewId) : Option CachedPreview :=
  (cache.values.get? id).filter fun value => value.ownerId = some user

variable {cache cache' : ImportPreviewCache} {user other : UserId}

/-- `get` looks at the previews of its user only. -/
theorem get_eq (cache : ImportPreviewCache) (id : PreviewId) (user : UserId) (clock : ℚ) :
    cache.get id (some user) clock =
      match cache.ownedBy user id with
      | none => (cache, none)
      | some value =>
          if value.expiresAt ≤ clock then (cache.discard id, none)
          else (cache, some value.preview) := by
  unfold get ownedBy
  cases cache.values.get? id with
  | none => rfl
  | some value =>
      by_cases howner : value.ownerId = some user
      · rw [Option.filter_some, if_pos (decide_eq_true howner)]
        exact if_neg fun h => h.2 howner
      · rw [Option.filter_some, if_neg (by simpa using howner)]
        exact if_pos ⟨Option.some_ne_none user, howner⟩

/-- What a user puts, he owns. -/
theorem ownedBy_put (cache : ImportPreviewCache) (id : PreviewId) (preview : ImportPreview)
    (user : UserId) (clock : ℚ) (k : PreviewId) :
    (cache.put id preview (some user) clock).ownedBy user k =
      if k = id then some ⟨preview, clock + cache.ttlSeconds, some user⟩
      else cache.ownedBy user k := by
  unfold ownedBy put
  rw [Py.Dict.get?_set]
  split
  · exact Option.filter_some_pos (decide_eq_true rfl)
  · rfl

/-- Under a new identifier nobody else loses a preview. -/
theorem ownedBy_put_other {id : PreviewId} (hid : cache.values.get? id = none)
    (hother : other ≠ user) (preview : ImportPreview) (clock : ℚ) :
    (cache.put id preview (some user) clock).ownedBy other = cache.ownedBy other := by
  funext k
  unfold ownedBy put
  rw [Py.Dict.get?_set]
  split
  · rename_i hk
    rw [hk, hid]
    exact Option.filter_some_neg (by simpa using hother.symm)
  · rfl

theorem ownedBy_discard (cache : ImportPreviewCache) (id : PreviewId) (user : UserId)
    (k : PreviewId) :
    (cache.discard id).ownedBy user k = if k = id then none else cache.ownedBy user k := by
  unfold ownedBy discard
  rw [Py.Dict.get?_pop]
  split <;> rfl

/-- A preview of one user is no loss to another. -/
theorem ownedBy_discard_other {id : PreviewId} {value : CachedPreview}
    (hvalue : cache.ownedBy user id = some value) (hother : other ≠ user) :
    (cache.discard id).ownedBy other = cache.ownedBy other := by
  funext k
  rw [ownedBy_discard]
  split
  · rename_i hk
    obtain ⟨hget, howner⟩ := Option.filter_eq_some_iff.mp hvalue
    unfold ownedBy
    rw [decide_eq_true_eq] at howner
    rw [hk, hget, Option.filter_some, howner]
    exact (if_neg (by simpa using hother.symm)).symm
  · rfl

end ImportPreviewCache

end BondTrading
