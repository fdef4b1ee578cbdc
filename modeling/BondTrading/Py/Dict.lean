/-
# BondTrading.Py.Dict -- `dict`: entries in insertion order

Assigning to a key that is present replaces its value in place; a new key goes to the
end.  That no key stands twice is part of the value.
-/
import Mathlib.Data.List.Nodup

namespace BondTrading.Py

structure Dict (κ ν : Type) where
  entries : List (κ × ν)
  nodup : (entries.map Prod.fst).Nodup
  deriving DecidableEq, Repr

namespace Dict

variable {κ ν : Type}

/-- `{}`. -/
def empty : Dict κ ν := ⟨[], List.nodup_nil⟩

def keys (d : Dict κ ν) : List κ := d.entries.map Prod.fst

@[simp] theorem keys_empty : (empty : Dict κ ν).keys = [] := rfl

variable [DecidableEq κ]

/-- `d.get(k)`. -/
def get? (d : Dict κ ν) (k : κ) : Option ν :=
  (d.entries.find? fun e => e.1 = k).map Prod.snd

/-- The entries with the value of a present key replaced. -/
def replaced (k : κ) (v : ν) (entries : List (κ × ν)) : List (κ × ν) :=
  entries.map fun e => if e.1 = k then (k, v) else e

theorem map_fst_replaced (k : κ) (v : ν) (entries : List (κ × ν)) :
    (replaced k v entries).map Prod.fst = entries.map Prod.fst := by
  rw [replaced, List.map_map]
  refine List.map_congr_left fun e _ => ?_
  show (if e.1 = k then (k, v) else e).1 = e.1
  split
  · rename_i hk
    exact hk.symm
  · rfl

/-- `d[k] = v`. -/
def set (d : Dict κ ν) (k : κ) (v : ν) : Dict κ ν :=
  if h : k ∈ d.keys then
    ⟨replaced k v d.entries, by rw [map_fst_replaced]; exact d.nodup⟩
  else
    ⟨d.entries ++ [(k, v)], by
      rw [List.map_append]
      exact List.nodup_append.mpr ⟨d.nodup, List.nodup_singleton k, fun a ha b hb hab => by
        obtain rfl : b = k := List.mem_singleton.mp hb
        exact h (hab ▸ ha)⟩⟩

/-- `d.update(other)`, with the other mapping as its entries. -/
def update (d : Dict κ ν) (other : List (κ × ν)) : Dict κ ν :=
  other.foldl (fun d e => d.set e.1 e.2) d

/-- `{k: v, ..}`. -/
def ofList (entries : List (κ × ν)) : Dict κ ν := empty.update entries

/-! ## Values -/

theorem find?_replaced_self {k : κ} {v : ν} {entries : List (κ × ν)}
    (h : k ∈ entries.map Prod.fst) :
    (replaced k v entries).find? (fun e => e.1 = k) = some (k, v) := by
  induction entries with
  | nil => exact absurd h List.not_mem_nil
  | cons e entries ih =>
      show ((if e.1 = k then (k, v) else e) :: replaced k v entries).find? _ = _
      by_cases he : e.1 = k
      · rw [if_pos he]
        exact List.find?_cons_of_pos (decide_eq_true rfl)
      · have hrest : k ∈ entries.map Prod.fst := by
          rcases List.mem_cons.mp h with hk | hk
          · exact absurd hk.symm he
          · exact hk
        rw [if_neg he, List.find?_cons_of_neg (by simpa using he)]
        exact ih hrest

theorem find?_replaced_of_ne {k k' : κ} {v : ν} (hk : k' ≠ k) (entries : List (κ × ν)) :
    (replaced k v entries).find? (fun e => e.1 = k') = entries.find? fun e => e.1 = k' := by
  induction entries with
  | nil => rfl
  | cons e entries ih =>
      show ((if e.1 = k then (k, v) else e) :: replaced k v entries).find? _ = _
      rw [List.find?_cons, List.find?_cons, ih]
      by_cases he : e.1 = k
      · have hold : decide (e.1 = k') = false := decide_eq_false fun h => hk (h.symm.trans he)
        have hnew : decide (k = k') = false := decide_eq_false hk.symm
        rw [if_pos he, hold]
        show (match decide (k = k') with | true => _ | false => _) = _
        rw [hnew]
      · rw [if_neg he]

/-- **What a key holds after an assignment.** -/
theorem get?_set (d : Dict κ ν) (k k' : κ) (v : ν) :
    (d.set k v).get? k' = if k' = k then some v else d.get? k' := by
  unfold get? set
  by_cases hmem : k ∈ d.keys
  · rw [dif_pos hmem]
    show ((replaced k v d.entries).find? _).map Prod.snd = _
    split
    · rename_i hk
      rw [hk, find?_replaced_self hmem]
      rfl
    · rename_i hk
      rw [find?_replaced_of_ne hk]
  · rw [dif_neg hmem]
    show ((d.entries ++ [(k, v)]).find? _).map Prod.snd = _
    rw [List.find?_append, List.find?_singleton]
    by_cases hk : k' = k
    · -- the key is new
      have hnone : d.entries.find? (fun e => e.1 = k') = none := by
        rw [List.find?_eq_none]
        intro e he hek
        rw [decide_eq_true_eq] at hek
        exact hmem (List.mem_map.mpr ⟨e, he, hek.trans hk⟩)
      rw [hnone, if_pos (decide_eq_true hk.symm), if_pos hk]
      rfl
    · have hother : ¬ decide (k = k') = true := by simpa using Ne.symm hk
      rw [if_neg hother, if_neg hk, Option.or_none]

/-- One value for several keys. -/
theorem get?_update_map (d : Dict κ ν) (keys : List κ) (v : ν) (k : κ) :
    (d.update (keys.map fun key => (key, v))).get? k = if k ∈ keys then some v else d.get? k := by
  induction keys generalizing d with
  | nil => exact (if_neg List.not_mem_nil).symm
  | cons key keys ih =>
      show ((d.set key v).update (keys.map fun key => (key, v))).get? k = _
      rw [ih, get?_set]
      by_cases hk : k ∈ keys
      · rw [if_pos hk, if_pos (List.mem_cons_of_mem _ hk)]
      · by_cases hkey : k = key
        · rw [if_neg hk, if_pos hkey, if_pos (hkey ▸ List.mem_cons_self)]
        · have hnone : k ∉ key :: keys := List.not_mem_cons_of_ne_of_not_mem hkey hk
          rw [if_neg hk, if_neg hkey, if_neg hnone]

theorem get?_eq_none {d : Dict κ ν} {k : κ} (h : k ∉ d.keys) : d.get? k = none := by
  unfold get?
  rw [Option.map_eq_none_iff, List.find?_eq_none]
  intro e he hk
  exact h (List.mem_map.mpr ⟨e, he, of_decide_eq_true hk⟩)

theorem not_mem_keys_of_get? {d : Dict κ ν} {k : κ} (h : d.get? k = none) : k ∉ d.keys := by
  unfold get? at h
  rw [Option.map_eq_none_iff, List.find?_eq_none] at h
  intro hk
  obtain ⟨e, he, hkey⟩ := List.mem_map.mp hk
  exact h e he (decide_eq_true hkey)

theorem update_append (d : Dict κ ν) (first second : List (κ × ν)) :
    d.update (first ++ second) = (d.update first).update second :=
  List.foldl_append

/-- Keys that an update does not name keep what they hold. -/
theorem get?_update_of_not_mem (d : Dict κ ν) {other : List (κ × ν)} {k : κ}
    (h : k ∉ other.map Prod.fst) : (d.update other).get? k = d.get? k := by
  induction other generalizing d with
  | nil => rfl
  | cons e other ih =>
      obtain ⟨hkey, hrest⟩ := not_or.mp (List.mem_cons.not.mp h)
      show ((d.set e.1 e.2).update other).get? k = _
      rw [ih _ hrest, get?_set, if_neg hkey]

/-- After the same update, a key that held the same holds the same. -/
theorem get?_update_congr {d d' : Dict κ ν} (other : List (κ × ν)) {k : κ}
    (h : d'.get? k = d.get? k) : (d'.update other).get? k = (d.update other).get? k := by
  induction other generalizing d d' with
  | nil => exact h
  | cons e other ih =>
      refine ih ?_
      rw [get?_set, get?_set, h]

/-- What `{key: f(key) for key in keys if ..}` adds to a key. -/
theorem get?_update_filterMap (d : Dict κ ν) (keys : List κ) (f : κ → Option ν) {k : κ}
    (hk : k ∈ keys) :
    (d.update (keys.filterMap fun key => (f key).map fun v => (key, v))).get? k =
      (f k).or (d.get? k) := by
  have hother : ∀ (keys : List κ) (d : Dict κ ν), k ∉ keys →
      (d.update (keys.filterMap fun key => (f key).map fun v => (key, v))).get? k = d.get? k := by
    intro keys d hk
    refine get?_update_of_not_mem d fun hmem => hk ?_
    obtain ⟨e, he, rfl⟩ := List.mem_map.mp hmem
    obtain ⟨key, hkey, hsome⟩ := List.mem_filterMap.mp he
    obtain ⟨v, -, rfl⟩ := Option.map_eq_some_iff.mp hsome
    exact hkey
  induction keys generalizing d with
  | nil => exact absurd hk List.not_mem_nil
  | cons key keys ih =>
      cases hf : f key with
      | none =>
          rw [List.filterMap_cons_none (by rw [hf]; rfl)]
          rcases List.mem_cons.mp hk with rfl | hk
          · rw [hf, Option.none_or]
            by_cases hagain : k ∈ keys
            · rw [ih d hagain, hf, Option.none_or]
            · exact hother keys d hagain
          · exact ih d hk
      | some v =>
          rw [List.filterMap_cons_some (by rw [hf]; rfl)]
          show ((d.set key v).update _).get? k = _
          by_cases hagain : k ∈ keys
          · rw [ih _ hagain, get?_set]
            split
            · rename_i hsame
              rw [hsame, hf, Option.some_or, Option.some_or]
            · rfl
          · have hsame : k = key := (List.mem_cons.mp hk).resolve_right hagain
            rw [hother keys _ hagain, get?_set, if_pos hsame, hsame, hf, Option.some_or]

/-- **A key stands once**: its entries are what it holds. -/
theorem filter_entries (d : Dict κ ν) (k : κ) :
    d.entries.filter (fun e => e.1 = k) = (d.get? k).toList.map fun v => (k, v) := by
  obtain ⟨entries, hnodup⟩ := d
  show entries.filter _ = ((entries.find? _).map Prod.snd).toList.map _
  induction entries with
  | nil => rfl
  | cons e entries ih =>
      obtain ⟨hfresh, hrest⟩ := List.nodup_cons.mp hnodup
      by_cases he : e.1 = k
      · -- no later entry has the key
        have hnone : entries.filter (fun e => e.1 = k) = [] := by
          rw [List.filter_eq_nil_iff]
          intro e' he' hk
          rw [decide_eq_true_eq] at hk
          exact hfresh (List.mem_map.mpr ⟨e', he', hk.trans he.symm⟩)
        rw [List.filter_cons_of_pos (by simpa using he), hnone,
          List.find?_cons_of_pos (by simpa using he)]
        show [e] = [(k, e.2)]
        rw [← he]
      · rw [List.filter_cons_of_neg (by simpa using he), List.find?_cons_of_neg (by simpa using he)]
        exact ih hrest

/-- The entries of a mapping are what its keys hold. -/
theorem mem_entries_iff {d : Dict κ ν} {k : κ} {v : ν} :
    (k, v) ∈ d.entries ↔ d.get? k = some v := by
  have hfilter := filter_entries d k
  constructor
  · intro hmem
    have hin : (k, v) ∈ d.entries.filter fun e => e.1 = k :=
      List.mem_filter.mpr ⟨hmem, by simp⟩
    rw [hfilter] at hin
    cases hget : d.get? k with
    | none => simp [hget] at hin
    | some w => simpa [hget, eq_comm] using hin
  · intro hget
    rw [hget] at hfilter
    have hin : (k, v) ∈ d.entries.filter fun e => e.1 = k := by simp [hfilter]
    exact (List.mem_filter.mp hin).1

/-- Entries with new keys go to the end. -/
theorem entries_update {d : Dict κ ν} {other : List (κ × ν)}
    (h : (d.keys ++ other.map Prod.fst).Nodup) :
    (d.update other).entries = d.entries ++ other := by
  induction other generalizing d with
  | nil => exact (List.append_nil _).symm
  | cons e other ih =>
      have hfresh : e.1 ∉ d.keys := by
        intro hmem
        exact (List.nodup_append.mp h).2.2 _ hmem _ List.mem_cons_self rfl
      have hset : (d.set e.1 e.2).entries = d.entries ++ [e] := by
        unfold set
        rw [dif_neg hfresh]
      show ((d.set e.1 e.2).update other).entries = _
      rw [ih, hset, List.append_assoc]
      · rfl
      · unfold keys
        rw [hset, List.map_append, List.append_assoc]
        exact h

theorem entries_ofList {entries : List (κ × ν)} (h : (entries.map Prod.fst).Nodup) :
    (ofList entries).entries = entries := entries_update h

/-! ## Mappings -/

/-- The two are equal as mappings: only the order of their entries may differ. -/
def Same (d d' : Dict κ ν) : Prop := ∀ k, d.get? k = d'.get? k

theorem Same.of_perm {d d' : Dict κ ν} (h : d.entries.Perm d'.entries) : d.Same d' := by
  intro k
  apply Option.ext
  intro v
  rw [← mem_entries_iff, ← mem_entries_iff, h.mem_iff]

/-- `not d`. -/
theorem Same.isEmpty {d d' : Dict κ ν} (h : d.Same d') :
    d.entries.isEmpty = d'.entries.isEmpty := by
  have hempty : ∀ {d d' : Dict κ ν}, d.Same d' → d.entries = [] → d'.entries = [] := by
    intro d d' hsame hnil
    rw [List.eq_nil_iff_forall_not_mem]
    rintro ⟨k, v⟩ hmem
    rw [mem_entries_iff, ← hsame k, ← mem_entries_iff, hnil] at hmem
    exact List.not_mem_nil hmem
  rw [Bool.eq_iff_iff, List.isEmpty_iff, List.isEmpty_iff]
  exact ⟨hempty h, hempty fun k => (h k).symm⟩

/-! ## Removal -/

/-- `d.pop(k, None)`. -/
def pop (d : Dict κ ν) (k : κ) : Dict κ ν :=
  ⟨d.entries.filter fun e => e.1 ≠ k, (List.filter_sublist.map Prod.fst).nodup d.nodup⟩

/-- **What a key holds after a removal.** -/
theorem get?_pop (d : Dict κ ν) (k k' : κ) :
    (d.pop k).get? k' = if k' = k then none else d.get? k' := by
  show ((d.entries.filter fun e => e.1 ≠ k).find? fun e => e.1 = k').map Prod.snd = _
  rw [List.find?_filter]
  by_cases hk : k' = k
  · -- no entry has the key and is kept
    rw [if_pos hk, Option.map_eq_none_iff, List.find?_eq_none]
    intro e _
    simp only [ne_eq, decide_not, Bool.not_eq_eq_eq_not, Bool.not_true, decide_eq_false_iff_not,
      decide_eq_true_eq]
    rintro ⟨hkept, hek⟩
    exact hkept (hek.trans hk)
  · rw [if_neg hk]
    show _ = (d.entries.find? fun e => e.1 = k').map Prod.snd
    congr 2
    funext e
    rw [Bool.eq_iff_iff]
    simp only [ne_eq, decide_not, Bool.not_eq_eq_eq_not, Bool.not_true, decide_eq_false_iff_not,
      decide_eq_true_eq]
    exact ⟨And.right, fun hek => ⟨fun h => hk (hek.symm.trans h), hek⟩⟩

/-! ## Keys -/

@[simp] theorem mem_keys_set {d : Dict κ ν} {k k' : κ} {v : ν} :
    k' ∈ (d.set k v).keys ↔ k' = k ∨ k' ∈ d.keys := by
  unfold set
  split
  · rename_i h
    show k' ∈ (replaced k v d.entries).map Prod.fst ↔ _
    rw [map_fst_replaced]
    exact ⟨Or.inr, fun hk' => hk'.elim (fun e => e ▸ h) id⟩
  · show k' ∈ (d.entries ++ [(k, v)]).map Prod.fst ↔ _
    rw [List.map_append, List.mem_append, or_comm]
    exact or_congr_left List.mem_singleton

@[simp] theorem mem_keys_update {d : Dict κ ν} {other : List (κ × ν)} {k : κ} :
    k ∈ (d.update other).keys ↔ k ∈ d.keys ∨ k ∈ other.map Prod.fst := by
  induction other generalizing d with
  | nil => exact (or_iff_left List.not_mem_nil).symm
  | cons e other ih =>
      show k ∈ ((d.set e.1 e.2).update other).keys ↔ _
      rw [ih, mem_keys_set, List.map_cons, List.mem_cons, or_assoc, or_left_comm]

@[simp] theorem mem_keys_ofList {entries : List (κ × ν)} {k : κ} :
    k ∈ (ofList entries).keys ↔ k ∈ entries.map Prod.fst := by
  rw [ofList, mem_keys_update, keys_empty]
  exact or_iff_right List.not_mem_nil

end Dict

/-- `dict.fromkeys(keys)` as a list: every key once, in the order of its first
occurrence. -/
def distinct {κ : Type} [DecidableEq κ] (keys : List κ) : List κ :=
  (Dict.ofList (keys.map fun k => (k, ()))).keys

section Distinct

variable {κ : Type} [DecidableEq κ]

theorem nodup_distinct (keys : List κ) : (distinct keys).Nodup :=
  (Dict.ofList (keys.map fun k => (k, ()))).nodup

@[simp] theorem mem_distinct {keys : List κ} {k : κ} : k ∈ distinct keys ↔ k ∈ keys := by
  rw [distinct, Dict.mem_keys_ofList, List.map_map]
  show k ∈ keys.map (fun k => k) ↔ _
  rw [List.map_id']

end Distinct

end BondTrading.Py
