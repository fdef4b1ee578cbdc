/-
# BondTrading.Sql.Rows -- tables as lists of rows

A table is the list of its rows in the order the database returns them.  `updateWhere`
is `UPDATE .. WHERE ..`, `UniqueOn` is a unique constraint, and `commit` is a
transaction that either satisfies the declared constraints or fails as a whole, so a
committed state is a subtype: a state that violates a constraint cannot be built.
-/
import Mathlib.Data.List.Basic
import Mathlib.Data.List.Find
import Mathlib.Data.List.Nodup
import Mathlib.Data.List.Sort

namespace BondTrading.Sql

universe u v

variable {ρ : Type u} {κ : Type v}

/-! ## Updates -/

/-- `UPDATE table SET f WHERE p`. -/
def updateWhere (p : ρ → Bool) (f : ρ → ρ) (t : List ρ) : List ρ :=
  t.map fun r => if p r then f r else r

theorem mem_updateWhere {p : ρ → Bool} {f : ρ → ρ} {t : List ρ} {r : ρ} :
    r ∈ updateWhere p f t ↔ ∃ r₀ ∈ t, r = if p r₀ then f r₀ else r₀ := by
  simp only [updateWhere, List.mem_map, eq_comm]

/-- A column that the update of these rows does not touch. -/
theorem map_updateWhere_of_mem {p : ρ → Bool} {f : ρ → ρ} {key : ρ → κ} {t : List ρ}
    (h : ∀ r ∈ t, p r = true → key (f r) = key r) : (updateWhere p f t).map key = t.map key := by
  rw [updateWhere, List.map_map]
  refine List.map_congr_left fun r hr => ?_
  show key (if p r then f r else r) = key r
  split
  · exact h r hr ‹_›
  · rfl

/-- **A column no update touches** reads the same everywhere in the table. -/
theorem map_updateWhere (p : ρ → Bool) (f : ρ → ρ) (key : ρ → κ)
    (hkey : ∀ r, key (f r) = key r) (t : List ρ) : (updateWhere p f t).map key = t.map key :=
  map_updateWhere_of_mem fun r _ _ => hkey r

/-- The same for a column that may be null. -/
theorem filterMap_updateWhere {p : ρ → Bool} {f : ρ → ρ} {g : ρ → Option κ} {t : List ρ}
    (h : ∀ r ∈ t, p r = true → g (f r) = g r) : (updateWhere p f t).filterMap g = t.filterMap g := by
  rw [updateWhere, List.filterMap_map]
  refine List.filterMap_congr fun r hr => ?_
  show g (if p r then f r else r) = g r
  split
  · exact h r hr ‹_›
  · rfl

/-- An update of rows that stay on their side of a filter. -/
theorem filter_updateWhere_comm {p q : ρ → Bool} {f : ρ → ρ} {t : List ρ}
    (h : ∀ r ∈ t, p r = true → q (f r) = q r) :
    (updateWhere p f t).filter q = updateWhere p f (t.filter q) := by
  induction t with
  | nil => rfl
  | cons r t ih =>
      have hrest := ih fun s hs => h s (List.mem_cons_of_mem _ hs)
      have hhead : q (if p r then f r else r) = q r := by
        split
        · exact h r List.mem_cons_self ‹_›
        · rfl
      show ((if p r then f r else r) :: updateWhere p f t).filter q = _
      rw [List.filter_cons, List.filter_cons, hhead, hrest]
      split <;> rfl

/-- An update whose condition no row meets. -/
theorem updateWhere_eq_self {p : ρ → Bool} {f : ρ → ρ} {t : List ρ} (h : ∀ r ∈ t, p r = false) :
    updateWhere p f t = t := by
  rw [updateWhere]
  refine (List.map_congr_left fun r hr => ?_).trans (List.map_id t)
  rw [h r hr]
  rfl

theorem updateWhere_append (p : ρ → Bool) (f : ρ → ρ) (t t' : List ρ) :
    updateWhere p f (t ++ t') = updateWhere p f t ++ updateWhere p f t' :=
  List.map_append

/-- A select that sees neither the old nor the new form of the updated rows. -/
theorem find?_updateWhere {p q : ρ → Bool} {f : ρ → ρ} {t : List ρ}
    (h : ∀ r ∈ t, p r = true → q r = false ∧ q (f r) = false) :
    (updateWhere p f t).find? q = t.find? q := by
  induction t with
  | nil => rfl
  | cons r t ih =>
      have hrest := ih fun s hs => h s (List.mem_cons_of_mem _ hs)
      show ((if p r then f r else r) :: updateWhere p f t).find? q = _
      rw [List.find?_cons, List.find?_cons, hrest]
      by_cases hp : p r = true
      · obtain ⟨hold, hnew⟩ := h r List.mem_cons_self hp
        rw [if_pos hp, hold, hnew]
      · rw [if_neg hp]

theorem filter_updateWhere {p q : ρ → Bool} {f : ρ → ρ} {t : List ρ}
    (h : ∀ r ∈ t, p r = true → q r = false ∧ q (f r) = false) :
    (updateWhere p f t).filter q = t.filter q := by
  induction t with
  | nil => rfl
  | cons r t ih =>
      have hrest := ih fun s hs => h s (List.mem_cons_of_mem _ hs)
      show ((if p r then f r else r) :: updateWhere p f t).filter q = _
      rw [List.filter_cons, List.filter_cons, hrest]
      by_cases hp : p r = true
      · obtain ⟨hold, hnew⟩ := h r List.mem_cons_self hp
        rw [if_pos hp, hold, hnew]
        rfl
      · rw [if_neg hp]

/-- A select on a filtered table, where the filter drops nothing the select looks for. -/
theorem find?_filter_of_imp {p q : ρ → Bool} {t : List ρ} (h : ∀ r ∈ t, q r = true → p r = true) :
    (t.filter p).find? q = t.find? q := by
  rw [List.find?_filter]
  refine List.find?_congr fun r hr => ?_
  cases hq : q r with
  | false => simp
  | true => simp [h r hr hq]

/-! ## Unique columns -/

/-- A unique constraint on `key`. -/
def UniqueOn (key : ρ → κ) (t : List ρ) : Prop := (t.map key).Nodup

instance [DecidableEq κ] (key : ρ → κ) (t : List ρ) : Decidable (UniqueOn key t) :=
  inferInstanceAs (Decidable (List.Nodup _))

theorem UniqueOn.eq {key : ρ → κ} {t : List ρ} (h : UniqueOn key t) {r s : ρ} (hr : r ∈ t)
    (hs : s ∈ t) (hkey : key r = key s) : r = s :=
  List.inj_on_of_nodup_map h hr hs hkey

/-- Selecting by a unique column finds the row. -/
theorem UniqueOn.find [DecidableEq κ] {key : ρ → κ} {t : List ρ} (h : UniqueOn key t) {r : ρ}
    (hr : r ∈ t) : t.find? (fun s => key s = key r) = some r := by
  cases hfind : t.find? (fun s => key s = key r) with
  | none =>
      have hnone := List.find?_eq_none.mp hfind r hr
      exact absurd (decide_eq_true rfl) hnone
  | some s =>
      have hkey : key s = key r := by simpa using List.find?_some hfind
      rw [h.eq (List.mem_of_find?_eq_some hfind) hr hkey]

theorem uniqueOn_append_singleton {key : ρ → κ} {t : List ρ} {r : ρ} :
    UniqueOn key (t ++ [r]) ↔ UniqueOn key t ∧ ∀ s ∈ t, key s ≠ key r := by
  simp only [UniqueOn, List.map_append, List.map_cons, List.map_nil, List.nodup_append,
    List.nodup_singleton, true_and, List.mem_singleton, List.mem_map]
  refine and_congr_right fun _ => ⟨fun h s hs => ?_, ?_⟩
  · exact h _ ⟨s, hs, rfl⟩ _ rfl
  · rintro h _ ⟨s, hs, rfl⟩ _ rfl
    exact h s hs

theorem uniqueOn_append {key : ρ → κ} {t t' : List ρ} :
    UniqueOn key (t ++ t') ↔
      UniqueOn key t ∧ UniqueOn key t' ∧ ∀ r ∈ t, ∀ s ∈ t', key r ≠ key s := by
  simp only [UniqueOn, List.map_append, List.nodup_append, List.mem_map]
  refine and_congr_right fun _ => and_congr_right fun _ => ⟨fun h r hr s hs => ?_, ?_⟩
  · exact h _ ⟨r, hr, rfl⟩ _ ⟨s, hs, rfl⟩
  · rintro h _ ⟨r, hr, rfl⟩ _ ⟨s, hs, rfl⟩
    exact h r hr s hs

theorem UniqueOn.filter {key : ρ → κ} {t : List ρ} (h : UniqueOn key t) (p : ρ → Bool) :
    UniqueOn key (t.filter p) := (List.filter_sublist.map key).nodup h

theorem uniqueOn_updateWhere {key : ρ → κ} {p : ρ → Bool} {f : ρ → ρ} {t : List ρ}
    (hkey : ∀ r, key (f r) = key r) : UniqueOn key (updateWhere p f t) ↔ UniqueOn key t := by
  rw [UniqueOn, map_updateWhere p f key hkey, UniqueOn]

/-- An update by primary key writes one row in place. -/
theorem UniqueOn.updateWhere_split [DecidableEq κ] {key : ρ → κ} {t : List ρ} (h : UniqueOn key t)
    {r : ρ} (hr : r ∈ t) (f : ρ → ρ) :
    ∃ pre post, t = pre ++ r :: post ∧
      updateWhere (fun s => key s = key r) f t = pre ++ f r :: post := by
  obtain ⟨pre, post, rfl⟩ := List.append_of_mem hr
  refine ⟨pre, post, rfl, ?_⟩
  -- no other row has the key of `r`
  have hothers : ∀ s ∈ pre ++ post, decide (key s = key r) = false := by
    intro s hs
    rw [UniqueOn, List.map_append, List.map_cons, List.nodup_middle, List.nodup_cons] at h
    rw [decide_eq_false_iff_not]
    intro hkey
    refine h.1 ?_
    rw [← hkey, ← List.map_append]
    exact List.mem_map_of_mem hs
  have hpre : updateWhere (fun s => key s = key r) f pre = pre :=
    updateWhere_eq_self fun s hs => hothers s (List.mem_append_left _ hs)
  have hpost : updateWhere (fun s => key s = key r) f post = post :=
    updateWhere_eq_self fun s hs => hothers s (List.mem_append_right _ hs)
  rw [updateWhere_append, hpre]
  congr 1
  show (if decide (key r = key r) = true then f r else r) :: updateWhere _ f post = f r :: post
  rw [hpost, if_pos (decide_eq_true rfl)]

/-- A row that takes the place of another one under its key. -/
theorem map_updateWhere_key [DecidableEq κ] {key : ρ → κ} {k : κ} {r : ρ} (hkey : key r = k)
    (t : List ρ) : (updateWhere (fun s => key s = k) (fun _ => r) t).map key = t.map key := by
  rw [updateWhere, List.map_map]
  refine List.map_congr_left fun s _ => ?_
  show key (if decide (key s = k) = true then r else s) = key s
  split
  · rename_i hs
    exact hkey.trans (of_decide_eq_true hs).symm
  · rfl

/-- **After an update by primary key** the row stands in its new form, and every other row
as it was. -/
theorem UniqueOn.mem_updateWhere [DecidableEq κ] {key : ρ → κ} {t : List ρ} (h : UniqueOn key t)
    {r : ρ} (hr : r ∈ t) (f : ρ → ρ) {s : ρ} :
    s ∈ updateWhere (fun s => key s = key r) f t ↔ s = f r ∨ (s ∈ t ∧ key s ≠ key r) := by
  rw [Sql.mem_updateWhere]
  constructor
  · rintro ⟨s₀, hs₀, rfl⟩
    by_cases hkey : key s₀ = key r
    · rw [if_pos (decide_eq_true hkey)]
      exact Or.inl (congrArg f (h.eq hs₀ hr hkey))
    · rw [if_neg (by simpa using hkey)]
      exact Or.inr ⟨hs₀, hkey⟩
  · rintro (rfl | ⟨hs, hkey⟩)
    · exact ⟨r, hr, (if_pos (decide_eq_true rfl)).symm⟩
    · exact ⟨s, hs, (if_neg (by simpa using hkey)).symm⟩

/-- A unique constraint on a column that may be null; nulls do not count. -/
def UniqueOnSome (key : ρ → Option κ) (t : List ρ) : Prop := (t.filterMap key).Nodup

instance [DecidableEq κ] (key : ρ → Option κ) (t : List ρ) : Decidable (UniqueOnSome key t) :=
  inferInstanceAs (Decidable (List.Nodup _))

theorem uniqueOnSome_append {key : ρ → Option κ} {t t' : List ρ} :
    UniqueOnSome key (t ++ t') ↔ UniqueOnSome key t ∧ UniqueOnSome key t' ∧
      ∀ r ∈ t, ∀ k, key r = some k → ∀ s ∈ t', key s ≠ some k := by
  simp only [UniqueOnSome, List.filterMap_append, List.nodup_append, List.mem_filterMap]
  refine and_congr_right fun _ => and_congr_right fun _ => ⟨fun h r hr k hk s hs hsk => ?_, ?_⟩
  · exact h k ⟨r, hr, hk⟩ k ⟨s, hs, hsk⟩ rfl
  · rintro h k ⟨r, hr, hk⟩ _ ⟨s, hs, hsk⟩ rfl
    exact h r hr k hk s hs hsk

theorem UniqueOnSome.filter {key : ρ → Option κ} {t : List ρ} (h : UniqueOnSome key t)
    (p : ρ → Bool) : UniqueOnSome key (t.filter p) :=
  (List.filter_sublist.filterMap key).nodup h

/-! ## Foreign keys -/

section References

variable {ρ' : Type u}

/-- A foreign key: every value of `fk` is the `id` of a row of the other table. -/
def References (fk : ρ → Option κ) (id : ρ' → κ) (t : List ρ) (t' : List ρ') : Prop :=
  ∀ r ∈ t, ∀ k ∈ fk r, ∃ r' ∈ t', id r' = k

instance [DecidableEq κ] (fk : ρ → Option κ) (id : ρ' → κ) (t : List ρ) (t' : List ρ') :
    Decidable (References fk id t t') :=
  inferInstanceAs (Decidable (∀ r ∈ t, ∀ k ∈ fk r, ∃ r' ∈ t', id r' = k))

/-- The other table may grow and change as long as it keeps its identifiers. -/
theorem References.mono {fk : ρ → Option κ} {id : ρ' → κ} {t : List ρ} {t' t'' : List ρ'}
    (h : References fk id t t') (hids : ∀ k ∈ t'.map id, k ∈ t''.map id) :
    References fk id t t'' := by
  intro r hr k hk
  obtain ⟨r', hr', hid⟩ := h r hr k hk
  have hmem := hids k (List.mem_map.mpr ⟨r', hr', hid⟩)
  exact List.mem_map.mp hmem

theorem References.filter {fk : ρ → Option κ} {id : ρ' → κ} {t : List ρ} {t' : List ρ'}
    (h : References fk id t t') (p : ρ → Bool) : References fk id (t.filter p) t' :=
  fun r hr => h r (List.mem_filter.mp hr).1

theorem references_append {fk : ρ → Option κ} {id : ρ' → κ} {s t : List ρ} {t' : List ρ'} :
    References fk id (s ++ t) t' ↔ References fk id s t' ∧ References fk id t t' := by
  constructor
  · intro h
    exact ⟨fun r hr => h r (List.mem_append_left _ hr), fun r hr => h r (List.mem_append_right _ hr)⟩
  · rintro ⟨hs, ht⟩ r hr
    rcases List.mem_append.mp hr with hr | hr
    · exact hs r hr
    · exact ht r hr

end References

/-! ## Ordered selects -/

/-- `SELECT .. WHERE p ORDER BY key LIMIT 1`. -/
def firstBy {ι : Type} [LE ι] [DecidableLE ι] (key : ρ → ι) (p : ρ → Bool) (t : List ρ) :
    Option ρ :=
  ((t.filter p).insertionSort fun r s => key r ≤ key s).head?

theorem mem_of_firstBy {ι : Type} [LE ι] [DecidableLE ι] {key : ρ → ι} {p : ρ → Bool}
    {t : List ρ} {r : ρ} (h : firstBy key p t = some r) : r ∈ t ∧ p r = true := by
  have hmem := (List.mem_insertionSort fun r s => key r ≤ key s).mp (List.mem_of_head? h)
  exact List.mem_filter.mp hmem

/-- The row that is returned comes first. -/
theorem le_of_firstBy {ι : Type} [LinearOrder ι] {key : ρ → ι} {p : ρ → Bool} {t : List ρ}
    {r s : ρ} (h : firstBy key p t = some r) (hs : s ∈ t) (hp : p s = true) : key r ≤ key s := by
  have : Std.Total fun r s => key r ≤ key s := ⟨fun _ _ => le_total _ _⟩
  have : IsTrans ρ fun r s => key r ≤ key s := ⟨fun _ _ _ => le_trans⟩
  have hsorted := List.pairwise_insertionSort (fun r s => key r ≤ key s) (t.filter p)
  obtain ⟨rest, hrest⟩ := List.head?_eq_some_iff.mp h
  have hmem : s ∈ (t.filter p).insertionSort fun r s => key r ≤ key s :=
    (List.mem_insertionSort _).mpr (List.mem_filter.mpr ⟨hs, hp⟩)
  rw [hrest] at hsorted hmem
  rcases List.mem_cons.mp hmem with rfl | hlater
  · exact le_refl _
  · exact (List.pairwise_cons.mp hsorted).1 s hlater

theorem firstBy_eq_none {ι : Type} [LE ι] [DecidableLE ι] {key : ρ → ι} {p : ρ → Bool}
    {t : List ρ} : firstBy key p t = none ↔ ∀ r ∈ t, p r = false := by
  rw [firstBy, List.head?_eq_none_iff, ← List.length_eq_zero_iff, List.length_insertionSort,
    List.length_eq_zero_iff, List.filter_eq_nil_iff]
  exact forall₂_congr fun r _ => by rw [Bool.not_eq_true]

/-! ## Commit -/

section Commit

variable {τ : Type u} {ε : Type v} {C : τ → Prop} [DecidablePred C]

/-- Commit a transaction whose tables are `t`: the constraints hold, or nothing is
written and the violation is raised. -/
def commit (C : τ → Prop) [DecidablePred C] (violation : ε) (t : τ) : Except ε { t : τ // C t } :=
  if h : C t then .ok ⟨t, h⟩ else .error violation

theorem commit_eq_ok {violation : ε} {t : τ} {d : { t : τ // C t }} :
    commit C violation t = .ok d ↔ d.val = t := by
  unfold commit
  split
  · rename_i h
    rw [Except.ok.injEq, Subtype.ext_iff, eq_comm]
  · rename_i h
    exact ⟨fun hd => absurd hd (by simp), fun hd => absurd (hd ▸ d.property) h⟩

theorem commit_of (violation : ε) {t : τ} (h : C t) : commit C violation t = .ok ⟨t, h⟩ :=
  dif_pos h

end Commit

end BondTrading.Sql
