/-
# BondTrading.Instruments.Views -- instruments do not see each other

What the tables say of an ISIN is its `view`: its instrument, actions and snapshots.  The
refresh of one ISIN keeps the constraints of the tables, if the new actions are distinct,
and leaves the view of every other ISIN as it was.
-/
import BondTrading.Instruments.Stored

namespace BondTrading

open Py (Decimal Instant)
open Sql (UniqueOn References updateWhere)

/-! ## Views -/

structure InstrumentView where
  instrument : Option BondInstrumentModel
  actions : List CorporateActionModel
  snapshots : List MarketSnapshotModel
  deriving DecidableEq, Repr

def MarketTables.view (t : MarketTables) (isin : String) : InstrumentView :=
  ⟨t.instrumentOf isin, t.actionsOf isin, t.snapshotsOf isin⟩

/-- Rows that are added or changed under other identifiers are not seen. -/
theorem rowsOf_congr {ρ : Type} {t t' : MarketTables} {isin : String} {fk : ρ → InstrumentId}
    {rows rows' : List ρ} (hinstrument : t'.instrumentOf isin = t.instrumentOf isin)
    (hrows : ∀ i, t.instrumentOf isin = some i →
      (rows'.filter fun r => fk r = i.id) = rows.filter fun r => fk r = i.id) :
    t'.rowsOf isin fk rows' = t.rowsOf isin fk rows := by
  unfold MarketTables.rowsOf
  rw [hinstrument]
  cases hfound : t.instrumentOf isin with
  | none => rfl
  | some i => exact hrows i hfound

/-- The identifiers a refresh draws are new. -/
structure RefreshDraw.Fresh (draw : RefreshDraw) (t : MarketTables) : Prop where
  instrument : draw.instrument ∉ t.instruments.map BondInstrumentModel.id
  action : ∀ k, draw.action k ∉ t.actions.map CorporateActionModel.id
  distinct : Function.Injective draw.action
  market : draw.market ∉ t.markets.map MarketSnapshotModel.id

section Writing

variable {t : MarketTables} {isin other : String} {draw : RefreshDraw}
  {result : MoexRefreshResult ℚ}

/-! ## Writing the instrument -/

/-- The rows a refresh replaces have its ISIN. -/
theorem isin_of_same_id (ht : t.Constraints) {existing i : BondInstrumentModel}
    (hfound : t.instrumentOf isin = some existing) (hi : i ∈ t.instruments)
    (hid : i.id = (t.refreshedInstrument isin draw result).id) : i.isin = isin := by
  obtain ⟨hmem, hisin⟩ := instrumentOf_isin hfound
  rw [refreshedInstrument_of_some hfound] at hid
  rw [ht.instrumentIds.eq hi hmem hid, hisin]

theorem withInstrument_ids :
    ∀ k ∈ t.instruments.map BondInstrumentModel.id,
      k ∈ (t.withInstrument isin draw result).instruments.map BondInstrumentModel.id := by
  intro k hk
  cases hfound : t.instrumentOf isin with
  | none =>
      rw [withInstrument_of_none hfound, List.map_append]
      exact List.mem_append_left _ hk
  | some existing =>
      obtain ⟨i, hi, rfl⟩ := List.mem_map.mp hk
      rw [withInstrument_of_some hfound]
      refine List.mem_map.mpr ⟨_, Sql.mem_updateWhere.mpr ⟨i, hi, rfl⟩, ?_⟩
      split
      · rename_i hid
        exact (of_decide_eq_true hid).symm
      · rfl

/-- **Writing the instrument keeps the constraints.** -/
theorem withInstrument_constraints (ht : t.Constraints) (hfresh : draw.Fresh t)
    (hisin : result.instrument.isin = isin) : (t.withInstrument isin draw result).Constraints := by
  have hinstruments : UniqueOn BondInstrumentModel.id (t.withInstrument isin draw result).instruments ∧
      UniqueOn BondInstrumentModel.isin (t.withInstrument isin draw result).instruments := by
    cases hfound : t.instrumentOf isin with
    | none =>
        rw [withInstrument_of_none hfound, Sql.uniqueOn_append_singleton,
          Sql.uniqueOn_append_singleton]
        refine ⟨⟨ht.instrumentIds, ?_⟩, ht.isins, ?_⟩
        · intro i hi hid
          rw [refreshedInstrument_of_none hfound] at hid
          exact hfresh.instrument (List.mem_map.mpr ⟨i, hi, hid⟩)
        · intro i hi hsame
          rw [refreshedInstrument_isin hisin] at hsame
          exact List.find?_eq_none.mp hfound i hi (decide_eq_true hsame)
    | some existing =>
        -- in place, under the same identifier and the same ISIN
        have hids : (t.withInstrument isin draw result).instruments.map BondInstrumentModel.id =
            t.instruments.map BondInstrumentModel.id := by
          rw [withInstrument_of_some hfound, updateWhere, List.map_map]
          refine List.map_congr_left fun i hi => ?_
          show (if decide _ = true then _ else i).id = i.id
          split
          · rename_i hid
            exact (of_decide_eq_true hid).symm
          · rfl
        have hisins : (t.withInstrument isin draw result).instruments.map BondInstrumentModel.isin =
            t.instruments.map BondInstrumentModel.isin := by
          rw [withInstrument_of_some hfound, updateWhere, List.map_map]
          refine List.map_congr_left fun i hi => ?_
          show (if decide _ = true then _ else i).isin = i.isin
          split
          · rename_i hid
            rw [refreshedInstrument_isin hisin]
            exact (isin_of_same_id ht hfound hi (of_decide_eq_true hid)).symm
          · rfl
        unfold UniqueOn
        rw [hids, hisins]
        exact ⟨ht.instrumentIds, ht.isins⟩
  refine ⟨hinstruments.1, hinstruments.2, ?_, ?_, ?_, ?_, ?_⟩
  · rw [withInstrument_actions]
    exact ht.actionIds
  · rw [withInstrument_actions]
    exact ht.actionIdentities
  · rw [withInstrument_actions]
    exact ht.actionInstruments.mono withInstrument_ids
  · rw [withInstrument_markets]
    exact ht.marketIds
  · rw [withInstrument_markets]
    exact ht.marketInstruments.mono withInstrument_ids

/-- Another ISIN has the instrument it had. -/
theorem instrumentOf_withInstrument_of_ne (ht : t.Constraints)
    (hisin : result.instrument.isin = isin) (hother : other ≠ isin) :
    (t.withInstrument isin draw result).instrumentOf other = t.instrumentOf other := by
  cases hfound : t.instrumentOf isin with
  | none =>
      rw [withInstrument_of_none hfound]
      show (t.instruments ++ [t.refreshedInstrument isin draw result]).find? _ = _
      rw [List.find?_append, List.find?_singleton, if_neg, Option.or_none]
      · rfl
      · rw [decide_eq_true_eq, refreshedInstrument_isin hisin]
        exact hother.symm
  | some existing =>
      rw [withInstrument_of_some hfound]
      apply Sql.find?_updateWhere
      intro i hi hid
      rw [decide_eq_false_iff_not, decide_eq_false_iff_not, refreshedInstrument_isin hisin,
        isin_of_same_id ht hfound hi (of_decide_eq_true hid)]
      exact ⟨hother.symm, hother.symm⟩

/-- The instrument of another ISIN has another identifier. -/
theorem id_ne_of_ne (ht : t.Constraints) (hfresh : draw.Fresh t) {i : BondInstrumentModel}
    (hi : t.instrumentOf other = some i) (hother : other ≠ isin) :
    i.id ≠ (t.refreshedInstrument isin draw result).id := by
  intro hid
  obtain ⟨hmem, hisin⟩ := instrumentOf_isin hi
  cases hfound : t.instrumentOf isin with
  | none =>
      rw [refreshedInstrument_of_none hfound] at hid
      exact hfresh.instrument (List.mem_map.mpr ⟨i, hmem, hid⟩)
  | some existing => exact hother (hisin.symm.trans (isin_of_same_id ht hfound hmem hid))

end Writing

/-! ## Storing the answer -/

def MoexCorporateActionData.identity (a : MoexCorporateActionData ℚ) : ActionType × Date × String :=
  (a.actionType, a.eventDate, a.sourcePayloadHash)

/-- The actions that are not stored yet are distinct: MOEX sends no row twice. -/
def DistinctActions (stored : List CorporateActionModel)
    (actions : List (MoexCorporateActionData ℚ)) : Prop :=
  ((actions.filter fun a =>
    a.sourcePayloadHash ∉ stored.map CorporateActionModel.sourcePayloadHash).map
      MoexCorporateActionData.identity).Nodup

instance (stored : List CorporateActionModel) (actions : List (MoexCorporateActionData ℚ)) :
    Decidable (DistinctActions stored actions) := inferInstanceAs (Decidable (List.Nodup _))

section NewActions

variable {id : InstrumentId} {hashes : List String} {draw : RefreshDraw}
  {actions : List (MoexCorporateActionData ℚ)}

theorem newActions_map {β : Type} (id : InstrumentId) (hashes : List String) (draw : RefreshDraw)
    (actions : List (MoexCorporateActionData ℚ)) {f : CorporateActionModel → β}
    {g : MoexCorporateActionData ℚ → β} (h : ∀ a k, f (newAction id draw k a) = g a) :
    (newActions id hashes draw actions).map f =
      (actions.filter fun a => a.sourcePayloadHash ∉ hashes).map g := by
  unfold newActions
  rw [List.map_map]
  have hfst : (f ∘ fun x : MoexCorporateActionData ℚ × ℕ => newAction id draw x.2 x.1) =
      g ∘ Prod.fst := by
    funext x
    exact h x.1 x.2
  show List.map (f ∘ fun x : MoexCorporateActionData ℚ × ℕ => newAction id draw x.2 x.1) _ = _
  rw [hfst, ← List.map_map, List.zipIdx_map_fst]

theorem newActions_ids :
    (newActions id hashes draw actions).map CorporateActionModel.id =
      (List.range (actions.filter fun a => a.sourcePayloadHash ∉ hashes).length).map
        draw.action := by
  unfold newActions
  rw [List.map_map]
  show List.map (draw.action ∘ Prod.snd) _ = _
  rw [← List.map_map, List.zipIdx_map_snd, List.range_eq_range']

theorem instrumentId_of_newActions {a : CorporateActionModel}
    (h : a ∈ newActions id hashes draw actions) :
    a.instrumentId = id ∧ a.sourcePayloadHash ∉ hashes := by
  obtain ⟨⟨data, k⟩, hmem, rfl⟩ := List.mem_map.mp h
  have hnew := (List.mem_filter.mp (List.fst_mem_of_mem_zipIdx hmem)).2
  exact ⟨rfl, of_decide_eq_true hnew⟩

end NewActions

section Storing

variable {t : MarketTables} {isin other : String} {draw : RefreshDraw}
  {result : MoexRefreshResult ℚ}

/-- The new actions have identities of their own exactly when they are distinct. -/
theorem uniqueOn_identity_iff (ht : t.Constraints)
    (hids : UniqueOn BondInstrumentModel.id (t.withInstrument isin draw result).instruments) :
    UniqueOn CorporateActionModel.identity (t.actions ++
        newActions (t.refreshedInstrument isin draw result).id
          ((t.actionsOf isin).map CorporateActionModel.sourcePayloadHash) draw result.actions) ↔
      DistinctActions (t.actionsOf isin) result.actions := by
  have hnew : (newActions (t.refreshedInstrument isin draw result).id
      ((t.actionsOf isin).map CorporateActionModel.sourcePayloadHash) draw result.actions).map
        CorporateActionModel.identity = List.map (Prod.mk (t.refreshedInstrument isin draw result).id)
      ((result.actions.filter fun a => a.sourcePayloadHash ∉
        (t.actionsOf isin).map CorporateActionModel.sourcePayloadHash).map
          MoexCorporateActionData.identity) := by
    rw [List.map_map]
    exact newActions_map _ _ _ _ fun _ _ => rfl
  unfold UniqueOn DistinctActions
  rw [List.map_append, List.nodup_append, hnew, List.nodup_map_iff (Prod.mk_right_injective _)]
  constructor
  · intro h
    exact h.2.1
  · intro h
    refine ⟨ht.actionIdentities, h, ?_⟩
    -- a stored action of this instrument has a stored hash
    intro k hk k' hk' hsame
    obtain ⟨row, hrow, rfl⟩ := List.mem_map.mp hk
    obtain ⟨_, hidentity, rfl⟩ := List.mem_map.mp hk'
    obtain ⟨a, ha, rfl⟩ := List.mem_map.mp hidentity
    obtain ⟨hid, hrest⟩ := Prod.mk.inj hsame
    have hhash : row.sourcePayloadHash = a.sourcePayloadHash :=
      congrArg (fun x : ActionType × Date × String => x.2.2) hrest
    have hstored : row ∈ t.actionsOf isin := by
      unfold MarketTables.actionsOf
      rw [← rows_of_refreshed ht.actionInstruments hids]
      exact List.mem_filter.mpr ⟨hrow, decide_eq_true hid⟩
    have hunknown := of_decide_eq_true (List.mem_filter.mp ha).2
    exact hunknown (List.mem_map.mpr ⟨row, hstored, hhash⟩)

/-- **Storing the answer keeps the constraints exactly when the new actions are distinct.** -/
theorem refreshed_constraints_iff (ht : t.Constraints) (hfresh : draw.Fresh t)
    (hisin : result.instrument.isin = isin) :
    (t.refreshed isin draw result).Constraints ↔
      DistinctActions (t.actionsOf isin) result.actions := by
  have hw := withInstrument_constraints ht hfresh hisin
  have hactions := refreshed_actions ht hw.instrumentIds
  have hmarkets : (t.refreshed isin draw result).markets = t.markets ++
      [newSnapshot (t.refreshedInstrument isin draw result).id draw result.market] := by
    show (t.withInstrument isin draw result).markets ++ _ = _
    rw [withInstrument_markets]
  rw [← uniqueOn_identity_iff ht hw.instrumentIds, ← hactions]
  constructor
  · intro hC
    exact hC.actionIdentities
  · intro hdistinct
    refine ⟨hw.instrumentIds, hw.isins, ?_, hdistinct, ?_, ?_, ?_⟩
    · rw [hactions, UniqueOn, List.map_append, List.nodup_append, newActions_ids]
      refine ⟨ht.actionIds, List.nodup_range.map hfresh.distinct, ?_⟩
      intro k hk k' hk' hsame
      obtain ⟨n, -, rfl⟩ := List.mem_map.mp hk'
      exact hfresh.action n (hsame ▸ hk)
    · rw [hactions, Sql.references_append]
      refine ⟨ht.actionInstruments.mono withInstrument_ids, ?_⟩
      intro a ha k hk
      obtain rfl : a.instrumentId = k := Option.some.inj hk
      exact ⟨_, mem_withInstrument, (instrumentId_of_newActions ha).1.symm⟩
    · rw [hmarkets, Sql.uniqueOn_append_singleton]
      refine ⟨ht.marketIds, ?_⟩
      intro m hm hid
      exact hfresh.market (List.mem_map.mpr ⟨m, hm, hid⟩)
    · rw [hmarkets, Sql.references_append]
      refine ⟨ht.marketInstruments.mono withInstrument_ids, ?_⟩
      intro m hm k hk
      obtain rfl := List.mem_singleton.mp hm
      obtain rfl := Option.some.inj hk
      exact ⟨_, mem_withInstrument, rfl⟩

/-! ## The views of the others -/

theorem view_withInstrument (ht : t.Constraints) (hisin : result.instrument.isin = isin)
    (hother : other ≠ isin) : (t.withInstrument isin draw result).view other = t.view other := by
  have hinstrument : (t.withInstrument isin draw result).instrumentOf other = t.instrumentOf other :=
    instrumentOf_withInstrument_of_ne ht hisin hother
  unfold MarketTables.view MarketTables.actionsOf MarketTables.snapshotsOf
  rw [withInstrument_actions, withInstrument_markets, hinstrument,
    rowsOf_congr hinstrument fun _ _ => rfl, rowsOf_congr hinstrument fun _ _ => rfl]

/-- **A refresh leaves the view of another ISIN as it was.** -/
theorem view_refreshed (ht : t.Constraints) (hfresh : draw.Fresh t)
    (hisin : result.instrument.isin = isin) (hother : other ≠ isin) :
    (t.refreshed isin draw result).view other = t.view other := by
  have hw := withInstrument_constraints ht hfresh hisin
  have hinstrument : (t.refreshed isin draw result).instrumentOf other = t.instrumentOf other :=
    instrumentOf_withInstrument_of_ne ht hisin hother
  have hactions : (t.refreshed isin draw result).actionsOf other = t.actionsOf other := by
    unfold MarketTables.actionsOf
    rw [refreshed_actions ht hw.instrumentIds]
    apply rowsOf_congr hinstrument
    intro i hi
    rw [List.filter_append, List.append_right_eq_self, List.filter_eq_nil_iff]
    intro a ha hid
    rw [decide_eq_true_eq, (instrumentId_of_newActions ha).1] at hid
    exact id_ne_of_ne ht hfresh hi hother hid.symm
  have hsnapshots : (t.refreshed isin draw result).snapshotsOf other = t.snapshotsOf other := by
    unfold MarketTables.snapshotsOf
    apply rowsOf_congr hinstrument
    intro i hi
    show ((t.withInstrument isin draw result).markets ++ [_]).filter _ = _
    rw [withInstrument_markets, List.filter_append, List.append_right_eq_self, List.filter_eq_nil_iff]
    intro m hm hid
    obtain rfl := List.mem_singleton.mp hm
    rw [decide_eq_true_eq] at hid
    exact id_ne_of_ne ht hfresh hi hother hid.symm
  unfold MarketTables.view
  rw [hinstrument, hactions, hsnapshots]

end Storing

end BondTrading
