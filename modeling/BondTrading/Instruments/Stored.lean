/-
# BondTrading.Instruments.Stored -- what a refresh stores

A successful refresh writes the instrument, appends the actions whose hash it has not
stored yet, and appends a snapshot.  For the instrument of an ISIN the stored actions are
a log: a refresh appends to it and nothing else of the refresh touches it.
-/
import BondTrading.Instruments.Service

namespace BondTrading

open Py (Decimal Instant Routine)
open Sql (Fault World updateWhere UniqueOn)

/-! ## The tables after a refresh -/

/-- The instrument a refresh writes. -/
def MarketTables.refreshedInstrument (t : MarketTables) (isin : String) (draw : RefreshDraw)
    (result : MoexRefreshResult ℚ) : BondInstrumentModel :=
  BondTrading.refreshedInstrument (t.instrumentOf isin) draw result.instrument

/-- The tables once the instrument is written. -/
def MarketTables.withInstrument (t : MarketTables) (isin : String) (draw : RefreshDraw)
    (result : MoexRefreshResult ℚ) : MarketTables :=
  t.storeInstrument (t.instrumentOf isin) (t.refreshedInstrument isin draw result)

/-- The tables after a refresh of `isin` that was answered with `result`. -/
def MarketTables.refreshed (t : MarketTables) (isin : String) (draw : RefreshDraw)
    (result : MoexRefreshResult ℚ) : MarketTables :=
  let id := (t.refreshedInstrument isin draw result).id
  let stored := t.withInstrument isin draw result
  { stored with
    actions := stored.actions ++ newActions id (stored.hashesOf id) draw result.actions
    markets := stored.markets ++ [newSnapshot id draw result.market] }

section Refresh

variable {faults : RefreshOperation → Fault} {client : MoexClient} {draw : RefreshDraw}
  {isin : String} {w w' : ServiceWorld} {instrument : BondInstrumentModel}
  {snapshot : MarketSnapshotModel}

/-- `get_by_isin` reads the instrument of the normalized ISIN. -/
theorem getByIsin_eq_ok {fault : Fault} {found : Option BondInstrumentModel}
    (h : getByIsin fault isin w = (.ok found, w')) :
    ∃ normalized, normalizeIsin isin = .ok normalized ∧
      found = w.work.market.instrumentOf normalized ∧ w' = w := by
  rw [getByIsin, Routine.bind_eq_ok] at h
  obtain ⟨normalized, w₁, hlift, h⟩ := h
  obtain ⟨hnormalized, rfl⟩ := Routine.lift_eq_ok.mp hlift
  obtain ⟨-, -, hfound, rfl⟩ := World.query_eq_ok h
  exact ⟨normalized, hnormalized, hfound, rfl⟩

/-- What follows the answer: the tables with the answer are committed. -/
theorem storeRefresh_eq_ok {result : MoexRefreshResult ℚ} {normalized : String}
    (h : storeRefresh faults draw (w.work.market.instrumentOf normalized) result w =
      (.ok (instrument, snapshot), w')) :
    instrument = w.work.market.refreshedInstrument normalized draw result ∧
      snapshot = newSnapshot instrument.id draw result.market ∧
      w'.work = { w.work with market := w.work.market.refreshed normalized draw result } ∧
      w'.committed.val = w'.work := by
  simp only [storeRefresh, Routine.bind_eq_ok] at h
  obtain ⟨_, w₁, hedit, _, w₂, hflush, hashes, w₃, hhashes, _, w₄, hedit', _, w₅, hcommit, _, w₆,
    hreload, _, w₇, hreload', h⟩ := h
  obtain ⟨hreturn, rfl⟩ := Prod.mk.inj h
  obtain ⟨rfl, rfl⟩ := Prod.mk.inj (Except.ok.inj hreturn)
  obtain ⟨-, -, -, rfl⟩ := World.query_eq_ok hreload'
  obtain ⟨-, -, -, rfl⟩ := World.query_eq_ok hreload
  obtain ⟨hC, hcommitted⟩ := World.commit_eq_ok hcommit
  have hw₁ := World.edit_eq_ok.mp hedit
  obtain ⟨-, hw₂⟩ := World.flush_eq_ok hflush
  obtain ⟨-, -, rfl, hw₃⟩ := World.query_eq_ok hhashes
  have hw₄ := World.edit_eq_ok.mp hedit'
  refine ⟨rfl, rfl, ?_, ?_⟩
  · rw [hcommitted]
    show w₄.work = _
    rw [hw₄, hw₃, hw₂, hw₁]
    rfl
  · rw [hcommitted]

/-- **A refresh that returned**: MOEX answered, and the tables it describes are committed. -/
theorem refresh_eq_ok (h : refresh faults client draw isin w = (.ok (instrument, snapshot), w')) :
    ∃ normalized result, normalizeIsin isin = .ok normalized ∧
      client.refresh normalized = .ok result ∧
      instrument = w.work.market.refreshedInstrument normalized draw result ∧
      snapshot = newSnapshot instrument.id draw result.market ∧
      w'.work = { w.work with market := w.work.market.refreshed normalized draw result } ∧
      w'.committed.val = w'.work := by
  simp only [refresh, Routine.bind_eq_ok] at h
  obtain ⟨normalized, w₁, hlift, existing, w₂, hlookup, result, w₃, hresult, h⟩ := h
  obtain ⟨hnormalized, rfl⟩ := Routine.lift_eq_ok.mp hlift
  obtain ⟨again, hagain, hexisting, rfl⟩ := getByIsin_eq_ok hlookup
  have hsame : again = normalized :=
    Except.ok.inj (hagain.symm.trans (normalizeIsin_idem hnormalized))
  rw [hsame] at hexisting
  rcases Routine.attempt_eq_ok hresult with hresult | ⟨e, w₄, -, hhandler⟩
  · obtain ⟨hanswer, hcalled⟩ := World.call_eq_ok.mp hresult
    rw [hexisting, hcalled] at h
    obtain ⟨hinstrument, hsnapshot, hwork, hcommitted⟩ := storeRefresh_eq_ok h
    exact ⟨normalized, result, hnormalized, hanswer, hinstrument, hsnapshot, hwork, hcommitted⟩
  · -- the handler raises the error again
    obtain ⟨_, w₅, -, hraise⟩ := Routine.bind_eq_ok.mp hhandler
    exact absurd (Prod.mk.inj hraise).1 (by simp)

end Refresh

/-! ## The rows of an instrument -/

/-- The rows that refer to the instrument with this ISIN. -/
def MarketTables.rowsOf {ρ : Type} (t : MarketTables) (isin : String) (fk : ρ → InstrumentId)
    (rows : List ρ) : List ρ :=
  match t.instrumentOf isin with
  | none => []
  | some instrument => rows.filter fun r => fk r = instrument.id

theorem rowsOf_of_found {ρ : Type} {t : MarketTables} {isin : String} {fk : ρ → InstrumentId}
    {rows : List ρ} {instrument : BondInstrumentModel}
    (h : t.instrumentOf isin = some instrument) :
    t.rowsOf isin fk rows = rows.filter fun r => fk r = instrument.id := by
  unfold MarketTables.rowsOf
  rw [h]

/-- The stored actions of the instrument with this ISIN. -/
def MarketTables.actionsOf (t : MarketTables) (isin : String) : List CorporateActionModel :=
  t.rowsOf isin CorporateActionModel.instrumentId t.actions

/-- Its snapshots. -/
def MarketTables.snapshotsOf (t : MarketTables) (isin : String) : List MarketSnapshotModel :=
  t.rowsOf isin MarketSnapshotModel.instrumentId t.markets

section Rows

variable {t : MarketTables} {isin : String} {draw : RefreshDraw} {result : MoexRefreshResult ℚ}

theorem instrumentOf_isin {instrument : BondInstrumentModel}
    (h : t.instrumentOf isin = some instrument) :
    instrument ∈ t.instruments ∧ instrument.isin = isin := by
  refine ⟨List.mem_of_find?_eq_some h, ?_⟩
  simpa using List.find?_some h

theorem refreshedInstrument_of_none (h : t.instrumentOf isin = none) :
    (t.refreshedInstrument isin draw result).id = draw.instrument := by
  unfold MarketTables.refreshedInstrument refreshedInstrument
  rw [h]
  rfl

theorem refreshedInstrument_of_some {existing : BondInstrumentModel}
    (h : t.instrumentOf isin = some existing) :
    (t.refreshedInstrument isin draw result).id = existing.id := by
  unfold MarketTables.refreshedInstrument refreshedInstrument
  rw [h]
  rfl

/-- The instrument a refresh writes has the ISIN that was asked for. -/
theorem refreshedInstrument_isin (hisin : result.instrument.isin = isin) :
    (t.refreshedInstrument isin draw result).isin = isin := by
  unfold MarketTables.refreshedInstrument refreshedInstrument
  cases hfound : t.instrumentOf isin with
  | none => exact hisin
  | some existing => exact (instrumentOf_isin hfound).2

/-- A new instrument goes to the end. -/
theorem withInstrument_of_none (h : t.instrumentOf isin = none) :
    t.withInstrument isin draw result =
      { t with instruments := t.instruments ++ [t.refreshedInstrument isin draw result] } := by
  unfold MarketTables.withInstrument
  rw [h]
  rfl

/-- A stored one is written in place. -/
theorem withInstrument_of_some {existing : BondInstrumentModel}
    (h : t.instrumentOf isin = some existing) :
    t.withInstrument isin draw result =
      { t with
        instruments := updateWhere (fun i => i.id = (t.refreshedInstrument isin draw result).id)
          (fun _ => t.refreshedInstrument isin draw result) t.instruments } := by
  unfold MarketTables.withInstrument
  rw [h]
  rfl

@[simp] theorem withInstrument_actions : (t.withInstrument isin draw result).actions = t.actions := by
  cases h : t.instrumentOf isin with
  | none => rw [withInstrument_of_none h]
  | some existing => rw [withInstrument_of_some h]

@[simp] theorem withInstrument_markets : (t.withInstrument isin draw result).markets = t.markets := by
  cases h : t.instrumentOf isin with
  | none => rw [withInstrument_of_none h]
  | some existing => rw [withInstrument_of_some h]

theorem mem_withInstrument :
    t.refreshedInstrument isin draw result ∈ (t.withInstrument isin draw result).instruments := by
  cases h : t.instrumentOf isin with
  | none =>
      rw [withInstrument_of_none h]
      exact List.mem_append_right _ (List.mem_singleton.mpr rfl)
  | some existing =>
      rw [withInstrument_of_some h]
      refine Sql.mem_updateWhere.mpr ⟨existing, (instrumentOf_isin h).1, ?_⟩
      rw [refreshedInstrument_of_some h, if_pos (decide_eq_true rfl)]

/-- The refreshed instrument is the one found under the ISIN. -/
theorem instrumentOf_withInstrument (hisin : result.instrument.isin = isin)
    (hunique : UniqueOn BondInstrumentModel.isin (t.withInstrument isin draw result).instruments) :
    (t.withInstrument isin draw result).instrumentOf isin =
      some (t.refreshedInstrument isin draw result) := by
  have hmem : t.refreshedInstrument isin draw result ∈
      (t.withInstrument isin draw result).instruments := mem_withInstrument
  have hfind := hunique.find hmem
  rw [refreshedInstrument_isin hisin] at hfind
  exact hfind

/-- Nothing refers to the identifier of a new instrument. -/
theorem rows_of_refreshed {ρ : Type} {fk : ρ → InstrumentId} {rows : List ρ}
    (hrefers : Sql.References (some ∘ fk) BondInstrumentModel.id rows t.instruments)
    (hids : UniqueOn BondInstrumentModel.id (t.withInstrument isin draw result).instruments) :
    (rows.filter fun r => fk r = (t.refreshedInstrument isin draw result).id) =
      t.rowsOf isin fk rows := by
  unfold MarketTables.rowsOf
  cases hfound : t.instrumentOf isin with
  | some existing => rw [refreshedInstrument_of_some hfound]
  | none =>
      rw [List.filter_eq_nil_iff]
      intro r hr hid
      have hid : fk r = (t.refreshedInstrument isin draw result).id := by simpa using hid
      obtain ⟨i, hi, hsame⟩ := hrefers r hr _ rfl
      rw [withInstrument_of_none hfound, Sql.uniqueOn_append_singleton] at hids
      exact hids.2 i hi (hsame.trans hid)

theorem filter_newActions (id : InstrumentId) (hashes : List String) (draw : RefreshDraw)
    (actions : List (MoexCorporateActionData ℚ)) :
    (newActions id hashes draw actions).filter (fun a => a.instrumentId = id) =
      newActions id hashes draw actions := by
  rw [List.filter_eq_self]
  intro a ha
  obtain ⟨⟨data, k⟩, -, rfl⟩ := List.mem_map.mp ha
  exact decide_eq_true rfl

/-- The actions after a refresh: those with a new hash are appended. -/
theorem refreshed_actions (ht : t.Constraints)
    (hids : UniqueOn BondInstrumentModel.id (t.withInstrument isin draw result).instruments) :
    (t.refreshed isin draw result).actions = t.actions ++
      newActions (t.refreshedInstrument isin draw result).id
        ((t.actionsOf isin).map CorporateActionModel.sourcePayloadHash) draw result.actions := by
  show (t.withInstrument isin draw result).actions ++ newActions _
    ((t.withInstrument isin draw result).hashesOf _) _ _ = _
  rw [MarketTables.hashesOf, withInstrument_actions, rows_of_refreshed ht.actionInstruments hids]
  rfl

/-- **A refresh appends to the log of its instrument** the actions with a new hash. -/
theorem actionsOf_refreshed (ht : t.Constraints) (hisin : result.instrument.isin = isin)
    (hC : (t.refreshed isin draw result).Constraints) :
    (t.refreshed isin draw result).actionsOf isin = t.actionsOf isin ++
      newActions (t.refreshedInstrument isin draw result).id
        ((t.actionsOf isin).map CorporateActionModel.sourcePayloadHash) draw result.actions := by
  have hfound : (t.refreshed isin draw result).instrumentOf isin =
      some (t.refreshedInstrument isin draw result) := instrumentOf_withInstrument hisin hC.isins
  rw [MarketTables.actionsOf, MarketTables.rowsOf, hfound]
  show (t.refreshed isin draw result).actions.filter _ = _
  rw [refreshed_actions ht hC.instrumentIds, List.filter_append,
    rows_of_refreshed ht.actionInstruments hC.instrumentIds, filter_newActions]
  rfl

end Rows

end BondTrading
