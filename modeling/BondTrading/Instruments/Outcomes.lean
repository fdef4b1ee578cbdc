/-
# BondTrading.Instruments.Outcomes -- how a refresh ends

Every way `InstrumentService.refresh` can go, told from the view of its own ISIN, the
answer of MOEX and the database's refusals: whether the session is usable afterwards,
whether the refresh returned, and what it did to the market tables.
-/
import BondTrading.Instruments.Views

namespace BondTrading

open Py (Decimal Instant Routine)
open Sql (Fault World UniqueOn References updateWhere)

/-! ## What a refresh may do -/

/-- An edit of the market tables. -/
def IsMarketEdit (f : Tables → Tables) : Prop := ∃ g, f = Tables.editMarket g

/-- A question to MOEX about an instrument. -/
def ExternalCall.IsRefresh (call : ExternalCall) : Prop := ∃ isin, call = .refresh isin

section Within

variable {R : ServiceWorld → ServiceWorld → Prop} {faults : RefreshOperation → Fault}
  {client : MoexClient} {draw : RefreshDraw} {calls : ExternalCall → Prop} {aborts : Prop}

theorem getByIsin_within (h : World.Allows R IsMarketEdit calls aborts) {fault : Fault}
    (hfault : fault = .aborted → aborts) (isin : String) :
    Routine.Within R (getByIsin fault isin) := by
  apply h.bind (h.lift _)
  intro normalized
  exact h.query hfault _

theorem recordRefreshError_within (h : World.Allows R IsMarketEdit calls aborts)
    (hfaults : ∀ operation, operation.isSelect = true → faults operation = .aborted → aborts)
    (instrument : Option BondInstrumentModel) (error : PyError) :
    Routine.Within R (recordRefreshError faults instrument error) := by
  cases instrument with
  | none => exact h.pure _
  | some instrument =>
      apply h.bind (h.query (hfaults .latestSnapshot rfl) _)
      intro latest
      cases latest with
      | none => exact h.pure _
      | some latest =>
          apply h.bind (h.edit ⟨_, rfl⟩)
          intro _
          exact h.commit _

theorem storeRefresh_within (h : World.Allows R IsMarketEdit calls aborts)
    (hfaults : ∀ operation, operation.isSelect = true → faults operation = .aborted → aborts)
    (existing : Option BondInstrumentModel) (result : MoexRefreshResult ℚ) :
    Routine.Within R (storeRefresh faults draw existing result) := by
  apply h.bind (h.edit ⟨_, rfl⟩)
  intro _
  apply h.bind (h.flush _)
  intro _
  apply h.bind (h.query (hfaults .hashes rfl) _)
  intro existingHashes
  apply h.bind (h.edit ⟨_, rfl⟩)
  intro _
  apply h.bind (h.commit _)
  intro _
  apply h.bind (h.query (hfaults .reloadInstrument rfl) _)
  intro _
  apply h.bind (h.query (hfaults .reloadSnapshot rfl) _)
  intro _
  exact h.pure _

/-- **A refresh** edits the market tables and asks MOEX, and does nothing else. -/
theorem refresh_within (h : World.Allows R IsMarketEdit ExternalCall.IsRefresh aborts)
    (hfaults : ∀ operation, operation.isSelect = true → faults operation = .aborted → aborts)
    (isin : String) :
    Routine.Within R (refresh faults client draw isin) := by
  apply h.bind (h.lift _)
  intro normalizedIsin
  apply h.bind (getByIsin_within h (hfaults .lookup rfl) _)
  intro instrument
  apply h.bind
  · apply h.attempt
    · exact h.call ⟨_, rfl⟩ _
    · intro error
      apply h.bind (recordRefreshError_within h hfaults _ _)
      intro _
      exact h.raise _
  · intro result
    exact storeRefresh_within h hfaults _ _

end Within

/-! ## What a refresh does to the tables -/

/-- **What one refresh does to the market tables**, however it went: other ISINs keep their
views, no identifier is lost, and the new ones are those it drew. -/
structure MarketStep (isin : String) (draw : RefreshDraw) (t t' : MarketTables) : Prop where
  constraints : t'.Constraints
  others : ∀ other, other ≠ isin → t'.view other = t.view other
  instrumentsKept : ∀ k ∈ t.instruments.map BondInstrumentModel.id,
    k ∈ t'.instruments.map BondInstrumentModel.id
  marketsKept : ∀ k ∈ t.markets.map MarketSnapshotModel.id,
    k ∈ t'.markets.map MarketSnapshotModel.id
  instrumentsNew : ∀ k ∈ t'.instruments.map BondInstrumentModel.id,
    k ∈ t.instruments.map BondInstrumentModel.id ∨ k = draw.instrument
  actionsNew : ∀ k ∈ t'.actions.map CorporateActionModel.id,
    k ∈ t.actions.map CorporateActionModel.id ∨ ∃ n, k = draw.action n
  marketsNew : ∀ k ∈ t'.markets.map MarketSnapshotModel.id,
    k ∈ t.markets.map MarketSnapshotModel.id ∨ k = draw.market

section Steps

variable {t : MarketTables} {isin : String} {draw : RefreshDraw} {result : MoexRefreshResult ℚ}

theorem MarketStep.refl (ht : t.Constraints) : MarketStep isin draw t t :=
  ⟨ht, fun _ _ => rfl, fun _ h => h, fun _ h => h, fun _ h => Or.inl h, fun _ h => Or.inl h,
    fun _ h => Or.inl h⟩

theorem withInstrument_ids_new :
    ∀ k ∈ (t.withInstrument isin draw result).instruments.map BondInstrumentModel.id,
      k ∈ t.instruments.map BondInstrumentModel.id ∨ k = draw.instrument := by
  intro k hk
  cases hfound : t.instrumentOf isin with
  | none =>
      rw [withInstrument_of_none hfound, List.map_append] at hk
      rcases List.mem_append.mp hk with hk | hk
      · exact Or.inl hk
      · obtain rfl := List.mem_singleton.mp hk
        exact Or.inr (refreshedInstrument_of_none hfound)
  | some existing =>
      obtain ⟨hmem, -⟩ := instrumentOf_isin hfound
      rw [withInstrument_of_some hfound] at hk
      obtain ⟨i, hi, rfl⟩ := List.mem_map.mp hk
      obtain ⟨i₀, hi₀, rfl⟩ := Sql.mem_updateWhere.mp hi
      left
      split
      · rw [refreshedInstrument_of_some hfound]
        exact List.mem_map_of_mem hmem
      · exact List.mem_map_of_mem hi₀

/-- The step up to the flush. -/
theorem marketStep_withInstrument (ht : t.Constraints) (hfresh : draw.Fresh t)
    (hisin : result.instrument.isin = isin) :
    MarketStep isin draw t (t.withInstrument isin draw result) where
  constraints := withInstrument_constraints ht hfresh hisin
  others _ hother := view_withInstrument ht hisin hother
  instrumentsKept := withInstrument_ids
  marketsKept k hk := by
    rw [withInstrument_markets]
    exact hk
  instrumentsNew := withInstrument_ids_new
  actionsNew k hk := by
    rw [withInstrument_actions] at hk
    exact Or.inl hk
  marketsNew k hk := by
    rw [withInstrument_markets] at hk
    exact Or.inl hk

/-- The step up to the commit. -/
theorem marketStep_refreshed (ht : t.Constraints) (hfresh : draw.Fresh t)
    (hisin : result.instrument.isin = isin)
    (hdistinct : DistinctActions (t.actionsOf isin) result.actions) :
    MarketStep isin draw t (t.refreshed isin draw result) := by
  have hw := withInstrument_constraints ht hfresh hisin
  refine ⟨(refreshed_constraints_iff ht hfresh hisin).mpr hdistinct,
    fun _ hother => view_refreshed ht hfresh hisin hother, withInstrument_ids, ?_,
    withInstrument_ids_new, ?_, ?_⟩
  · intro k hk
    show k ∈ ((t.withInstrument isin draw result).markets ++ [_]).map _
    rw [withInstrument_markets, List.map_append]
    exact List.mem_append_left _ hk
  · intro k hk
    rw [refreshed_actions ht hw.instrumentIds, List.map_append, newActions_ids] at hk
    rcases List.mem_append.mp hk with hk | hk
    · exact Or.inl hk
    · obtain ⟨n, -, rfl⟩ := List.mem_map.mp hk
      exact Or.inr ⟨n, rfl⟩
  · intro k hk
    have hk : k ∈ ((t.withInstrument isin draw result).markets ++
        [newSnapshot _ draw result.market]).map MarketSnapshotModel.id := hk
    rw [withInstrument_markets, List.map_append] at hk
    rcases List.mem_append.mp hk with hk | hk
    · exact Or.inl hk
    · exact Or.inr (List.mem_singleton.mp hk)

/-- The latest snapshot of an instrument is one of its snapshots. -/
theorem latestOf_eq_some {instrument : InstrumentId} {latest : MarketSnapshotModel}
    (h : t.latestOf instrument = some latest) :
    latest ∈ t.markets ∧ latest.instrumentId = instrument := by
  obtain ⟨hmem, hid⟩ := Sql.mem_of_firstBy h
  exact ⟨hmem, of_decide_eq_true hid⟩

theorem latestOf_eq_none {instrument : BondInstrumentModel}
    (hfound : t.instrumentOf isin = some instrument) :
    t.latestOf instrument.id = none ↔ t.snapshotsOf isin = [] := by
  unfold MarketTables.latestOf MarketTables.snapshotsOf MarketTables.rowsOf
  rw [hfound, Sql.firstBy_eq_none]
  show _ ↔ t.markets.filter _ = []
  rw [List.filter_eq_nil_iff]
  exact forall₂_congr fun m _ => by rw [Bool.not_eq_true]

/-- `_record_refresh_error` writes no key. -/
theorem markError_marketIds (latest : MarketSnapshotModel) (error : PyError) :
    (t.markError latest error).markets.map MarketSnapshotModel.id =
      t.markets.map MarketSnapshotModel.id := by
  apply Sql.map_updateWhere
  intro m
  rfl

theorem markError_constraints (ht : t.Constraints) (latest : MarketSnapshotModel)
    (error : PyError) : (t.markError latest error).Constraints := by
  refine ⟨ht.instrumentIds, ht.isins, ht.actionIds, ht.actionIdentities, ht.actionInstruments,
    ?_, ?_⟩
  · unfold UniqueOn
    rw [markError_marketIds]
    exact ht.marketIds
  · intro m hm k hk
    obtain ⟨m₀, hm₀, rfl⟩ := Sql.mem_updateWhere.mp hm
    apply ht.marketInstruments m₀ hm₀ k
    revert hk
    split
    · exact id
    · exact id

/-- The snapshot that is marked belongs to the ISIN of the refresh. -/
theorem marketStep_markError (ht : t.Constraints) {instrument : BondInstrumentModel}
    (hfound : t.instrumentOf isin = some instrument) {latest : MarketSnapshotModel}
    (hlatest : t.latestOf instrument.id = some latest) (error : PyError) :
    MarketStep isin draw t (t.markError latest error) := by
  obtain ⟨hmem, hinstrument⟩ := latestOf_eq_some hlatest
  have hids := markError_marketIds (t := t) latest error
  refine ⟨markError_constraints ht latest error, ?_, fun _ h => h, ?_, fun _ h => Or.inl h,
    fun _ h => Or.inl h, ?_⟩
  · intro other hother
    have hsnapshots : (t.markError latest error).snapshotsOf other = t.snapshotsOf other := by
      apply rowsOf_congr rfl
      intro i hi
      apply Sql.filter_updateWhere
      intro m hm hid
      -- the marked row is `latest`, whose instrument has another ISIN
      have hsame : m = latest := ht.marketIds.eq hm hmem (of_decide_eq_true hid)
      have hne : ¬ m.instrumentId = i.id := by
        intro hi'
        rw [hsame, hinstrument] at hi'
        obtain ⟨himem, hiisin⟩ := instrumentOf_isin hi
        obtain ⟨hmem', hisin'⟩ := instrumentOf_isin hfound
        have hii : instrument = i := ht.instrumentIds.eq hmem' himem hi'
        exact hother (hiisin.symm.trans (hii ▸ hisin'))
      exact ⟨decide_eq_false hne, decide_eq_false hne⟩
    unfold MarketTables.view
    rw [hsnapshots]
    rfl
  · rw [hids]
    exact fun _ h => h
  · rw [hids]
    exact fun _ h => Or.inl h

end Steps

/-! ## The rest of the tables -/

theorem MarketStep.tables {t : Tables} {isin : String} {draw : RefreshDraw} {m : MarketTables}
    (h : MarketStep isin draw t.market m) (ht : t.Constraints) :
    ({ t with market := m } : Tables).Constraints :=
  ⟨h.constraints, ht.portfolio.withMarket h.instrumentsKept h.marketsKept, ht.sheets⟩

/-! ## How a refresh ends -/

/-- `_record_refresh_error` leaves the session usable. -/
def RecordKept (faults : RefreshOperation → Fault) (view : InstrumentView) : Prop :=
  view.instrument = none ∨
    (faults .latestSnapshot).Then (view.snapshots = [] ∨ faults .storeError = .none)

/-- What follows an answer leaves the session usable. -/
def StoreKept (faults : RefreshOperation → Fault) (view : InstrumentView)
    (result : MoexRefreshResult ℚ) : Prop :=
  faults .flush = .none ∧ (faults .hashes).Then
    ((faults .store = .none ∧ DistinctActions view.actions result.actions) ∧
      (faults .reloadInstrument).Then (faults .reloadSnapshot ≠ .aborted))

/-- **`refresh` leaves the session usable.** -/
def RefreshKept (faults : RefreshOperation → Fault) (view : InstrumentView) :
    Except PyError (MoexRefreshResult ℚ) → Prop
  | .error _ => (faults .lookup).Then (RecordKept faults view)
  | .ok result => (faults .lookup).Then (StoreKept faults view result)

/-- The operations of a refresh that was answered. -/
def storeOperations : List RefreshOperation :=
  [.lookup, .flush, .hashes, .store, .reloadInstrument, .reloadSnapshot]

/-- The refresh of an answer goes through. -/
def RefreshReturns (faults : RefreshOperation → Fault) (view : InstrumentView)
    (result : MoexRefreshResult ℚ) : Prop :=
  (∀ operation ∈ storeOperations, faults operation = .none) ∧
    DistinctActions view.actions result.actions

instance (faults : RefreshOperation → Fault) (view : InstrumentView)
    (result : MoexRefreshResult ℚ) : Decidable (RefreshReturns faults view result) :=
  inferInstanceAs (Decidable (_ ∧ _))

/-- What `refresh` returns, if it does. -/
def refreshValue (faults : RefreshOperation → Fault) (draw : RefreshDraw) (view : InstrumentView) :
    Except PyError (MoexRefreshResult ℚ) → Option (BondInstrumentModel × MarketSnapshotModel)
  | .error _ => none
  | .ok result =>
      let instrument := refreshedInstrument view.instrument draw result.instrument
      if RefreshReturns faults view result then
        some (instrument, newSnapshot instrument.id draw result.market)
      else none

/-- What holds after a refresh from the tables `t`, while the session is usable. -/
structure RefreshPost (faults : RefreshOperation → Fault) (draw : RefreshDraw) (isin : String)
    (answer : Except PyError (MoexRefreshResult ℚ)) (t : Tables)
    (outcome : Except PyError (BondInstrumentModel × MarketSnapshotModel)) (w : ServiceWorld) :
    Prop where
  tables : ∃ market, w.work = { t with market } ∧ MarketStep isin draw t.market market
  value : outcome.toOption = refreshValue faults draw (t.market.view isin) answer
  stored : ∀ pair, outcome = .ok pair → ∃ result, answer = .ok result ∧
    w.work.market = t.market.refreshed isin draw result

section Ends

variable {faults : RefreshOperation → Fault} {draw : RefreshDraw} {isin : String}
  {result : MoexRefreshResult ℚ} {w : ServiceWorld}

/-- A refresh that met a refusal returns nothing. -/
theorem RefreshPost.of_refused {t : Tables} {market : MarketTables} {error : PyError}
    {operation : RefreshOperation} (hoperation : operation ∈ storeOperations)
    (hfault : faults operation = .raised) (hwork : w.work = { t with market })
    (hstep : MarketStep isin draw t.market market) :
    RefreshPost faults draw isin (.ok result) t (.error error) w := by
  refine ⟨⟨market, hwork, hstep⟩, ?_, fun _ h => nomatch h⟩
  show none = if RefreshReturns faults _ result then _ else _
  rw [if_neg]
  intro hreturns
  have hnone := hreturns.1 operation hoperation
  rw [hfault] at hnone
  exact Fault.noConfusion hnone

/-- **What follows an answer.** -/
theorem storeRefresh_runs (hw : w.broken = false) (hC : w.work.Constraints)
    (hfresh : draw.Fresh w.work.market) (hisin : result.instrument.isin = isin)
    (hlookup : faults .lookup = .none) :
    World.Runs (storeRefresh faults draw (w.work.market.instrumentOf isin) result) w
      (StoreKept faults (w.work.market.view isin) result)
      (RefreshPost faults draw isin (.ok result) w.work) := by
  have hflushed := marketStep_withInstrument hC.market hfresh hisin
  have hdistinct : ({ w.work with market := w.work.market.refreshed isin draw result } :
      Tables).Constraints ↔ DistinctActions (w.work.market.actionsOf isin) result.actions := by
    rw [← refreshed_constraints_iff hC.market hfresh hisin]
    constructor
    · intro h
      exact h.market
    · intro h
      have hrefreshed := (refreshed_constraints_iff hC.market hfresh hisin).mp h
      exact (marketStep_refreshed hC.market hfresh hisin hrefreshed).tables hC
  have hruns : World.Runs (storeRefresh faults draw (w.work.market.instrumentOf isin) result) w
      ((faults .flush = .none ∧
          ({ w.work with market := w.work.market.withInstrument isin draw result } :
            Tables).Constraints) ∧
        (faults .hashes).Then ((faults .store = .none ∧
            ({ w.work with market := w.work.market.refreshed isin draw result } :
              Tables).Constraints) ∧
          (faults .reloadInstrument).Then ((faults .reloadSnapshot).Then True)))
      (RefreshPost faults draw isin (.ok result) w.work) := by
    unfold storeRefresh
    apply World.Runs.bind_of_ok (World.edit_apply _ _)
    refine World.Runs.flush_bind (by exact hw) ?_
    intro hflush _
    refine World.Runs.query_bind (by exact hw) ?_ ?_
    · intro hhashes
      apply World.Runs.bind_of_ok (World.edit_apply _ _)
      refine World.Runs.commit_bind (by exact hw) ?_
      intro hstore hcommitted
      have hactions := hdistinct.mp hcommitted
      have hstep := marketStep_refreshed hC.market hfresh hisin hactions
      refine World.Runs.query_bind (by exact hw) ?_ ?_
      · intro hreload
        refine World.Runs.query_bind (by exact hw) ?_ ?_
        · intro hsnapshot
          refine World.Runs.of_eq rfl (by exact hw) ?_
          refine ⟨⟨_, rfl, hstep⟩, ?_, fun _ _ => ⟨result, rfl, rfl⟩⟩
          show some _ = if RefreshReturns faults _ result then _ else _
          rw [if_pos]
          · rfl
          · refine ⟨?_, hactions⟩
            intro operation hoperation
            simp only [storeOperations, List.mem_cons, List.not_mem_nil, or_false] at hoperation
            rcases hoperation with rfl | rfl | rfl | rfl | rfl | rfl
            · exact hlookup
            · exact hflush
            · exact hhashes
            · exact hstore
            · exact hreload
            · exact hsnapshot
        · intro hsnapshot
          exact .of_refused (by decide) hsnapshot rfl hstep
      · intro hreload
        exact .of_refused (by decide) hreload rfl hstep
    · intro hhashes
      exact .of_refused (by decide) hhashes rfl hflushed
  refine hruns.congr ?_ fun _ _ _ h => h
  rw [and_iff_left (hflushed.tables hC), Fault.then_true, hdistinct]
  rfl

/-- **The record of a failed refresh.** -/
theorem recordRefreshError_runs (faults : RefreshOperation → Fault) (draw : RefreshDraw)
    (isin : String) (hw : w.broken = false) (hC : w.work.Constraints)
    (error : PyError) :
    World.Runs (recordRefreshError faults (w.work.market.instrumentOf isin) error) w
      (RecordKept faults (w.work.market.view isin))
      (fun _ w' => ∃ market, w'.work = { w.work with market } ∧
        MarketStep isin draw w.work.market market) := by
  have hkept : ∃ market, w.work = { w.work with market } ∧
      MarketStep isin draw w.work.market market := ⟨_, rfl, .refl hC.market⟩
  cases hfound : w.work.market.instrumentOf isin with
  | none =>
      have hrecord : True ↔ RecordKept faults (w.work.market.view isin) :=
        (iff_true_intro (Or.inl hfound)).symm
      exact (World.Runs.of_eq (Routine.pure_apply _ _) hw hkept).congr hrecord fun _ _ _ h => h
  | some instrument =>
      have hlatest := latestOf_eq_none hfound
      have hrecord : (faults .latestSnapshot).Then
          (w.work.market.snapshotsOf isin = [] ∨ faults .storeError = .none) ↔
            RecordKept faults (w.work.market.view isin) := by
        apply (or_iff_right _).symm
        show ¬ w.work.market.instrumentOf isin = none
        rw [hfound]
        intro hnone
        cases hnone
      refine World.Runs.congr ?_ hrecord fun _ _ _ h => h
      show World.Runs (World.query _ _ >>= _) _ _ _
      refine World.Runs.query_bind hw ?_ fun _ => hkept
      intro _
      cases hsnapshot : w.work.market.latestOf instrument.id with
      | none =>
          rw [iff_true_intro (Or.inl (hlatest.mp hsnapshot))]
          exact World.Runs.of_eq (Routine.pure_apply _ _) hw hkept
      | some latest =>
          have hsome : ¬ w.work.market.snapshotsOf isin = [] := by
            intro hnone
            rw [hlatest.mpr hnone] at hsnapshot
            cases hsnapshot
          have hstep : MarketStep isin draw w.work.market
              (w.work.market.markError latest error) :=
            marketStep_markError hC.market hfound hsnapshot error
          rw [or_iff_right hsome]
          show World.Runs (World.edit _ >>= fun _ => World.commit _) _ _ _
          apply World.Runs.bind_of_ok (World.edit_apply _ _)
          have hcommit : (faults .storeError = .none ∧
              (Tables.editMarket (·.markError latest error) w.work).Constraints) ↔
                faults .storeError = .none := and_iff_left (hstep.tables hC)
          rw [← hcommit]
          refine World.Runs.commit (by exact hw) ?_
          intro _ _
          exact ⟨_, rfl, hstep⟩

/-- A refresh of a normalized ISIN, step by step. -/
theorem refresh_of_normalized {client : MoexClient} (hnormalized : normalizeIsin isin = .ok isin) :
    refresh faults client draw isin =
      World.query (faults .lookup) (fun t => t.market.instrumentOf isin) >>= fun instrument =>
        Routine.attempt (World.call (.refresh isin) (client.refresh isin)) (fun error =>
          recordRefreshError faults instrument error >>= fun _ => Routine.raise error) >>=
            storeRefresh faults draw instrument := by
  unfold refresh getByIsin
  rw [hnormalized, Routine.lift_ok_bind, hnormalized, Routine.lift_ok_bind]

/-- **How a refresh ends.** -/
theorem refresh_runs (faults : RefreshOperation → Fault) (client : MoexClient)
    (hw : w.broken = false) (hC : w.work.Constraints)
    (hfresh : draw.Fresh w.work.market) (hnormalized : normalizeIsin isin = .ok isin) :
    World.Runs (refresh faults client draw isin) w
      (RefreshKept faults (w.work.market.view isin) (client.refresh isin))
      (RefreshPost faults draw isin (client.refresh isin) w.work) := by
  rw [refresh_of_normalized hnormalized]
  cases hanswer : client.refresh isin with
  | ok result =>
      have hisin : result.instrument.isin = isin :=
        Except.ok.inj ((client.answersIsin isin result hanswer).symm.trans hnormalized)
      refine World.Runs.query_bind hw ?_ ?_
      · intro hlookup
        apply World.Runs.bind_of_ok (Routine.attempt_of_ok (World.call_apply _ _ _))
        exact storeRefresh_runs (w := { w with calls := w.calls ++ [.refresh isin] }) hw hC hfresh
          hisin hlookup
      · intro hlookup
        exact .of_refused (by decide) hlookup rfl (.refl hC.market)
  | error e =>
      have hpost : ∀ (error : PyError) (w' : ServiceWorld),
          (∃ market, w'.work = { w.work with market } ∧ MarketStep isin draw w.work.market market) →
            RefreshPost faults draw isin (.error e) w.work (.error error) w' :=
        fun error w' h => ⟨h, rfl, fun _ h => nomatch h⟩
      refine World.Runs.query_bind hw ?_ fun _ => hpost _ _ ⟨_, rfl, .refl hC.market⟩
      intro hlookup
      -- the handler records the error and raises it again
      apply World.Runs.of_same (Routine.attempt_bind_of_error (World.call_apply _ _ _))
      rw [Routine.bind_assoc]
      have hrecord := recordRefreshError_runs faults draw isin
        (w := { w with calls := w.calls ++ [.refresh isin] }) hw hC e
      refine (hrecord.bind (L := True) ?_ ?_ ?_).congr (and_true _).to_iff fun _ _ _ h => h
      · intro _ w' hw' h
        exact World.Runs.of_eq rfl hw' (hpost _ _ h)
      · intro error w' _ h
        exact ⟨trivial, hpost _ _ h⟩
      · intro _
        exact World.StaysBroken.allows.raise e

end Ends

end BondTrading
