/-
# BondTrading.Sheets.Refreshes -- the loop over the ISINs

The loop of `execute` that refreshes every instrument once and swallows what a refresh
raises.  Other ISINs keep their views, so what the loop knows of an ISIN afterwards is
told from the tables before the loop; and the loop leaves the session usable exactly when
no refresh in it breaks it.
-/
import BondTrading.Instruments.Outcomes
import BondTrading.Sheets.Execute

namespace BondTrading

open Py (Decimal Instant Routine)
open Sql (Fault World)

/-! ## What an attempt may do -/

/-- The call that writes to a sheet. -/
def ExternalCall.Writes (call : ExternalCall) : Prop :=
  ∃ spreadsheetId worksheetName updates, call = .updateCells spreadsheetId worksheetName updates

/-- The edits of an attempt before it is settled. -/
inductive IsAttemptEdit : (Tables → Tables) → Prop
  | market (g : MarketTables → MarketTables) : IsAttemptEdit (Tables.editMarket g)
  | started (connection : ConnectionId) (now : Instant) :
      IsAttemptEdit (Tables.editSheets (·.startAttempt connection now))
  | read (job : JobId) (rowsRead : ℕ) :
      IsAttemptEdit (Tables.editSheets (·.setRowsRead job rowsRead))

section Within

variable {R : ServiceWorld → ServiceWorld → Prop} {env : SyncEnvironment} {aborts : Prop}

theorem refreshInstrument_within (h : World.Allows R IsMarketEdit ExternalCall.IsRefresh aborts)
    (hfaults : ∀ operation, operation.isSelect = true → env.faults operation = .aborted → aborts)
    (connection : SheetConnectionModel) (isin : String) :
    Routine.Within R (refreshInstrument env connection isin) := by
  apply h.bind (refresh_within h (fun operation => hfaults (.refresh isin operation)) _)
  rintro ⟨instrument, market⟩
  apply h.bind (h.query (hfaults (.cashflows isin) rfl) _)
  intro actions
  exact h.pure _

theorem refreshAll_within (h : World.Allows R IsAttemptEdit (fun k => ¬ k.Writes) aborts)
    (hfaults : ∀ operation, operation.isSelect = true → env.faults operation = .aborted → aborts)
    (connection : SheetConnectionModel) (isins : List String) :
    Routine.Within R (refreshAll env connection isins) := by
  have hrefresh : World.Allows R IsMarketEdit ExternalCall.IsRefresh aborts := by
    apply h.mono
    · rintro _ ⟨g, rfl⟩
      exact .market g
    · rintro _ ⟨isin, rfl⟩ ⟨_, _, _, hwrites⟩
      exact ExternalCall.noConfusion hwrites
  induction isins with
  | nil => exact h.pure _
  | cons isin isins ih =>
      apply h.bind (h.outcome (refreshInstrument_within hrefresh hfaults connection isin))
      intro outcome
      apply h.bind ih
      intro rest
      exact h.pure _

theorem readSheet_within (h : World.Allows R IsAttemptEdit (fun k => ¬ k.Writes) True)
    (job : SheetSyncJobModel) : Routine.Within R (readSheet env job) := by
  apply h.bind (h.query (fun _ => trivial) _)
  intro found
  apply h.bind (h.lift _)
  intro connection
  apply h.bind (h.edit (.started _ _))
  intro _
  apply h.bind
  · apply h.call
    rintro ⟨_, _, _, hwrites⟩
    exact ExternalCall.noConfusion hwrites
  intro worksheetNames
  apply h.bind (h.lift _)
  intro _
  apply h.bind
  · apply h.call
    rintro ⟨_, _, _, hwrites⟩
    exact ExternalCall.noConfusion hwrites
  intro rows
  apply h.bind (h.edit (.read _ _))
  intro _
  exact h.pure _

/-- `writeSheet` writes to the sheet once, and asks MOEX. -/
theorem writeSheet_within [Py.Context] (h : World.Allows R IsAttemptEdit (fun _ => True) True)
    (connection : SheetConnectionModel) (rows : List SheetDataRow) :
    Routine.Within R (writeSheet env connection rows) := by
  apply h.bind
  · apply refreshAll_within
    · exact h.mono (fun _ hedit => hedit) fun _ _ => trivial
    · exact fun _ _ _ => trivial
  intro refreshes
  apply h.bind h.readLoaded
  intro _
  apply h.bind (h.lift _)
  intro loop
  apply h.bind (h.callAll loop.calls fun _ _ => trivial)
  intro _
  apply h.bind (h.call trivial _)
  intro _
  exact h.pure _

end Within

/-! ## New identifiers -/

/-- Two refreshes draw different identifiers. -/
structure RefreshDraw.Apart (d d' : RefreshDraw) : Prop where
  instrument : d.instrument ≠ d'.instrument
  action : ∀ m n, d.action m ≠ d'.action n
  market : d.market ≠ d'.market

/-- The identifiers a run draws for these ISINs are new. -/
structure SyncDraw.Fresh (draw : SyncDraw) (isins : List String) (t : MarketTables) : Prop where
  new : ∀ isin ∈ isins, (draw.refresh isin).Fresh t
  apart : isins.Pairwise fun a b => (draw.refresh a).Apart (draw.refresh b)

section Fresh

variable {t t' : MarketTables} {isin : String} {isins : List String}

theorem RefreshDraw.Fresh.step {d d' : RefreshDraw} (h : d'.Fresh t) (hapart : d.Apart d')
    (hstep : MarketStep isin d t t') : d'.Fresh t' := by
  refine ⟨?_, ?_, h.distinct, ?_⟩
  · intro hmem
    rcases hstep.instrumentsNew _ hmem with hold | hnew
    · exact h.instrument hold
    · exact hapart.instrument hnew.symm
  · intro k hmem
    rcases hstep.actionsNew _ hmem with hold | ⟨n, hnew⟩
    · exact h.action k hold
    · exact hapart.action n k hnew.symm
  · intro hmem
    rcases hstep.marketsNew _ hmem with hold | hnew
    · exact h.market hold
    · exact hapart.market hnew.symm

/-- The rest of the loop still draws new identifiers. -/
theorem SyncDraw.Fresh.rest {draw : SyncDraw} (h : draw.Fresh (isin :: isins) t)
    (hstep : MarketStep isin (draw.refresh isin) t t') : draw.Fresh isins t' := by
  obtain ⟨hhead, htail⟩ := List.pairwise_cons.mp h.apart
  refine ⟨?_, htail⟩
  intro other hother
  exact (h.new other (List.mem_cons_of_mem _ hother)).step (hhead other hother) hstep

end Fresh

/-! ## One ISIN -/

variable (env : SyncEnvironment) (connection : SheetConnectionModel)

/-- What the database does with the operations of one refresh. -/
def SyncEnvironment.faultsOf (isin : String) : RefreshOperation → Fault := fun operation =>
  env.faults (.refresh isin operation)

/-- What the refresh of an ISIN returns, told from its view before the loop. -/
def refreshResult (view : InstrumentView) (isin : String) :
    Option (BondInstrumentModel × MarketSnapshotModel) :=
  refreshValue (env.faultsOf isin) (env.draw.refresh isin) view (env.moex.refresh isin)

/-- The stored actions after a refresh, the latest first. -/
def InstrumentView.latestActions (view : InstrumentView) (instrument : InstrumentId)
    (draw : RefreshDraw) (result : MoexRefreshResult ℚ) : List CorporateActionModel :=
  (view.actions ++ newActions instrument (view.actions.map CorporateActionModel.sourcePayloadHash)
    draw result.actions).insertionSort fun a b => b.sourceUpdatedAt ≤ a.sourceUpdatedAt

/-- `_RefreshedInstrument` from its parts. -/
def refreshedFrom (instrument : BondInstrumentModel) (market : MarketSnapshotModel)
    (actions : List CorporateActionModel) : RefreshedInstrument :=
  let price := marketPrice market connection.priceMode
  { instrument
    market
    cashflows := instrumentCashflows actions
    price := price.map .finite
    marketTime := market.time
    status := if price.isSome then "FRESH" else missingQuoteStatus connection.priceMode }

/-- **What the loop knows of an ISIN**, told from its view before the loop. -/
def refreshedValue (view : InstrumentView) (isin : String) : Option RefreshedInstrument := do
  let result ← (env.moex.refresh isin).toOption
  let (instrument, market) ← refreshResult env view isin
  if env.faults (.cashflows isin) = .none then
    some (refreshedFrom connection instrument market
      (view.latestActions instrument.id (env.draw.refresh isin) result))
  else none

/-- **The round of an ISIN leaves the session usable.** -/
def IsinKept (view : InstrumentView) (isin : String) : Prop :=
  RefreshKept (env.faultsOf isin) view (env.moex.refresh isin) ∧
    (refreshResult env view isin ≠ none → env.faults (.cashflows isin) ≠ .aborted)

section Loop

variable {env connection} {isin : String} {isins : List String} {w : ServiceWorld}

/-- The actions that are read after a refresh. -/
theorem latestActions_refreshed {t : MarketTables} {draw : RefreshDraw}
    {result : MoexRefreshResult ℚ} (ht : t.Constraints) (hisin : result.instrument.isin = isin)
    (hC : (t.refreshed isin draw result).Constraints) :
    (t.refreshed isin draw result).latestActions (t.refreshedInstrument isin draw result).id =
      (t.view isin).latestActions (t.refreshedInstrument isin draw result).id draw result := by
  have hfound : (t.refreshed isin draw result).instrumentOf isin =
      some (t.refreshedInstrument isin draw result) := instrumentOf_withInstrument hisin hC.isins
  have hactions := actionsOf_refreshed ht hisin hC
  rw [MarketTables.actionsOf, rowsOf_of_found hfound] at hactions
  unfold MarketTables.latestActions InstrumentView.latestActions
  rw [hactions]
  rfl

/-- What holds after the round of an ISIN, while the session is usable. -/
structure IsinPost (env : SyncEnvironment) (connection : SheetConnectionModel) (isin : String)
    (t : Tables) (outcome : Except PyError RefreshedInstrument) (w : ServiceWorld) : Prop where
  tables : ∃ market, w.work = { t with market } ∧
    MarketStep isin (env.draw.refresh isin) t.market market
  value : outcome.toOption = refreshedValue env connection (t.market.view isin) isin

/-- **The round of an ISIN.** -/
theorem refreshInstrument_runs (connection : SheetConnectionModel) (hw : w.broken = false)
    (hC : w.work.Constraints) (hfresh : (env.draw.refresh isin).Fresh w.work.market)
    (hnormalized : normalizeIsin isin = .ok isin) :
    World.Runs (refreshInstrument env connection isin) w
      (IsinKept env (w.work.market.view isin) isin)
      (IsinPost env connection isin w.work) := by
  have hrefresh := refresh_runs (env.faultsOf isin) env.moex hw hC hfresh hnormalized
  refine World.Runs.bind hrefresh ?_ ?_ ?_
  · -- MOEX answered, and the answer is stored
    rintro ⟨instrument, market⟩ w' hw' hpost
    obtain ⟨result, hanswer, hstored⟩ := hpost.stored _ rfl
    obtain ⟨tables, hwork, hstep⟩ := hpost.tables
    have hresult : refreshResult env (w.work.market.view isin) isin = some (instrument, market) :=
      hpost.value.symm
    have hinstrument : instrument =
        w.work.market.refreshedInstrument isin (env.draw.refresh isin) result := by
      unfold refreshResult refreshValue at hresult
      rw [hanswer] at hresult
      have hsome := Option.ite_none_right_eq_some.mp hresult
      exact (Prod.mk.inj (Option.some.inj hsome.2)).1.symm
    have hisin : result.instrument.isin = isin :=
      Except.ok.inj ((env.moex.answersIsin isin result hanswer).symm.trans hnormalized)
    have hmarket : tables = w.work.market.refreshed isin (env.draw.refresh isin) result := by
      rw [← hstored, hwork]
    have hactions : w'.work.market.latestActions instrument.id =
        (w.work.market.view isin).latestActions instrument.id (env.draw.refresh isin) result := by
      rw [hstored, hinstrument]
      exact latestActions_refreshed hC.market hisin (hmarket ▸ hstep.constraints)
    have hkept : (env.faults (.cashflows isin)).Then True ↔
        (refreshResult env (w.work.market.view isin) isin ≠ none →
          env.faults (.cashflows isin) ≠ .aborted) := by
      rw [Fault.then_true, hresult]
      simp
    refine World.Runs.congr ?_ hkept fun _ _ _ h => h
    refine World.Runs.query_bind hw' ?_ ?_
    · intro hcashflows
      refine World.Runs.of_eq rfl hw' ⟨hpost.tables, ?_⟩
      show some (refreshedFrom connection instrument market _) = refreshedValue env connection _ _
      simp only [refreshedValue, hanswer, hresult, hcashflows, hactions, Except.toOption,
        Option.bind_eq_bind, Option.bind_some, if_pos]
    · intro hcashflows
      refine ⟨hpost.tables, ?_⟩
      show none = refreshedValue env connection _ _
      simp only [refreshedValue, hanswer, hresult, hcashflows, Except.toOption,
        Option.bind_eq_bind, Option.bind_some, reduceCtorEq, if_false]
  · intro e w' hw' hpost
    have hresult : refreshResult env (w.work.market.view isin) isin = none := hpost.value.symm
    refine ⟨fun h => absurd hresult h, hpost.tables, ?_⟩
    show none = refreshedValue env connection _ _
    unfold refreshedValue
    rw [hresult]
    exact (Option.bind_fun_none _).symm
  · rintro ⟨instrument, market⟩
    apply World.StaysBroken.allows.bind (World.StaysBroken.allows.query (fun _ => trivial) _)
    intro actions
    exact World.StaysBroken.allows.pure _

/-- What holds after the loop, while the session is usable. -/
structure LoopPost (env : SyncEnvironment) (connection : SheetConnectionModel)
    (isins : List String) (t : Tables) (outcome : Except PyError Refreshes) (w : ServiceWorld) :
    Prop where
  tables : w.work.Constraints ∧ w.work.portfolio = t.portfolio ∧ w.work.sheets = t.sheets
  entries : ∃ errors : List SheetRowError, (∀ e ∈ errors, ∃ isin message, e = .isin isin message) ∧
    outcome = .ok (isins.map fun isin =>
      (isin, refreshedValue env connection (t.market.view isin) isin), errors)

theorem refreshEntry_fst (isin : String) (rest : Refreshes)
    (outcome : Except PyError RefreshedInstrument) :
    (refreshEntry isin rest outcome).1 = (isin, outcome.toOption) :: rest.1 := by
  cases outcome with
  | ok value => rfl
  | error e => rfl

/-- An error of the loop is about an ISIN, not about a row. -/
theorem mem_refreshEntry_snd {isin : String} {rest : Refreshes}
    {outcome : Except PyError RefreshedInstrument} {e : SheetRowError}
    (he : e ∈ (refreshEntry isin rest outcome).2) :
    e ∈ rest.2 ∨ ∃ message, e = .isin isin message := by
  cases outcome with
  | ok value => exact Or.inl he
  | error error =>
      rcases List.mem_cons.mp he with rfl | he
      · exact Or.inr ⟨_, rfl⟩
      · exact Or.inl he

/-- **The loop over the ISINs.** -/
theorem refreshAll_runs (hw : w.broken = false) (hC : w.work.Constraints)
    (hnodup : isins.Nodup) (hfresh : env.draw.Fresh isins w.work.market)
    (hnormalized : ∀ isin ∈ isins, normalizeIsin isin = .ok isin) :
    World.Runs (refreshAll env connection isins) w
      (∀ isin ∈ isins, IsinKept env (w.work.market.view isin) isin)
      (LoopPost env connection isins w.work) := by
  induction isins generalizing w with
  | nil =>
      have hnone : True ↔ ∀ isin ∈ ([] : List String), IsinKept env (w.work.market.view isin) isin :=
        iff_of_true trivial fun _ h => absurd h List.not_mem_nil
      refine (World.Runs.of_eq rfl hw ⟨⟨hC, rfl, rfl⟩, [], ?_, rfl⟩).congr hnone fun _ _ _ h => h
      exact fun e he => absurd he List.not_mem_nil
  | cons isin isins ih =>
      obtain ⟨hnotin, hrest⟩ := List.nodup_cons.mp hnodup
      have hround := refreshInstrument_runs connection hw hC
        (hfresh.new isin List.mem_cons_self) (hnormalized isin List.mem_cons_self)
      rw [List.forall_mem_cons]
      refine hround.outcome_of.bind ?_ (fun _ _ _ h => nomatch h.choose_spec.1) ?_
      · -- the rest of the loop starts from tables with the same views
        rintro outcome w' hw' ⟨_, houtcome, hpost⟩
        obtain rfl := Except.ok.inj houtcome
        obtain ⟨market, hwork, hstep⟩ := hpost.tables
        have hC' : w'.work.Constraints := by
          rw [hwork]
          exact hstep.tables hC
        have hview : ∀ other ∈ isins, w'.work.market.view other = w.work.market.view other := by
          intro other hother
          rw [hwork]
          exact hstep.others other fun hsame => hnotin (hsame ▸ hother)
        have hfresh' : env.draw.Fresh isins w'.work.market := by
          rw [hwork]
          exact hfresh.rest hstep
        have hloop := ih hw' hC' hrest hfresh' fun other hother =>
          hnormalized other (List.mem_cons_of_mem _ hother)
        have hkept : (∀ other ∈ isins, IsinKept env (w'.work.market.view other) other) ↔
            ∀ other ∈ isins, IsinKept env (w.work.market.view other) other :=
          forall₂_congr fun other hother => by rw [hview other hother]
        rw [← hkept, ← and_true (∀ other ∈ isins, IsinKept env (w'.work.market.view other) other)]
        refine hloop.bind ?_ ?_ ?_
        · intro rest w'' hw'' hrestPost
          obtain ⟨⟨hC'', hportfolio, hsheets⟩, errors, herrors, hentries⟩ := hrestPost
          obtain rfl := Except.ok.inj hentries
          refine World.Runs.of_eq rfl hw''
            ⟨⟨hC'', ?_, ?_⟩, _, ?_, congrArg Except.ok (Prod.ext ?_ rfl)⟩
          · rw [hportfolio, hwork]
          · rw [hsheets, hwork]
          · intro e he
            rcases mem_refreshEntry_snd he with he | ⟨message, rfl⟩
            · exact herrors e he
            · exact ⟨isin, message, rfl⟩
          · rw [refreshEntry_fst, hpost.value, List.map_cons]
            congr 1
            exact List.map_congr_left fun other hother => by rw [hview other hother]
        · intro e w'' _ hrestPost
          obtain ⟨-, errors, -, hentries⟩ := hrestPost
          cases hentries
        · intro rest
          exact World.StaysBroken.allows.pure _
      · intro outcome
        apply World.StaysBroken.allows.bind
        · apply refreshAll_within
          · exact World.StaysBroken.allows.mono (fun _ _ => trivial) fun _ _ => trivial
          · exact fun _ _ _ => trivial
        · intro rest
          exact World.StaysBroken.allows.pure _

end Loop

end BondTrading
