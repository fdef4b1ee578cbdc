/-
# BondTrading.Sheets.FailedRefreshes -- a refresh that fails beside others

A run whose `execute` returned wrote one batch, computed from its rows and from what the
tables and MOEX say of their ISINs.  A refresh that fails leaves the others as they are
exactly when it leaves the session usable: nothing in the loop over the ISINs rolls back.
-/
import BondTrading.Sheets.Attempts
import BondTrading.Sheets.Batches
import Mathlib.Data.List.Pairwise

namespace BondTrading

open Py (Decimal Dict Instant Zone Routine)
open Sql (Fault World)

/-! ## A run that returned -/

/-- The only write to a sheet among the calls. -/
def ServiceWorld.WroteOnly (w : ServiceWorld) (k : ExternalCall) : Prop :=
  k ∈ w.calls ∧ ∀ k' ∈ w.calls, k'.Writes → k' = k

/-- What a run that returned has done. -/
structure Completed [Py.Context] (env : SyncEnvironment) (w w' : ServiceWorld)
    (connection : SheetConnectionModel) (rows : List SheetDataRow) (batch : List CellUpdate) :
    Prop where
  computed : sheetBatch env connection (knownOf env w.work connection) rows = .ok batch
  wrote : w'.WroteOnly (.updateCells connection.spreadsheetId connection.worksheetName batch)
  kept : ∀ isin ∈ isinsOf connection rows, IsinKept env (w.work.market.view isin) isin
  stored : env.faults .complete = .none
  reloaded : env.faults .reloadJob = .none

section Completed

variable {env : SyncEnvironment} {job : SheetSyncJobModel} {w w' : ServiceWorld}
  {connection : SheetConnectionModel} {rows : List SheetDataRow}

/-- What `writeSheet` has done where it returned and left the session usable. -/
theorem writeSheet_eq_ok [Py.Context] {report : SyncReport} (hw : w.broken = false)
    (hC : w.work.Constraints) (hfresh : env.draw.Fresh (isinsOf connection rows) w.work.market)
    (h : writeSheet env connection rows w = (.ok report, w')) (hw' : w'.broken = false) :
    (∀ isin ∈ isinsOf connection rows, IsinKept env (w.work.market.view isin) isin) ∧
      ∃ batch calls, sheetBatch env connection (knownOf env w.work connection) rows = .ok batch ∧
        w'.calls = calls ++
          [.updateCells connection.spreadsheetId connection.worksheetName batch] ∧
        ∀ k ∈ calls, k.Writes → k ∈ w.calls := by
  simp only [writeSheet, Routine.bind_eq_ok] at h
  obtain ⟨refreshes, w₁, hrefresh, _, w₂, hread, loop, w₂, hlift, _, w₃, hmodify, _, w₄, hcall,
    hreturn⟩ := h
  obtain ⟨-, rfl⟩ := Prod.mk.inj hreturn
  obtain ⟨-, rfl⟩ := World.call_eq_ok.mp hcall
  obtain ⟨-, rfl⟩ := Prod.mk.inj hmodify
  obtain ⟨hloop, rfl⟩ := Routine.lift_eq_ok.mp hlift
  obtain ⟨-, rfl⟩ := World.readLoaded_eq_ok hread
  have hrefresh : refreshAll env connection (isinsOf connection rows) w = (.ok refreshes, w₂) :=
    hrefresh
  -- the loop over the ISINs left the session usable
  have hruns : World.Runs (refreshAll env connection (isinsOf connection rows)) w _ _ :=
    refreshAll_runs hw hC (Py.nodup_distinct _) hfresh fun _ h => normalized_of_mem_isinsOf h
  have husable : (refreshAll env connection (isinsOf connection rows) w).2.broken = false := by
    rw [hrefresh]
    exact hw'
  refine ⟨hruns.usable.mp husable, ?_⟩
  have hpost := hruns.outcome husable
  rw [hrefresh] at hpost
  obtain ⟨errors, herrors, hentries⟩ := hpost.entries
  have hentries := Except.ok.inj hentries
  have herrors : ∀ e ∈ refreshes.2, ∃ isin message, e = .isin isin message := by
    rw [hentries]
    exact herrors
  have hvalues : refreshes.1 = (isinsOf connection rows).map fun isin =>
      (isin, knownOf env w.work connection isin) := congrArg Prod.fst hentries
  -- the row loop computed the batch
  have hbatch := rowLoop_batch env connection refreshes.value rows herrors
  rw [hloop, sheetBatch_congr fun isin hisin => value_of_entries hvalues hisin] at hbatch
  obtain ⟨batch, hcomputed, hsame⟩ := hbatch.of_ok
  refine ⟨batch, _, hcomputed, by rw [← hsame], ?_⟩
  intro k hk hwrites
  have hsilent : Routine.Within (World.NoneNew ExternalCall.Writes)
      (refreshAll env connection (isinsOf connection rows)) :=
    refreshAll_within noneNew_writes_allows (fun _ _ _ => trivial) _ _
  have hrefreshing := hsilent w
  rw [hrefresh] at hrefreshing
  rcases List.mem_append.mp hk with hk | hk
  · exact hrefreshing k hk hwrites
  · -- the row loop only asks MOEX
    exfalso
    obtain ⟨_, _, _, rfl⟩ := hwrites
    rcases (rowLoop_effect hloop).calls _ hk with hnone | ⟨_, _, _, h⟩
    · exact absurd hnone List.not_mem_nil
    · exact ExternalCall.noConfusion h

/-- **What a run that returned has done.** -/
theorem execute_eq_ok [Py.Context] {u : Unit} (hw : w.broken = false) (hC : w.work.Constraints)
    (hcalls : ∀ k ∈ w.calls, ¬ k.Writes)
    (hread : sheetRead env w.work.sheets job = some (connection, rows))
    (hfresh : env.draw.Fresh (isinsOf connection rows) w.work.market)
    (h : execute env job w = (.ok u, w')) :
    ∃ batch, Completed env w w' connection rows batch := by
  simp only [execute, Routine.bind_eq_ok] at h
  obtain ⟨⟨connection', rows'⟩, w₁, hreadRun, report, w₂, hwrite, _, w₃, hedit, _, w₄, hcommit,
    hquery⟩ := h
  obtain ⟨hreload, hw₄, -, hend⟩ := World.query_eq_ok hquery
  have hstored := World.commit_ok_fault hcommit
  obtain ⟨_, hcommitted⟩ := World.commit_eq_ok hcommit
  have hedited := World.edit_eq_ok.mp hedit
  -- the end of the run changes neither the calls nor the state of the session
  have hlast : w'.calls = w₂.calls := by
    rw [hend, hcommitted]
    show w₃.calls = w₂.calls
    rw [hedited]
  have hw₃ : w₃.broken = false := by
    rw [hcommitted] at hw₄
    exact hw₄
  have hw₂ : w₂.broken = false := by
    rw [hedited] at hw₃
    exact hw₃
  have hw₁ : w₁.broken = false := by
    have hwithin : World.Sticky (writeSheet env connection' rows') :=
      writeSheet_within (World.StaysBroken.allows.mono (fun _ _ => trivial) fun _ _ => trivial) _ _
    have hsticky := hwithin w₁
    rw [hwrite] at hsticky
    by_contra hbroken
    exact Bool.noConfusion ((hsticky (Bool.not_eq_false _ ▸ hbroken)).symm.trans hw₂)
  have hruns : World.Runs (readSheet env job) w _ _ := readSheet_runs hw hC
  have hreadPost := hruns.outcome (by rw [hreadRun]; exact hw₁)
  have hsilent : Routine.Within (World.NoneNew ExternalCall.Writes) (readSheet env job) :=
    readSheet_within noneNew_writes_allows job
  have hreading := hsilent w
  rw [hreadRun] at hreadPost hreading
  obtain ⟨hrows, hprogress⟩ := hreadPost
  obtain ⟨rfl, rfl⟩ := Prod.mk.inj (Option.some.inj (hrows.trans hread))
  have hmarket : w₁.work.market = w.work.market := hprogress.market
  have hfresh₁ : env.draw.Fresh (isinsOf connection' rows') w₁.work.market := by
    rw [hmarket]
    exact hfresh
  obtain ⟨hkept, batch, calls, hcomputed, hmade, hnew⟩ :=
    writeSheet_eq_ok hw₁ hprogress.constraints hfresh₁ hwrite hw₂
  unfold knownOf at hcomputed
  rw [hmarket] at hkept hcomputed
  refine ⟨batch, hcomputed, ⟨?_, ?_⟩, hkept, hstored, hreload⟩
  · rw [hlast, hmade]
    exact List.mem_append_right _ (List.mem_singleton.mpr rfl)
  · intro k hk hwrites
    rw [hlast, hmade] at hk
    rcases List.mem_append.mp hk with hk | hk
    · exact absurd hwrites (hcalls k (hreading k (hnew k hk hwrites) hwrites))
    · exact List.mem_singleton.mp hk

/-- A run returns where nothing on its way breaks the session and its batch is taken. -/
theorem execute_ok [Py.Context] (hw : w.broken = false) (hC : w.work.Constraints)
    (hjob : ∃ row, w.work.sheets.job? job.id = some row)
    (hread : sheetRead env w.work.sheets job = some (connection, rows))
    (hfresh : env.draw.Fresh (isinsOf connection rows) w.work.market)
    (hkept : ∀ isin ∈ isinsOf connection rows, IsinKept env (w.work.market.view isin) isin)
    (hwritten : SheetWritten env w.work connection rows)
    (hstored : env.faults .complete = .none) (hreloaded : env.faults .reloadJob = .none) :
    (execute env job w).1 = .ok () := by
  have hsame : ∀ {connection' rows'}, sheetRead env w.work.sheets job = some (connection', rows') →
      connection = connection' ∧ rows = rows' := fun hread' =>
    Prod.mk.inj (Option.some.inj (hread.symm.trans hread'))
  have hfreshAll : ∀ connection' rows',
      sheetRead env w.work.sheets job = some (connection', rows') →
        env.draw.Fresh (isinsOf connection' rows') w.work.market := by
    intro connection' rows' hread'
    obtain ⟨rfl, rfl⟩ := hsame hread'
    exact hfresh
  have hattempt : AttemptKept env w.work job := by
    refine ⟨?_, ?_⟩
    · intro haborted
      unfold sheetRead at hread
      rw [haborted] at hread
      cases hread
    · intro connection' rows' hread'
      obtain ⟨rfl, rfl⟩ := hsame hread'
      exact ⟨hkept, fun _ => hstored⟩
  have hruns := storeSheet_runs hw hC hjob hfreshAll
  have husable := hruns.usable.mpr hattempt
  have hpost := hruns.outcome husable
  have hok := hpost.returns.mpr ⟨connection, rows, hread, hwritten⟩
  rcases hstore : storeSheet env job w with ⟨r, w'⟩
  rw [hstore] at hok husable
  obtain rfl : r = .ok () := hok
  rw [execute_of_storeSheet, Routine.bind_of_ok hstore, hreloaded, World.query_none husable]

end Completed

/-! ## The failing rows -/

/-- A row whose ISIN MOEX or the database fails, by what is known of that ISIN alone. -/
def SheetDataRow.fails (env : SyncEnvironment) (t : Tables) (connection : SheetConnectionModel)
    (row : SheetDataRow) : Bool :=
  match normalizedRow connection row with
  | some (_, isin) => (knownOf env t connection isin).isNone
  | none => false

/-- The same surroundings, and a sheet without the failing rows. -/
def SyncEnvironment.withoutFailing (env : SyncEnvironment) (t : Tables)
    (connection : SheetConnectionModel) : SyncEnvironment :=
  { env with
    readRows := fun spreadsheetId worksheetName columns firstDataRow =>
      (env.readRows spreadsheetId worksheetName columns firstDataRow).map
        (List.filter fun row => ¬ row.fails env t connection) }

/-- **The failing refreshes harm no other row**: the run returns, and a row whose own refresh
does not fail gets the updates of the run without the failing rows. -/
structure Isolated [Py.Context] (env : SyncEnvironment) (job : SheetSyncJobModel) (w : ServiceWorld)
    (connection : SheetConnectionModel) (rows : List SheetDataRow) : Prop where
  returns : (execute env job w).1 = .ok ()
  same : ∃ batch batch',
    ServiceWorld.WroteOnly (execute env job w).2
      (.updateCells connection.spreadsheetId connection.worksheetName batch) ∧
    ServiceWorld.WroteOnly (execute (env.withoutFailing w.work connection) job w).2
      (.updateCells connection.spreadsheetId connection.worksheetName batch') ∧
    ∀ row ∈ rows, ∀ isin, normalizeIsin (row.rawIsin connection) = .ok isin →
      knownOf env w.work connection isin ≠ none →
        rowCells batch row.rowNumber = rowCells batch' row.rowNumber

section Isolation

variable {env : SyncEnvironment} {t : Tables} {job : SheetSyncJobModel} {w : ServiceWorld}
  {connection : SheetConnectionModel} {rows : List SheetDataRow}

theorem fails_iff {row : SheetDataRow} :
    row.fails env t connection = true ↔ ∃ isin,
      normalizeIsin (row.rawIsin connection) = .ok isin ∧ knownOf env t connection isin = none := by
  unfold SheetDataRow.fails normalizedRow
  cases hisin : normalizeIsin (row.rawIsin connection) with
  | error e => exact iff_of_false Bool.noConfusion fun ⟨_, h, _⟩ => nomatch h
  | ok isin =>
      show (knownOf env t connection isin).isNone = true ↔ _
      rw [Option.isNone_iff_eq_none]
      constructor
      · intro h
        exact ⟨isin, rfl, h⟩
      · rintro ⟨_, ⟨⟩, h⟩
        exact h

theorem RefreshReturns.kept {faults : RefreshOperation → Fault} {view : InstrumentView}
    {result : MoexRefreshResult ℚ} (h : RefreshReturns faults view result) :
    RefreshKept faults view (.ok result) := by
  obtain ⟨hoperations, hdistinct⟩ := h
  show (faults .lookup).Then (_ ∧ (faults .hashes).Then (_ ∧ (faults .reloadInstrument).Then _))
  rw [hoperations .lookup (by decide), hoperations .hashes (by decide),
    hoperations .reloadInstrument (by decide)]
  refine ⟨hoperations .flush (by decide), ⟨hoperations .store (by decide), hdistinct⟩, ?_⟩
  show faults .reloadSnapshot ≠ .aborted
  rw [hoperations .reloadSnapshot (by decide)]
  exact Fault.noConfusion

/-- An ISIN the loop knows something of has left the session usable. -/
theorem isinKept_of_known {view : InstrumentView} {isin : String}
    (h : refreshedValue env connection view isin ≠ none) : IsinKept env view isin := by
  unfold refreshedValue at h
  cases hanswer : env.moex.refresh isin with
  | error e =>
      rw [hanswer] at h
      exact absurd rfl h
  | ok result =>
      rw [hanswer] at h
      cases hresult : refreshResult env view isin with
      | none =>
          rw [hresult] at h
          exact absurd rfl h
      | some pair =>
          rw [hresult] at h
          have hcashflows : env.faults (.cashflows isin) = .none := by
            by_contra hfault
            exact h (if_neg hfault)
          unfold refreshResult refreshValue at hresult
          rw [hanswer] at hresult
          have hreturns := (Option.ite_none_right_eq_some.mp hresult).1
          refine ⟨?_, fun _ => by rw [hcashflows]; exact Fault.noConfusion⟩
          rw [hanswer]
          exact hreturns.kept

/-- The ISINs of a part of the rows. -/
theorem isinsOf_filter_subset (p : SheetDataRow → Bool) :
    ∀ isin ∈ isinsOf connection (rows.filter p), isin ∈ isinsOf connection rows := by
  intro isin h
  obtain ⟨entry, hentry, rfl⟩ := List.mem_map.mp (Py.mem_distinct.mp h)
  obtain ⟨row, hrow, hsome⟩ := List.mem_filterMap.mp hentry
  refine Py.mem_distinct.mpr (List.mem_map_of_mem ?_)
  exact List.mem_filterMap.mpr ⟨row, List.mem_of_mem_filter hrow, hsome⟩

/-- What the run without the failing rows reads. -/
theorem sheetRead_withoutFailing (sheets : SheetTables) :
    sheetRead (env.withoutFailing t connection) sheets job =
      (sheetRead env sheets job).map fun read =>
        (read.1, read.2.filter fun row => ¬ row.fails env t connection) :=
  sheetRead_keeping (fun row => ¬ row.fails env t connection) sheets

theorem RefreshDraw.Apart.symm {d d' : RefreshDraw} (h : d.Apart d') : d'.Apart d :=
  ⟨h.instrument.symm, fun m n => (h.action n m).symm, h.market.symm⟩

/-- A part of the ISINs draws new identifiers as well. -/
theorem SyncDraw.Fresh.subset {draw : SyncDraw} {isins isins' : List String} {m : MarketTables}
    (h : draw.Fresh isins m) (hsub : ∀ isin ∈ isins', isin ∈ isins) (hnodup : isins'.Nodup) :
    draw.Fresh isins' m := by
  refine ⟨fun isin hisin => h.new isin (hsub isin hisin), ?_⟩
  have hapart : ∀ a ∈ isins, ∀ b ∈ isins, a ≠ b →
      (draw.refresh a).Apart (draw.refresh b) := by
    intro a ha b hb hne
    have hsymm : Std.Symm fun a b => (draw.refresh a).Apart (draw.refresh b) :=
      ⟨fun _ _ => RefreshDraw.Apart.symm⟩
    exact h.apart.forall ha hb hne
  refine hnodup.pairwise_of_forall_ne fun a ha b hb hne => ?_
  exact hapart a (hsub a ha) b (hsub b hb) hne

/-- The batch of all rows, from that of the rows that do not fail. -/
theorem sheetBatch_of_reduced [Py.Context] {known : String → Option RefreshedInstrument}
    {p : SheetDataRow → Bool} {batch : List CellUpdate}
    (h : sheetBatch env connection known (rows.filter p) = .ok batch)
    (hp : ∀ row ∈ rows, p row = false → ∀ isin,
      normalizeIsin (row.rawIsin connection) = .ok isin → known isin = none) :
    ∃ batch', sheetBatch env connection known rows = .ok batch' := by
  simp only [sheetBatch, Py.bind_eq_ok] at h ⊢
  obtain ⟨cells, hcells, -⟩ := h
  have hreduced := Py.mapM_returns_iff.mp ⟨cells, hcells⟩
  have hall : ∃ cells, (normalizedRows connection rows).mapM (fun entry =>
      rowUpdates connection env.zone env.moex (known entry.2) entry.1) = .ok cells := by
    apply Py.mapM_returns_iff.mpr
    intro entry hentry
    obtain ⟨row, hrow, hsome⟩ := List.mem_filterMap.mp hentry
    obtain ⟨hsame, hisin⟩ := normalizedRow_eq_some hsome
    cases hkept : p row with
    | true =>
        exact hreduced entry (List.mem_filterMap.mpr ⟨row, List.mem_filter.mpr ⟨hrow, hkept⟩, hsome⟩)
    | false =>
        rw [hp row hrow hkept entry.2 hisin]
        exact ⟨_, rfl⟩
  obtain ⟨cells', hcells'⟩ := hall
  exact ⟨_, cells', hcells', rfl⟩

/-- The rows an attempt read. -/
theorem sheetRead_numbered {sheets : SheetTables} (hrows : env.ReadsDataRows)
    (hread : sheetRead env sheets job = some (connection, rows)) :
    (rows.map SheetDataRow.rowNumber).Nodup ∧
      ∀ row ∈ rows, connection.headerRow < row.rowNumber := by
  obtain ⟨-, -, -, sheetRows, hsheet, rfl⟩ := sheetRead_eq_some.mp hread
  obtain ⟨hdistinct, hbelow⟩ := hrows _ _ _ _ _ hsheet
  exact dataRows_numbered hdistinct hbelow

/-- **When failing refreshes harm no other row.** -/
theorem execute_isolated_iff [Py.Context] (hw : w.broken = false) (hC : w.work.Constraints)
    (hcalls : ∀ k ∈ w.calls, ¬ k.Writes) (hjob : ∃ row, w.work.sheets.job? job.id = some row)
    (hread : sheetRead env w.work.sheets job = some (connection, rows))
    (hrows : env.ReadsDataRows)
    (hfresh : env.draw.Fresh (isinsOf connection rows) w.work.market)
    (haccepts : ∀ spreadsheetId worksheetName batch,
      env.updateCells spreadsheetId worksheetName batch = .ok ())
    (hreduced : (execute (env.withoutFailing w.work connection) job w).1 = .ok ()) :
    Isolated env job w connection rows ↔
      ∀ isin ∈ isinsOf connection rows, knownOf env w.work connection isin = none →
        IsinKept env (w.work.market.view isin) isin := by
  have hreadReduced : sheetRead (env.withoutFailing w.work connection) w.work.sheets job =
      some (connection, rows.filter fun row => ¬ row.fails env w.work connection) := by
    rw [sheetRead_withoutFailing, hread]
    rfl
  have hfreshReduced := hfresh.subset (isinsOf_filter_subset fun row =>
    ¬ row.fails env w.work connection) (Py.nodup_distinct _)
  rcases hrun' : execute (env.withoutFailing w.work connection) job w with ⟨r', w'⟩
  rw [hrun'] at hreduced
  obtain rfl : r' = .ok () := hreduced
  obtain ⟨batch', hbatch'⟩ := execute_eq_ok hw hC hcalls hreadReduced hfreshReduced hrun'
  have hcomputed' : sheetBatch env connection (knownOf env w.work connection)
      (rows.filter fun row => ¬ row.fails env w.work connection) = .ok batch' := hbatch'.computed
  constructor
  · intro h isin hisin _
    rcases hrun : execute env job w with ⟨r, w''⟩
    have hok := h.returns
    rw [hrun] at hok
    obtain rfl : r = .ok () := hok
    obtain ⟨batch, hbatch⟩ := execute_eq_ok hw hC hcalls hread hfresh hrun
    exact hbatch.kept isin hisin
  · intro hfailing
    have hkept : ∀ isin ∈ isinsOf connection rows,
        IsinKept env (w.work.market.view isin) isin := by
      intro isin hisin
      by_cases hknown : knownOf env w.work connection isin = none
      · exact hfailing isin hisin hknown
      · exact isinKept_of_known hknown
    obtain ⟨batch, hcomputed⟩ := sheetBatch_of_reduced hcomputed' fun row _ hout isin hisin => by
      by_contra hknown
      have hfails : row.fails env w.work connection = true := by simpa using hout
      obtain ⟨isin', hisin', hnone⟩ := fails_iff.mp hfails
      obtain rfl := Except.ok.inj (hisin.symm.trans hisin')
      exact hknown hnone
    have hreturns := execute_ok hw hC hjob hread hfresh hkept ⟨batch, hcomputed, haccepts _ _ _⟩
      hbatch'.stored hbatch'.reloaded
    rcases hrun : execute env job w with ⟨r, w''⟩
    rw [hrun] at hreturns
    obtain rfl : r = .ok () := hreturns
    obtain ⟨written, hwritten⟩ := execute_eq_ok hw hC hcalls hread hfresh hrun
    obtain rfl := Except.ok.inj (hcomputed.symm.trans hwritten.computed)
    refine ⟨by rw [hrun], batch, batch', by rw [hrun]; exact hwritten.wrote,
      by rw [hrun']; exact hbatch'.wrote, ?_⟩
    -- a row that does not fail is in both runs
    intro row hrow isin hisin hknown
    obtain ⟨hdata, hheader⟩ := sheetRead_numbered hrows hread
    have hrow' : row ∈ rows.filter fun row =>
        ¬ row.fails env w.work connection := by
      refine List.mem_filter.mpr ⟨hrow, ?_⟩
      rw [decide_eq_true_eq]
      intro hfails
      obtain ⟨isin', hisin', hnone⟩ := fails_iff.mp hfails
      obtain rfl := Except.ok.inj (hisin.symm.trans hisin')
      exact hknown hnone
    have hcells := (rowCells_batch hcomputed hdata hheader hrow).1 isin hisin
    have hcells' := (rowCells_batch hcomputed' (List.Nodup.sublist (List.filter_sublist.map _) hdata)
      (fun row hrow => hheader row (List.mem_of_mem_filter hrow)) hrow').1 isin hisin
    exact Except.ok.inj (hcells.symm.trans hcells')

end Isolation

/-! ## A run over two bonds -/

/-- A bond at par, and another one that MOEX answers for in its own way. -/
def besidePar (odd : Except PyError (MoexRefreshResult ℚ)) (isin : String) :
    Except PyError (MoexRefreshResult ℚ) :=
  if isin = "RU000A107SX3" then odd else .ok (parBond (40, "coupon-40") isin)

theorem besidePar_isin {odd : Except PyError (MoexRefreshResult ℚ)}
    (h : ∀ result, odd = .ok result → result.instrument.isin = "RU000A107SX3") (isin : String)
    (result : MoexRefreshResult ℚ) (hanswer : besidePar odd isin = .ok result) :
    result.instrument.isin = isin := by
  unfold besidePar at hanswer
  split at hanswer
  · rename_i hodd
    rw [hodd]
    exact h result hanswer
  · obtain rfl := Except.ok.inj hanswer
    rfl

/-- MOEX is down for the first bond. -/
def silentClient : MoexClient :=
  answeringClient (besidePar (.error (.external "HTTP 503")))
    (besidePar_isin fun _ h => nomatch h)

/-- MOEX lists the coupon of the first bond twice. -/
def repeatingClient : MoexClient :=
  answeringClient (besidePar (.ok (repeatedBond "RU000A107SX3"))) (besidePar_isin fun _ h => by
    obtain rfl := Except.ok.inj h
    rfl)

/-- A row of each bond. -/
def pairRows (firstDataRow : ℕ) : List SheetDataRow :=
  [parRow firstDataRow (.text "RU000A107SX3") (.number "45296") (.number "10") (.text "900,5")
      .none (.text "") (.number "12"),
    parRow (firstDataRow + 1) (.text "RU000A107SY1") (.number "45296") (.number "10")
      (.text "900,5") .none (.text "") (.number "12")]

/-- Each bond draws identifiers of its own. -/
def pairDraw (n : ℕ) : RefreshDraw := ⟨30 + n, fun k => 40 + 2 * k + n, 50 + n, 1720000001000000⟩

/-- The surroundings with this client. -/
def pairEnvironment (moex : MoexClient) : SyncEnvironment :=
  { parEnvironment pairRows fun _ => .none with
    moex
    draw := ⟨fun isin => if isin = "RU000A107SX3" then pairDraw 0 else pairDraw 1,
      1720000000000000, 1720000002000000⟩ }

/-- **One coupon that MOEX lists twice** fails the other bond, and the run with it. -/
theorem repeatingClient_not_isolated :
    (execute ((pairEnvironment repeatingClient).withoutFailing parDatabase.val parConnection) parJob
        (World.opened parDatabase)).1 = .ok () ∧
      (pairRows 2).map (SheetDataRow.fails (pairEnvironment repeatingClient) parDatabase.val
        parConnection) = [true, false] ∧
      ¬ Isolated (pairEnvironment repeatingClient) parJob (World.opened parDatabase) parConnection
        (pairRows 2) := by
  refine ⟨by decide +kernel, by decide +kernel, ?_⟩
  intro h
  have hraised : (execute (pairEnvironment repeatingClient) parJob (World.opened parDatabase)).1 ≠
      .ok () := by decide +kernel
  exact hraised h.returns

theorem pairDraw_fresh (n : ℕ) : (pairDraw n).Fresh parDatabase.val.market := by
  refine ⟨List.not_mem_nil, fun _ => List.not_mem_nil, ?_, List.not_mem_nil⟩
  intro k l hsame
  have hsame : 40 + 2 * k + n = 40 + 2 * l + n := hsame
  omega

theorem pairDraw_apart : (pairDraw 0).Apart (pairDraw 1) := by
  refine ⟨by decide, ?_, by decide⟩
  intro k l hsame
  have hsame : 40 + 2 * k + 0 = 40 + 2 * l + 1 := hsame
  omega

theorem pairEnvironment_fresh (moex : MoexClient) : (pairEnvironment moex).draw.Fresh
    ["RU000A107SX3", "RU000A107SY1"] parDatabase.val.market := by
  refine ⟨fun isin _ => ?_, List.pairwise_pair.mpr pairDraw_apart⟩
  show (if isin = "RU000A107SX3" then pairDraw 0 else pairDraw 1).Fresh _
  split
  · exact pairDraw_fresh 0
  · exact pairDraw_fresh 1

/-- A bond that MOEX does not answer for, and that is not stored. -/
theorem isinKept_of_silence {env : SyncEnvironment} {view : InstrumentView} {isin : String}
    {e : PyError} (hanswer : env.moex.refresh isin = .error e) (hnew : view.instrument = none)
    (hfaults : ∀ operation, env.faults operation = .none) : IsinKept env view isin := by
  refine ⟨?_, fun _ => by rw [hfaults]; exact Fault.noConfusion⟩
  rw [hanswer]
  show (env.faults (.refresh isin .lookup)).Then _
  rw [hfaults]
  exact Or.inl hnew

/-- MOEX that is down for one bond harms no other row. -/
theorem execute_isolated_silentClient :
    Isolated (pairEnvironment silentClient) parJob (World.opened parDatabase) parConnection
      (pairRows 2) := by
  have hisins : isinsOf parConnection (pairRows 2) = ["RU000A107SX3", "RU000A107SY1"] := by
    decide +kernel
  have hread : sheetRead (pairEnvironment silentClient) parDatabase.val.sheets parJob =
      some (parConnection, pairRows 2) := by decide +kernel
  have hrows : (pairEnvironment silentClient).ReadsDataRows := by
    intro _ _ _ firstDataRow rows h
    obtain rfl := Except.ok.inj h
    refine ⟨?_, ?_⟩
    · simp [pairRows, parRow]
    · simp [pairRows, parRow]
  have hfresh : (pairEnvironment silentClient).draw.Fresh (isinsOf parConnection (pairRows 2))
      parDatabase.val.market := by
    rw [hisins]
    exact pairEnvironment_fresh silentClient
  have hkept : ∀ isin ∈ isinsOf parConnection (pairRows 2),
      knownOf (pairEnvironment silentClient) parDatabase.val parConnection isin = none →
        IsinKept (pairEnvironment silentClient) (parDatabase.val.market.view isin) isin := by
    rw [hisins]
    intro isin hisin hnone
    rcases List.mem_cons.mp hisin with rfl | hisin
    · exact isinKept_of_silence (e := .external "HTTP 503") (by decide +kernel) rfl fun _ => rfl
    · obtain rfl := List.mem_singleton.mp hisin
      exact absurd hnone (by decide +kernel)
  exact (execute_isolated_iff (w := World.opened parDatabase) rfl parDatabase.property
    (fun _ h => absurd h List.not_mem_nil) ⟨parJob, by decide +kernel⟩ hread hrows hfresh
    (fun _ _ _ => rfl) (by decide +kernel)).mpr hkept

end BondTrading
