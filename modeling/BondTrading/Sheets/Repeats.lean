/-
# BondTrading.Sheets.Repeats -- a run over the sheet of a run

A second run that gets the same answers of MOEX, over the sheet with the first batch in it,
writes what the first wrote.  It needs two things of the answers: accrued interest in
kopecks, because J is written in kopecks and calculated with before, and quotes with a time
of their own, because a quote without one has the time at which it was received.
-/
import BondTrading.Sheets.Refilled
import BondTrading.Sheets.Writes

namespace BondTrading

open Py (Agrees Decimal Dict Instant Routine Zone)
open Sql (Fault World)

/-! ## A run when the database refuses nothing -/

section Attempt

variable {env : SyncEnvironment} {job : SheetSyncJobModel} {w w' : ServiceWorld}
  {connection : SheetConnectionModel} {rows : List SheetDataRow} {k : ExternalCall}

/-- A run that writes has read the sheet. -/
theorem sheetRead_of_call [Py.Context] (hw : w.broken = false) (hC : w.work.Constraints)
    (henv : env.Unrefused) (hk : k.Writes) (hnew : k ∉ w.calls)
    (h : k ∈ (execute env job w).2.calls) :
    ∃ connection rows, sheetRead env w.work.sheets job = some (connection, rows) := by
  obtain ⟨⟨connection, rows⟩, w₁, hread, -, -⟩ :=
    World.Silent.call_of_bind (readSheet_within noneNew_writes_allows job) hk hnew h
  have hruns : World.Runs (readSheet env job) w _ _ := readSheet_runs hw hC
  have husable := hruns.usable.mpr (by rw [henv]; exact Fault.noConfusion)
  have hpost := (hruns.outcome husable).1
  rw [hread] at hpost
  exact ⟨connection, rows, hpost.symm⟩

/-- The end of a run changes no market row. -/
theorem completeSheet_market (henv : env.Unrefused) (connection : ConnectionId)
    (report : SyncReport) (hclean : w.broken = false → w.MarketCommitted) :
    ((World.edit (Tables.editSheets (·.complete connection job.id report)) >>= fun _ =>
      World.commit (env.faults .complete) >>= fun _ =>
        World.query (env.faults .reloadJob) fun _ => () : Service Unit) w).2.committed.val.market =
          w.committed.val.market := by
  rw [Routine.bind_of_ok (World.edit_apply _ _), henv, henv]
  cases hw : w.broken with
  | true =>
      rw [Routine.bind_of_error (World.commit_broken (by exact hw) _)]
  | false =>
      by_cases hC : (Tables.editSheets (·.complete connection job.id report) w.work).Constraints
      · rw [Routine.bind_of_ok (World.commit_none (by exact hw) (by exact hC)),
          World.query_none (by exact hw)]
        exact (hclean hw).symm
      · rw [Routine.bind_of_error (World.commit_refused (by exact hw) (fun h => hC h.2))]

/-- **A run when the database refuses nothing**: what it leaves in the market tables, and
what it writes. -/
theorem execute_end [Py.Context] (henv : env.Unrefused) (hw : w.broken = false)
    (hC : w.work.Constraints) (hclean : w.MarketCommitted) (hcalls : ∀ k ∈ w.calls, ¬ k.Writes)
    (hread : sheetRead env w.work.sheets job = some (connection, rows))
    (hfresh : env.draw.Fresh (isinsOf connection rows) w.work.market) :
    w.work.market.Repeatable (execute env job w).2.committed.val.market env
        (isinsOf connection rows) ∧
      ∀ k : ExternalCall, k.Writes → (k ∈ (execute env job w).2.calls ↔
        w.work.market.reached env.moex (isinsOf connection rows) = isinsOf connection rows ∧
        ∃ batch, sheetBatch env connection
            (loopValue env connection w.work.market (isinsOf connection rows)) rows = .ok batch ∧
          k = .updateCells connection.spreadsheetId connection.worksheetName batch) := by
  -- the loop over the ISINs, from any world that reading the sheet leaves
  have hloop : ∀ w₁ : ServiceWorld, w₁.broken = false → SheetProgress w.work w₁.work →
      w₁.committed = w.committed → LoopEnd env connection (isinsOf connection rows) w₁
        (refreshAll env connection (isinsOf connection rows) w₁).1
        (refreshAll env connection (isinsOf connection rows) w₁).2 := by
    intro w₁ hw₁ hprogress hcommitted
    have hmarket : w₁.work.market = w.work.market := hprogress.market
    refine refreshAll_end henv hw₁ hprogress.constraints ?_ (Py.nodup_distinct _)
      (by rw [hmarket]; exact hfresh) fun _ h => normalized_of_mem_isinsOf h
    unfold ServiceWorld.MarketCommitted
    rw [hcommitted, hmarket]
    exact hclean
  constructor
  · obtain ⟨w₁, hrun, hw₁, hprogress, hcommitted, -⟩ := readSheet_of_sheetRead hw hC hcalls hread
    have hend := hloop w₁ hw₁ hprogress hcommitted
    rcases hall : refreshAll env connection (isinsOf connection rows) w₁ with ⟨entries, w₂⟩
    rw [hall] at hend
    obtain ⟨errors, rfl⟩ := hend.entries
    obtain ⟨hsame, hwork, hbroken, -⟩ := writeSheet_end hall rfl
    have hlast : (execute env job w).2.committed.val.market =
        (writeSheet env connection rows w₁).2.committed.val.market := by
      unfold execute
      rw [Routine.bind_of_ok hrun]
      rcases hwrite : writeSheet env connection rows w₁ with ⟨report | report, w₃⟩
      · dsimp only
        rw [Routine.bind_of_error hwrite]
      · rw [hwrite] at hsame hwork hbroken
        have hclean₃ : w₃.broken = false → w₃.MarketCommitted := by
          intro hw₃
          unfold ServiceWorld.MarketCommitted
          rw [show w₃.committed = w₂.committed from hsame, show w₃.work = w₂.work from hwork]
          exact hend.committed (hbroken ▸ hw₃)
        dsimp only
        rw [Routine.bind_of_ok hwrite]
        exact completeSheet_market henv connection.id report hclean₃
    have hmarket : w₁.work.market = w.work.market := hprogress.market
    rw [hlast, hsame, ← hmarket]
    exact ⟨hend.stored, hend.others⟩
  · intro k hk
    refine execute_writes _ hw hC hcalls hread (fun w₁ hw₁ hprogress hcommitted => ?_) hk
    have hend := hloop w₁ hw₁ hprogress hcommitted
    have hmarket : w₁.work.market = w.work.market := hprogress.market
    rw [← hmarket]
    exact ⟨hend.readable, hend.entries⟩

end Attempt

/-! ## The second batch -/

section Again

variable {env env' : SyncEnvironment} {connection : SheetConnectionModel}
  {rows : List SheetDataRow} {batch : List CellUpdate}
  {known known' : String → Option RefreshedInstrument} {f : SheetDataRow → SheetDataRow}

/-- The data rows of a sheet that was read again. -/
theorem dataRows_map
    (hisin : ∀ row ∈ rows, (f row).get connection.isinColumn = row.get connection.isinColumn) :
    dataRows connection (rows.map f) = (dataRows connection rows).map f := by
  unfold dataRows
  rw [List.filter_map]
  refine congrArg (List.map f) (List.filter_congr fun row hrow => ?_)
  show decide (¬ ((f row).get connection.isinColumn).isBlank = true) = _
  rw [hisin row hrow]

theorem normalizedRows_map
    (hisin : ∀ row ∈ rows, (f row).get connection.isinColumn = row.get connection.isinColumn) :
    normalizedRows connection (rows.map f) =
      (normalizedRows connection rows).map fun entry => (f entry.1, entry.2) := by
  have hrow : ∀ row ∈ rows, normalizedRow connection (f row) =
      (normalizedRow connection row).map fun entry => (f entry.1, entry.2) := by
    intro row hrow
    have hraw : (f row).rawIsin connection = row.rawIsin connection :=
      congrArg CellValue.str (hisin row hrow)
    unfold normalizedRow
    rw [hraw]
    generalize normalizeIsin (row.rawIsin connection) = normalized
    cases normalized with
    | ok isin => rfl
    | error e => rfl
  unfold normalizedRows
  rw [List.filterMap_map, List.map_filterMap]
  refine List.filterMap_congr fun row hmem => ?_
  rw [Function.comp_apply]
  exact hrow row hmem

theorem isinsOf_map
    (hisin : ∀ row ∈ rows, (f row).get connection.isinColumn = row.get connection.isinColumn) :
    isinsOf connection (rows.map f) = isinsOf connection rows := by
  unfold isinsOf
  rw [normalizedRows_map hisin, List.map_map]
  rfl

/-- **The second batch** writes to every row what the first wrote, save J and L. -/
theorem sheetBatch_again [Py.Context] (hplaced : WellPlaced connection)
    (hzone : env'.zone = env.zone)
    (hshown : ∀ isin, (known' isin).map RefreshedInstrument.shown =
      (known isin).map RefreshedInstrument.shown)
    (haccrued : env'.moex.accruedInterestOn = env.moex.accruedInterestOn)
    (hkopecks : ∀ secid boardId date d,
      env.moex.accruedInterestOn secid boardId date = .ok (some d) → d.InKopecks)
    (hrows : (rows.map SheetDataRow.rowNumber).Nodup)
    (hbelow : ∀ row ∈ rows, connection.headerRow < row.rowNumber)
    (hnumber : ∀ row ∈ rows, (f row).rowNumber = row.rowNumber)
    (hisin : ∀ row ∈ rows, (f row).get connection.isinColumn = row.get connection.isinColumn)
    (hfilled : ∀ row ∈ rows, ∀ values : RowUpdates,
      rowCells batch row.rowNumber = cellUpdates row.rowNumber values → row.Refilled (f row) values)
    (hbatch : sheetBatch env connection known rows = .ok batch) :
    ∃ batch', sheetBatch env' connection known' (rows.map f) = .ok batch' ∧
      ∀ row ∈ rows, ∀ column ∉ filledColumns,
        written batch' row.rowNumber column = written batch row.rowNumber column := by
  have hvalues : ∀ row ∈ rows, ∀ isin, normalizeIsin (row.rawIsin connection) = .ok isin →
      ∃ values values' : RowUpdates,
        rowCells batch row.rowNumber = cellUpdates row.rowNumber values ∧
        rowUpdates connection env'.zone env'.moex (known' isin) (f row) =
          .ok (cellUpdates row.rowNumber values') ∧ values.SameOff values' := by
    intro row hrow isin hok
    have hcells := (rowCells_batch hbatch hrows hbelow hrow).1 isin hok
    obtain ⟨values, hvalues, hsame⟩ := rowUpdates_eq_ok.mp hcells
    obtain ⟨values', hvalues', hoff⟩ := rowValues_again hplaced (hshown isin) haccrued hkopecks
      (hfilled row hrow values hsame) hvalues
    refine ⟨values, values', hsame, ?_, hoff⟩
    rw [hzone, ← hnumber row hrow]
    exact rowUpdates_eq_ok.mpr ⟨values', hvalues', rfl⟩
  obtain ⟨batch', hbatch'⟩ : ∃ batch', sheetBatch env' connection known' (rows.map f) =
      .ok batch' := by
    have hcells : ∃ cells, (normalizedRows connection (rows.map f)).mapM (fun entry =>
        rowUpdates connection env'.zone env'.moex (known' entry.2) entry.1) = .ok cells := by
      apply Py.mapM_returns_iff.mpr
      intro entry hentry
      rw [normalizedRows_map hisin] at hentry
      obtain ⟨⟨row, isin⟩, hmem, rfl⟩ := List.mem_map.mp hentry
      obtain ⟨hrow, hok⟩ := mem_normalizedRows hmem
      obtain ⟨-, values', -, hreturns, -⟩ := hvalues row hrow isin hok
      exact ⟨_, hreturns⟩
    obtain ⟨cells, hcells⟩ := hcells
    simp only [sheetBatch, Py.bind_eq_ok]
    exact ⟨_, cells, hcells, rfl⟩
  refine ⟨batch', hbatch', ?_⟩
  have hnumbers : (rows.map f).map SheetDataRow.rowNumber = rows.map SheetDataRow.rowNumber := by
    rw [List.map_map]
    exact List.map_congr_left hnumber
  have hbelow' : ∀ row ∈ rows.map f, connection.headerRow < row.rowNumber := by
    intro row hrow
    obtain ⟨row, hmem, rfl⟩ := List.mem_map.mp hrow
    rw [hnumber row hmem]
    exact hbelow row hmem
  intro row hrow column hcolumn
  obtain ⟨hvalid, hinvalid⟩ := rowCells_batch hbatch hrows hbelow hrow
  obtain ⟨hvalid', hinvalid'⟩ := rowCells_batch hbatch' (hnumbers ▸ hrows) hbelow'
    (List.mem_map_of_mem hrow)
  have hraw : (f row).rawIsin connection = row.rawIsin connection :=
    congrArg CellValue.str (hisin row hrow)
  rw [hraw, hnumber row hrow] at hvalid' hinvalid'
  rw [← written_rowCells batch', ← written_rowCells batch]
  cases hok : normalizeIsin (row.rawIsin connection) with
  | error e => rw [hinvalid e hok, hinvalid' e hok]
  | ok isin =>
      obtain ⟨values, values', hcells, hreturns, hoff⟩ := hvalues row hrow isin hok
      have hcells' := Except.ok.inj ((hvalid' isin hok).symm.trans hreturns)
      rw [hcells, hcells', written_cellUpdates, written_cellUpdates, hoff column hcolumn]

end Again

/-! ## The sheet of the first run -/

section Sheet

variable {env : SyncEnvironment} {g : MemoryGoogleSheetsGateway} {connection : SheetConnectionModel}
  {sheetRows : List SheetDataRow} {batch : List CellUpdate}

/-- The columns a run reads. -/
def SheetConnectionModel.readColumns (connection : SheetConnectionModel) : List String :=
  Py.distinct (connection.isinColumn :: sheetInputColumns)

/-- The rows of a worksheet, as a run asks for them. -/
def MemoryGoogleSheetsGateway.rowsFor (g : MemoryGoogleSheetsGateway)
    (connection : SheetConnectionModel) : Except PyError (List SheetDataRow) :=
  g.readRows connection.spreadsheetId connection.worksheetName connection.readColumns
    (connection.headerRow + 1)

/-- The row of the sheet with the batch in it. -/
def rereadRow (g : MemoryGoogleSheetsGateway) (connection : SheetConnectionModel)
    (batch : List CellUpdate) (row : SheetDataRow) : SheetDataRow :=
  (g.updated connection.spreadsheetId connection.worksheetName batch).readRow
    connection.spreadsheetId connection.worksheetName connection.readColumns row.rowNumber

@[simp] theorem rowNumber_rereadRow (row : SheetDataRow) :
    (rereadRow g connection batch row).rowNumber = row.rowNumber := by
  unfold rereadRow MemoryGoogleSheetsGateway.readRow
  rfl

/-- **A cell that is read again** holds what was last written to it, or what it held. -/
theorem get_rereadRow (hread : g.rowsFor connection = .ok sheetRows) {row : SheetDataRow}
    (hrow : row ∈ sheetRows) {column : String} (hcolumn : column ∈ connection.readColumns) :
    (rereadRow g connection batch row).get column =
      ((written batch row.rowNumber column).getLast?.map CellContent.cell).getD
        (row.get column) := by
  obtain ⟨-, -, hrows⟩ := Py.bind_eq_ok.mp hread
  obtain rfl := Except.ok.inj hrows
  obtain ⟨n, -, rfl⟩ := List.mem_map.mp hrow
  have hnumber : (g.readRow connection.spreadsheetId connection.worksheetName
      connection.readColumns n).rowNumber = n := rfl
  unfold rereadRow
  rw [hnumber, MemoryGoogleSheetsGateway.get_readRow hcolumn,
    MemoryGoogleSheetsGateway.get?_updated, MemoryGoogleSheetsGateway.get_readRow hcolumn]
  cases (written batch n column).getLast? with
  | none => rfl
  | some content => rfl

/-- Where nothing is written, the cell is read as it was. -/
theorem written_eq_nil (hframe : ∀ u ∈ batch, InFrame connection sheetRows u)
    (hbelow : ∀ row ∈ sheetRows, connection.headerRow + 1 ≤ row.rowNumber) {row : SheetDataRow}
    (hrow : row ∈ sheetRows) {column : String}
    (hcolumn : column ∈ connection.isinColumn :: ["E", "H", "I", "V"]) :
    written batch row.rowNumber column = [] := by
  unfold written
  rw [List.map_eq_nil_iff, List.filter_eq_nil_iff]
  intro u hu hcell
  obtain ⟨hnumber, rfl⟩ := of_decide_eq_true hcell
  cases hframe u hu with
  | header header =>
      have hfirst := hbelow row hrow
      omega
  | data row read number isin column customer => exact customer hcolumn

theorem rows_of_inFrame (hframe : ∀ u ∈ batch, InFrame connection sheetRows u) :
    ∀ u ∈ batch, connection.headerRow + 1 ≤ u.rowNumber →
      u.rowNumber ∈ sheetRows.map SheetDataRow.rowNumber := by
  intro u hu hfirst
  cases hframe u hu with
  | header header => omega
  | data row read number => exact number ▸ List.mem_map_of_mem read

/-- **The rows a second run reads.** -/
theorem rowsFor_updated (hread : g.rowsFor connection = .ok sheetRows)
    (hframe : ∀ u ∈ batch, InFrame connection sheetRows u) :
    (g.updated connection.spreadsheetId connection.worksheetName batch).rowsFor connection =
      .ok (sheetRows.map (rereadRow g connection batch)) :=
  MemoryGoogleSheetsGateway.readRows_updated hread (rows_of_inFrame hframe)

end Sheet

/-! ## Notes on a connection -/

section Noted

variable {env : SyncEnvironment} (stored : SheetConnectionModel) (attempt success : Option Instant)
  (error hash : Option String) (rows : List SheetDataRow)

theorem rawIsin_noted (row : SheetDataRow) :
    row.rawIsin (stored.noted attempt success error hash) = row.rawIsin stored := rfl

theorem dataRows_noted :
    dataRows (stored.noted attempt success error hash) rows = dataRows stored rows := rfl

theorem normalizedRows_noted :
    normalizedRows (stored.noted attempt success error hash) rows = normalizedRows stored rows := by
  unfold normalizedRows
  refine List.filterMap_congr fun row _ => ?_
  unfold normalizedRow
  rw [rawIsin_noted]

theorem isinErrors_noted :
    isinErrors (stored.noted attempt success error hash) rows = isinErrors stored rows := by
  unfold isinErrors
  refine List.filterMap_congr fun row _ => ?_
  unfold isinError
  rw [rawIsin_noted]

theorem isinsOf_noted :
    isinsOf (stored.noted attempt success error hash) rows = isinsOf stored rows := by
  unfold isinsOf
  rw [normalizedRows_noted]

theorem valuedRow_noted [Py.Context] (zone : Zone) (moex : MoexClient) (value : RefreshedInstrument)
    (row : SheetDataRow) :
    valuedRow (stored.noted attempt success error hash) zone moex value row =
      valuedRow stored zone moex value row := by
  have hquote : quoteUpdates (stored.noted attempt success error hash) zone value =
      quoteUpdates stored zone value := by
    unfold quoteUpdates
    rfl
  have hpurchase : ∀ purchase updates,
      purchaseUpdates (stored.noted attempt success error hash) zone value purchase updates =
        purchaseUpdates stored zone value purchase updates := by
    intro purchase updates
    unfold purchaseUpdates
    rfl
  unfold valuedRow
  simp only [hquote, hpurchase]

/-- **What is noted on a connection is not computed with.** -/
theorem sheetBatch_noted [Py.Context] (known : String → Option RefreshedInstrument) :
    sheetBatch env (stored.noted attempt success error hash) known rows =
      sheetBatch env stored known rows := by
  have hfailed : failedRowUpdates (stored.noted attempt success error hash) =
      failedRowUpdates stored := by
    unfold failedRowUpdates
    rfl
  unfold sheetBatch rowUpdates headerUpdates invalidRowUpdates
  simp only [hfailed, valuedRow_noted, normalizedRows_noted, isinErrors_noted]
  rfl

theorem loopValue_noted (t : MarketTables) (isins : List String) :
    loopValue env (stored.noted attempt success error hash) t isins =
      loopValue env stored t isins := by
  funext isin
  unfold loopValue refreshedValue refreshedFrom
  rfl

end Noted

/-- Historical accrued interest in kopecks. -/
def MoexClient.AccruesInKopecks (moex : MoexClient) : Prop :=
  ∀ secid boardId date d, moex.accruedInterestOn secid boardId date = .ok (some d) → d.InKopecks

/-- **A second run writes what the first wrote**, over the sheet with the first batch in it
and whatever it held, if MOEX answers the same, in kopecks and with times of its own, and the
database refuses nothing. -/
theorem execute_repeats [Py.Context] {env env' : SyncEnvironment} {g : MemoryGoogleSheetsGateway}
    {sheetDb sheetDb' : SheetDatabase} {owner : UserId} {values : ConnectionValues}
    {id : ConnectionId} {now : Instant} {stored : SheetConnectionModel}
    {attempt attempt' success success' : Option Instant} {error error' hash hash' : Option String}
    {job job' : SheetSyncJobModel} {db db' : Database} {batch : List CellUpdate}
    (hstored : configure sheetDb owner values id now = .ok (sheetDb', stored))
    (hconnection : db.val.sheets.connection? job.connectionId =
      some (stored.noted attempt success error hash))
    (hconnection' : db'.val.sheets.connection? job'.connectionId =
      some (stored.noted attempt' success' error' hash'))
    (henv : env.Unrefused) (henv' : env'.Unrefused) (hzone : env'.zone = env.zone)
    (hsame : env.moex.SameAnswers env'.moex) (htimes : env.moex.SameTimes env'.moex)
    (hkopecks : env.moex.AccruesInKopecks)
    (hfresh : ∀ rows, g.rowsFor stored = .ok rows →
      env.draw.Fresh (isinsOf stored (dataRows stored rows)) db.val.market)
    (hfresh' : ∀ rows, g.rowsFor stored = .ok rows →
      env'.draw.Fresh (isinsOf stored (dataRows stored rows)) db'.val.market)
    (hmarket : db'.val.market =
      (execute (env.over g) job (World.opened db)).2.committed.val.market)
    (hcall : .updateCells stored.spreadsheetId stored.worksheetName batch ∈
      (execute (env.over g) job (World.opened db)).2.calls) :
    ∃ batch', .updateCells stored.spreadsheetId stored.worksheetName batch' ∈
        (execute (env'.over (g.updated stored.spreadsheetId stored.worksheetName batch)) job'
          (World.opened db')).2.calls ∧
      ∀ rows, g.rowsFor stored = .ok rows → ∀ row ∈ dataRows stored rows,
        ∀ column ∉ filledColumns,
          written batch' row.rowNumber column = written batch row.rowNumber column := by
  have hwrites : ExternalCall.Writes
      (.updateCells stored.spreadsheetId stored.worksheetName batch) := ⟨_, _, _, rfl⟩
  have hfirst : (env.over g).Unrefused := henv
  have hsecond :
      (env'.over (g.updated stored.spreadsheetId stored.worksheetName batch)).Unrefused := henv'
  -- what the first run read
  obtain ⟨connection, rows, hread⟩ :=
    sheetRead_of_call (w := World.opened db) rfl db.property hfirst hwrites List.not_mem_nil hcall
  obtain ⟨-, hfound, ⟨worksheetNames, hcheck, hworksheet⟩, sheetRows, hrows, rfl⟩ :=
    sheetRead_eq_some.mp hread
  obtain rfl := Option.some.inj (hconnection.symm.trans hfound)
  rw [dataRows_noted] at hread
  have hrows : g.rowsFor stored = .ok sheetRows := by
    unfold MemoryGoogleSheetsGateway.rowsFor SheetConnectionModel.readColumns
    exact hrows
  have hplaced : WellPlaced stored := (configure_stored hstored).1
  obtain ⟨hnodup, hbelow⟩ := MemoryGoogleSheetsGateway.over_readsDataRows env g _ _ _ _ _ hrows
  obtain ⟨sheetRows', hrows', hframe⟩ := (update_cells_inFrame (w := World.opened db) hstored
    hconnection (MemoryGoogleSheetsGateway.over_readsDataRows env g) List.not_mem_nil hcall).2
  have hrows' : g.rowsFor stored = .ok sheetRows' := by
    unfold MemoryGoogleSheetsGateway.rowsFor SheetConnectionModel.readColumns
    exact hrows'
  obtain rfl := Except.ok.inj (hrows.symm.trans hrows')
  -- and what it left
  obtain ⟨hrepeatable, hwritten⟩ := execute_end (w := World.opened db) hfirst rfl db.property rfl
    (fun _ h => absurd h List.not_mem_nil) hread
    (by rw [isinsOf_noted]; exact hfresh sheetRows hrows)
  obtain ⟨hreached, written₁, hcomputed, hbatch⟩ := (hwritten _ hwrites).mp hcall
  obtain rfl : batch = written₁ := (ExternalCall.updateCells.inj hbatch).2.2
  rw [sheetBatch_noted, loopValue_noted, isinsOf_noted] at hcomputed
  rw [isinsOf_noted] at hrepeatable hreached
  -- what the second run reads
  have hinput : ∀ column ∈ stored.isinColumn :: sheetInputColumns, column ∈ stored.readColumns :=
    fun column hcolumn => Py.mem_distinct.mpr hcolumn
  have hkept : ∀ row ∈ sheetRows, ∀ column ∈ stored.isinColumn :: ["E", "H", "I", "V"],
      (rereadRow g stored batch row).get column = row.get column := by
    intro row hrow column hcolumn
    have hread : column ∈ stored.readColumns := by
      refine hinput column ?_
      rcases List.mem_cons.mp hcolumn with rfl | hcolumn
      · exact List.mem_cons_self
      · exact List.mem_cons_of_mem _
          ((by decide : ∀ c ∈ ["E", "H", "I", "V"], c ∈ sheetInputColumns) column hcolumn)
    rw [get_rereadRow hrows hrow hread, written_eq_nil hframe hbelow hrow hcolumn]
    rfl
  have hisin : ∀ row ∈ sheetRows,
      (rereadRow g stored batch row).get stored.isinColumn = row.get stored.isinColumn :=
    fun row hrow => hkept row hrow _ List.mem_cons_self
  have hrefilled : ∀ row ∈ dataRows stored sheetRows, ∀ values : RowUpdates,
      rowCells batch row.rowNumber = cellUpdates row.rowNumber values →
        row.Refilled (rereadRow g stored batch row) values := by
    intro row hrow values hvalues
    have hmem := List.mem_of_mem_filter hrow
    refine ⟨fun column hcolumn => hkept row hmem column (List.mem_cons_of_mem _ hcolumn), ?_⟩
    intro column hcolumn
    have hread : column ∈ stored.readColumns := hinput column (List.mem_cons_of_mem _
      ((by decide : ∀ c ∈ filledColumns, c ∈ sheetInputColumns) column hcolumn))
    rw [get_rereadRow hrows hmem hread, ← written_rowCells, hvalues, written_cellUpdates]
    unfold SheetDataRow.after
    cases values.get? column with
    | none => rfl
    | some content => rfl
  have hread' : sheetRead (env'.over (g.updated stored.spreadsheetId stored.worksheetName batch))
      db'.val.sheets job' = some (stored.noted attempt' success' error' hash',
        (dataRows stored sheetRows).map (rereadRow g stored batch)) := by
    refine sheetRead_eq_some.mpr ⟨henv' _, hconnection', ⟨worksheetNames, hcheck, hworksheet⟩,
      sheetRows.map (rereadRow g stored batch), rowsFor_updated hrows hframe, ?_⟩
    exact (dataRows_map hisin).symm
  have hisins : isinsOf stored ((dataRows stored sheetRows).map (rereadRow g stored batch)) =
      isinsOf stored (dataRows stored sheetRows) :=
    isinsOf_map fun row hrow => hisin row (List.mem_of_mem_filter hrow)
  -- and what it writes
  have hfreshAgain : env'.draw.Fresh (isinsOf (stored.noted attempt' success' error' hash')
      ((dataRows stored sheetRows).map (rereadRow g stored batch))) db'.val.market := by
    rw [isinsOf_noted, hisins]
    exact hfresh' sheetRows hrows
  obtain ⟨-, hwritten'⟩ := execute_end (w := World.opened db') hsecond rfl db'.property rfl
    (fun _ h => absurd h List.not_mem_nil) hread' hfreshAgain
  have hsame' : (env.over g).moex.SameAnswers
      (env'.over (g.updated stored.spreadsheetId stored.worksheetName batch)).moex := hsame
  have htimes' : (env.over g).moex.SameTimes
      (env'.over (g.updated stored.spreadsheetId stored.worksheetName batch)).moex := htimes
  have hagain : db.val.market.Repeatable db'.val.market (env.over g)
      (isinsOf stored (dataRows stored sheetRows)) := by
    rw [hmarket]
    exact hrepeatable
  have hshown : ∀ isin, (loopValue
      (env'.over (g.updated stored.spreadsheetId stored.worksheetName batch)) stored db'.val.market
        (isinsOf stored (dataRows stored sheetRows)) isin).map RefreshedInstrument.shown =
      (loopValue (env.over g) stored db.val.market
        (isinsOf stored (dataRows stored sheetRows)) isin).map RefreshedInstrument.shown :=
    loopValue_again hfirst hsecond hsame' htimes' hagain
  have hzone' : (env'.over (g.updated stored.spreadsheetId stored.worksheetName batch)).zone =
      (env.over g).zone := hzone
  have hkopecks' : (env.over g).moex.AccruesInKopecks := hkopecks
  obtain ⟨batch', hcomputed', hsameCells⟩ := sheetBatch_again hplaced hzone' hshown hsame'.accrued
    hkopecks' (List.Nodup.sublist (List.filter_sublist.map _) hnodup)
    (fun row hrow => hbelow row (List.mem_of_mem_filter hrow))
    (fun row _ => rowNumber_rereadRow row)
    (fun row hrow => hisin row (List.mem_of_mem_filter hrow)) hrefilled hcomputed
  refine ⟨batch', (hwritten' _ ⟨_, _, _, rfl⟩).mpr ⟨?_, batch', ?_, rfl⟩, ?_⟩
  · rw [isinsOf_noted, hisins]
    exact (reached_again hsame' hagain).trans hreached
  · rw [sheetBatch_noted, loopValue_noted, isinsOf_noted, hisins]
    exact hcomputed'
  · intro rows hrows' row hrow column hcolumn
    obtain rfl := Except.ok.inj (hrows.symm.trans hrows')
    exact hsameCells row hrow column hcolumn

/-! ## A sheet that is synchronised twice -/

/-- The settings of `parValues`, with a column for the time. -/
def timedValues : ConnectionValues := { parValues with updatedAtColumn := some "B" }

def timedConnection : SheetConnectionModel := { parConnection with updatedAtColumn := some "B" }

def secondJob : SheetSyncJobModel := { parJob with id := 21 }

def timedDatabase : Database :=
  ⟨⟨⟨[], [], []⟩, ⟨[], [], [], [], []⟩, ⟨[timedConnection], [parJob, secondJob]⟩⟩,
    by decide +kernel⟩

/-- The rows of `parRows` in memory. -/
def timedSheet : MemoryGoogleSheetsGateway where
  spreadsheets := Dict.ofList [("1AbCdEfGhIjKlMn", ("Портфель", ["Портфель"]))]
  cells := Dict.ofList ((parRows 2).flatMap fun row => row.values.entries.map fun (column, value) =>
    (("1AbCdEfGhIjKlMn", "Портфель", row.rowNumber, column), value))
  updateBatches := []

/-- MOEX with quotes of this time, received at this instant, and this accrued interest. -/
def timedClient (marketTimestamp : Option Instant) (receivedAt : Instant) (accrued : ℚ) :
    MoexClient where
  refresh isin := (normalizeIsin isin).map fun isin =>
    { parBond (40, "coupon-40") isin with
      market := { (parBond (40, "coupon-40") isin).market with marketTimestamp, receivedAt } }
  accruedInterestOn _ _ _ := .ok (some (.finite accrued))
  answersIsin isin result h := by
    cases hisin : normalizeIsin isin with
    | error e =>
        rw [hisin] at h
        exact absurd h (by simp [Except.map])
    | ok normalized =>
        rw [hisin] at h
        obtain rfl := Except.ok.inj h
        rfl

/-- A run with this client. -/
def timedEnvironment (moex : MoexClient) : SyncEnvironment :=
  { parEnvironment parRows fun _ => .none with moex }

/-- A later run, that draws identifiers of its own. -/
def laterEnvironment (moex : MoexClient) (faults : SyncOperation → Fault) : SyncEnvironment :=
  { parEnvironment parRows faults with
    moex
    draw := ⟨fun _ => ⟨130, fun k => 140 + k, 150, 1720003601000000⟩, 1720003600000000,
      1720003602000000⟩ }

/-- The first run over the sheet. -/
def firstRun (moex : MoexClient) : ServiceWorld :=
  (execute ((timedEnvironment moex).over timedSheet) parJob (World.opened timedDatabase)).2

/-- The batch it writes. -/
def firstBatch (moex : MoexClient) : List CellUpdate :=
  (firstRun moex).calls.flatMap ExternalCall.batch

/-- The second run, over the sheet with that batch in it. -/
def secondRun (moex moex' : MoexClient) (faults : SyncOperation → Fault) : ServiceWorld :=
  (execute ((laterEnvironment moex' faults).over
      (timedSheet.updated "1AbCdEfGhIjKlMn" "Портфель" (firstBatch moex))) secondJob
    (World.opened (firstRun moex).committed)).2

/-- What it writes to a cell of the first data row. -/
def secondWritten (moex moex' : MoexClient) (faults : SyncOperation → Fault) (column : String) :
    List CellContent :=
  written ((secondRun moex moex' faults).calls.flatMap ExternalCall.batch) 2 column

/-- **The second run need not write what the first wrote**: the time of a quote without a
time of its own is when it was received, J is filled in rounded and read back so, and the
database may refuse the second run. -/
theorem execute_not_idempotent :
    (written (firstBatch (timedClient none 1720000000000000 10)) 2 "B" =
        [.text "2024-07-03T09:46:40+00:00"] ∧
      secondWritten (timedClient none 1720000000000000 10) (timedClient none 1720003600000000 10)
        (fun _ => .none) "B" = [.text "2024-07-03T10:46:40+00:00"]) ∧
    (written (firstBatch (timedClient none 1720000000000000 (10005 / 1000))) 2 "AH" =
        [.decimal (.finite (91455 / 100))] ∧
      secondWritten (timedClient none 1720000000000000 (10005 / 1000))
        (timedClient none 1720000000000000 (10005 / 1000)) (fun _ => .none) "AH" =
          [.decimal (.finite (91460 / 100))]) ∧
    (written (firstBatch (timedClient none 1720000000000000 10)) 2 "D" = [.text "FRESH"] ∧
      secondWritten (timedClient none 1720000000000000 10) (timedClient none 1720000000000000 10)
        (fun operation =>
          if operation = .refresh "RU000A107SX3" .lookup then .aborted else .none) "D" =
            [.text "ERROR"]) := by
  refine ⟨⟨?_, ?_⟩, ⟨?_, ?_⟩, ⟨?_, ?_⟩⟩ <;> decide +kernel

/-- Quotes with a time of their own, and accrued interest in kopecks. -/
def stampedClient (receivedAt : Instant) : MoexClient :=
  timedClient (some 1720000000000000) receivedAt 10

theorem stampedClient_sameAnswers (first second : Instant) :
    (stampedClient first).SameAnswers (stampedClient second) := by
  refine ⟨fun isin => ?_, rfl⟩
  unfold stampedClient timedClient
  dsimp only
  generalize normalizeIsin isin = normalized
  cases normalized with
  | error e => exact Agrees.error e
  | ok isin => exact Agrees.ok ⟨⟨_, rfl⟩, rfl, ⟨second, rfl⟩⟩

theorem stampedClient_sameTimes (first second : Instant) :
    (stampedClient first).SameTimes (stampedClient second) := by
  intro isin r r' hanswer _ hnone
  unfold stampedClient timedClient at hanswer
  dsimp only at hanswer
  generalize normalizeIsin isin = normalized at hanswer
  cases normalized with
  | error e => cases hanswer
  | ok isin =>
      obtain rfl := Except.ok.inj hanswer
      cases hnone

/-- The second run of it, an hour later, writes what the first wrote. -/
theorem execute_repeats_stamped :
    ∃ batch', .updateCells "1AbCdEfGhIjKlMn" "Портфель" batch' ∈
        (secondRun (stampedClient 1720000000000000) (stampedClient 1720003600000000)
          fun _ => .none).calls ∧
      ∀ rows, timedSheet.rowsFor timedConnection = .ok rows →
        ∀ row ∈ dataRows timedConnection rows, ∀ column ∉ filledColumns,
          written batch' row.rowNumber column =
            written (firstBatch (stampedClient 1720000000000000)) row.rowNumber column := by
  have hisins : ∀ rows, timedSheet.rowsFor timedConnection = .ok rows →
      isinsOf timedConnection (dataRows timedConnection rows) = ["RU000A107SX3"] := by
    intro rows hrows
    have hread : timedSheet.rowsFor timedConnection = .ok (parRows 2) := by decide +kernel
    obtain rfl := Except.ok.inj (hread.symm.trans hrows)
    decide +kernel
  have hstored : configure ⟨⟨[], []⟩, by decide⟩ 1 timedValues 10 0 =
      .ok (⟨⟨[timedConnection], []⟩, by decide⟩, timedConnection) := by decide +kernel
  have hconnection : timedDatabase.val.sheets.connection? parJob.connectionId =
      some (timedConnection.noted none none none none) := by decide +kernel
  have hconnection' : (firstRun (stampedClient 1720000000000000)).committed.val.sheets.connection?
      secondJob.connectionId = some (timedConnection.noted (some 1720000000000000)
        (some 1720000002000000) none (some "hash")) := by decide +kernel
  have hcall : .updateCells timedConnection.spreadsheetId timedConnection.worksheetName
      (firstBatch (stampedClient 1720000000000000)) ∈
        (firstRun (stampedClient 1720000000000000)).calls := by decide +kernel
  have hinstruments :
      (firstRun (stampedClient 1720000000000000)).committed.val.market.instruments.map
        BondInstrumentModel.id = [30] := by decide +kernel
  have hactions :
      (firstRun (stampedClient 1720000000000000)).committed.val.market.actions.map
        CorporateActionModel.id = [40] := by decide +kernel
  have hmarkets :
      (firstRun (stampedClient 1720000000000000)).committed.val.market.markets.map
        MarketSnapshotModel.id = [50] := by decide +kernel
  have hfirst : (timedEnvironment (stampedClient 1720000000000000)).draw.Fresh ["RU000A107SX3"]
      timedDatabase.val.market := by
    refine ⟨fun _ _ => ⟨List.not_mem_nil, fun _ => List.not_mem_nil, ?_, List.not_mem_nil⟩,
      List.pairwise_singleton ..⟩
    intro k l (hsame : 40 + k = 40 + l)
    omega
  have hsecond : (laterEnvironment (stampedClient 1720003600000000) fun _ => .none).draw.Fresh
      ["RU000A107SX3"] (firstRun (stampedClient 1720000000000000)).committed.val.market := by
    refine ⟨fun _ _ => ⟨?_, fun k => ?_, ?_, ?_⟩, List.pairwise_singleton ..⟩
    · rw [hinstruments]
      show 130 ∉ [30]
      decide
    · rw [hactions, List.mem_singleton]
      show ¬ 140 + k = 40
      omega
    · intro k l (hsame : 140 + k = 140 + l)
      omega
    · rw [hmarkets]
      show 150 ∉ [50]
      decide
  have hkopecks : (timedEnvironment (stampedClient 1720000000000000)).moex.AccruesInKopecks := by
    intro _ _ _ d hanswer
    obtain rfl := Option.some.inj (Except.ok.inj hanswer)
    intro r hr
    have hten : (Decimal.finite 10).quantize (ε := PyError) 2 = .ok (.finite 10) := by
      decide +kernel
    exact Except.ok.inj (hr.symm.trans hten)
  have hmarket : (firstRun (stampedClient 1720000000000000)).committed.val.market =
      (execute ((timedEnvironment (stampedClient 1720000000000000)).over timedSheet) parJob
        (World.opened timedDatabase)).2.committed.val.market := by
    unfold firstRun
    rfl
  unfold firstRun at hcall
  exact @execute_repeats Py.Context.exact (timedEnvironment (stampedClient 1720000000000000))
    (laterEnvironment (stampedClient 1720003600000000) fun _ => .none) timedSheet _ _ _ _ _ _
    timedConnection _ _ _ _ _ _ _ _ parJob secondJob timedDatabase
    (firstRun (stampedClient 1720000000000000)).committed
    (firstBatch (stampedClient 1720000000000000)) hstored hconnection hconnection' (fun _ => rfl)
    (fun _ => rfl) rfl (stampedClient_sameAnswers _ _) (stampedClient_sameTimes _ _) hkopecks
    (fun rows hrows => (hisins rows hrows).symm ▸ hfirst)
    (fun rows hrows => (hisins rows hrows).symm ▸ hsecond) hmarket hcall

end BondTrading
