/-
# BondTrading.Sheets.Placement -- where the batch of a run goes

The only call of `execute` that changes the sheet is `update_cells`, and the only step
that makes it is the one at the end of `writeSheet`.  What that step is given is known
from the row loop, so the frame of the batch is a frame of the whole run.
-/
import BondTrading.Sheets.Frame
import BondTrading.Sheets.Refreshes

namespace BondTrading

open Py (Decimal Dict Instant Zone Routine)
open Sql (World)

/-! ## Steps that write nothing -/

/-- What an attempt does before it writes to the sheet. -/
theorem noneNew_writes_allows :
    World.Allows (World.NoneNew ExternalCall.Writes : ServiceWorld → ServiceWorld → Prop)
      IsAttemptEdit (fun k => ¬ k.Writes) True :=
  (World.NoneNew.allows ExternalCall.Writes).mono (fun _ _ => trivial) fun _ h => h

/-! ## The call that writes -/

section Writing

variable {env : SyncEnvironment} {connection : SheetConnectionModel} {rows : List SheetDataRow}
  {job : SheetSyncJobModel} {w w' : ServiceWorld} {k : ExternalCall}

/-- A reading of `execute`: from which state and connection, with what left behind. -/
structure SheetReading (env : SyncEnvironment) (job : SheetSyncJobModel) (w : ServiceWorld)
    (connection : SheetConnectionModel) (rows : List SheetDataRow) (w' : ServiceWorld) : Prop where
  answered : env.faults .connection = .none
  usable : w.broken = false
  found : w.work.sheets.connection? job.connectionId = some connection
  /-- The rows of the worksheet that have something in the ISIN column. -/
  rows_eq : ∃ sheetRows, env.readRows connection.spreadsheetId connection.worksheetName
    (Py.distinct (connection.isinColumn :: sheetInputColumns)) (connection.headerRow + 1) =
      .ok sheetRows ∧ rows = dataRows connection sheetRows
  committed : w'.committed = w.committed
  calls : w'.calls = w.calls ++
    [.checkConnection connection.spreadsheetId,
      .readRows connection.spreadsheetId connection.worksheetName
        (Py.distinct (connection.isinColumn :: sheetInputColumns)) (connection.headerRow + 1)]

/-- A run that reads its sheet has read the rows of its connection: it asked Google twice and
MOEX nothing, and committed nothing. -/
theorem readSheet_eq_ok (h : readSheet env job w = (.ok (connection, rows), w')) :
    SheetReading env job w connection rows w' := by
  simp only [readSheet, Routine.bind_eq_ok] at h
  obtain ⟨_, _, hfound, _, _, hsheet, _, _, hstarted, _, _, hcheck, _, _, hworksheet, sheetRows, _,
    hrows, _, _, hedited, hreturn⟩ := h
  obtain ⟨hpair, rfl⟩ := Prod.mk.inj hreturn
  obtain ⟨rfl, rfl⟩ := Prod.mk.inj (Except.ok.inj hpair)
  -- from the last step to the first: each names the state before it
  obtain rfl := World.edit_eq_ok.mp hedited
  obtain ⟨hread, rfl⟩ := World.call_eq_ok.mp hrows
  obtain ⟨-, rfl⟩ := Routine.lift_eq_ok.mp hworksheet
  obtain ⟨-, rfl⟩ := World.call_eq_ok.mp hcheck
  obtain rfl := World.edit_eq_ok.mp hstarted
  -- the connection is there, or the run has ended
  obtain ⟨hsome, rfl⟩ := Routine.lift_eq_ok.mp hsheet
  obtain ⟨hfault, hw, rfl, rfl⟩ := World.query_eq_ok hfound
  exact {
    answered := hfault
    usable := hw
    found := Py.orRaise_eq_ok.mp hsome
    rows_eq := ⟨sheetRows, hread, rfl⟩
    committed := rfl
    calls := List.append_assoc _ _ _
  }

/-- The errors of the loop over the ISINs are about no row. -/
theorem refreshAll_errors {isins : List String} {refreshes : Refreshes}
    (h : refreshAll env connection isins w = (.ok refreshes, w')) :
    ∀ e ∈ refreshes.2, ∃ isin message, e = .isin isin message := by
  induction isins generalizing w w' refreshes with
  | nil =>
      obtain ⟨hreturn, -⟩ := Prod.mk.inj h
      obtain rfl := Except.ok.inj hreturn
      intro e he
      exact absurd he List.not_mem_nil
  | cons isin isins ih =>
      rw [refreshAll, Routine.bind_eq_ok] at h
      obtain ⟨outcome, w₁, -, h⟩ := h
      obtain ⟨rest, w₂, hrest, h⟩ := Routine.bind_eq_ok.mp h
      obtain ⟨hreturn, -⟩ := Prod.mk.inj h
      obtain rfl := Except.ok.inj hreturn
      intro e he
      rcases mem_refreshEntry_snd he with he | ⟨message, rfl⟩
      · exact ih hrest e he
      · exact ⟨isin, message, rfl⟩

/-- A call of `writeSheet` that writes has the batch of the row loop. -/
theorem writeSheet_call [Py.Context] (hk : k.Writes) (hw : k ∉ w.calls)
    (h : k ∈ (writeSheet env connection rows w).2.calls) :
    ∃ refreshes loop, (∀ e ∈ refreshes.2, ∃ isin message, e = .isin isin message) ∧
      rowLoop env connection (Refreshes.value refreshes)
        (isinErrors connection rows ++ refreshes.2) (normalizedRows connection rows) = .ok loop ∧
      k = .updateCells connection.spreadsheetId connection.worksheetName
        (batchOf connection (normalizedRows connection rows) loop) := by
  obtain ⟨refreshes, w₁, hrefreshes, hw₁, h⟩ :=
    World.Silent.call_of_bind (refreshAll_within noneNew_writes_allows (fun _ _ _ => trivial) connection _) hk hw h
  obtain ⟨-, w₁, -, hw₁, h⟩ :=
    World.Silent.call_of_bind noneNew_writes_allows.readLoaded hk hw₁ h
  obtain ⟨loop, w₂, hloop, hw₂, h⟩ := World.Silent.call_of_bind (noneNew_writes_allows.lift _) hk hw₁ h
  have hloop : rowLoop env connection (Refreshes.value refreshes) _ _ = .ok loop :=
    (Prod.mk.inj hloop).1
  refine ⟨refreshes, loop, refreshAll_errors hrefreshes, hloop, ?_⟩
  rw [Routine.modify_bind_apply] at h
  rcases List.mem_append.mp (World.Silent.call_before (fun _ => noneNew_writes_allows.pure _) hk h)
    with hbefore | hcall
  · -- the row loop only asks MOEX
    exfalso
    rcases List.mem_append.mp hbefore with hbefore | hasked
    · exact hw₂ hbefore
    · obtain ⟨_, _, _, rfl⟩ := hk
      rcases (rowLoop_effect hloop).calls _ hasked with hnone | ⟨_, _, _, h⟩
      · exact absurd hnone List.not_mem_nil
      · exact ExternalCall.noConfusion h
  · exact List.mem_singleton.mp hcall

/-- A call of `execute` that writes has the batch of the rows it read. -/
theorem execute_call [Py.Context] (hk : k.Writes) (hw : k ∉ w.calls)
    (h : k ∈ (execute env job w).2.calls) :
    ∃ connection sheetRows refreshes loop,
      w.work.sheets.connection? job.connectionId = some connection ∧
      env.readRows connection.spreadsheetId connection.worksheetName
        (Py.distinct (connection.isinColumn :: sheetInputColumns)) (connection.headerRow + 1) =
          .ok sheetRows ∧
      (∀ e ∈ refreshes.2, ∃ isin message, e = .isin isin message) ∧
      rowLoop env connection (Refreshes.value refreshes)
        (isinErrors connection (dataRows connection sheetRows) ++ refreshes.2)
        (normalizedRows connection (dataRows connection sheetRows)) = .ok loop ∧
      k = .updateCells connection.spreadsheetId connection.worksheetName
        (batchOf connection (normalizedRows connection (dataRows connection sheetRows)) loop) := by
  obtain ⟨⟨connection, rows⟩, w₁, hread, hw₁, h⟩ :=
    World.Silent.call_of_bind (readSheet_within noneNew_writes_allows job) hk hw h
  have hreading := readSheet_eq_ok hread
  obtain ⟨sheetRows, hrows, rfl⟩ := hreading.rows_eq
  have hwritten := World.Silent.call_before (fun report => ?_) hk h
  · obtain ⟨refreshes, loop, herrors, hloop, hbatch⟩ := writeSheet_call hk hw₁ hwritten
    exact ⟨connection, sheetRows, refreshes, loop, hreading.found, hrows, herrors, hloop, hbatch⟩
  · have hallows := World.NoneNew.allows (C := Tables.Constraints) ExternalCall.Writes
    apply hallows.bind (hallows.edit trivial)
    intro _
    apply hallows.bind (hallows.commit _)
    intro _
    exact hallows.query (fun _ => trivial) _

end Writing

/-! ## The frame of a run -/

/-- What later runs note on a connection. -/
def SheetConnectionModel.noted (stored : SheetConnectionModel)
    (lastAttemptAt lastSuccessAt : Option Instant) (lastError lastPayloadHash : Option String) :
    SheetConnectionModel :=
  { stored with lastAttemptAt, lastSuccessAt, lastError, lastPayloadHash }

theorem WellPlaced.noted {stored : SheetConnectionModel} (h : WellPlaced stored)
    (lastAttemptAt lastSuccessAt : Option Instant) (lastError lastPayloadHash : Option String) :
    WellPlaced (stored.noted lastAttemptAt lastSuccessAt lastError lastPayloadHash) :=
  ⟨h.distinct, h.apart⟩

/-- The rows of a sheet: distinct, and none above the row that was asked for. -/
def SyncEnvironment.ReadsDataRows (env : SyncEnvironment) : Prop :=
  ∀ spreadsheetId worksheetName columns firstDataRow rows,
    env.readRows spreadsheetId worksheetName columns firstDataRow = .ok rows →
      (rows.map SheetDataRow.rowNumber).Nodup ∧ ∀ row ∈ rows, firstDataRow ≤ row.rowNumber

section Frame

variable {env : SyncEnvironment} {connection : SheetConnectionModel}
  {sheetRows rows : List SheetDataRow} {refreshes : Refreshes} {loop : RowLoop}

/-- The data rows among them. -/
theorem dataRows_numbered (hrows : (sheetRows.map SheetDataRow.rowNumber).Nodup)
    (hbelow : ∀ row ∈ sheetRows, connection.headerRow + 1 ≤ row.rowNumber) :
    ((dataRows connection sheetRows).map SheetDataRow.rowNumber).Nodup ∧
      ∀ row ∈ dataRows connection sheetRows, connection.headerRow < row.rowNumber := by
  refine ⟨List.Nodup.sublist (List.filter_sublist.map _) hrows, ?_⟩
  intro row hrow
  exact hbelow row (List.mem_of_mem_filter hrow)

/-- The batch of a row loop, as blocks. -/
theorem batchOf_blocks [Py.Context] (hrows : (rows.map SheetDataRow.rowNumber).Nodup)
    (herrors : ∀ e ∈ refreshes.2, ∃ isin message, e = .isin isin message)
    (hloop : rowLoop env connection (Refreshes.value refreshes)
      (isinErrors connection rows ++ refreshes.2) (normalizedRows connection rows) = .ok loop) :
    ∃ written : List RowUpdates,
      List.Forall₂ (fun (e : SheetDataRow × String) values => Confined connection e.1 values)
        (normalizedRows connection rows) written ∧
      (batchOf connection (normalizedRows connection rows) loop).map CellUpdate.address =
        (batchBlocks connection rows written).flatMap fun b =>
          b.2.map fun column => (b.1, column) := by
  obtain ⟨⟨written, hconfined, hupdates⟩, ⟨errors, hrowErrors, hknown⟩, -⟩ := rowLoop_effect hloop
  refine ⟨written, hconfined, batchOf_address hrows hupdates ?_⟩
  -- only the rows with an invalid ISIN are marked in the last loop
  have hrowErrors : loop.rowErrors =
      isinErrors connection rows ++ (refreshes.2 ++ errors) := by
    rw [hrowErrors, ← List.append_assoc]
  have hothers : invalidRowUpdates connection (normalizedRows connection rows)
      (refreshes.2 ++ errors) = [] := by
    apply invalidRowUpdates_of_known
    intro e he
    rcases List.mem_append.mp he with he | he
    · exact Or.inr (herrors e he)
    · exact Or.inl (hknown e he)
  rw [hrowErrors, invalidRowUpdates_append, hothers, List.append_nil]

/-- **The batch of a row loop stays in its frame**, and addresses no cell twice. -/
theorem batchOf_inFrame [Py.Context] (hplaced : WellPlaced connection)
    (hrows : (sheetRows.map SheetDataRow.rowNumber).Nodup)
    (hbelow : ∀ row ∈ sheetRows, connection.headerRow + 1 ≤ row.rowNumber)
    (herrors : ∀ e ∈ refreshes.2, ∃ isin message, e = .isin isin message)
    (hloop : rowLoop env connection (Refreshes.value refreshes)
      (isinErrors connection (dataRows connection sheetRows) ++ refreshes.2)
      (normalizedRows connection (dataRows connection sheetRows)) = .ok loop) :
    ((batchOf connection (normalizedRows connection (dataRows connection sheetRows)) loop).map
        CellUpdate.address).Nodup ∧
      ∀ u ∈ batchOf connection (normalizedRows connection (dataRows connection sheetRows)) loop,
        InFrame connection sheetRows u := by
  obtain ⟨hdataRows, hheader⟩ := dataRows_numbered hrows hbelow
  obtain ⟨written, hconfined, haddress⟩ := batchOf_blocks hdataRows herrors hloop
  constructor
  · rw [haddress]
    apply nodup_addresses
    · exact nodup_batchBlocks_rows hdataRows hheader hconfined.length_eq
    · exact nodup_batchBlocks_columns hplaced
  · intro u hu
    have hmem : u.address ∈ (batchBlocks connection (dataRows connection sheetRows)
        written).flatMap fun b => b.2.map fun column => (b.1, column) := by
      rw [← haddress]
      exact List.mem_map_of_mem hu
    obtain ⟨b, hb, hcell⟩ := List.mem_flatMap.mp hmem
    obtain ⟨column, hcolumn, hsame⟩ := List.mem_map.mp hcell
    obtain ⟨hnumber, rfl⟩ := Prod.mk.inj hsame
    rcases mem_batchBlocks hconfined hb with rfl | ⟨row, hrow, hblock, hwritable⟩
    · exact .header hnumber.symm hcolumn
    · have hcell := hwritable _ hcolumn
      obtain ⟨hread, hisin⟩ := List.mem_filter.mp hrow
      refine .data row hread (hnumber.symm.trans hblock) ?_ hcell.mem_outputColumns
        (hcell.not_customer hplaced) (hcell.accrued_blank hplaced) (hcell.commission_blank hplaced)
      simpa using hisin

end Frame

/-- **A batch stays in its frame.**  Whatever MOEX answers, the sheet holds and the
database refuses: the batch of a run over a connection that `configure` stored addresses
no cell twice, and every update of it is `InFrame` for the rows that were read. -/
theorem update_cells_inFrame [Py.Context] {env : SyncEnvironment} {db db' : SheetDatabase}
    {owner : UserId} {values : ConnectionValues} {id : ConnectionId} {now : Instant}
    {stored : SheetConnectionModel} {lastAttemptAt lastSuccessAt : Option Instant}
    {lastError lastPayloadHash : Option String} {job : SheetSyncJobModel} {w : ServiceWorld}
    {spreadsheetId worksheetName : String} {batch : List CellUpdate}
    (hstored : configure db owner values id now = .ok (db', stored))
    (hconnection : w.work.sheets.connection? job.connectionId =
      some (stored.noted lastAttemptAt lastSuccessAt lastError lastPayloadHash))
    (hrows : env.ReadsDataRows)
    (hnew : .updateCells spreadsheetId worksheetName batch ∉ w.calls)
    (hcall : .updateCells spreadsheetId worksheetName batch ∈ (execute env job w).2.calls) :
    (batch.map CellUpdate.address).Nodup ∧
      ∃ rows, env.readRows stored.spreadsheetId stored.worksheetName
          (Py.distinct (stored.isinColumn :: sheetInputColumns)) (stored.headerRow + 1) =
            .ok rows ∧
        ∀ u ∈ batch, InFrame stored rows u := by
  obtain ⟨connection, sheetRows, refreshes, loop, hfound, hread, herrors, hloop, hbatch⟩ :=
    execute_call ⟨_, _, _, rfl⟩ hnew hcall
  obtain ⟨-, -, rfl⟩ := ExternalCall.updateCells.inj hbatch
  have hplaced : WellPlaced stored := (configure_stored hstored).1
  obtain rfl := Option.some.inj (hconnection.symm.trans hfound)
  obtain ⟨hdistinct, hbelow⟩ := hrows _ _ _ _ _ hread
  obtain ⟨hnodup, hframe⟩ := batchOf_inFrame (hplaced.noted _ _ _ _) hdistinct hbelow herrors hloop
  refine ⟨hnodup, sheetRows, hread, ?_⟩
  intro u hu
  cases hframe u hu with
  | header row column => exact .header row column
  | data row read number isin column customer accrued commission =>
      exact .data row read number isin column customer accrued commission

/-! ## A run over two rows -/

/-- The settings a customer sends. -/
def parValues : ConnectionValues where
  spreadsheetId := "https://docs.google.com/spreadsheets/d/1AbCdEfGhIjKlMn/edit"
  worksheetName := "Портфель"
  headerRow := 1
  isinColumn := "a"
  priceColumn := "C"
  updatedAtColumn := none
  statusColumn := some "D"
  priceMode := .bestOfferCleanRub
  enabled := true
  syncIntervalSeconds := 300

/-- The connection `configure` makes of them. -/
def parConnection : SheetConnectionModel where
  id := 10
  ownerId := 1
  provider := "google_sheets"
  spreadsheetId := "1AbCdEfGhIjKlMn"
  worksheetName := "Портфель"
  headerRow := 1
  isinColumn := "A"
  priceColumn := "C"
  updatedAtColumn := none
  statusColumn := some "D"
  priceMode := .bestOfferCleanRub
  enabled := true
  syncIntervalSeconds := 300
  lastAttemptAt := none
  lastSuccessAt := none
  lastError := none
  lastPayloadHash := none
  createdAt := 0

/-- A data row with these cells in A, E, H, I, J, L and V. -/
def parRow (rowNumber : ℕ) (isin date quantity price accrued commission planned : CellValue) :
    SheetDataRow :=
  ⟨rowNumber, Dict.ofList [("A", isin), ("E", date), ("H", quantity), ("I", price),
    ("J", accrued), ("L", commission), ("V", planned)]⟩

/-- A run with these rows, and with these refusals of the database. -/
def parEnvironment (rows : ℕ → List SheetDataRow) (faults : SyncOperation → Sql.Fault) :
    SyncEnvironment where
  moex := parClient (40, "coupon-40")
  checkConnection _ := .ok ["Портфель"]
  readRows _ _ _ firstDataRow := .ok (rows firstDataRow)
  updateCells _ _ _ := .ok ()
  zone _ := 0
  payloadHash _ := "hash"
  faults
  draw := ⟨fun _ => ⟨30, fun k => 40 + k, 50, 1720000001000000⟩, 1720000000000000,
    1720000002000000⟩

/-- The job of the connection, claimed. -/
def parJob : SheetSyncJobModel where
  id := 20
  connectionId := 10
  trigger := .manual
  status := .running
  attemptCount := 1
  nextAttemptAt := none
  startedAt := some 0
  completedAt := none
  rowsRead := 0
  rowsUpdated := 0
  instrumentsRefreshed := 0
  rowErrors := []
  errorMessage := none
  createdAt := 0

def parDatabase : Database :=
  ⟨⟨⟨[], [], []⟩, ⟨[], [], [], [], []⟩, ⟨[parConnection], [parJob]⟩⟩, by decide +kernel⟩

/-- A row to calculate, with J and L empty, and a row with a wrong ISIN. -/
def parRows (firstDataRow : ℕ) : List SheetDataRow :=
  [parRow firstDataRow (.text "RU000A107SX3") (.number "45296") (.number "10") (.text "900,5")
      .none (.text "") (.number "12"),
    parRow (firstDataRow + 1) (.text "RU000A107SX4") .none .none .none .none .none .none]

/-- The run over these rows. -/
def parRun : ServiceWorld :=
  (execute (parEnvironment parRows fun _ => .none) parJob (World.opened parDatabase)).2

/-- The batch of a call, if it writes one. -/
def ExternalCall.batch : ExternalCall → List CellUpdate
  | .updateCells _ _ updates => updates
  | _ => []

theorem update_cells_inFrame_parRun :
    ((parRun.calls.flatMap ExternalCall.batch).map CellUpdate.address).Nodup ∧
      ∃ rows, (parEnvironment parRows fun _ => .none).readRows parConnection.spreadsheetId
          parConnection.worksheetName
          (Py.distinct (parConnection.isinColumn :: sheetInputColumns))
          (parConnection.headerRow + 1) = .ok rows ∧
        ∀ u ∈ parRun.calls.flatMap ExternalCall.batch, InFrame parConnection rows u := by
  have hconfigure : configure ⟨⟨[], []⟩, by decide⟩ 1 parValues 10 0 =
      .ok (⟨⟨[parConnection], []⟩, by decide⟩, parConnection) := by decide +kernel
  refine update_cells_inFrame (w := World.opened parDatabase) hconfigure
    (by decide +kernel : _ = some (parConnection.noted none none none none)) ?_
    (List.not_mem_nil) (by decide +kernel : ExternalCall.updateCells "1AbCdEfGhIjKlMn" "Портфель"
      (parRun.calls.flatMap ExternalCall.batch) ∈ parRun.calls)
  intro _ _ _ firstDataRow rows h
  obtain rfl := Except.ok.inj h
  refine ⟨?_, ?_⟩
  · simp [parRows, parRow]
  · simp [parRows, parRow]

end BondTrading
