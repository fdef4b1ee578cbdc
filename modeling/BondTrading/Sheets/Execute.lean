/-
# BondTrading.Sheets.Execute -- one synchronization

`SheetSyncService.execute`: read the rows, refresh every instrument once, compute the
cells of every row, and write them in one batch.  What lies outside the repository (MOEX,
the Google client, the database's refusals) is a `SyncEnvironment`.
-/
import BondTrading.Instruments.Cashflows
import BondTrading.Sheets.Queue
import BondTrading.Sheets.Rows

namespace BondTrading

open Py (Decimal Dict Instant Zone Routine raiseIf orRaise)
open Sql (Fault World updateWhere)

/-! ## Surroundings -/

/-- The database operations of one run. -/
inductive SyncOperation where
  | connection
  | refresh (isin : String) (operation : RefreshOperation)
  | cashflows (isin : String)
  | complete
  | reloadJob
  deriving DecidableEq, Repr

/-- The operation reads. -/
def SyncOperation.isSelect : SyncOperation → Bool
  | .refresh _ operation => operation.isSelect
  | .connection | .cashflows _ | .reloadJob => true
  | .complete => false

/-- The identifiers and the clock one run draws. -/
structure SyncDraw where
  refresh : String → RefreshDraw
  startedAt : Instant
  completedAt : Instant

structure SyncEnvironment where
  moex : MoexClient
  /-- The worksheets of a spreadsheet. -/
  checkConnection : String → Except PyError (List String)
  readRows : String → String → List String → ℕ → Except PyError (List SheetDataRow)
  updateCells : String → String → List CellUpdate → Except PyError Unit
  zone : Zone
  /-- SHA-256 of the batch. -/
  payloadHash : List CellUpdate → String
  faults : SyncOperation → Fault
  draw : SyncDraw

/-! ## Instruments -/

variable [Py.Context] (env : SyncEnvironment)

/-- The body of the loop over the ISINs, without its `except`. -/
def refreshInstrument (connection : SheetConnectionModel) (isin : String) :
    Service RefreshedInstrument := do
  let (instrument, market) ←
    refresh (fun operation => env.faults (.refresh isin operation)) env.moex
      (env.draw.refresh isin) isin
  let price := marketPrice market connection.priceMode
  let actions ← World.query (env.faults (.cashflows isin)) fun t =>
    t.market.latestActions instrument.id
  return {
    instrument
    market
    cashflows := instrumentCashflows actions
    price := price.map .finite
    marketTime := market.time
    status := if price.isSome then "FRESH" else missingQuoteStatus connection.priceMode }

/-- `refreshed` as its entries, and the errors of the loop. -/
abbrev Refreshes := List (String × Option RefreshedInstrument) × List SheetRowError

/-- The entry and the error of one ISIN. -/
def refreshEntry (isin : String) (rest : Refreshes) : Except PyError RefreshedInstrument → Refreshes
  | .ok value => ((isin, some value) :: rest.1, rest.2)
  | .error e => ((isin, none) :: rest.1, .isin isin (Py.Text.take 1000 e.str) :: rest.2)

/-- The loop over the ISINs: an exception is an entry without a value. -/
def refreshAll (connection : SheetConnectionModel) : List String → Service Refreshes
  | [] => return ([], [])
  | isin :: isins => do
      let outcome ← Routine.outcome (refreshInstrument env connection isin)
      let rest ← refreshAll connection isins
      return refreshEntry isin rest outcome

/-- `refreshed[isin]`. -/
def Refreshes.value (refreshes : Refreshes) (isin : String) : Option RefreshedInstrument :=
  (refreshes.1.lookup isin).join

/-! ## Rows -/

/-- The text `execute` takes for the ISIN of a row. -/
def SheetDataRow.rawIsin (connection : SheetConnectionModel) (row : SheetDataRow) : String :=
  (row.get connection.isinColumn).str

/-- The rows with something in the ISIN column. -/
def dataRows (connection : SheetConnectionModel) (rows : List SheetDataRow) : List SheetDataRow :=
  rows.filter fun row => ¬ (row.get connection.isinColumn).isBlank

/-- The row with its ISIN, where that is one. -/
def normalizedRow (connection : SheetConnectionModel) (row : SheetDataRow) :
    Option (SheetDataRow × String) :=
  match normalizeIsin (row.rawIsin connection) with
  | .ok isin => some (row, isin)
  | .error _ => none

/-- The error of a row whose ISIN is wrong. -/
def isinError (connection : SheetConnectionModel) (row : SheetDataRow) : Option SheetRowError :=
  match normalizeIsin (row.rawIsin connection) with
  | .ok _ => none
  | .error e => some (.row row.rowNumber (row.rawIsin connection) e.str)

/-- `normalized_rows`. -/
def normalizedRows (connection : SheetConnectionModel) (rows : List SheetDataRow) :
    List (SheetDataRow × String) :=
  rows.filterMap (normalizedRow connection)

/-- `row_errors` after the loop over the rows that was read. -/
def isinErrors (connection : SheetConnectionModel) (rows : List SheetDataRow) :
    List SheetRowError :=
  rows.filterMap (isinError connection)

/-- The updates of the header row. -/
def headerUpdates (connection : SheetConnectionModel) : List CellUpdate :=
  calculationHeaders.map fun (column, header) => ⟨connection.headerRow, column, .text header⟩

/-- The cells of one row error: a row that was not normalized is marked as invalid. -/
def errorCells (status : String) (normalized : List (SheetDataRow × String)) :
    SheetRowError → List CellUpdate
  | .row number _ _ =>
      if normalized.any fun entry => entry.1.rowNumber = number then []
      else [⟨number, status, .text "INVALID ISIN"⟩, ⟨number, "AL", .text "НЕВЕРНЫЙ ISIN"⟩]
  | .isin _ _ => []

/-- The last loop of `execute`, over the row errors. -/
def invalidRowUpdates (connection : SheetConnectionModel)
    (normalized : List (SheetDataRow × String)) (errors : List SheetRowError) : List CellUpdate :=
  match Py.Text.given connection.statusColumn with
  | none => []
  | some status => errors.flatMap (errorCells status normalized)

/-- The loop over the rows. -/
def rowLoop (connection : SheetConnectionModel) (refreshed : String → Option RefreshedInstrument)
    (errors : List SheetRowError) (normalized : List (SheetDataRow × String)) :
    Except PyError RowLoop :=
  normalized.foldlM (rowStep connection env.zone env.moex refreshed) ⟨[], Dict.empty, errors, []⟩

/-- The batch of a run. -/
def batchOf (connection : SheetConnectionModel) (normalized : List (SheetDataRow × String))
    (loop : RowLoop) : List CellUpdate :=
  headerUpdates connection ++ loop.updates ++
    invalidRowUpdates connection normalized loop.rowErrors

/-! ## The run -/

def Tables.editSheets (f : SheetTables → SheetTables) (t : Tables) : Tables :=
  { t with sheets := f t.sheets }

def SheetTables.startAttempt (connection : ConnectionId) (now : Instant) (t : SheetTables) :
    SheetTables :=
  { t with
    connections := updateWhere (fun c => c.id = connection)
      (fun c => { c with lastAttemptAt := some now }) t.connections }

def SheetTables.setRowsRead (job : JobId) (rowsRead : ℕ) (t : SheetTables) : SheetTables :=
  { t with
    jobs := updateWhere (fun j => j.id = job) (fun j => { j with rowsRead }) t.jobs }

/-- The assignments at the end of `execute`. -/
def SheetTables.complete (connection : ConnectionId) (job : JobId) (report : SyncReport)
    (t : SheetTables) : SheetTables :=
  { connections := updateWhere (fun c => c.id = connection) (·.succeed report) t.connections
    jobs := updateWhere (fun j => j.id = job) (·.succeed report) t.jobs }

/-- The head of `execute`: the connection of the job, and the rows of its worksheet. -/
def readSheet (job : SheetSyncJobModel) : Service (SheetConnectionModel × List SheetDataRow) := do
  let found ← World.query (env.faults .connection) fun t => t.sheets.connection? job.connectionId
  let connection ← Routine.lift
    (orRaise found (.valueError "Подключение Google Таблицы удалено"))
  World.edit (Tables.editSheets (·.startAttempt connection.id env.draw.startedAt))
  let worksheetNames ← World.call (.checkConnection connection.spreadsheetId)
    (env.checkConnection connection.spreadsheetId)
  Routine.lift (raiseIf (connection.worksheetName ∉ worksheetNames)
    (.valueError ("Вкладка «" ++ connection.worksheetName ++ "» не найдена")))
  let columns := Py.distinct (connection.isinColumn :: sheetInputColumns)
  let firstDataRow := connection.headerRow + 1
  let rows ← World.call
    (.readRows connection.spreadsheetId connection.worksheetName columns firstDataRow)
    (env.readRows connection.spreadsheetId connection.worksheetName columns firstDataRow)
  World.edit (Tables.editSheets
    (·.setRowsRead job.id (dataRows connection rows).length))
  return (connection, dataRows connection rows)

/-- What `execute` does with the rows it read: refresh, compute and write. -/
def writeSheet (connection : SheetConnectionModel) (rows : List SheetDataRow) :
    Service SyncReport := do
  let normalized := normalizedRows connection rows
  let refreshes ← refreshAll env connection (Py.distinct (normalized.map Prod.snd))
  -- `connection.header_row`
  World.readLoaded
  let loop ← Routine.lift (rowLoop env connection refreshes.value
    (isinErrors connection rows ++ refreshes.2) normalized)
  Routine.modify fun w => { w with calls := w.calls ++ loop.calls }
  let updates := batchOf connection normalized loop
  World.call (.updateCells connection.spreadsheetId connection.worksheetName updates)
    (env.updateCells connection.spreadsheetId connection.worksheetName updates)
  return {
    attemptedAt := env.draw.startedAt
    rowsRead := rows.length
    rowsUpdated := normalized.length
    instrumentsRefreshed := refreshes.1.countP fun entry => entry.2.isSome
    rowErrors := loop.rowErrors
    payloadHash := env.payloadHash updates
    completedAt := env.draw.completedAt }

/-- `execute`. -/
def execute (job : SheetSyncJobModel) : Service Unit := do
  let (connection, rows) ← readSheet env job
  let report ← writeSheet env connection rows
  World.edit (Tables.editSheets (·.complete connection.id job.id report))
  World.commit (env.faults .complete)
  World.query (env.faults .reloadJob) fun _ => ()

end BondTrading
