/-
# BondTrading.Portfolio.Requests -- the routes of a user's portfolio

The routers `lots`, `settings`, `imports`, `uploads` and `google_sheets` of `api/v1`, one
definition a route, over the database and the preview cache of the process.
`portfolioMachine` takes the requests of all users in any order; between them, MOEX
refreshes and the worker may commit other market and sheet tables.
-/
import BondTrading.Machines.Runs
import BondTrading.Portfolio.Answers

namespace BondTrading

open Py (Instant Zone orRaise)
open Machines (Machine)

/-! ## The state and its surroundings -/

structure PortfolioState where
  db : Database
  previews : ImportPreviewCache

/-- A process just started: no preview is cached. -/
def PortfolioState.started (db : Database) (ttlSeconds : ℕ) : PortfolioState :=
  ⟨db, ⟨ttlSeconds, Py.Dict.empty⟩⟩

/-- The settings the routes read, and the code outside the repository they call.
`readSpreadsheet` is `SpreadsheetPortfolioReader().preview`; its inner error is the text of
a `SpreadsheetImportError`. -/
structure PortfolioEnv where
  zone : Zone
  order : EventOrder
  maxUploadBytes : ℕ
  sha256 : Bytes → String
  readSpreadsheet : Bytes → String → Except PyError (Except String ImportPreview)

/-- The user of a request, as far as a route looks. -/
structure CurrentUser where
  id : UserId
  role : UserRole
  deriving DecidableEq, Repr

/-- `SheetConnectionCheck`. -/
structure SheetConnectionCheck where
  spreadsheetTitle : String
  worksheetNames : List String
  deriving DecidableEq, Repr

/-- What a request draws: identifiers, clocks, and the answers of other services. -/
structure RequestDraw where
  lots : LotDraw
  calculation : CalculationDraw
  settings : SettingsDraw
  imports : ImportDraw
  upload : UploadDraw
  preview : PreviewId
  connection : ConnectionId
  job : JobId
  now : Instant
  monotonic : ℚ
  storedObject : String → Except PyError Bytes
  checkConnection : String → Except PyError SheetConnectionCheck

/-- `UploadFile`. -/
structure UploadFile where
  fileName : Option String
  contentType : Option String
  content : Bytes
  deriving DecidableEq, Repr

namespace PortfolioState

variable (s : PortfolioState)

/-- A route that commits: the new database and its body, or what the handler makes of the
exception. -/
def respond {α : Type} (handler : PyError → ApiAnswer) (body : α → ApiAnswer) :
    Except PyError (Database × α) → PortfolioState × ApiAnswer
  | .ok (db, a) => ({ s with db }, body a)
  | .error e => (s, handler e)

/-! ## Lots -/

def listLots (user : UserId) : ApiAnswer :=
  .lots ((s.db.val.listAll user).map LotOut.ofModel)

def createLot (user : UserId) (payload : LotCreate) (draw : LotDraw) :
    PortfolioState × ApiAnswer :=
  s.respond .unhandled (.lot ∘ LotOut.ofModel) (BondTrading.createLot s.db user payload draw)

def getLot (user : UserId) (id : LotId) : ApiAnswer :=
  match s.db.val.getLot user id with
  | some lot => .lot (.ofModel lot)
  | none => .http 404 "Bond lot not found"

def updateLot (user : UserId) (id : LotId) (payload : LotPatch) (draw : LotDraw) :
    PortfolioState × ApiAnswer :=
  s.respond (.domainAs 404) (.lot ∘ LotOut.ofModel)
    (BondTrading.updateLot s.db user id payload draw)

def deleteLot (user : UserId) (id : LotId) (draw : LotDraw) : PortfolioState × ApiAnswer :=
  s.respond (.domainAs 404) (fun _ : Unit => .deleted)
    ((BondTrading.deleteLot s.db user id draw).map (·, ()))

def calculateLot (env : PortfolioEnv) (user : UserId) (id : LotId) (valuationDate : Option Date)
    (draw : CalculationDraw) : PortfolioState × ApiAnswer :=
  s.respond (.domainAs 422)
    (fun result : CalculationBundle => .calculation result.snapshot result.current.isSome)
    (calculate env.order env.zone s.db user id valuationDate draw)

/-- `LotService.history`, newest first. -/
def yieldHistory (user : UserId) (id : LotId) : ApiAnswer :=
  .of (.domainAs 404) ApiAnswer.history <| (s.db.val.requiredLot user id).map fun _ =>
    (s.db.val.portfolio.yields.filter fun y => y.lotId = id).insertionSort
      fun a b => b.createdAt ≤ a.createdAt

/-! ## Settings -/

def getAppSettings (user : UserId) (draw : SettingsDraw) : ApiAnswer :=
  .of .unhandled .settings (BondTrading.getAppSettings s.db user draw)

def updateAppSettings (user : UserId) (payload : SettingsPatch) (draw : SettingsDraw) :
    PortfolioState × ApiAnswer :=
  s.respond .unhandled .settings (BondTrading.updateAppSettings s.db user payload draw)

/-! ## Imports -/

/-- What `preview_import` does with the stored upload. -/
def previewUpload (env : PortfolioEnv) (user : UserId) (fileName : String) (content : Bytes)
    (upload : UploadedFileModel) (draw : RequestDraw) : PortfolioState × ApiAnswer :=
  match env.readSpreadsheet content fileName with
  | .error e => (s, .unhandled e)
  | .ok (.error message) =>
      s.respond .unhandled (fun _ : Unit => .http 422 message)
        ((markFailed s.db upload message).map (·, ()))
  | .ok (.ok read) =>
      let preview := { read with uploadId := some upload.id }
      match markParsed s.db upload with
      | .error e => (s, .unhandled e)
      | .ok db =>
          (⟨db, s.previews.put draw.preview preview (some user) draw.monotonic⟩,
            .preview (.ofPreview draw.preview upload.id preview))

def previewImport (env : PortfolioEnv) (user : UserId) (file : UploadFile) (draw : RequestDraw) :
    PortfolioState × ApiAnswer :=
  match validateSpreadsheetUpload (file.fileName.getD "") file.contentType with
  | .error message => (s, .http 422 message)
  | .ok () =>
      let content := file.content.take (env.maxUploadBytes + 1)
      if env.maxUploadBytes < content.length then
        (s, .http 413 "Uploaded spreadsheet is too large")
      else
        let contentType := (Py.Text.given file.contentType).getD "application/octet-stream"
        let fileName := (Py.Text.given file.fileName).getD "spreadsheet"
        match storeUpload env.sha256 s.db user fileName contentType content draw.upload with
        | .error _ => (s, .http 503 "Object storage is temporarily unavailable")
        | .ok (stored, upload) =>
            { s with db := stored }.previewUpload env user fileName content upload draw

def commitImport (user : UserId) (id : PreviewId) (draw : RequestDraw) :
    PortfolioState × ApiAnswer :=
  match s.previews.get id (some user) draw.monotonic with
  | (previews, none) =>
      ({ s with previews }, .http 404 "Import preview expired or was not found")
  | (previews, some preview) =>
      match importCommit s.db user preview draw.imports with
      | .error e => ({ s with previews }, .unhandled e)
      | .ok (db, batch, idempotent) => (⟨db, previews.discard id⟩, .batch batch idempotent)

/-- `session.get(ImportBatchModel, batch_id)`, and the check of its owner. -/
def getImportBatch (user : CurrentUser) (id : BatchId) : ApiAnswer :=
  match s.db.val.portfolio.batches.find? fun b => b.id = id with
  | none => .http 404 "Import batch not found"
  | some batch =>
      if batch.ownerId ≠ user.id ∧ user.role ≠ .admin then .http 404 "Import batch not found"
      else .batch batch false

/-! ## Uploads -/

def listUploads (user : UserId) : ApiAnswer :=
  .uploads ((s.db.val.listUploads user).map UploadedFileOut.ofModel)

def downloadUpload (user : CurrentUser) (id : UploadId)
    (storedObject : String → Except PyError Bytes) : ApiAnswer :=
  match s.db.val.upload? id with
  | none => .http 404 "Uploaded file not found"
  | some upload =>
      if upload.ownerId ≠ user.id ∧ user.role ≠ .admin then .http 404 "Uploaded file not found"
      else
        match storedObject upload.objectKey with
        | .ok content => .file (.ofModel upload content)
        | .error _ => .http 503 "Object storage is temporarily unavailable"

/-! ## Google Sheets -/

def getConnection (user : UserId) : ApiAnswer :=
  .connection (s.db.val.sheets.connectionOf user)

def updateConnection (user : UserId) (payload : ConnectionValues) (draw : RequestDraw) :
    PortfolioState × ApiAnswer :=
  s.respond .valueErrorAs422 (fun connection => .connection (some connection)) <|
    (configure s.db.sheets user payload draw.connection draw.now).map fun result =>
      (s.db.withSheets result.1, result.2)

/-- `SheetSyncService.check_connection`. -/
def checkConnection (user : UserId)
    (answer : String → Except PyError SheetConnectionCheck) :
    Except PyError (String × String) := do
  let connection ← orRaise (s.db.val.sheets.connectionOf user)
    (.valueError "Google Таблица ещё не подключена")
  let check ← answer connection.spreadsheetId
  Py.raiseIf (connection.worksheetName ∉ check.worksheetNames)
    (.valueError ("Вкладка «" ++ connection.worksheetName ++ "» не найдена в Google Таблице"))
  return (check.spreadsheetTitle, connection.worksheetName)

def testConnection (user : UserId) (answer : String → Except PyError SheetConnectionCheck) :
    ApiAnswer :=
  .of .sheetsError (fun result => .checked result.1 result.2) (s.checkConnection user answer)

def syncNow (user : UserId) (draw : RequestDraw) : PortfolioState × ApiAnswer :=
  s.respond .valueErrorAs422 .job <|
    (enqueue s.db.sheets user .manual draw.job draw.now).map fun result =>
      (s.db.withSheets result.1, result.2)

/-- `SheetSyncService.list_jobs`: the last twenty. -/
def listJobs (user : UserId) : ApiAnswer :=
  match s.db.val.sheets.connectionOf user with
  | none => .jobs []
  | some connection => .jobs <|
      ((s.db.val.sheets.jobs.filter fun j => j.connectionId = connection.id).insertionSort
        fun a b => b.createdAt ≤ a.createdAt).take 20

def getJob (user : UserId) (id : JobId) : ApiAnswer :=
  match s.db.val.sheets.connectionOf user with
  | none => .http 404 "Задание синхронизации не найдено"
  | some connection =>
      match s.db.val.sheets.jobs.find? fun j => j.id = id ∧ j.connectionId = connection.id with
      | none => .http 404 "Задание синхронизации не найдено"
      | some job => .job job

end PortfolioState

/-! ## The machine -/

inductive PortfolioRequest where
  | listLots
  | createLot (payload : LotCreate)
  | getLot (id : LotId)
  | updateLot (id : LotId) (payload : LotPatch)
  | deleteLot (id : LotId)
  | calculateLot (id : LotId) (valuationDate : Option Date)
  | yieldHistory (id : LotId)
  | getAppSettings
  | updateAppSettings (payload : SettingsPatch)
  | previewImport (file : UploadFile)
  | commitImport (id : PreviewId)
  | getImportBatch (id : BatchId)
  | listUploads
  | downloadUpload (id : UploadId)
  | getConnection
  | updateConnection (payload : ConnectionValues)
  | testConnection
  | syncNow
  | listJobs
  | getJob (id : JobId)
  deriving DecidableEq, Repr

/-- One request of a user. -/
def PortfolioState.handle (s : PortfolioState) (env : PortfolioEnv) (user : CurrentUser)
    (draw : RequestDraw) : PortfolioRequest → PortfolioState × ApiAnswer
  | .listLots => (s, s.listLots user.id)
  | .createLot payload => s.createLot user.id payload draw.lots
  | .getLot id => (s, s.getLot user.id id)
  | .updateLot id payload => s.updateLot user.id id payload draw.lots
  | .deleteLot id => s.deleteLot user.id id draw.lots
  | .calculateLot id valuationDate => s.calculateLot env user.id id valuationDate draw.calculation
  | .yieldHistory id => (s, s.yieldHistory user.id id)
  | .getAppSettings => (s, s.getAppSettings user.id draw.settings)
  | .updateAppSettings payload => s.updateAppSettings user.id payload draw.settings
  | .previewImport file => s.previewImport env user.id file draw
  | .commitImport id => s.commitImport user.id id draw
  | .getImportBatch id => (s, s.getImportBatch user id)
  | .listUploads => (s, s.listUploads user.id)
  | .downloadUpload id => (s, s.downloadUpload user id draw.storedObject)
  | .getConnection => (s, s.getConnection user.id)
  | .updateConnection payload => s.updateConnection user.id payload draw
  | .testConnection => (s, s.testConnection user.id draw.checkConnection)
  | .syncNow => s.syncNow user.id draw
  | .listJobs => (s, s.listJobs user.id)
  | .getJob id => (s, s.getJob user.id id)

inductive PortfolioEvent where
  | request (user : CurrentUser) (request : PortfolioRequest) (draw : RequestDraw)
  /-- MOEX refreshes and the worker commit other market and sheet tables. -/
  | elsewhere (market : MarketTables) (sheets : SheetTables)

/-- Another part of the program commits; it does not write the tables of a portfolio. -/
def PortfolioState.elsewhere (s : PortfolioState) (market : MarketTables) (sheets : SheetTables) :
    PortfolioState :=
  match Tables.commit { s.db.val with market, sheets } with
  | .ok db => { s with db }
  | .error _ => s

def portfolioMachine (env : PortfolioEnv) :
    Machine PortfolioState PortfolioEvent (Option ApiAnswer) where
  step s
    | .request user request draw =>
        let (s', answer) := s.handle env user draw request
        (s', some answer)
    | .elsewhere market sheets => (s.elsewhere market sheets, none)

end BondTrading
