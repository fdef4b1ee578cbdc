/-
# BondTrading.Portfolio.Answers -- what the API sends back

The bodies of the routes under `/lots`, `/settings`, `/imports`, `/uploads` and
`/integrations/google-sheets`, and how `main.py` and the routes turn exceptions into
answers.  Where a schema has exactly the columns of a row, the body carries the row.
-/
import BondTrading.Imports.Previews
import BondTrading.Lots.Calculation

namespace BondTrading

structure ImportPreviewOut where
  previewId : PreviewId
  uploadId : UploadId
  fileName : String
  sheetName : String
  checksum : String
  headerRowNumber : ℕ
  rowsRead : ℕ
  rows : List ImportRow
  errors : List ImportRowError
  deriving DecidableEq, Repr

def ImportPreviewOut.ofPreview (id : PreviewId) (upload : UploadId) (p : ImportPreview) :
    ImportPreviewOut where
  previewId := id
  uploadId := upload
  fileName := p.fileName
  sheetName := p.sheetName
  checksum := p.checksum
  headerRowNumber := p.headerRowNumber
  rowsRead := p.rowsRead
  rows := p.rows
  errors := p.errors

inductive ApiAnswer where
  | lots (lots : List LotOut)
  | lot (lot : LotOut)
  | deleted
  | calculation (snapshot : YieldSnapshotModel) (currentAvailable : Bool)
  | history (snapshots : List YieldSnapshotModel)
  | settings (settings : SettingsOut)
  | preview (preview : ImportPreviewOut)
  | batch (batch : ImportBatchModel) (idempotentReplay : Bool)
  | uploads (uploads : List UploadedFileOut)
  | file (file : FileOut)
  | connection (connection : Option SheetConnectionModel)
  | checked (spreadsheetTitle worksheetName : String)
  | job (job : SheetSyncJobModel)
  | jobs (jobs : List SheetSyncJobModel)
  | error (status : ℕ) (code message : String) (details : ErrorDetails)
  deriving DecidableEq, Repr

/-! ## Exceptions -/

namespace ApiAnswer

/-- `http_error`: the answer to an `HTTPException`. -/
def http (status : ℕ) (detail : String) : ApiAnswer := .error status "http_error" detail .none

/-- An exception no route caught: `domain_error` and `unhandled_error`. -/
def unhandled : PyError → ApiAnswer
  | .domain kind message details => .error 422 kind.code message details
  | _ => .error 500 "internal_error" "Internal server error" .none

/-- `except DomainError as exc: raise HTTPException(status, exc.message)`. -/
def domainAs (status : ℕ) : PyError → ApiAnswer
  | .domain _ message _ => http status message
  | e => unhandled e

/-- `except ValueError as exc: raise HTTPException(422, str(exc))`; a `DomainError` is one. -/
def valueErrorAs422 : PyError → ApiAnswer
  | .domain _ message _ | .valueError message => http 422 message
  | e => unhandled e

/-- The handlers of `test_connection`; what the gateway raises is a `GoogleSheetsError`. -/
def sheetsError : PyError → ApiAnswer
  | .external message => http 503 message
  | e => valueErrorAs422 e

/-- The answer of a route that only reads. -/
def of {α : Type} (handler : PyError → ApiAnswer) (body : α → ApiAnswer) :
    Except PyError α → ApiAnswer
  | .ok a => body a
  | .error e => handler e

end ApiAnswer

end BondTrading
