/-
# BondTrading.Imports.Uploads -- uploaded files

`UploadService` of `application/services/uploads.py`, the check of
`infrastructure/imports/xlsx_reader.py` that comes before it, and what
`api/v1/routers/uploads.py` answers.  The object storage is outside the repository: its
answers are drawn with the request.
-/
import BondTrading.Db.Tables
import BondTrading.Py.Names

namespace BondTrading

open Py (Instant raiseIf orRaise)
open Sql (updateWhere)

/-! ## Accepted files -/

/-- The body of a file. -/
abbrev Bytes := List UInt8

/-- `SUPPORTED_EXTENSIONS`, sorted. -/
def supportedExtensions : List String :=
  [".numbers", ".xls", ".xlsb", ".xlsm", ".xlsx", ".xltm", ".xltx"]

/-- `ALLOWED_MEDIA_TYPES`. -/
def allowedMediaTypes : List String :=
  ["application/octet-stream",
    "application/vnd.apple.numbers",
    "application/vnd.ms-excel",
    "application/vnd.ms-excel.sheet.binary.macroenabled.12",
    "application/vnd.ms-excel.sheet.macroenabled.12",
    "application/vnd.openxmlformats-officedocument.spreadsheetml.sheet",
    "application/x-iwork-numbers-sffnumbers",
    "application/x-ole-storage",
    "application/x-zip-compressed",
    "application/zip"]

/-- `validate_spreadsheet_upload`; the error is the text of the `SpreadsheetImportError`. -/
def validateSpreadsheetUpload (fileName : String) (contentType : Option String) :
    Except String Unit := do
  let suffix := Py.Text.lower (Py.Path.suffix fileName)
  raiseIf (suffix ∉ supportedExtensions)
    ("Supported spreadsheet extensions: " ++ ", ".intercalate supportedExtensions)
  let normalized := Py.Text.lower (Py.Text.strip (Py.Text.before ';' (contentType.getD "")))
  raiseIf (¬ normalized.isEmpty ∧ normalized ∉ allowedMediaTypes)
    ("The upload MIME type " ++ Py.Text.repr normalized ++ " is not valid for " ++ suffix)

/-! ## Storing -/

/-- Letters, digits and punctuation a stored name keeps. -/
def isSafe (c : Char) : Bool :=
  c.isAlphanum || ('А' ≤ c && c ≤ 'я') || c ∈ ['Ё', 'ё', '.', '_', ' ', '-']

/-- `re.sub(r"[^..]+", "_", ..)`: every run of other characters becomes one underscore. -/
def sanitize : Bool → List Char → List Char
  | _, [] => []
  | inRun, c :: cs =>
      if isSafe c then c :: sanitize false cs
      else if inRun then sanitize true cs
      else '_' :: sanitize true cs

/-- `_safe_name`. -/
def safeName (fileName : String) : String :=
  let edge := fun c : Char => c = ' ' || c = '.'
  let sanitized := sanitize false (Py.Path.name fileName).toList
  let stripped := ((sanitized.dropWhile edge).reverse.dropWhile edge).reverse
  let name := Py.Text.take 255 (String.ofList stripped)
  if name.isEmpty then "spreadsheet" else name

/-- What one upload draws: an identifier, the clock, and the answer of `storage.put`. -/
structure UploadDraw where
  upload : UploadId
  now : Instant
  put : Except PyError Unit

/-- `UploadedFileModel(..)` of `store`. -/
def newUpload (sha256 : Bytes → String) (owner : UserId) (fileName contentType : String)
    (content : Bytes) (draw : UploadDraw) : UploadedFileModel where
  id := draw.upload
  ownerId := owner
  originalFileName := Py.Path.name fileName
  objectKey := "users/" ++ toString owner ++ "/uploads/" ++ toString draw.upload ++ "/" ++
    safeName fileName
  contentType := contentType
  fileFormat :=
    String.ofList ((Py.Text.lower (Py.Path.suffix fileName)).toList.dropWhile (· = '.'))
  sizeBytes := content.length
  checksum := sha256 content
  status := "uploaded"
  parseError := none
  createdAt := draw.now

/-- The tables with one more upload. -/
def Tables.addUpload (t : Tables) (upload : UploadedFileModel) : Tables :=
  { t with portfolio := { t.portfolio with uploads := t.portfolio.uploads ++ [upload] } }

/-- `UploadService.store`.  When the commit fails the object is deleted again. -/
def storeUpload (sha256 : Bytes → String) (db : Database) (owner : UserId)
    (fileName contentType : String) (content : Bytes) (draw : UploadDraw) :
    Except PyError (Database × UploadedFileModel) := do
  draw.put
  let upload := newUpload sha256 owner fileName contentType content draw
  let committed ← (db.val.addUpload upload).commit
  return (committed, upload)

/-- The tables with new values in the row of a loaded upload. -/
def Tables.setUpload (t : Tables) (upload : UploadedFileModel) : Tables :=
  { t with portfolio := { t.portfolio with
    uploads := updateWhere (fun u => u.id = upload.id) (fun _ => upload) t.portfolio.uploads } }

/-- `mark_parsed`. -/
def markParsed (db : Database) (upload : UploadedFileModel) : Except PyError Database :=
  (db.val.setUpload { upload with status := "parsed", parseError := none }).commit

/-- `mark_failed`. -/
def markFailed (db : Database) (upload : UploadedFileModel) (error : String) :
    Except PyError Database :=
  (db.val.setUpload
    { upload with status := "failed", parseError := some (Py.Text.take 4000 error) }).commit

/-! ## What the API answers -/

structure UploadedFileOut where
  id : UploadId
  ownerId : UserId
  originalFileName : String
  contentType : String
  fileFormat : String
  sizeBytes : ℕ
  checksum : String
  status : String
  parseError : Option String
  createdAt : Instant
  deriving DecidableEq, Repr

def UploadedFileOut.ofModel (u : UploadedFileModel) : UploadedFileOut where
  id := u.id
  ownerId := u.ownerId
  originalFileName := u.originalFileName
  contentType := u.contentType
  fileFormat := u.fileFormat
  sizeBytes := u.sizeBytes
  checksum := u.checksum
  status := u.status
  parseError := u.parseError
  createdAt := u.createdAt

/-- `list_uploads`, newest first. -/
def Tables.listUploads (t : Tables) (owner : UserId) : List UploadedFileModel :=
  (t.portfolio.uploads.filter fun u => u.ownerId = owner).insertionSort
    fun a b => b.createdAt ≤ a.createdAt

/-- `session.get(UploadedFileModel, id)`. -/
def Tables.upload? (t : Tables) (id : UploadId) : Option UploadedFileModel :=
  t.portfolio.uploads.find? fun u => u.id = id

/-- The body and the headers of a download. -/
structure FileOut where
  content : Bytes
  mediaType : String
  contentDisposition : String
  deriving DecidableEq, Repr

def FileOut.ofModel (u : UploadedFileModel) (content : Bytes) : FileOut where
  content := content
  mediaType := u.contentType
  contentDisposition := "attachment; filename*=UTF-8''" ++ Py.Text.quote u.originalFileName

end BondTrading
