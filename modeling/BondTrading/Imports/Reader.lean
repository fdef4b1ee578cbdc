/-
# BondTrading.Imports.Reader -- reading a portfolio out of a spreadsheet

`infrastructure/imports/xlsx_reader.py` after its check of the file name.  The libraries
that open a workbook are outside the repository; they give the sheets, or fail.  Of the
exceptions a row can raise, the loop over the rows catches `_RowValidationError` and no
other.
-/
import BondTrading.Domain.Engine
import BondTrading.Domain.Isin
import BondTrading.Imports.Service
import BondTrading.Imports.Uploads
import BondTrading.Py.Time

namespace BondTrading

open Py (Decimal Signal Raises orRaise)

/-! ## Sheets -/

/-- The value of a cell.  An `int` or a `float` stands as its `str`; a `datetime` as its day
and the microseconds since midnight; anything else a library returns (a duration, a time, a
formula object) as its truth value and its `str`. -/
inductive SpreadsheetValue where
  | none
  | bool (value : Bool)
  | number (repr : String)
  | text (value : String)
  | date (value : Date)
  | datetime (day : Date) (microsecond : ℕ)
  | other (truthy : Bool) (str : String)
  deriving DecidableEq, Repr

namespace SpreadsheetValue

/-- `bool(value)`. -/
def truthy : SpreadsheetValue → Bool
  | .none => false
  | .bool b => b
  | .number repr => Decimal.ofText repr ≠ some (.finite 0)
  | .text s => ¬ s.isEmpty
  | .date _ | .datetime _ _ => true
  | .other t _ => t

/-- `str(value)`. -/
def str : SpreadsheetValue → String
  | .none => "None"
  | .bool b => if b then "True" else "False"
  | .number repr => repr
  | .text s => s
  | .date d => Py.isoDate d
  | .datetime day microsecond => Py.isoDate day ++ " " ++ Py.clockText microsecond
  | .other _ s => s

/-- `value in (None, "")`. -/
def isBlank : SpreadsheetValue → Bool
  | .none => true
  | .text s => s.isEmpty
  | _ => false

/-- `isinstance(value, str) and value.startswith("=")`. -/
def startsWithEquals : SpreadsheetValue → Bool
  | .text s => s.toList.head? = some '='
  | _ => false

end SpreadsheetValue

structure SpreadsheetCell where
  value : SpreadsheetValue
  isFormula : Bool
  deriving DecidableEq, Repr

/-- `SpreadsheetCell(None)`. -/
def SpreadsheetCell.empty : SpreadsheetCell := ⟨.none, false⟩

/-- A row; rows of one sheet may differ in length. -/
abbrev SpreadsheetRow := List SpreadsheetCell

structure SpreadsheetSheet where
  title : String
  rows : List SpreadsheetRow
  deriving DecidableEq, Repr

namespace SpreadsheetSheet

def maxRow (sheet : SpreadsheetSheet) : ℕ := sheet.rows.length

/-- `rows[row - 1]`, rows counted from one. -/
def rowAt (sheet : SpreadsheetSheet) (row : ℕ) : SpreadsheetRow := sheet.rows.getD (row - 1) []

end SpreadsheetSheet

/-- `values[column - 1]`, or an empty cell beyond the end of the row. -/
def SpreadsheetRow.cell (values : SpreadsheetRow) (column : ℕ) : SpreadsheetCell :=
  if column = 0 ∨ values.length < column then .empty else values.getD (column - 1) .empty

/-- `cell`. -/
def SpreadsheetSheet.cell (sheet : SpreadsheetSheet) (row column : ℕ) : SpreadsheetCell :=
  if row = 0 ∨ sheet.maxRow < row then .empty else SpreadsheetRow.cell (sheet.rowAt row) column

/-! ## Exceptions -/

structure RowValidationError where
  field : String
  message : String
  sourceValue : Option String
  deriving DecidableEq, Repr

/-- What reading a row raises: a `_RowValidationError`, or another exception. -/
inductive RowFailure where
  | invalid (error : RowValidationError)
  | raised (error : PyError)
  deriving DecidableEq, Repr

instance : Raises RowFailure := ⟨fun signal => .raised (.decimal signal)⟩

def RowFailure.of (field message : String) (sourceValue : Option String) : RowFailure :=
  .invalid ⟨field, message, sourceValue⟩

/-- What reading a workbook raises: a `SpreadsheetImportError`, or another exception. -/
inductive ReadFailure where
  | spreadsheet (message : String)
  | raised (error : PyError)
  deriving DecidableEq, Repr

/-! ## Cell parsers -/

/-- `_reject_formula`. -/
def rejectFormula (cell : SpreadsheetCell) (field : String) : Except RowFailure Unit :=
  Py.raiseIf (cell.isFormula ∨ cell.value.startsWithEquals)
    (.of field "A manual source field cannot contain a formula" (some cell.value.str))

/-- `_text`. -/
def cellText (value : SpreadsheetValue) : Option String :=
  match value with
  | .none => none
  | value => Py.Text.given (some (Py.Text.strip value.str))

/-- `_manual_text(cell, field, required=True)`; every call requires the value. -/
def manualText (cell : SpreadsheetCell) (field : String) : Except RowFailure String := do
  rejectFormula cell field
  orRaise (cellText cell.value) (.of field "A required value is missing" none)

/-- `_manual_date`. -/
def manualDate (cell : SpreadsheetCell) (field : String) : Except RowFailure Date := do
  rejectFormula cell field
  match cell.value with
  | .datetime day _ => return day
  | .date day => return day
  | .text s =>
      orRaise (Py.fromIsoFormat (Py.Text.strip s)) (.of field "Date must use YYYY-MM-DD" (some s))
  | value => throw (.of field "A valid date is required" (cellText value))

/-- `Decimal(str(value).replace(" ", "").replace(",", "."))`. -/
def decimalOfValue (value : SpreadsheetValue) : Option Decimal :=
  Decimal.ofText (String.ofList
    (Py.Text.replaceChar ',' ['.'] (Py.Text.replaceChar ' ' [] value.str.toList)))

/-- `_decimal`. -/
def cellDecimal (value : SpreadsheetValue) (field : String) : Except RowFailure Decimal := do
  Py.raiseIf value.isBlank (.of field "A numeric value is required" none)
  orRaise (decimalOfValue value)
    (.of field "A valid decimal value is required" (some value.str))

/-- `_manual_decimal(cell, field, positive=True)`. -/
def manualPositive (cell : SpreadsheetCell) (field : String) : Except RowFailure Decimal := do
  rejectFormula cell field
  let value ← cellDecimal cell.value field
  -- a NaN raises here, outside the `try` of `_decimal`
  if ← value.le ZERO then throw (.of field "Value must be positive" (some cell.value.str))
  return value

/-- `_manual_decimal(cell, field, non_negative=True)`. -/
def manualNonNegative (cell : SpreadsheetCell) (field : String) : Except RowFailure Decimal := do
  rejectFormula cell field
  let value ← cellDecimal cell.value field
  if ← value.lt ZERO then throw (.of field "Value cannot be negative" (some cell.value.str))
  return value

/-- `_optional_decimal`. -/
def optionalDecimal (cell : SpreadsheetCell) : Except RowFailure (Option Decimal) :=
  if cell.value.isBlank ∨ cell.isFormula then .ok none
  else (cellDecimal cell.value "optional_decimal").map some

/-- `_event_type` of a text. -/
def eventType (value : String) : Except RowFailure String :=
  let normalized := Py.Text.lower (Py.Text.strip value)
  if normalized = "погашение" ∨ normalized = "maturity" then .ok "maturity"
  else if normalized = "оферта" ∨ normalized = "offer" then .ok "offer"
  else .error (.of "target_event_type" "Event type must be maturity/погашение or offer/оферта"
    (some value))

example : eventType " Погашение " = .ok "maturity" := by decide +kernel

/-- `normalize_isin` under the `except InvalidIsinError` of `_parse_row`. -/
def rowIsin (sourceIsin : String) : Except RowFailure String :=
  match normalizeIsin sourceIsin with
  | .ok isin => .ok isin
  | .error (.domain .invalidIsin message _) => .error (.of "isin" message (some sourceIsin))
  | .error e => .error (.raised e)

/-! ## Rows -/

/-- `_is_empty_row`. -/
def isEmptyRow (cells : SpreadsheetRow) : Bool :=
  cells.all fun cell => cell.value = .none || (Py.Text.strip cell.value.str).isEmpty

/-- `_parse_row` after its first definition, of the cells of the row. -/
def parseCells (cell : ℕ → SpreadsheetCell) (row isinColumn : ℕ) : Except RowFailure ImportRow := do
  let sourceIsin ← manualText (cell isinColumn) "isin"
  let normalizedIsin ← rowIsin sourceIsin
  let targetEventType ← eventType (← manualText (cell 4) "target_event_type")
  let purchaseDate ← manualDate (cell 5) "purchase_date"
  let targetEventDate ← manualDate (cell 7) "target_event_date"
  let quantity ← manualPositive (cell 8) "quantity"
  let cleanPrice ← manualNonNegative (cell 9) "purchase_clean_price_rub_per_bond"
  let accruedInterest ← manualNonNegative (cell 10) "purchase_accrued_interest_rub_per_bond"
  let commission ← manualNonNegative (cell 12) "purchase_commission_rub_per_bond"
  let redemption ← optionalDecimal (cell 14)
  let saleCommission ← optionalDecimal (cell 18)
  let plannedYield ← optionalDecimal (cell 22)
  return {
    rowNumber := row
    sourceIsin, normalizedIsin
    sourceName := cellText (cell 3).value
    targetEventType, purchaseDate, targetEventDate, quantity
    purchaseCleanPriceRubPerBond := cleanPrice
    purchaseAccruedInterestRubPerBond := accruedInterest
    purchaseCommissionRubPerBond := commission
    targetRedemptionPriceRubPerBond := redemption
    -- `or Decimal(0)`: a zero is replaced by a zero
    saleCommissionRubPerBond := saleCommission.getD ZERO
    plannedYieldManualReference := plannedYield
    offerSubmissionPeriod := cellText (cell 6).value }

/-- `_parse_row`. -/
def parseRow (sheet : SpreadsheetSheet) (row isinColumn : ℕ) : Except RowFailure ImportRow :=
  parseCells (sheet.cell row) row isinColumn

/-! ## The block -/

/-- `str(cell.value or "").strip().upper() == "ISIN"`. -/
def SpreadsheetCell.isHeader (cell : SpreadsheetCell) : Bool :=
  let value := if cell.value.truthy then cell.value.str else ""
  Py.Text.upper (Py.Text.strip value) = "ISIN"

/-- The number of the first header cell of a row. -/
def headerColumn (row : SpreadsheetRow) : Option ℕ :=
  ((row.zipIdx 1).find? fun entry => entry.1.isHeader).map Prod.snd

/-- `_find_header`: row and column. -/
def findHeader (sheet : SpreadsheetSheet) : Except ReadFailure (ℕ × ℕ) :=
  orRaise ((sheet.rows.zipIdx 1).findSome? fun entry =>
      (headerColumn entry.1).map fun column => (entry.2, column))
    (.spreadsheet ("ISIN header was not found on sheet " ++ Py.Text.repr sheet.title))

/-- The sheets that bear the requested name, alone or before the name of a table. -/
def SpreadsheetSheet.isRequested (requested : String) (sheet : SpreadsheetSheet) : Bool :=
  let title := Py.Text.strip sheet.title
  title = requested || (requested ++ " — ").toList.isPrefixOf title.toList

/-- The sheets in the order `_select_sheet` tries them. -/
def sheetOrder (sheets : List SpreadsheetSheet) (requested : String) : List SpreadsheetSheet :=
  sheets.filter (·.isRequested requested) ++ sheets

/-- `_select_sheet`. -/
def selectSheet (sheets : List SpreadsheetSheet) (requested : String) :
    Except ReadFailure SpreadsheetSheet :=
  orRaise ((sheetOrder sheets requested).find? fun sheet => (findHeader sheet).isOk)
    (.spreadsheet ("Sheet " ++ Py.Text.repr requested ++
      " or another sheet with an ISIN header was not found"))

/-- The three accumulators of `preview`. -/
structure ReadLoop where
  rowsRead : ℕ
  rows : List ImportRow
  errors : List ImportRowError
  deriving DecidableEq, Repr

/-- The loop of `preview` over the row numbers that are left. -/
def readRows (sheet : SpreadsheetSheet) (isinColumn : ℕ) :
    List ℕ → ReadLoop → Except ReadFailure ReadLoop
  | [], acc => .ok acc
  | row :: rest, acc =>
      if isEmptyRow (sheet.rowAt row) then .ok acc
      else
        match parseRow sheet row isinColumn with
        | .ok parsed =>
            readRows sheet isinColumn rest ⟨acc.rowsRead + 1, acc.rows ++ [parsed], acc.errors⟩
        | .error (.invalid e) =>
            readRows sheet isinColumn rest ⟨acc.rowsRead + 1, acc.rows,
              acc.errors ++ [⟨row, e.field, e.message, e.sourceValue⟩]⟩
        | .error (.raised e) => .error (.raised e)

/-! ## Workbooks -/

/-- A cell of `openpyxl`, with its `data_type`. -/
structure OoxmlCell where
  value : SpreadsheetValue
  dataType : String

/-- A sheet of `numbers_parser` with its tables. -/
structure NumbersSheet where
  name : String
  tables : List (String × List SpreadsheetRow)

/-- The libraries; nothing stands for an exception.  `openpyxl` is told whether to keep the
macros. -/
structure SpreadsheetLibraries where
  openpyxl : Bytes → Bool → Option (List (String × List (List OoxmlCell)))
  calamine : Bytes → Option (List (String × List (List SpreadsheetValue)))
  numbersParser : Bytes → Option (List NumbersSheet)

/-- `_load_ooxml`. -/
def loadOoxml (libraries : SpreadsheetLibraries) (content : Bytes) (suffix : String) :
    Option (List SpreadsheetSheet) :=
  (libraries.openpyxl content (suffix ∈ [".xlsm", ".xltm"])).map fun worksheets =>
    worksheets.map fun (title, rows) => ⟨title, rows.map fun row => row.map fun cell =>
      ⟨cell.value, cell.dataType = "f" || cell.value.startsWithEquals⟩⟩

/-- `_load_calamine`: no formula is told apart. -/
def loadCalamine (libraries : SpreadsheetLibraries) (content : Bytes) :
    Option (List SpreadsheetSheet) :=
  (libraries.calamine content).map fun worksheets =>
    worksheets.map fun (title, rows) => ⟨title, rows.map fun row => row.map (⟨·, false⟩)⟩

/-- `_load_numbers`: every table is a sheet, and the first one has the name of its sheet. -/
def loadNumbers (libraries : SpreadsheetLibraries) (content : Bytes) :
    Option (List SpreadsheetSheet) :=
  (libraries.numbersParser content).map fun sheets => sheets.flatMap fun sheet =>
    sheet.tables.zipIdx.map fun ((table, rows), index) =>
      ⟨if index = 0 then sheet.name else sheet.name ++ " — " ++ table, rows⟩

/-- `_load_sheets`. -/
def loadSheets (libraries : SpreadsheetLibraries) (content : Bytes) (fileName : String) :
    Except ReadFailure (List SpreadsheetSheet) :=
  let suffix := Py.Text.lower (Py.Path.suffix fileName)
  let unreadable := ReadFailure.spreadsheet
    ("The uploaded " ++ suffix ++ " file is not a readable spreadsheet")
  if suffix ∈ [".xlsx", ".xlsm", ".xltx", ".xltm"] then
    orRaise (loadOoxml libraries content suffix) unreadable
  else if suffix ∈ [".xls", ".xlsb"] then orRaise (loadCalamine libraries content) unreadable
  else if suffix ∈ [".numbers"] then orRaise (loadNumbers libraries content) unreadable
  else .error (.spreadsheet ("Unsupported spreadsheet extension: " ++ suffix))

/-- `DEFAULT_SHEET_NAME`. -/
def defaultSheetName : String := "Доход счёт 2026"

/-- `SpreadsheetPortfolioReader.preview`. -/
def previewSpreadsheet (libraries : SpreadsheetLibraries) (sha256 : Bytes → String)
    (content : Bytes) (fileName sheetName : String) : Except ReadFailure ImportPreview := do
  (validateSpreadsheetUpload fileName none).mapError .spreadsheet
  let sheets ← loadSheets libraries content fileName
  let worksheet ← selectSheet sheets sheetName
  let (headerRow, isinColumn) ← findHeader worksheet
  let loop ← readRows worksheet isinColumn
    (List.range' (headerRow + 1) (worksheet.maxRow - headerRow)) ⟨0, [], []⟩
  return {
    fileName := Py.Path.name fileName
    sheetName := worksheet.title
    checksum := sha256 content
    headerRowNumber := headerRow
    rowsRead := loop.rowsRead
    rows := loop.rows
    errors := loop.errors
    uploadId := none }

/-- The reader as `preview_import` calls it. -/
def readSpreadsheet (libraries : SpreadsheetLibraries) (sha256 : Bytes → String) (content : Bytes)
    (fileName : String) : Except PyError (Except String ImportPreview) :=
  match previewSpreadsheet libraries sha256 content fileName defaultSheetName with
  | .ok preview => .ok (.ok preview)
  | .error (.spreadsheet message) => .ok (.error message)
  | .error (.raised e) => .error e

end BondTrading
