/-
# BondTrading.Sheets.Google -- the gateway to Google Sheets

`GoogleServiceAccountSheetsGateway` of `infrastructure/google_sheets/client.py`, and the two
functions of `ranges.py` that build its ranges.  The HTTP client and the credentials are
outside the repository: an attempt of `_request` is what they give for it.  `_json_value`
turns a `Decimal` into a `float`; the text of that double is a parameter.
-/
import BondTrading.Codes.Quoting
import BondTrading.Instruments.Moex
import BondTrading.Sheets.Cells
import BondTrading.Sheets.Ranges

namespace BondTrading

open Py (Decimal Dict raiseIf orRaise)

/-! ## Ranges -/

/-- `'`. -/
def apostrophe : Char := Char.ofNat 39

/-- `quote_worksheet`. -/
def quoteWorksheet (value : String) : String :=
  String.ofList (apostrophe ::
    Py.Text.replaceChar apostrophe [apostrophe, apostrophe] value.toList ++ [apostrophe])

/-- The loop of `column_name`. -/
def columnLetters (current : ℕ) (result : List Char) : List Char :=
  if _h : current = 0 then result
  else columnLetters ((current - 1) / 26) (Char.ofNat ('A'.toNat + (current - 1) % 26) :: result)
termination_by current
decreasing_by omega

def columnName (value : ℕ) : Except PyError String := do
  raiseIf (¬ (1 ≤ value ∧ value ≤ 16384))
    (.valueError ("Некорректный номер колонки Google Таблицы: " ++ toString value))
  return String.ofList (columnLetters value [])

/-- `l[index]`: a negative index counts from the end. -/
def Py.item? {α : Type} (l : List α) (index : ℤ) : Option α :=
  if 0 ≤ index then l[index.toNat]?
  else if -index ≤ l.length then l[(l.length + index).toNat]?
  else none

/-! ## Requests -/

/-- An element of `data` of a batch update. -/
structure ValueRange where
  range : String
  majorDimension : String
  values : List (List CellValue)
  deriving DecidableEq, Repr

/-- What `_request` is called with. -/
inductive GoogleRequest where
  | getValues (spreadsheetId cellRange : String)
  | batchUpdate (spreadsheetId : String) (data : List ValueRange)
  deriving DecidableEq, Repr

/-- A row of `values`. -/
inductive RawRow where
  | cells (values : List CellValue)
  | other
  deriving DecidableEq, Repr

/-- `payload["values"]`. -/
inductive RawValues where
  | rows (rows : List RawRow)
  | other
  deriving DecidableEq, Repr

/-- `response.json()`: an object with the keys the gateway looks at, or no object. -/
inductive GooglePayload where
  | object (values : Option RawValues) (totalUpdatedCells : Option ℕ)
  | other
  deriving DecidableEq, Repr

/-- How an attempt of `_request` ends. -/
inductive GoogleAttempt where
  | response (statusCode : ℕ) (payload : GooglePayload)
  /-- `httpx.TransportError`, or the `GoogleSheetsError` of `_access_token`. -/
  | failed (message : String)
  | raised (error : PyError)

/-- `GoogleServiceAccountSheetsGateway`. -/
structure GoogleServiceAccountSheetsGateway where
  retries : ℕ
  attempt : ℕ → GoogleRequest → GoogleAttempt
  /-- What `response.raise_for_status()` raises. -/
  statusError : ℕ → PyError
  /-- `float(value)`. -/
  float : Decimal → String

/-- `_json_value`. -/
def jsonValue (float : Decimal → String) : CellContent → CellValue
  | .none => .text ""
  | .decimal value => .number (float value)
  | .text value => .text value

/-- httpx sends it: JSON has no NaN and no infinities, and `float(value)` is infinite from the
largest double on. -/
def CellContent.isJson : CellContent → Bool
  | .none | .text _ => true
  | .decimal (.finite value) => decide (|value| < 2 ^ 1024 - 2 ^ 970)
  | .decimal _ => false

namespace GoogleServiceAccountSheetsGateway

variable (g : GoogleServiceAccountSheetsGateway)

/-- The attempts of `_request` that are left, and the text of `last_error`. -/
def requestFrom (request : GoogleRequest) : List ℕ → Option String → Except PyError GooglePayload
  | [], lastError => .error (.external (lastError.getD "Неизвестная ошибка Google Sheets"))
  | attempt :: rest, _ =>
      match g.attempt attempt request with
      | .failed message => requestFrom request rest (some message)
      | .raised error => .error error
      | .response statusCode payload =>
          if statusCode ∈ [429, 500, 502, 503, 504] then
            requestFrom request rest
              (some ("Временная ошибка Google Sheets: HTTP " ++ toString statusCode))
          else if statusCode ∈ [401, 403] then
            requestFrom request rest
              (some "Google Sheets отклонил доступ. Проверьте service account и права Editor")
          else if 200 ≤ statusCode ∧ statusCode < 300 then .ok payload
          else .error (g.statusError statusCode)

/-- `_json_object(await _request(..))`. -/
def request (request : GoogleRequest) : Except PyError (Option RawValues × Option ℕ) := do
  match ← g.requestFrom request (List.range g.retries) none with
  | .object values totalUpdatedCells => return (values, totalUpdatedCells)
  | .other => throw (.external "Google API вернул некорректный JSON")

/-! ## Reading -/

/-- The range that `read_rows` asks for. -/
def rowsRange (worksheetName firstColumn lastColumn : String) (firstDataRow : ℕ) : String :=
  quoteWorksheet worksheetName ++ "!" ++ firstColumn ++ toString firstDataRow ++ ":" ++ lastColumn

/-- `column_number(column) - first_column_number`. -/
def columnOffset (firstColumnNumber : ℕ) (column : String) : ℤ :=
  (columnNumber column : ℤ) - firstColumnNumber

/-- The row of `read_rows` that stands on `raw_row`. -/
def readRow (normalized : List String) (firstColumnNumber rowNumber : ℕ)
    (rawRow : List CellValue) : Except PyError SheetDataRow := do
  let present := normalized.filter fun column =>
    columnOffset firstColumnNumber column < rawRow.length
  let entries ← present.mapM fun column => do
    let value ← orRaise (Py.item? rawRow (columnOffset firstColumnNumber column))
      (.external "list index out of range")
    return (column, value)
  return ⟨rowNumber, Dict.ofList entries⟩

/-- What the loop of `read_rows` makes of a row. -/
def keepRow (normalized : List String) (firstColumnNumber rowNumber : ℕ) :
    RawRow → Except PyError (Option SheetDataRow)
  | .other => .ok none
  | .cells rawRow => do
      let row ← readRow normalized firstColumnNumber rowNumber rawRow
      return if row.values.entries.any fun (_, value) => ¬ value.isBlank then some row else none

/-- `read_rows`. -/
def readRows (spreadsheetId worksheetName : String) (columns : List String) (firstDataRow : ℕ) :
    Except PyError (List SheetDataRow) := do
  let normalized ← columns.mapM normalizeColumn
  let firstColumnNumber ← orRaise (normalized.map columnNumber).min?
    (.valueError "min() iterable argument is empty")
  let lastColumnNumber ← orRaise (normalized.map columnNumber).max?
    (.valueError "max() iterable argument is empty")
  let firstColumn ← columnName firstColumnNumber
  let lastColumn ← columnName lastColumnNumber
  let (values, _) ← g.request (.getValues spreadsheetId
    (rowsRange worksheetName firstColumn lastColumn firstDataRow))
  match values.getD (.rows []) with
  | .other => throw (.external "Google API вернул некорректный диапазон строк")
  | .rows rawValues =>
      let rows ← rawValues.zipIdx.mapM fun (rawRow, offset) =>
        keepRow normalized firstColumnNumber (firstDataRow + offset) rawRow
      return rows.reduceOption

/-! ## Writing -/

/-- The range of a cell in `update_cells`. -/
def cellRange (worksheetName column : String) (rowNumber : ℕ) : String :=
  quoteWorksheet worksheetName ++ "!" ++ column ++ toString rowNumber

/-- An element of `data` in `update_cells`. -/
def updateRange (worksheetName : String) (update : CellUpdate) : ValueRange where
  range := cellRange worksheetName update.column update.rowNumber
  majorDimension := "ROWS"
  values := [[jsonValue g.float update.value]]

/-- `update_cells`. -/
def updateCells (spreadsheetId worksheetName : String) (updates : List CellUpdate) :
    Except PyError ℕ := do
  let data := updates.map (g.updateRange worksheetName)
  if data = [] then return 0
  let (_, updatedCells) ← g.request (.batchUpdate spreadsheetId data)
  return updatedCells.getD updates.length

end GoogleServiceAccountSheetsGateway

example : columnName 16384 = .ok "XFD" := by decide +kernel

end BondTrading
