/-
# BondTrading.Sheets.Ranges -- spreadsheet identifiers and column names

`infrastructure/google_sheets/ranges.py`.  The regular expressions of the source are
small enough to be written as tests on character lists.
-/
import BondTrading.Domain.Models
import BondTrading.Py.Outcome
import BondTrading.Py.Text

namespace BondTrading

open Py (raiseIf)

/-- `[A-Za-z0-9_-]`. -/
def isSpreadsheetIdChar (c : Char) : Bool := c.isAlphanum || c = '_' || c = '-'

/-- `_SPREADSHEET_URL_RE.search(..).group(1)`: the identifier after the first
`/spreadsheets/d/` that is followed by one. -/
def spreadsheetIdInUrl : List Char → Option (List Char)
  | [] => none
  | c :: cs =>
      let found :=
        ((c :: cs).drop "/spreadsheets/d/".toList.length).takeWhile isSpreadsheetIdChar
      if "/spreadsheets/d/".toList.isPrefixOf (c :: cs) ∧ found ≠ [] then some found
      else spreadsheetIdInUrl cs

def extractSpreadsheetId (value : String) : Except PyError String := do
  let stripped := (Py.Text.strip value).toList
  let candidate := (spreadsheetIdInUrl stripped).getD stripped
  raiseIf (¬ (candidate.all isSpreadsheetIdChar ∧ 10 ≤ candidate.length ∧ candidate.length ≤ 255))
    (.valueError "Не удалось определить ID Google Таблицы")
  return String.ofList candidate

def columnNumber (value : String) : ℕ :=
  value.toList.foldl (fun result character => result * 26 + character.toNat - 'A'.toNat + 1) 0

/-- `_COLUMN_RE.fullmatch`. -/
def isColumnName (value : String) : Bool :=
  value.toList.all Char.isAlpha && 1 ≤ value.toList.length && value.toList.length ≤ 3

/-- `normalize_column(value)` with a text. -/
def checkColumn (value : String) : Except PyError String := do
  let candidate := Py.Text.upper (Py.Text.strip value)
  raiseIf (¬ isColumnName candidate ∨ 16384 < columnNumber candidate)
    (.valueError ("Некорректная колонка Google Таблицы: " ++ value))
  return candidate

/-- `normalize_column(value)`. -/
def normalizeColumn (value : String) : Except PyError String := do
  raiseIf (Py.Text.strip value).isEmpty
    (.valueError "Не указана обязательная колонка Google Таблицы")
  checkColumn value

/-- `normalize_column(value, required=False)`. -/
def normalizeOptionalColumn : Option String → Except PyError (Option String)
  | none => .ok none
  | some value =>
      if (Py.Text.strip value).isEmpty then .ok none
      else (checkColumn value).map some

end BondTrading
