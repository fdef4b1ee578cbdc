/-
# BondTrading.Sheets.Cells -- the cells of a data row

What `read_rows` returns, and the parsers of `application/services/sheet_calculations.py`
that read a cell.  `parse_date` may raise: `int(..)` of a NaN is a `ValueError` that its
`except` clause does not name.
-/
import BondTrading.Domain.Isin
import BondTrading.Py.Dict
import BondTrading.Py.Time

namespace BondTrading

open Py (Decimal Dict)

/-- The value of a cell.  An `int`, a `float` or a `Decimal` stands as its `str`, which
is all the parsers use. -/
inductive CellValue where
  | none
  | bool (value : Bool)
  | number (repr : String)
  | text (value : String)
  | date (value : Date)
  deriving DecidableEq, Repr

namespace CellValue

/-- `value in (None, "")`. -/
def isBlank : CellValue → Bool
  | .none => true
  | .text s => s.isEmpty
  | _ => false

/-- `str(value or "")`. -/
def str : CellValue → String
  | .none => ""
  | .bool b => if b then "True" else ""
  | .number repr => if Decimal.ofText repr = some (.finite 0) then "" else repr
  | .text s => s
  | .date d => Py.isoDate d

end CellValue

/-- The cells that were read of one row. -/
structure SheetDataRow where
  rowNumber : ℕ
  values : Dict String CellValue
  deriving DecidableEq, Repr

/-- `row.values.get(column)`. -/
def SheetDataRow.get (row : SheetDataRow) (column : String) : CellValue :=
  (row.values.get? column).getD .none

/-! ## Parsers -/

/-- `str(value).strip().replace("\u00a0", "").replace(" ", "").replace(",", ".")`. -/
def cleanNumber (s : String) : List Char :=
  Py.Text.replaceChar ',' ['.']
    (Py.Text.replaceChar ' ' [] (Py.Text.replaceChar '\u00a0' [] (Py.Text.stripChars s.toList)))

/-- `Decimal(candidate)` for a text that is not empty. -/
def decimalOfCandidate (candidate : List Char) : Option Decimal :=
  if candidate = [] then none else Decimal.ofText (String.ofList candidate)

/-- `parse_decimal`. -/
def parseDecimal : CellValue → Option Decimal
  | .none | .bool _ => none
  | .number repr => decimalOfCandidate (cleanNumber repr)
  | .text s => decimalOfCandidate (cleanNumber s)
  -- the ISO text of a date is no number
  | .date _ => none

/-- `_SHEETS_EPOCH`, 30 December 1899. -/
def sheetsEpoch : Date := 693594

/-- `_SHEETS_EPOCH + timedelta(days=n)`; an overflow is caught. -/
def addDays (n : ℤ) : Option Date :=
  if Py.minOrdinal ≤ sheetsEpoch + n ∧ sheetsEpoch + n ≤ Py.maxOrdinal then some (sheetsEpoch + n)
  else none

/-- The `try` of the numeric branch of `parse_date`. -/
def dateOfNumber : Option Decimal → Except PyError (Option Date)
  | none => .ok none
  | some d =>
      match d.toInt with
      | .ok n => .ok (addDays n)
      | .error .overflowError => .ok none
      | .error .valueError => .error (.valueError "cannot convert NaN to integer")

/-- The patterns `parse_date` tries, in order. -/
def datePatterns : List Py.DatePattern :=
  [.yearFirst, .dayFirst '/' 4, .dayFirst '/' 2, .dayFirst '.' 4, .dayFirst '.' 2]

/-- `parse_date`. -/
def parseDate : CellValue → Except PyError (Option Date)
  | .none | .bool _ => .ok none
  | .number repr => dateOfNumber (Decimal.ofText repr)
  | .text s =>
      if s.isEmpty then .ok none
      else .ok (datePatterns.findSome? (Py.strptime (Py.Text.stripChars s.toList)))
  | .date d => .ok (some d)

example : parseDate (.text " 5.01.2024") = .ok (some 738890) := by decide +kernel
example : parseDate (.number "45296.75") = .ok (some 738890) := by decide +kernel
example : parseDecimal (.text "1 234,50") = some (.finite (2469 / 2)) := by decide +kernel

/-! ## When a date cannot be read -/

/-- A number cell that is a NaN; a text never is one for `parse_date`. -/
def CellValue.isNaNNumber : CellValue → Bool
  | .number repr => (Decimal.ofText repr).any Decimal.isNaN
  | _ => false

end BondTrading
