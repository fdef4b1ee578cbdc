/-
# BondTrading.Moex.Tables -- the blocks of a MOEX payload

`infrastructure/moex/tables.py`: a block is a list of columns and a list of rows, and becomes
one mapping for each row.
-/
import BondTrading.Py.Dict
import BondTrading.Py.Json
import BondTrading.Domain.Models

namespace BondTrading.Moex

open Py (Dict Json Raises)

/-! ## Exceptions -/

/-- What the mapper raises: `MoexDataError`, `MoexNotFoundError`, what the domain raises, and
what Python itself does. -/
inductive MapperError where
  | data (message : String)
  | notFound (message : String)
  | domain (error : PyError)
  | typeError (message : String)
  | valueError (message : String)
  | overflowError (message : String)
  deriving DecidableEq, Repr

instance : Raises MapperError := ⟨fun signal => .domain (.decimal signal)⟩

/-! ## Blocks -/

/-- A payload: a JSON object. -/
abbrev Payload := Dict String Json

/-- A row as a mapping from its columns. -/
abbrev Row := Dict Json.Key Json

/-- `row.get(name)`. -/
def Row.get (row : Row) (name : String) : Json := (row.get? (.text name)).getD .null

/-- One pair of `dict(zip(..))`. -/
def assign (row : Row) (entry : Json × Json) : Except MapperError Row :=
  match entry.1.key with
  | .ok key => .ok (row.set key entry.2)
  | .error message => .error (.typeError message)

/-- `dict(zip(columns, raw_row, strict=False))`. -/
def zipRow (columns rawRow : List Json) : Except MapperError Row :=
  (columns.zip rawRow).foldlM assign Dict.empty

/-- One round of the loop of `table_rows`. -/
def tableRow (block : String) (columns : List Json) : Json → Except MapperError Row
  | .array rawRow => zipRow columns rawRow
  | _ => .error (.data ("MOEX block " ++ Py.Text.repr block ++ " contains a non-array row"))

/-- `table_rows`. -/
def tableRows (payload : Payload) (block : String) : Except MapperError (List Row) :=
  match payload.get? block with
  | none | some .null => .ok []
  | some (.object table) =>
      match table.lookup "columns", table.lookup "data" with
      | some (.array columns), some (.array data) => data.mapM (tableRow block columns)
      | _, _ =>
          .error (.data ("MOEX block " ++ Py.Text.repr block ++ " has no columns/data arrays"))
  | some _ => .error (.data ("MOEX block " ++ Py.Text.repr block ++ " is not an object"))

/-- `first_row`. -/
def firstRow (payload : Payload) (block : String) : Except MapperError (Option Row) :=
  (tableRows payload block).map List.head?

end BondTrading.Moex
