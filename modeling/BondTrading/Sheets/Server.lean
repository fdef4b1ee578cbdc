/-
# BondTrading.Sheets.Server -- sheets that are addressed by their ranges

A server that reads the texts of the ranges the gateway sends: the name of the worksheet
between its apostrophes, then letters and digits.  It keeps what is written, so what is assumed
of Google can be met.
-/
import BondTrading.Sheets.Mirror
import Mathlib.Data.List.MinMax

namespace BondTrading

open Py (Decimal Dict)

/-! ## Ranges -/

/-- The worksheet, the row and the column of the range of a cell. -/
def readCellRange (range : String) : Option (String × ℕ × ℕ) :=
  (Codes.unquoted apostrophe range.toList).map fun (name, rest) =>
    let cell := rest.drop 1
    (String.ofList name, Nat.ofDigitChars 10 (cell.dropWhile Char.isUpper) 0,
      lettersValue (cell.takeWhile Char.isUpper))

/-- The worksheet, the first row and the first and the last column of an open range. -/
def readOpenRange (range : String) : Option (String × ℕ × ℕ × ℕ) :=
  (Codes.unquoted apostrophe range.toList).map fun (name, rest) =>
    let first := rest.drop 1
    let row := first.dropWhile Char.isUpper
    let last := (row.dropWhile Char.isDigit).drop 1
    (String.ofList name, Nat.ofDigitChars 10 (row.takeWhile Char.isDigit) 0,
      lettersValue (first.takeWhile Char.isUpper), lettersValue last)

section Ranges

variable {worksheetName column firstColumn lastColumn : String} {row : ℕ}

theorem head?_toDigits (row : ℕ) (rest : List Char) :
    ∀ c ∈ (Nat.toDigits 10 row ++ rest).head?, c.isUpper = false := by
  intro c hc
  rw [List.head?_append_of_ne_nil _ Nat.toDigits_ne_nil] at hc
  exact isUpper_of_mem_toDigits (List.mem_of_mem_head? hc)

/-- **The range of a cell is read back.** -/
theorem readCellRange_cellRange (hcolumn : ∀ c ∈ column.toList, c.isUpper) :
    readCellRange (GoogleServiceAccountSheetsGateway.cellRange worksheetName column row) =
      some (worksheetName, row, lettersValue column.toList) := by
  have hdigits := head?_toDigits row []
  rw [List.append_nil] at hdigits
  unfold readCellRange
  rw [cellRange_toList, Codes.unquoted_quoted (by simp [apostrophe])]
  simp [Codes.takeWhile_span hcolumn hdigits, Codes.dropWhile_span hcolumn hdigits]

/-- **An open range is read back.** -/
theorem readOpenRange_openRange (hfirst : ∀ c ∈ firstColumn.toList, c.isUpper) :
    readOpenRange (openRange worksheetName firstColumn lastColumn row) =
      some (worksheetName, row, lettersValue firstColumn.toList,
        lettersValue lastColumn.toList) := by
  have hchars : (openRange worksheetName firstColumn lastColumn row).toList =
      Codes.quoted apostrophe worksheetName.toList ++ '!' ::
        (firstColumn.toList ++ (Nat.toDigits 10 row ++ ':' :: lastColumn.toList)) := by
    simp [openRange]
  have hletters := head?_toDigits row (':' :: lastColumn.toList)
  have hdigits : ∀ c ∈ Nat.toDigits 10 row, c.isDigit := fun c hc =>
    Nat.isDigit_of_mem_toDigits (by decide) (by decide) hc
  have hcolon : ∀ c ∈ (':' :: lastColumn.toList).head?, c.isDigit = false := by
    intro c hc
    obtain rfl := Option.some.inj hc
    rfl
  unfold readOpenRange
  rw [hchars, Codes.unquoted_quoted (by simp [apostrophe])]
  simp [Codes.takeWhile_span hfirst hletters, Codes.dropWhile_span hfirst hletters,
    Codes.takeWhile_span hdigits hcolon, Codes.dropWhile_span hdigits hcolon]

end Ranges

/-! ## The server -/

/-- The cells of all sheets by their spreadsheet, worksheet, row and column. -/
abbrev SheetCells := Dict (String × String × ℕ × ℕ) CellValue

/-- What stands on a worksheet. -/
def SheetCells.grid (cells : SheetCells) (spreadsheetId worksheetName : String) : SheetGrid where
  lastRow := (cells.keys.map fun key => key.2.2.1).foldr max 0
  cell := fun row column => (cells.get? (spreadsheetId, worksheetName, row, column)).getD .none
  blank_below := by
    intro row column hrow
    have hkey : (spreadsheetId, worksheetName, row, column) ∉ cells.keys := by
      intro hmem
      have hle := List.le_max_of_le' 0
        (List.mem_map_of_mem (f := fun key => key.2.2.1) hmem) (Nat.le_refl _)
      exact absurd (Nat.lt_of_lt_of_le hrow hle) (Nat.lt_irrefl _)
    rw [Dict.get?_eq_none hkey]
    rfl

theorem SheetCells.grid_cell (cells : SheetCells) (spreadsheetId worksheetName : String)
    (row column : ℕ) : (cells.grid spreadsheetId worksheetName).cell row column =
      (cells.get? (spreadsheetId, worksheetName, row, column)).getD .none := rfl

/-- The cell that an element of a batch names, and its value. -/
def ValueRange.cell (spreadsheetId : String) (data : ValueRange) :
    Option ((String × String × ℕ × ℕ) × CellValue) :=
  match readCellRange data.range, data.values with
  | some (worksheetName, row, column), [[value]] =>
      some ((spreadsheetId, worksheetName, row, column), value)
  | _, _ => none

/-- **A server that keeps its cells.** -/
def sheetsServer : SheetsServer SheetCells where
  values cells spreadsheetId range :=
    (readOpenRange range).map fun (worksheetName, row, first, last) =>
      .rows (((cells.grid spreadsheetId worksheetName).rowMajor first last row).map .cells)
  write cells spreadsheetId data := cells.update (data.filterMap (ValueRange.cell spreadsheetId))
  totalUpdatedCells _ _ data := some data.length

section Keeps

variable {g : GoogleServiceAccountSheetsGateway} {spreadsheetId worksheetName : String}
  {updates : List CellUpdate}

/-- The last assignment to a key is the only one. -/
theorem Py.Dict.get?_update_of_mem {κ ν : Type} [DecidableEq κ] (d : Dict κ ν)
    {other : List (κ × ν)} (hnodup : (other.map Prod.fst).Nodup) {k : κ} {v : ν}
    (h : (k, v) ∈ other) : (d.update other).get? k = some v := by
  induction other generalizing d with
  | nil => cases h
  | cons e other ih =>
      rw [List.map_cons, List.nodup_cons] at hnodup
      show ((d.set e.1 e.2).update other).get? k = some v
      rcases List.mem_cons.mp h with rfl | hmem
      · rw [Dict.get?_update_of_not_mem _ hnodup.1, Dict.get?_set, if_pos rfl]
      · exact ih _ hnodup.2 hmem

/-- The cell of an update and what is written to it. -/
def CellUpdate.entry (g : GoogleServiceAccountSheetsGateway)
    (spreadsheetId worksheetName : String) (u : CellUpdate) :
    (String × String × ℕ × ℕ) × CellValue :=
  ((spreadsheetId, worksheetName, u.rowNumber, lettersValue u.column.toList),
    jsonValue g.float u.value)

/-- The server finds the cells of a batch. -/
theorem write_eq (hcells : SingleCells updates) (cells : SheetCells) :
    sheetsServer.write cells spreadsheetId (updates.map (g.updateRange worksheetName)) =
      cells.update (updates.map (CellUpdate.entry g spreadsheetId worksheetName)) := by
  show cells.update _ = _
  congr 1
  rw [List.filterMap_map, ← List.filterMap_eq_map]
  refine List.filterMap_congr fun u hu => ?_
  show ValueRange.cell spreadsheetId (g.updateRange worksheetName u) = some _
  unfold ValueRange.cell GoogleServiceAccountSheetsGateway.updateRange
  rw [readCellRange_cellRange (hcells.addressed u hu).capitals]
  rfl

/-- No cell of a batch is assigned twice. -/
theorem nodup_entries (hcells : SingleCells updates) :
    ((updates.map (CellUpdate.entry g spreadsheetId worksheetName)).map Prod.fst).Nodup := by
  rw [List.map_map]
  refine (List.Nodup.of_map _ hcells.once).map_on ?_
  intro u hu u' hu' hsame
  have hkey := Prod.mk.inj (Prod.mk.inj (Prod.mk.inj hsame).2).2
  refine List.inj_on_of_nodup_map hcells.once hu hu' ?_
  have hcolumn := lettersValue_inj (hcells.addressed u hu).capitals
    (hcells.addressed u' hu').capitals hkey.2
  exact Prod.ext hkey.1 (String.toList_inj.mp hcolumn)

/-- **The server keeps what is written.** -/
theorem sheetsServer_keeps (g : GoogleServiceAccountSheetsGateway)
    (has : String → String → Prop) : sheetsServer.Keeps g has SheetCells.grid where
  values cells spreadsheetId worksheetName firstColumn lastColumn firstRow _ hfirst _ _ := by
    unfold sheetsServer
    dsimp only
    rw [readOpenRange_openRange hfirst, Option.map_some, Option.getD_some]
  holds cells spreadsheetId worksheetName updates _ hcells u hu := by
    have hentry : CellUpdate.entry g spreadsheetId worksheetName u ∈
        updates.map (CellUpdate.entry g spreadsheetId worksheetName) := List.mem_map_of_mem hu
    have hget := Py.Dict.get?_update_of_mem cells (nodup_entries hcells) hentry
    rw [write_eq hcells, SheetCells.grid_cell, hget]
    exact CellValue.Shows.refl _
  untouched cells spreadsheetId worksheetName updates _ hcells book sheet row column hnot := by
    rw [write_eq hcells, SheetCells.grid_cell, SheetCells.grid_cell,
      Dict.get?_update_of_not_mem]
    · intro hmem
      obtain ⟨entry, hentry, hkey⟩ := List.mem_map.mp hmem
      obtain ⟨u, hu, rfl⟩ := List.mem_map.mp hentry
      simp only [CellUpdate.entry, Prod.mk.injEq] at hkey
      obtain ⟨rfl, rfl, hrow, hcolumn⟩ := hkey
      exact hnot rfl rfl u hu ⟨hrow, hcolumn⟩
  total cells spreadsheetId worksheetName updates _ _ := by
    rw [sheetsServer, Option.getD_some, List.length_map]

end Keeps

/-- A memory of no cells mirrors a server of no cells. -/
theorem mirrors_empty (float : Decimal → String) (m : MemoryGoogleSheetsGateway)
    (hcells : m.cells = Dict.empty) (has : String → String → Prop)
    (hsheets : ∀ spreadsheetId worksheetName, has spreadsheetId worksheetName →
      m.requireWorksheet spreadsheetId worksheetName = .ok ()) :
    Mirrors has SheetCells.grid float Dict.empty m := by
  refine ⟨hsheets, ?_⟩
  intro spreadsheetId worksheetName row column _ _
  rw [hcells]
  exact .shows rfl

end BondTrading
