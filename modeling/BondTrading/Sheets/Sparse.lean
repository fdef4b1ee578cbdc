/-
# BondTrading.Sheets.Sparse -- rows read back from a sparse range

Google leaves out the empty cells at the end of a row and the empty rows at the end of a
range, and writes an empty text for an empty cell in between.  `read_rows` asks for the
columns from the first to the last it needs and finds each by its distance from the first:
what it returns are the rows of the sheet that have something in a requested column.
-/
import BondTrading.Sheets.Columns
import BondTrading.Sheets.Placement
import Mathlib.Data.List.DropRight
import Mathlib.Data.List.ReduceOption

namespace BondTrading

open Py (Dict orRaise raiseIf bind_eq_ok exists_of_mem_mapM)

/-! ## What stands on a sheet -/

/-- The cells of a worksheet by row and column number; nothing stands below its last row. -/
structure SheetGrid where
  lastRow : ℕ
  cell : ℕ → ℕ → CellValue
  blank_below : ∀ row column, lastRow < row → (cell row column).isBlank

/-- An empty cell between others. -/
def CellValue.sent (value : CellValue) : CellValue := if value.isBlank then .text "" else value

/-- A value that was read for a cell: the cell's own, or an empty one for an empty cell. -/
def CellValue.Shows (value cell : CellValue) : Prop :=
  if cell.isBlank then value.isBlank = true else value = cell

namespace SheetGrid

variable (grid : SheetGrid) (first last firstRow : ℕ)

/-- A row of the columns `first..last`. -/
def rowCells (row : ℕ) : List CellValue :=
  (((List.range' first (last + 1 - first)).map (grid.cell row)).rdropWhile
    CellValue.isBlank).map CellValue.sent

/-- The rows from `firstRow` on in row-major form. -/
def rowMajor : List (List CellValue) :=
  ((List.range' firstRow (grid.lastRow + 1 - firstRow)).map
    (grid.rowCells first last)).rdropWhile List.isEmpty

end SheetGrid

/-- The range of the columns from `firstColumn` to `lastColumn`, downwards from a row. -/
def openRange (worksheetName firstColumn lastColumn : String) (firstRow : ℕ) : String :=
  String.ofList (Codes.quoted apostrophe worksheetName.toList) ++ "!" ++ firstColumn ++
    toString firstRow ++ ":" ++ lastColumn

/-- The answers to requests for columns downwards from a row are what stands on the sheet. -/
def GoogleServiceAccountSheetsGateway.Serves (g : GoogleServiceAccountSheetsGateway)
    (spreadsheetId worksheetName : String) (grid : SheetGrid) (firstRow : ℕ) : Prop :=
  ∀ firstColumn lastColumn : String, (∀ c ∈ firstColumn.toList, c.isUpper) →
    (∀ c ∈ lastColumn.toList, c.isUpper) →
    lettersValue firstColumn.toList ≤ lettersValue lastColumn.toList →
    ∃ values total,
      g.request (.getValues spreadsheetId
        (openRange worksheetName firstColumn lastColumn firstRow)) = .ok (values, total) ∧
      -- a range without values comes without the key
      values.getD (.rows []) = .rows ((grid.rowMajor (lettersValue firstColumn.toList)
        (lettersValue lastColumn.toList) firstRow).map .cells)

/-! ## Lists without their end -/

section Trailing

variable {α : Type} {p : α → Bool} {l : List α} {i : ℕ}

/-- What is left has its place, and what is gone was to be dropped. -/
theorem getElem?_rdropWhile (p : α → Bool) (l : List α) (i : ℕ) :
    (l.rdropWhile p)[i]? = l[i]? ∨ (l.rdropWhile p)[i]? = none ∧ ∀ a ∈ l[i]?, p a := by
  have hsplit : l.rdropWhile p ++ l.rtakeWhile p = l := List.rdropWhile_append_rtakeWhile
  rcases Nat.lt_or_ge i (l.rdropWhile p).length with hlt | hge
  · left
    conv_rhs => rw [← hsplit]
    rw [List.getElem?_append_left hlt]
  · right
    refine ⟨List.getElem?_eq_none hge, ?_⟩
    intro a ha
    rw [← hsplit, List.getElem?_append_right hge] at ha
    exact List.mem_rtakeWhile_imp (List.mem_of_getElem? ha)

end Trailing

section Grid

variable {grid : SheetGrid} {first last firstRow row column : ℕ}

theorem isBlank_sent (value : CellValue) : value.sent.isBlank = value.isBlank := by
  unfold CellValue.sent
  split
  · rename_i h
    rw [h]
    rfl
  · rfl

theorem CellValue.Shows.isBlank_eq {value cell : CellValue} (h : value.Shows cell) :
    value.isBlank = cell.isBlank := by
  unfold CellValue.Shows at h
  split at h
  · rename_i hb
    rw [h, hb]
  · rw [h]

/-- A cell of a row that was sent is found at its distance from the first column. -/
theorem rowCells_shows (hlo : first ≤ column) (hhi : column ≤ last) :
    (((grid.rowCells first last row)[column - first]?).getD .none).Shows
      (grid.cell row column) := by
  have hcell : ((List.range' first (last + 1 - first)).map (grid.cell row))[column - first]? =
      some (grid.cell row column) := by
    rw [List.getElem?_map, List.getElem?_range' (by omega), Option.map_some, Nat.one_mul,
      Nat.add_sub_cancel' hlo]
  unfold SheetGrid.rowCells CellValue.Shows
  rw [List.getElem?_map]
  rcases getElem?_rdropWhile CellValue.isBlank
    ((List.range' first (last + 1 - first)).map (grid.cell row)) (column - first) with h | ⟨h, hblank⟩
  · rw [h, hcell, Option.map_some, Option.getD_some]
    split
    · rename_i hb
      rw [isBlank_sent, hb]
    · rename_i hb
      rw [CellValue.sent, if_neg hb]
  · rw [h, hcell] at *
    rw [if_pos (hblank _ rfl)]
    rfl

/-- The row that was sent at a place, and what holds of the rows that were not sent. -/
theorem rowMajor_getElem? (grid : SheetGrid) (first last firstRow i : ℕ) :
    ((grid.rowMajor first last firstRow)[i]? = some (grid.rowCells first last (firstRow + i))) ∨
      (grid.rowMajor first last firstRow)[i]? = none ∧
        ∀ column, first ≤ column → column ≤ last →
          (grid.cell (firstRow + i) column).isBlank = true := by
  set rows := (List.range' firstRow (grid.lastRow + 1 - firstRow)).map (grid.rowCells first last)
    with hrows
  rcases Nat.lt_or_ge i (grid.lastRow + 1 - firstRow) with hin | hout
  · have hrow : rows[i]? = some (grid.rowCells first last (firstRow + i)) := by
      rw [hrows, List.getElem?_map, List.getElem?_range' hin, Option.map_some, Nat.one_mul]
    rcases getElem?_rdropWhile List.isEmpty rows i with h | ⟨h, hempty⟩
    · left
      rw [SheetGrid.rowMajor, ← hrows, h, hrow]
    · right
      refine ⟨h, ?_⟩
      intro column hlo hhi
      -- an empty row shows an empty cell in every column
      have hshows : (((grid.rowCells first last (firstRow + i))[column - first]?).getD .none).Shows
          (grid.cell (firstRow + i) column) := rowCells_shows hlo hhi
      rw [List.isEmpty_iff.mp (hempty _ hrow)] at hshows
      exact hshows.isBlank_eq.symm
  · right
    refine ⟨?_, fun column _ _ => grid.blank_below _ _ (by omega)⟩
    have hlength := (List.rdropWhile_prefix List.isEmpty (l := rows)).length_le
    rw [hrows, List.length_map, List.length_range', ← hrows] at hlength
    exact List.getElem?_eq_none (hlength.trans hout)

end Grid

/-! ## Reading a row -/

namespace GoogleServiceAccountSheetsGateway

variable {normalized : List String} {firstColumnNumber rowNumber : ℕ} {rawRow : List CellValue}
  {column : String}

/-- Where a column is found in a row. -/
theorem item?_columnOffset (h : firstColumnNumber ≤ columnNumber column) :
    Py.item? rawRow (columnOffset firstColumnNumber column) =
      rawRow[columnNumber column - firstColumnNumber]? := by
  have hoffset : columnOffset firstColumnNumber column =
      ((columnNumber column - firstColumnNumber : ℕ) : ℤ) := by
    unfold columnOffset
    omega
  rw [hoffset, Py.item?, if_pos (by omega), Int.toNat_natCast]

/-- A row with the cells it has at the distances of the columns. -/
def decodedRow (normalized : List String) (firstColumnNumber rowNumber : ℕ)
    (rawRow : List CellValue) : SheetDataRow :=
  ⟨rowNumber, Dict.ofList (normalized.filterMap fun column =>
    (rawRow[columnNumber column - firstColumnNumber]?).map fun value => (column, value))⟩

theorem readRow_eq (hfirst : ∀ column ∈ normalized, firstColumnNumber ≤ columnNumber column) :
    readRow normalized firstColumnNumber rowNumber rawRow =
      .ok (decodedRow normalized firstColumnNumber rowNumber rawRow) := by
  suffices hentries : ((normalized.filter fun column =>
      columnOffset firstColumnNumber column < rawRow.length).mapM fun column => do
        let value ← orRaise (Py.item? rawRow (columnOffset firstColumnNumber column))
          (PyError.external "list index out of range")
        return (column, value)) = .ok (normalized.filterMap fun column =>
          (rawRow[columnNumber column - firstColumnNumber]?).map fun value => (column, value)) by
    exact bind_eq_ok.mpr ⟨_, hentries, rfl⟩
  induction normalized with
  | nil => rfl
  | cons column rest ih =>
      have hcolumn := hfirst column (by simp)
      have hrest := ih fun c hc => hfirst c (by simp [hc])
      have hoffset : columnOffset firstColumnNumber column < rawRow.length ↔
          columnNumber column - firstColumnNumber < rawRow.length := by
        unfold columnOffset
        omega
      by_cases hin : columnNumber column - firstColumnNumber < rawRow.length
      · have hitem : rawRow[columnNumber column - firstColumnNumber]? =
            some rawRow[columnNumber column - firstColumnNumber] := List.getElem?_eq_getElem hin
        rw [List.filter_cons_of_pos (by simpa using hoffset.mpr hin), List.mapM_cons, hrest,
          item?_columnOffset hcolumn, hitem, List.filterMap_cons_some (by rw [hitem]; rfl)]
        rfl
      · rw [List.filter_cons_of_neg (by simpa using fun h => hin (hoffset.mp h)), hrest,
          List.filterMap_cons_none (by rw [List.getElem?_eq_none (by omega)]; rfl)]

/-- What a row holds under a column. -/
theorem get?_entries {entry : String → Option CellValue} :
    (Dict.ofList (normalized.filterMap fun column =>
      (entry column).map fun value => (column, value))).get? column =
      if column ∈ normalized then entry column else none := by
  split
  · rename_i hcolumn
    rw [Dict.ofList, Dict.get?_update_filterMap _ _ _ hcolumn]
    exact Option.or_none
  · rename_i hcolumn
    refine Dict.get?_eq_none ?_
    rw [Dict.mem_keys_ofList]
    intro hmem
    obtain ⟨e, he, rfl⟩ := List.mem_map.mp hmem
    obtain ⟨c, hc, hsome⟩ := List.mem_filterMap.mp he
    obtain ⟨v, -, rfl⟩ := Option.map_eq_some_iff.mp hsome
    exact hcolumn hc

theorem get_decodedRow (hcolumn : column ∈ normalized) :
    (decodedRow normalized firstColumnNumber rowNumber rawRow).get column =
      (rawRow[columnNumber column - firstColumnNumber]?).getD .none := by
  unfold SheetDataRow.get decodedRow
  rw [get?_entries, if_pos hcolumn]

/-- A row has something in it when one of the columns has. -/
theorem any_decodedRow_iff :
    ((decodedRow normalized firstColumnNumber rowNumber rawRow).values.entries.any
      fun (_, value) => ¬ value.isBlank) = true ↔
      ∃ column ∈ normalized,
        ((decodedRow normalized firstColumnNumber rowNumber rawRow).get column).isBlank = false := by
  rw [List.any_eq_true]
  constructor
  · rintro ⟨⟨column, value⟩, hmem, hvalue⟩
    have hget := Dict.mem_entries_iff.mp hmem
    have hcolumn : column ∈ normalized := by
      by_contra hnot
      unfold decodedRow at hget
      rw [get?_entries, if_neg hnot] at hget
      cases hget
    refine ⟨column, hcolumn, ?_⟩
    unfold SheetDataRow.get
    rw [hget]
    simpa using hvalue
  · rintro ⟨column, hcolumn, hblank⟩
    unfold SheetDataRow.get at hblank
    cases hget : (decodedRow normalized firstColumnNumber rowNumber rawRow).values.get? column with
    | none =>
        rw [hget] at hblank
        cases hblank
    | some value =>
        rw [hget] at hblank
        exact ⟨(column, value), Dict.mem_entries_iff.mpr hget, by simpa using hblank⟩

/-- **What the loop keeps**: a row with something in one of the columns. -/
theorem keepRow_cells (hfirst : ∀ column ∈ normalized, firstColumnNumber ≤ columnNumber column) :
    keepRow normalized firstColumnNumber rowNumber (.cells rawRow) =
      .ok (if ∃ column ∈ normalized,
          ((decodedRow normalized firstColumnNumber rowNumber rawRow).get column).isBlank = false
        then some (decodedRow normalized firstColumnNumber rowNumber rawRow) else none) := by
  have hkept : (if (decodedRow normalized firstColumnNumber rowNumber rawRow).values.entries.any
      (fun (_, value) => ¬ value.isBlank) then
        some (decodedRow normalized firstColumnNumber rowNumber rawRow) else none) =
      if ∃ column ∈ normalized,
          ((decodedRow normalized firstColumnNumber rowNumber rawRow).get column).isBlank = false
        then some (decodedRow normalized firstColumnNumber rowNumber rawRow) else none :=
    if_congr any_decodedRow_iff rfl rfl
  exact bind_eq_ok.mpr ⟨_, readRow_eq hfirst, congrArg Except.ok hkept⟩

end GoogleServiceAccountSheetsGateway

/-! ## Reading the sheet -/

section Decode

open GoogleServiceAccountSheetsGateway

variable {g : GoogleServiceAccountSheetsGateway} {grid : SheetGrid}
  {spreadsheetId worksheetName : String} {columns normalized : List String}
  {first last firstDataRow : ℕ}

theorem rowsRange_eq (worksheetName firstColumn lastColumn : String) (firstDataRow : ℕ) :
    rowsRange worksheetName firstColumn lastColumn firstDataRow =
      openRange worksheetName firstColumn lastColumn firstDataRow := rfl

/-- The row that is kept of an entry with its distance from the first one. -/
def keptRow (normalized : List String) (first firstDataRow : ℕ) (entry : List CellValue × ℕ) :
    Option SheetDataRow :=
  let row := decodedRow normalized first (firstDataRow + entry.2) entry.1
  if ∃ column ∈ normalized, (row.get column).isBlank = false then some row else none

theorem keptRow_eq_some {entry : List CellValue × ℕ} {row : SheetDataRow} :
    keptRow normalized first firstDataRow entry = some row ↔
      row = decodedRow normalized first (firstDataRow + entry.2) entry.1 ∧
        ∃ column ∈ normalized, (row.get column).isBlank = false := by
  unfold keptRow
  dsimp only
  split
  · rename_i h
    constructor
    · intro hrow
      obtain rfl := Option.some.inj hrow
      exact ⟨rfl, h⟩
    · rintro ⟨rfl, -⟩
      rfl
  · rename_i h
    constructor
    · intro hrow
      cases hrow
    · rintro ⟨rfl, hsome⟩
      exact absurd hsome h

def keptRows (normalized : List String) (first firstDataRow : ℕ)
    (rawValues : List (List CellValue)) : List SheetDataRow :=
  rawValues.zipIdx.filterMap (keptRow normalized first firstDataRow)

/-- What the loop makes of the rows that were sent. -/
theorem mapM_keepRow (hfirst : ∀ column ∈ normalized, first ≤ columnNumber column)
    (rawValues : List (List CellValue)) :
    ((rawValues.map RawRow.cells).zipIdx.mapM fun (rawRow, offset) =>
        keepRow normalized first (firstDataRow + offset) rawRow) =
      .ok (rawValues.zipIdx.map (keptRow normalized first firstDataRow)) := by
  rw [List.zipIdx_map, List.mapM_map,
    Py.mapM_congr (g := fun entry => .ok (keptRow normalized first firstDataRow entry))]
  · exact List.mapM_pure
  · intro entry _
    exact keepRow_cells hfirst

theorem reduceOption_map {α β : Type} {f : α → Option β} {l : List α} :
    (l.map f).reduceOption = l.filterMap f := by
  rw [List.reduceOption, List.filterMap_map]
  rfl

/-- **What `read_rows` returns**, given what Google answers. -/
theorem readRows_eq (hcolumns : columns.mapM normalizeColumn = .ok normalized)
    (hfirst : (normalized.map columnNumber).min? = some first)
    (hlast : (normalized.map columnNumber).max? = some last)
    (hspec : ∀ column ∈ normalized, 1 ≤ columnNumber column ∧ columnNumber column ≤ 16384)
    (hserves : g.Serves spreadsheetId worksheetName grid firstDataRow) :
    g.readRows spreadsheetId worksheetName columns firstDataRow =
      .ok (keptRows normalized first firstDataRow (grid.rowMajor first last firstDataRow)) := by
  have hnumbers : ∀ column ∈ normalized, first ≤ columnNumber column := fun column hcolumn =>
    (List.min?_eq_some_iff.mp hfirst).2 _ (List.mem_map_of_mem hcolumn)
  obtain ⟨hmin, -⟩ := List.min?_eq_some_iff.mp hfirst
  obtain ⟨hmax, -⟩ := List.max?_eq_some_iff.mp hlast
  obtain ⟨firstOne, hfirstOne, rfl⟩ := List.mem_map.mp hmin
  obtain ⟨lastOne, hlastOne, rfl⟩ := List.mem_map.mp hmax
  obtain ⟨firstColumn, hfirstName, hfirstLetters, hfirstValue⟩ :=
    columnName_spec (hspec firstOne hfirstOne).1 (hspec firstOne hfirstOne).2
  obtain ⟨lastColumn, hlastName, hlastLetters, hlastValue⟩ :=
    columnName_spec (hspec lastOne hlastOne).1 (hspec lastOne hlastOne).2
  obtain ⟨values, total, hanswer, hvalues⟩ := hserves firstColumn lastColumn hfirstLetters
    hlastLetters (by rw [hfirstValue, hlastValue]; exact hnumbers lastOne hlastOne)
  rw [hfirstValue, hlastValue] at hvalues
  refine bind_eq_ok.mpr ⟨_, hcolumns, bind_eq_ok.mpr ⟨_, Py.orRaise_eq_ok.mpr hfirst,
    bind_eq_ok.mpr ⟨_, Py.orRaise_eq_ok.mpr hlast, bind_eq_ok.mpr ⟨_, hfirstName,
    bind_eq_ok.mpr ⟨_, hlastName, bind_eq_ok.mpr ⟨_, hanswer, ?_⟩⟩⟩⟩⟩⟩
  dsimp only
  rw [hvalues]
  refine bind_eq_ok.mpr ⟨_, mapM_keepRow hnumbers _, ?_⟩
  exact congrArg Except.ok reduceOption_map

/-- The rows that are kept are in order. -/
theorem keptRows_ascending (rawValues : List (List CellValue)) :
    ((keptRows normalized first firstDataRow rawValues).map
      SheetDataRow.rowNumber).Pairwise (· < ·) := by
  have hoffsets : rawValues.zipIdx.Pairwise fun entry entry' => entry.2 < entry'.2 := by
    rw [← List.pairwise_map (f := Prod.snd), List.zipIdx_map_snd]
    exact List.pairwise_lt_range'
  unfold keptRows
  rw [List.pairwise_map, List.pairwise_filterMap]
  refine hoffsets.imp ?_
  intro entry entry' hlt row hrow row' hrow'
  rw [keptRow_eq_some] at hrow hrow'
  rw [hrow.1, hrow'.1]
  show firstDataRow + entry.2 < firstDataRow + entry'.2
  omega

/-- A row that is kept shows the row of the sheet with its number. -/
theorem keptRow_shows {offset : ℕ}
    (hfirst : ∀ column ∈ normalized, first ≤ columnNumber column)
    (hlast : ∀ column ∈ normalized, columnNumber column ≤ last) :
    ∀ column ∈ normalized,
      ((decodedRow normalized first (firstDataRow + offset)
        (grid.rowCells first last (firstDataRow + offset))).get column).Shows
        (grid.cell (firstDataRow + offset) (columnNumber column)) := by
  intro column hcolumn
  rw [get_decodedRow hcolumn]
  exact rowCells_shows (hfirst column hcolumn) (hlast column hcolumn)

/-- Rows that decode a sheet: those with something in a requested column, once each and in
order, with the cells of that row. -/
structure Decodes (grid : SheetGrid) (normalized : List String) (firstDataRow : ℕ)
    (rows : List SheetDataRow) : Prop where
  ascending : (rows.map SheetDataRow.rowNumber).Pairwise (· < ·)
  mem_iff : ∀ n, n ∈ rows.map SheetDataRow.rowNumber ↔
    firstDataRow ≤ n ∧
      ∃ column ∈ normalized, (grid.cell n (lettersValue column.toList)).isBlank = false
  shows : ∀ row ∈ rows, ∀ column ∈ normalized,
    (row.get column).Shows (grid.cell row.rowNumber (lettersValue column.toList))
  only : ∀ row ∈ rows, ∀ column ∉ normalized, row.values.get? column = none

/-- What is kept of a sheet decodes it. -/
theorem keptRows_decodes (hfirst : ∀ column ∈ normalized, first ≤ columnNumber column)
    (hlast : ∀ column ∈ normalized, columnNumber column ≤ last)
    (hletters : ∀ column ∈ normalized, columnNumber column = lettersValue column.toList) :
    Decodes grid normalized firstDataRow
      (keptRows normalized first firstDataRow (grid.rowMajor first last firstDataRow)) := by
  -- a kept row is the row of the sheet with its number
  have hkept : ∀ row ∈ keptRows normalized first firstDataRow
      (grid.rowMajor first last firstDataRow), ∃ offset,
        row = decodedRow normalized first (firstDataRow + offset)
          (grid.rowCells first last (firstDataRow + offset)) ∧
        ∃ column ∈ normalized, (row.get column).isBlank = false := by
    intro row hrow
    obtain ⟨⟨rawRow, offset⟩, hentry, hsome⟩ := List.mem_filterMap.mp hrow
    obtain ⟨rfl, hcolumn⟩ := keptRow_eq_some.mp hsome
    have hraw := List.mem_zipIdx_iff_getElem?.mp hentry
    dsimp only at hraw
    rcases rowMajor_getElem? grid first last firstDataRow offset with h | ⟨h, -⟩
    · obtain rfl := Option.some.inj (h.symm.trans hraw)
      exact ⟨offset, rfl, hcolumn⟩
    · cases h.symm.trans hraw
  refine ⟨keptRows_ascending _, ?_, ?_, ?_⟩
  · intro n
    constructor
    · intro hn
      obtain ⟨row, hrow, rfl⟩ := List.mem_map.mp hn
      obtain ⟨offset, rfl, column, hcolumn, hblank⟩ := hkept row hrow
      refine ⟨Nat.le_add_right _ _, column, hcolumn, ?_⟩
      rw [(keptRow_shows hfirst hlast column hcolumn).isBlank_eq, hletters column hcolumn] at hblank
      exact hblank
    · rintro ⟨hle, column, hcolumn, hblank⟩
      obtain ⟨offset, rfl⟩ := Nat.exists_eq_add_of_le hle
      rw [← hletters column hcolumn] at hblank
      rcases rowMajor_getElem? grid first last firstDataRow offset with h | ⟨-, hnone⟩
      · refine List.mem_map.mpr ⟨decodedRow normalized first (firstDataRow + offset)
          (grid.rowCells first last (firstDataRow + offset)), ?_, rfl⟩
        refine List.mem_filterMap.mpr ⟨(_, offset), List.mem_zipIdx_iff_getElem?.mpr h, ?_⟩
        refine keptRow_eq_some.mpr ⟨rfl, column, hcolumn, ?_⟩
        rw [(keptRow_shows hfirst hlast column hcolumn).isBlank_eq, hblank]
      · rw [hnone _ (hfirst column hcolumn) (hlast column hcolumn)] at hblank
        cases hblank
  · intro row hrow column hcolumn
    obtain ⟨offset, rfl, -⟩ := hkept row hrow
    rw [← hletters column hcolumn]
    exact keptRow_shows hfirst hlast column hcolumn
  · intro row hrow column hcolumn
    obtain ⟨offset, rfl, -⟩ := hkept row hrow
    unfold decodedRow
    rw [get?_entries, if_neg hcolumn]

/-- **The rows of a sparse range**: for every sheet and every columns that are accepted, what
is read are the rows with something in one of them, under their own numbers and with their
own cells, and no cell is sought in front of a row. -/
theorem read_rows_decodes_range (hne : columns ≠ [])
    (hcolumns : columns.mapM normalizeColumn = .ok normalized)
    (hserves : g.Serves spreadsheetId worksheetName grid firstDataRow) :
    (∃ rows, g.readRows spreadsheetId worksheetName columns firstDataRow = .ok rows ∧
      Decodes grid normalized firstDataRow rows) ∧
    ∃ first, (normalized.map columnNumber).min? = some first ∧
      ∀ column ∈ normalized, 0 ≤ columnOffset first column := by
  obtain ⟨hlength, hmem⟩ := exists_of_mem_mapM hcolumns
  have hspec : ∀ column ∈ normalized, (∀ c ∈ column.toList, c.isUpper) ∧
      1 ≤ columnNumber column ∧ columnNumber column ≤ 16384 := by
    intro column hcolumn
    obtain ⟨value, -, hvalue⟩ := hmem column hcolumn
    exact normalizeColumn_spec hvalue
  have hnormalized : normalized.map columnNumber ≠ [] := by
    intro hnil
    rw [List.map_eq_nil_iff.mp hnil, List.length_nil] at hlength
    exact hne (List.length_eq_zero_iff.mp hlength.symm)
  cases hfirst : (normalized.map columnNumber).min? with
  | none => exact absurd (List.min?_eq_none_iff.mp hfirst) hnormalized
  | some first =>
      cases hlast : (normalized.map columnNumber).max? with
      | none => exact absurd (List.max?_eq_none_iff.mp hlast) hnormalized
      | some last =>
          have hlo : ∀ column ∈ normalized, first ≤ columnNumber column := fun column hcolumn =>
            (List.min?_eq_some_iff.mp hfirst).2 _ (List.mem_map_of_mem hcolumn)
          have hhi : ∀ column ∈ normalized, columnNumber column ≤ last := fun column hcolumn =>
            (List.max?_eq_some_iff.mp hlast).2 _ (List.mem_map_of_mem hcolumn)
          refine ⟨⟨_, readRows_eq hcolumns hfirst hlast (fun column hcolumn =>
            (hspec column hcolumn).2) hserves, ?_⟩, first, rfl, ?_⟩
          · exact keptRows_decodes hlo hhi fun column hcolumn =>
              columnNumber_eq (hspec column hcolumn).1
          · intro column hcolumn
            have hle := hlo column hcolumn
            unfold columnOffset
            omega

end Decode

/-! ## A run through the gateway -/

/-- A run over a Google sheet. -/
def SyncEnvironment.through (env : SyncEnvironment) (g : GoogleServiceAccountSheetsGateway) :
    SyncEnvironment :=
  { env with
    readRows := g.readRows
    updateCells := fun spreadsheetId worksheetName updates =>
      (g.updateCells spreadsheetId worksheetName updates).map fun _ => () }

section Numbered

open GoogleServiceAccountSheetsGateway

theorem keepRow_rowNumber {normalized : List String} {first rowNumber : ℕ} {rawRow : RawRow}
    {row : SheetDataRow} (h : keepRow normalized first rowNumber rawRow = .ok (some row)) :
    row.rowNumber = rowNumber := by
  cases rawRow with
  | other => cases h
  | cells rawRow =>
      obtain ⟨decoded, hdecoded, hkept⟩ := bind_eq_ok.mp h
      obtain ⟨entries, -, hrow⟩ := bind_eq_ok.mp hdecoded
      obtain rfl := Except.ok.inj hrow
      have hkept := Except.ok.inj hkept
      split at hkept
      · obtain rfl := Option.some.inj hkept
        rfl
      · cases hkept

/-- The rows of any answer are numbered upwards from the first one. -/
theorem mapM_keepRow_numbered {normalized : List String} {first firstDataRow k : ℕ}
    {rawValues : List RawRow} {rows : List (Option SheetDataRow)}
    (h : ((rawValues.zipIdx k).mapM fun (rawRow, offset) =>
      keepRow normalized first (firstDataRow + offset) rawRow) = .ok rows) :
    (rows.reduceOption.map SheetDataRow.rowNumber).Pairwise (· < ·) ∧
      ∀ row ∈ rows.reduceOption, firstDataRow + k ≤ row.rowNumber := by
  induction rawValues generalizing k rows with
  | nil =>
      obtain rfl := Except.ok.inj h
      exact ⟨List.Pairwise.nil, fun row hrow => absurd hrow List.not_mem_nil⟩
  | cons rawRow rawValues ih =>
      rw [List.zipIdx_cons, List.mapM_cons] at h
      obtain ⟨kept, hkept, h⟩ := bind_eq_ok.mp h
      obtain ⟨rest, hrest, h⟩ := bind_eq_ok.mp h
      obtain rfl := Except.ok.inj h
      obtain ⟨hordered, hbelow⟩ := ih hrest
      cases kept with
      | none =>
          rw [List.reduceOption_cons_of_none]
          refine ⟨hordered, ?_⟩
          intro row hrow
          have := hbelow row hrow
          omega
      | some row =>
          have hnumber : row.rowNumber = firstDataRow + k := keepRow_rowNumber hkept
          rw [List.reduceOption_cons_of_some, List.map_cons, List.pairwise_cons]
          refine ⟨⟨?_, hordered⟩, ?_⟩
          · intro n hn
            obtain ⟨later, hlater, rfl⟩ := List.mem_map.mp hn
            have := hbelow later hlater
            omega
          · intro other hother
            rcases List.mem_cons.mp hother with rfl | hother
            · omega
            · have := hbelow other hother
              omega

/-- **The rows of a Google sheet** are distinct and none stands above the first row asked for,
whatever is answered. -/
theorem through_readsDataRows (env : SyncEnvironment) (g : GoogleServiceAccountSheetsGateway) :
    (env.through g).ReadsDataRows := by
  intro spreadsheetId worksheetName columns firstDataRow rows h
  obtain ⟨normalized, -, h⟩ := bind_eq_ok.mp h
  obtain ⟨first, -, h⟩ := bind_eq_ok.mp h
  obtain ⟨last, -, h⟩ := bind_eq_ok.mp h
  obtain ⟨firstColumn, -, h⟩ := bind_eq_ok.mp h
  obtain ⟨lastColumn, -, h⟩ := bind_eq_ok.mp h
  obtain ⟨⟨values, total⟩, -, h⟩ := bind_eq_ok.mp h
  dsimp only at h
  cases hvalues : values.getD (.rows []) with
  | other =>
      rw [hvalues] at h
      cases h
  | rows rawValues =>
      rw [hvalues] at h
      obtain ⟨kept, hkept, h⟩ := bind_eq_ok.mp h
      obtain rfl := Except.ok.inj h
      obtain ⟨hordered, hbelow⟩ := mapM_keepRow_numbered hkept
      exact ⟨hordered.imp Nat.ne_of_lt, hbelow⟩

end Numbered

/-! ## A sheet that is served -/

/-- A request that is answered at once. -/
theorem request_of_answer {g : GoogleServiceAccountSheetsGateway} {request : GoogleRequest}
    {values : Option RawValues} {total : Option ℕ} (hretries : 1 ≤ g.retries)
    (h : g.attempt 0 request = .response 200 (.object values total)) :
    g.request request = .ok (values, total) := by
  obtain ⟨n, hn⟩ := Nat.exists_eq_add_of_le' hretries
  refine bind_eq_ok.mpr ⟨.object values total, ?_, rfl⟩
  rw [hn, List.range_succ_eq_map, GoogleServiceAccountSheetsGateway.requestFrom, h]
  rfl

/-- The answer to a request: the columns are read off the text of the range. -/
def SheetGrid.answer (grid : SheetGrid) (worksheetName : String) (firstRow : ℕ) :
    GoogleRequest → GoogleAttempt
  | .getValues _ cellRange =>
      let cells := cellRange.toList.drop
        ((Codes.quoted apostrophe worksheetName.toList).length + 1)
      let first := cells.takeWhile Char.isUpper
      let last := (cells.reverse.takeWhile Char.isUpper).reverse
      .response 200 (.object (some (.rows ((grid.rowMajor (lettersValue first)
        (lettersValue last) firstRow).map .cells))) none)
  | .batchUpdate _ data => .response 200 (.object none (some data.length))

/-- A gateway to one sheet. -/
def SheetGrid.gateway (grid : SheetGrid) (worksheetName : String) (firstRow : ℕ) :
    GoogleServiceAccountSheetsGateway where
  retries := 1
  attempt := fun _ => grid.answer worksheetName firstRow
  statusError := fun _ => .external "HTTP error"
  float := Py.Decimal.str

theorem SheetGrid.gateway_serves (grid : SheetGrid) (spreadsheetId worksheetName : String)
    (firstRow : ℕ) :
    (grid.gateway worksheetName firstRow).Serves spreadsheetId worksheetName grid firstRow := by
  intro firstColumn lastColumn hfirst hlast _
  have hchars : (openRange worksheetName firstColumn lastColumn firstRow).toList =
      Codes.quoted apostrophe worksheetName.toList ++ '!' ::
        (firstColumn.toList ++ (Nat.toDigits 10 firstRow ++ ':' :: lastColumn.toList)) := by
    simp [openRange]
  have hcells : (openRange worksheetName firstColumn lastColumn firstRow).toList.drop
      ((Codes.quoted apostrophe worksheetName.toList).length + 1) =
        firstColumn.toList ++ (Nat.toDigits 10 firstRow ++ ':' :: lastColumn.toList) := by
    rw [hchars, List.drop_append]
    simp
  have hheadDigit : ∀ c ∈ (Nat.toDigits 10 firstRow ++ ':' :: lastColumn.toList).head?,
      c.isUpper = false := by
    intro c hc
    rw [List.head?_append_of_ne_nil _ Nat.toDigits_ne_nil] at hc
    exact isUpper_of_mem_toDigits (List.mem_of_mem_head? hc)
  have htakeFirst : (firstColumn.toList ++ (Nat.toDigits 10 firstRow ++
      ':' :: lastColumn.toList)).takeWhile Char.isUpper = firstColumn.toList :=
    Codes.takeWhile_span hfirst hheadDigit
  have htakeLast : ((firstColumn.toList ++ (Nat.toDigits 10 firstRow ++
      ':' :: lastColumn.toList)).reverse.takeWhile Char.isUpper).reverse = lastColumn.toList := by
    have hreverse : (firstColumn.toList ++ (Nat.toDigits 10 firstRow ++
        ':' :: lastColumn.toList)).reverse =
          lastColumn.toList.reverse ++ ':' :: (firstColumn.toList ++
            Nat.toDigits 10 firstRow).reverse := by simp
    have hcolon : ∀ c ∈ (':' :: (firstColumn.toList ++ Nat.toDigits 10 firstRow).reverse).head?,
        c.isUpper = false := by
      intro c hc
      obtain rfl := Option.some.inj hc
      rfl
    rw [hreverse, Codes.takeWhile_span (by simpa using hlast) hcolon, List.reverse_reverse]
  refine ⟨some (.rows ((grid.rowMajor (lettersValue firstColumn.toList)
    (lettersValue lastColumn.toList) firstRow).map .cells)), none, ?_, rfl⟩
  refine request_of_answer (Nat.le_refl 1) ?_
  show GoogleAttempt.response 200 _ = _
  rw [hcells, htakeFirst, htakeLast]

/-- A sheet with a bond in row 3 and a lone number in row 5. -/
def twoRowGrid : SheetGrid where
  lastRow := 5
  cell := fun row column =>
    if row = 3 ∧ column = 2 then .text "RU000A107SX3"
    else if row = 5 ∧ column = 10 then .number "0.4"
    else .none
  blank_below := by
    intro row column h
    rw [if_neg (by omega), if_neg (by omega)]
    rfl

theorem read_rows_decodes_twoRowGrid :
    (∃ rows, (twoRowGrid.gateway "Доход 'счёт'" 2).readRows "sheet" "Доход 'счёт'"
        ["j", "B", " e ", "B"] 2 = .ok rows ∧
      Decodes twoRowGrid ["J", "B", "E", "B"] 2 rows) ∧
    ∃ first, (["J", "B", "E", "B"].map columnNumber).min? = some first ∧
      ∀ column ∈ ["J", "B", "E", "B"],
        0 ≤ GoogleServiceAccountSheetsGateway.columnOffset first column :=
  read_rows_decodes_range (by simp) (by decide +kernel)
    (twoRowGrid.gateway_serves "sheet" "Доход 'счёт'" 2)

end BondTrading
