/-
# BondTrading.Sheets.Memory -- a sheet that keeps what is written to it

`MemoryGoogleSheetsGateway` of `infrastructure/google_sheets/client.py`.  A batch that
stays in its frame adds no row to a sheet, so that the rows a second run reads are those of
the first with the cells of the batch in them.
-/
import BondTrading.Py.Numerals
import BondTrading.Sheets.Batches
import Mathlib.Data.List.Sort

namespace BondTrading

open Py (Decimal Dict)

/-- What a cell holds after `CellUpdate.value` was written to it. -/
def CellContent.cell : CellContent → CellValue
  | .none => .text ""
  | .text value => .text value
  | .decimal value => .number value.str

/-- `MemoryGoogleSheetsGateway`: a spreadsheet is its title and its worksheets. -/
structure MemoryGoogleSheetsGateway where
  spreadsheets : Dict String (String × List String)
  cells : Dict (String × String × ℕ × String) CellValue
  updateBatches : List (List CellUpdate)

namespace MemoryGoogleSheetsGateway

variable (g : MemoryGoogleSheetsGateway) (spreadsheetId worksheetName : String)

/-- `check_connection`: the names of the worksheets. -/
def checkConnection : Except PyError (List String) := do
  let (_, worksheets) ← Py.orRaise (g.spreadsheets.get? spreadsheetId)
    (.external "Тестовая Google Таблица не найдена")
  return worksheets.insertionSort (· ≤ ·)

/-- `_require_worksheet`. -/
def requireWorksheet : Except PyError Unit := do
  let worksheetNames ← g.checkConnection spreadsheetId
  Py.raiseIf (worksheetName ∉ worksheetNames)
    (.external ("Тестовая вкладка «" ++ worksheetName ++ "» не найдена"))

/-- The numbers of the rows with a cell in one of the columns. -/
def rowNumbers (columns : List String) (firstDataRow : ℕ) : List ℕ :=
  (Py.distinct ((g.cells.keys.filter fun (book, sheet, row, column) =>
    book = spreadsheetId ∧ sheet = worksheetName ∧ column ∈ columns ∧ firstDataRow ≤ row).map
      fun (_, _, row, _) => row)).insertionSort (· ≤ ·)

/-- The row with its cells in these columns. -/
def readRow (columns : List String) (row : ℕ) : SheetDataRow :=
  ⟨row, Dict.ofList (columns.filterMap fun column =>
    (g.cells.get? (spreadsheetId, worksheetName, row, column)).map fun value => (column, value))⟩

/-- `read_rows`. -/
def readRows (columns : List String) (firstDataRow : ℕ) : Except PyError (List SheetDataRow) := do
  g.requireWorksheet spreadsheetId worksheetName
  return (g.rowNumbers spreadsheetId worksheetName columns firstDataRow).map
    (g.readRow spreadsheetId worksheetName columns)

/-- The sheet with a batch in it. -/
def updated (updates : List CellUpdate) : MemoryGoogleSheetsGateway :=
  { g with
    cells := updates.foldl (fun cells u =>
      cells.set (spreadsheetId, worksheetName, u.rowNumber, u.column) u.value.cell) g.cells
    updateBatches := g.updateBatches ++ [updates] }

/-- `update_cells`. -/
def updateCells (updates : List CellUpdate) : Except PyError MemoryGoogleSheetsGateway := do
  g.requireWorksheet spreadsheetId worksheetName
  return g.updated spreadsheetId worksheetName updates

/-- `set_cell`. -/
def setCell (row : ℕ) (column : String) (value : CellValue) : MemoryGoogleSheetsGateway :=
  { g with cells := g.cells.set (spreadsheetId, worksheetName, row, column) value }

end MemoryGoogleSheetsGateway

/-- A run over this sheet. -/
def SyncEnvironment.over (env : SyncEnvironment) (g : MemoryGoogleSheetsGateway) :
    SyncEnvironment :=
  { env with
    checkConnection := g.checkConnection
    readRows := g.readRows
    updateCells := fun spreadsheetId worksheetName updates =>
      (g.updateCells spreadsheetId worksheetName updates).map fun _ => () }

namespace MemoryGoogleSheetsGateway

variable {g : MemoryGoogleSheetsGateway} {spreadsheetId worksheetName : String}
  {columns : List String} {firstDataRow n : ℕ} {column : String} {batch : List CellUpdate}

/-! ## Cells -/

/-- A row holds the cells of the sheet. -/
theorem get_readRow (h : column ∈ columns) :
    (g.readRow spreadsheetId worksheetName columns n).get column =
      (g.cells.get? (spreadsheetId, worksheetName, n, column)).getD .none := by
  show ((Dict.update Dict.empty _).get? column).getD _ = _
  rw [Dict.get?_update_filterMap _ _ _ h]
  show ((g.cells.get? _).or none).getD _ = _
  rw [Option.or_none]

/-- **What a cell holds after a batch**: what was last written to it, or what it held. -/
theorem get?_updated :
    (g.updated spreadsheetId worksheetName batch).cells.get?
        (spreadsheetId, worksheetName, n, column) =
      ((written batch n column).getLast?.map CellContent.cell).or
        (g.cells.get? (spreadsheetId, worksheetName, n, column)) := by
  unfold updated
  dsimp only
  generalize g.cells = cells
  induction batch generalizing cells with
  | nil => rfl
  | cons u batch ih =>
      rw [List.foldl_cons, ih, Dict.get?_set]
      by_cases hu : u.rowNumber = n ∧ u.column = column
      · obtain ⟨rfl, rfl⟩ := hu
        have hwritten : written (u :: batch) u.rowNumber u.column =
            u.value :: written batch u.rowNumber u.column := by
          unfold written
          rw [List.filter_cons_of_pos (by simp)]
          rfl
        rw [hwritten, List.getLast?_cons, if_pos rfl]
        cases (written batch u.rowNumber u.column).getLast? with
        | none => rfl
        | some content => rfl
      · have hwritten : written (u :: batch) n column = written batch n column := by
          unfold written
          rw [List.filter_cons_of_neg (by simpa using hu)]
        rw [hwritten, if_neg]
        intro hkey
        simp only [Prod.mk.injEq, true_and] at hkey
        exact hu ⟨hkey.1.symm, hkey.2.symm⟩

/-! ## Rows -/

theorem mem_rowNumbers :
    n ∈ g.rowNumbers spreadsheetId worksheetName columns firstDataRow ↔ firstDataRow ≤ n ∧
      ∃ column ∈ columns, (spreadsheetId, worksheetName, n, column) ∈ g.cells.keys := by
  unfold rowNumbers
  rw [List.mem_insertionSort, Py.mem_distinct, List.mem_map]
  constructor
  · rintro ⟨⟨book, sheet, row, column⟩, hmem, rfl⟩
    obtain ⟨hkey, hmeets⟩ := List.mem_filter.mp hmem
    obtain ⟨rfl, rfl, hcolumn, hrow⟩ := of_decide_eq_true hmeets
    exact ⟨hrow, column, hcolumn, hkey⟩
  · rintro ⟨hrow, column, hcolumn, hkey⟩
    exact ⟨_, List.mem_filter.mpr ⟨hkey, decide_eq_true ⟨rfl, rfl, hcolumn, hrow⟩⟩, rfl⟩

theorem nodup_rowNumbers :
    (g.rowNumbers spreadsheetId worksheetName columns firstDataRow).Nodup :=
  (List.perm_insertionSort _ _).nodup_iff.mpr (Py.nodup_distinct _)

theorem map_rowNumber_readRow (numbers : List ℕ) :
    (numbers.map (g.readRow spreadsheetId worksheetName columns)).map SheetDataRow.rowNumber =
      numbers := by
  rw [List.map_map]
  exact List.map_id _

/-- **The rows of a sheet** are distinct and none stands above the first row asked for. -/
theorem over_readsDataRows (env : SyncEnvironment) (g : MemoryGoogleSheetsGateway) :
    (env.over g).ReadsDataRows := by
  intro spreadsheetId worksheetName columns firstDataRow rows h
  obtain ⟨-, -, hrows⟩ := Py.bind_eq_ok.mp h
  obtain rfl := Except.ok.inj hrows
  refine ⟨?_, ?_⟩
  · rw [map_rowNumber_readRow]
    exact nodup_rowNumbers
  · intro row hrow
    have hmem := List.mem_map_of_mem (f := SheetDataRow.rowNumber) hrow
    rw [map_rowNumber_readRow] at hmem
    exact (mem_rowNumbers.mp hmem).1

/-- A batch adds only the cells it addresses. -/
theorem mem_keys_updated {key : String × String × ℕ × String} :
    key ∈ (g.updated spreadsheetId worksheetName batch).cells.keys ↔ key ∈ g.cells.keys ∨
      ∃ u ∈ batch, key = (spreadsheetId, worksheetName, u.rowNumber, u.column) := by
  unfold updated
  dsimp only
  generalize g.cells = cells
  induction batch generalizing cells with
  | nil => simp
  | cons u batch ih =>
      rw [List.foldl_cons, ih, Dict.mem_keys_set, List.exists_mem_cons_iff, or_assoc,
        or_left_comm]

/-- **A batch for the rows of a sheet adds no row.** -/
theorem rowNumbers_updated
    (hrows : ∀ u ∈ batch, firstDataRow ≤ u.rowNumber →
      u.rowNumber ∈ g.rowNumbers spreadsheetId worksheetName columns firstDataRow) :
    (g.updated spreadsheetId worksheetName batch).rowNumbers spreadsheetId worksheetName columns
        firstDataRow =
      g.rowNumbers spreadsheetId worksheetName columns firstDataRow := by
  have hmem : ∀ n, n ∈ (g.updated spreadsheetId worksheetName batch).rowNumbers spreadsheetId
      worksheetName columns firstDataRow ↔
        n ∈ g.rowNumbers spreadsheetId worksheetName columns firstDataRow := by
    intro n
    rw [mem_rowNumbers, mem_rowNumbers]
    constructor
    · rintro ⟨hfirst, column, hcolumn, hkey⟩
      rcases mem_keys_updated.mp hkey with hkey | ⟨u, hu, hsame⟩
      · exact ⟨hfirst, column, hcolumn, hkey⟩
      · simp only [Prod.mk.injEq, true_and] at hsame
        obtain ⟨rfl, rfl⟩ := hsame
        exact mem_rowNumbers.mp (hrows u hu hfirst)
    · rintro ⟨hfirst, column, hcolumn, hkey⟩
      exact ⟨hfirst, column, hcolumn, mem_keys_updated.mpr (Or.inl hkey)⟩
  have hperm := (List.perm_ext_iff_of_nodup nodup_rowNumbers nodup_rowNumbers).mpr hmem
  exact hperm.eq_of_pairwise' (List.pairwise_insertionSort _ _) (List.pairwise_insertionSort _ _)

/-- What `read_rows` finds after a batch. -/
theorem readRows_updated {rows : List SheetDataRow}
    (hread : g.readRows spreadsheetId worksheetName columns firstDataRow = .ok rows)
    (hrows : ∀ u ∈ batch, firstDataRow ≤ u.rowNumber →
      u.rowNumber ∈ rows.map SheetDataRow.rowNumber) :
    (g.updated spreadsheetId worksheetName batch).readRows spreadsheetId worksheetName columns
        firstDataRow =
      .ok (rows.map fun row => (g.updated spreadsheetId worksheetName batch).readRow spreadsheetId
        worksheetName columns row.rowNumber) := by
  obtain ⟨_, hworksheet, hreturn⟩ := Py.bind_eq_ok.mp hread
  obtain rfl := Except.ok.inj hreturn
  rw [map_rowNumber_readRow] at hrows
  have hsame : (g.updated spreadsheetId worksheetName batch).requireWorksheet spreadsheetId
      worksheetName = .ok () := hworksheet
  unfold readRows
  rw [hsame, Py.ok_bind, rowNumbers_updated hrows, List.map_map]
  rfl

end MemoryGoogleSheetsGateway

end BondTrading
