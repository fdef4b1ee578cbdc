/-
# BondTrading.Sheets.Mirrored -- a sheet and its mirror, as a run sees them

A run reads off a sheet the ISIN and the purchase, which customers enter, and the amounts in J and
L, which it fills in itself where they are empty.  A memory mirrors a sheet for a run if it holds
the same texts in the columns of the customers and the same amounts in J and L; its data rows are
then alike, and entries of customers and batches of runs keep it so.
-/
import BondTrading.Sheets.Alike
import BondTrading.Sheets.Fills
import BondTrading.Sheets.Redeliveries
import BondTrading.Sheets.Repeats

namespace BondTrading

open Py (Decimal Dict)

/-! ## Sheets that a run cannot tell apart -/

/-- A connection to a sheet that is there.  `customers` are the columns of a sheet that only
customers fill: the ISIN and the purchase among them, and no column of a run. -/
structure SheetConnectionModel.Fits (connection : SheetConnectionModel)
    (has : String → String → Prop) (customers : String → String → String → Prop) : Prop where
  placed : WellPlaced connection
  there : has connection.spreadsheetId connection.worksheetName
  header : 1 ≤ connection.headerRow
  columns : ∀ column ∈ connection.usedColumns, normalizeColumn column = .ok column
  inputs : ∀ column ∈ connection.isinColumn :: ["E", "H", "I", "V"],
    customers connection.spreadsheetId connection.worksheetName column
  outputs : ∀ column ∈ connection.outputColumns,
    ¬ customers connection.spreadsheetId connection.worksheetName column

/-- **The memory mirrors the sheets**, and a run reads the same off both: the texts of the
customers, and the amounts in J and L. -/
structure Mirrored {σ : Type} (has : String → String → Prop)
    (customers : String → String → String → Prop) (grid : σ → String → String → SheetGrid)
    (float : Decimal → String) (s : σ) (m : MemoryGoogleSheetsGateway) : Prop where
  mirrors : Mirrors has grid float s m
  texts : ∀ spreadsheetId worksheetName row (column : String),
    has spreadsheetId worksheetName → customers spreadsheetId worksheetName column →
    (∀ c ∈ column.toList, c.isUpper) →
      ((grid s spreadsheetId worksheetName).cell row (lettersValue column.toList)).Shows
        (m.held spreadsheetId worksheetName row column)
  amounts : ∀ spreadsheetId worksheetName row, has spreadsheetId worksheetName →
    ∀ column ∈ filledColumns,
      ((grid s spreadsheetId worksheetName).cell row (lettersValue column.toList)).SameAmount
        (m.held spreadsheetId worksheetName row column)

section Columns

variable {connection : SheetConnectionModel} {has : String → String → Prop}
  {customers : String → String → String → Prop}

theorem filledColumns_capitals : ∀ column ∈ filledColumns, ∀ c ∈ column.toList, c.isUpper := by
  have hall : ∀ column ∈ filledColumns, column.toList.all Char.isUpper := by decide
  exact fun column hcolumn => List.all_eq_true.mp (hall column hcolumn)

theorem normalizeColumn_input :
    ∀ column ∈ sheetInputColumns, normalizeColumn column = .ok column := by
  decide +kernel

theorem normalizeColumn_calculation :
    ∀ column ∈ calculationColumns, normalizeColumn column = .ok column := by
  decide +kernel

namespace SheetConnectionModel.Fits

theorem normalize_read (h : connection.Fits has customers) :
    ∀ column ∈ connection.readColumns, normalizeColumn column = .ok column := by
  intro column hcolumn
  rcases List.mem_cons.mp (Py.mem_distinct.mp hcolumn) with rfl | hcolumn
  · exact h.columns _ (by simp [SheetConnectionModel.usedColumns])
  · exact normalizeColumn_input column hcolumn

theorem mapM_read (h : connection.Fits has customers) :
    connection.readColumns.mapM normalizeColumn = .ok connection.readColumns :=
  Py.mapM_eq_self h.normalize_read

theorem read_capitals (h : connection.Fits has customers) :
    ∀ column ∈ connection.readColumns, ∀ c ∈ column.toList, c.isUpper :=
  fun column hcolumn => (normalizeColumn_spec (h.normalize_read column hcolumn)).1

/-- A column of a run has a name that Google knows. -/
theorem normalize_output (h : connection.Fits has customers) :
    ∀ column ∈ connection.outputColumns, normalizeColumn column = .ok column := by
  intro column hcolumn
  have hused : ∀ c, c = connection.priceColumn ∨ c ∈ connection.updatedAtColumn.toList ∨
      c ∈ connection.statusColumn.toList → normalizeColumn c = .ok c := by
    intro c hc
    refine h.columns c ?_
    unfold SheetConnectionModel.usedColumns
    rcases hc with rfl | hc | hc
    · simp
    · simp [hc]
    · simp [hc]
  unfold SheetConnectionModel.outputColumns at hcolumn
  rcases List.mem_cons.mp hcolumn with rfl | hcolumn
  · exact hused _ (Or.inl rfl)
  · rcases List.mem_append.mp hcolumn with hcolumn | hfilled
    · rcases List.mem_append.mp hcolumn with hcolumn | hcalculation
      · exact hused _ (Or.inr (List.mem_append.mp hcolumn))
      · exact normalizeColumn_calculation column hcalculation
    · exact normalizeColumn_input column
        ((by decide : ∀ c ∈ filledColumns, c ∈ sheetInputColumns) column hfilled)

end SheetConnectionModel.Fits

end Columns

/-! ## Reading -/

section Reading

variable {σ : Type} {has : String → String → Prop} {customers : String → String → String → Prop}
  {grid : σ → String → String → SheetGrid} {float : Decimal → String} {s : σ}
  {m : MemoryGoogleSheetsGateway} {connection : SheetConnectionModel}

/-- Rows with the same numbers, paired. -/
theorem forall₂_numbers {rows held : List SheetDataRow}
    (h : rows.map SheetDataRow.rowNumber = held.map SheetDataRow.rowNumber) :
    List.Forall₂ (fun row row' => (row ∈ rows ∧ row' ∈ held) ∧ row.rowNumber = row'.rowNumber)
      rows held := by
  have hnumbers : List.Forall₂ (fun row row' : SheetDataRow => row.rowNumber = row'.rowNumber)
      rows held := by
    rw [← List.forall₂_map_right_iff (f := SheetDataRow.rowNumber),
      ← List.forall₂_map_left_iff (f := SheetDataRow.rowNumber), List.forall₂_eq_eq_eq]
    exact h
  have hright : List.Forall₂ (fun row' row : SheetDataRow => row' ∈ held ∧
      row.rowNumber = row'.rowNumber) held rows :=
    (List.forall₂_and_left held rows).mpr ⟨fun _ hmem => hmem, hnumbers.flip⟩
  have hboth := (List.forall₂_and_left rows held).mpr ⟨fun _ hmem => hmem, hright.flip⟩
  exact hboth.imp fun row row' hpair => ⟨⟨hpair.1, hpair.2.1⟩, hpair.2.2⟩

/-- A run asks for the columns of the customers, and for J and L. -/
theorem mem_readColumns_of_input {column : String}
    (h : column ∈ connection.isinColumn :: sheetInputColumns) :
    column ∈ connection.readColumns := Py.mem_distinct.mpr h

theorem mem_readColumns_of_customers {column : String}
    (h : column ∈ connection.isinColumn :: ["E", "H", "I", "V"]) :
    column ∈ connection.readColumns := by
  refine mem_readColumns_of_input ?_
  rcases List.mem_cons.mp h with rfl | hcolumn
  · exact List.mem_cons_self
  · exact List.mem_cons_of_mem _
      ((by decide : ∀ c ∈ ["E", "H", "I", "V"], c ∈ sheetInputColumns) column hcolumn)

/-- A row that Google shows and the row of the memory with its number are alike. -/
theorem Mirrored.row_alike (hm : Mirrored has customers grid float s m)
    (hfits : connection.Fits has customers) {row row' : SheetDataRow}
    (hnumber : row.rowNumber = row'.rowNumber)
    (hshows : ∀ column ∈ connection.readColumns, (row.get column).Shows
      ((grid s connection.spreadsheetId connection.worksheetName).cell row.rowNumber
        (lettersValue column.toList)))
    (hheld : ∀ column ∈ connection.readColumns, row'.get column =
      m.held connection.spreadsheetId connection.worksheetName row'.rowNumber column) :
    row.Alike connection row' := by
  have htext : ∀ column ∈ connection.isinColumn :: ["E", "H", "I", "V"],
      (row.get column).Shows (row'.get column) := by
    intro column hcolumn
    have hread := mem_readColumns_of_customers hcolumn
    rw [hheld column hread, ← hnumber]
    exact (hshows column hread).trans (hm.texts _ _ _ column hfits.there
      (hfits.inputs column hcolumn) (hfits.read_capitals column hread))
  refine ⟨hnumber, ?_, ?_⟩
  · intro column hcolumn
    rcases List.mem_cons.mp hcolumn with rfl | hcolumn
    · exact htext _ List.mem_cons_self
    · obtain rfl := List.mem_singleton.mp hcolumn
      exact htext "E" (by simp)
  · intro column hcolumn
    by_cases hfilled : column ∈ filledColumns
    · have hread : column ∈ connection.readColumns := mem_readColumns_of_input
        (List.mem_cons_of_mem _
          ((by decide : ∀ c ∈ filledColumns, c ∈ sheetInputColumns) column hfilled))
      rw [hheld column hread, ← hnumber]
      exact (hshows column hread).sameAmount.trans
        (hm.amounts _ _ _ hfits.there column hfilled)
    · refine (htext column (List.mem_cons_of_mem _ ?_)).sameAmount
      exact (by decide : ∀ c ∈ ["H", "I", "J", "L", "V"], c ∉ filledColumns →
        c ∈ ["E", "H", "I", "V"]) column hcolumn hfilled

/-- A data row has something in a column that is read: its ISIN. -/
theorem dataRows_of_something (rows : List SheetDataRow) :
    dataRows connection (rows.filter fun row => connection.readColumns.any fun column =>
      !(row.get column).isBlank) = dataRows connection rows := by
  unfold dataRows
  rw [List.filter_filter]
  refine List.filter_congr fun row _ => ?_
  by_cases hisin : (row.get connection.isinColumn).isBlank = true
  · simp [hisin]
  · have hany : (connection.readColumns.any fun column => !(row.get column).isBlank) = true :=
      List.any_eq_true.mpr ⟨connection.isinColumn, mem_readColumns_of_input List.mem_cons_self,
        by simpa using hisin⟩
    rw [hany, Bool.and_true]

/-- **The data rows of a sheet and of its mirror** are alike. -/
theorem Mirrored.rows_alike (hm : Mirrored has customers grid float s m)
    (hfits : connection.Fits has customers) {rows : List SheetDataRow}
    (hrows : Decodes (grid s connection.spreadsheetId connection.worksheetName)
      connection.readColumns (connection.headerRow + 1) rows) :
    ∃ held, m.readRows connection.spreadsheetId connection.worksheetName connection.readColumns
        (connection.headerRow + 1) = .ok held ∧
      List.Forall₂ (SheetDataRow.Alike connection) (dataRows connection rows)
        (dataRows connection held) := by
  obtain ⟨held, hheld, hsame⟩ := hm.mirrors.sameRows hfits.there hfits.read_capitals hrows
  refine ⟨held, hheld, ?_⟩
  -- a row of the memory holds its cells
  have hcells : ∀ row' ∈ held, ∀ column ∈ connection.readColumns, row'.get column =
      m.held connection.spreadsheetId connection.worksheetName row'.rowNumber column := by
    intro row' hrow' column hcolumn
    obtain ⟨_, -, hreturn⟩ := Py.bind_eq_ok.mp hheld
    obtain rfl := Except.ok.inj hreturn
    obtain ⟨n, -, rfl⟩ := List.mem_map.mp hrow'
    exact MemoryGoogleSheetsGateway.get_readRow hcolumn
  have hpaired : List.Forall₂ (SheetDataRow.Alike connection) rows
      (held.filter fun row => connection.readColumns.any fun column =>
        !(row.get column).isBlank) := by
    refine (forall₂_numbers hsame.numbers).imp fun row row' hpair => ?_
    exact hm.row_alike hfits hpair.2 (hrows.shows row hpair.1.1)
      (hcells row' (List.mem_of_mem_filter hpair.1.2))
  rw [← dataRows_of_something held]
  unfold dataRows
  refine List.rel_filter (fun row row' hrow => ?_) hpaired
  have hblank := (hrow.texts connection.isinColumn List.mem_cons_self).isBlank_eq
  simp only [hblank]

end Reading

/-! ## Writing -/

/-- A text for an amount that is read back as the amount. -/
def CarriesAmounts (float : Decimal → String) : Prop :=
  ∀ d : Decimal, d.IsAmount → parseDecimal (.number (float d)) = some d

/-- A batch that a run may write: single cells, none of a column of the customers, and amounts in
J and L. -/
structure RunBatch (customers : String → Prop) (updates : List CellUpdate) : Prop where
  single : SingleCells updates
  apart : ∀ u ∈ updates, ¬ customers u.column
  amounts : ∀ u ∈ updates, u.column ∈ filledColumns → u.value.IsAmount

section Writing

variable {σ : Type} {server : SheetsServer σ} {g : GoogleServiceAccountSheetsGateway}
  {has : String → String → Prop} {customers : String → String → String → Prop}
  {grid : σ → String → String → SheetGrid} {s : σ} {m : MemoryGoogleSheetsGateway}

/-- A batch that a run may write keeps the mirror. -/
theorem Mirrored.updated (hm : Mirrored has customers grid g.float s m)
    (hkeeps : server.Keeps g has grid) (hfloat : CarriesAmounts g.float)
    {spreadsheetId worksheetName : String} {updates : List CellUpdate}
    (hhas : has spreadsheetId worksheetName)
    (h : RunBatch (customers spreadsheetId worksheetName) updates) :
    Mirrored has customers grid g.float
      (server.write s spreadsheetId (updates.map (g.updateRange worksheetName)))
      (m.updated spreadsheetId worksheetName updates) := by
  refine ⟨hkeeps.mirrors hm.mirrors hhas h.single, ?_, ?_⟩
  · intro book sheet row column hsheet hcustomer hcolumn
    rcases hkeeps.cell_written (s := s) (m := m) hhas h.single book sheet row hcolumn with
      ⟨u, hu, rfl, rfl, rfl, -⟩ | ⟨hcell, hheld⟩
    · exact absurd hcustomer (h.apart u hu)
    · rw [hcell, hheld]
      exact hm.texts book sheet row column hsheet hcustomer hcolumn
  · intro book sheet row hsheet column hfilled
    have hcolumn := filledColumns_capitals column hfilled
    rcases hkeeps.cell_written (s := s) (m := m) hhas h.single book sheet row hcolumn with
      ⟨u, hu, -, -, hname, hshows, hheld⟩ | ⟨hcell, hheld⟩
    · obtain ⟨d, hamount, hvalue⟩ := h.amounts u hu (hname ▸ hfilled)
      rw [hheld]
      rw [hvalue] at hshows ⊢
      refine hshows.symm.sameAmount.trans ⟨rfl, ?_⟩
      exact (hfloat d hamount).trans (parseDecimal_amount hamount).symm
    · rw [hcell, hheld]
      exact hm.amounts book sheet row hsheet column hfilled

end Writing

/-! ## Customers -/

/-- What a customer enters stands in the cell, as the cell is read, and nothing else changes. -/
def KeepsEntries {σ : Type} (grid : σ → String → String → SheetGrid)
    (enter : σ → String → String → ℕ → String → CellValue → σ) : Prop :=
  ∀ s spreadsheetId worksheetName row (column : String) value book sheet row' column',
    (∀ c ∈ column.toList, c.isUpper) →
      (grid (enter s spreadsheetId worksheetName row column value) book sheet).cell row' column' =
        if book = spreadsheetId ∧ sheet = worksheetName ∧ row' = row ∧
            column' = lettersValue column.toList then value
        else (grid s book sheet).cell row' column'

section Customers

variable {σ : Type} {has : String → String → Prop} {customers : String → String → String → Prop}
  {grid : σ → String → String → SheetGrid} {float : Decimal → String} {s : σ}
  {m : MemoryGoogleSheetsGateway} {enter : σ → String → String → ℕ → String → CellValue → σ}

/-- Both sides of a cell after an entry. -/
theorem KeepsEntries.cell_entered (h : KeepsEntries grid enter)
    {spreadsheetId worksheetName column : String} (row : ℕ) (value : CellValue)
    (hcolumn : ∀ c ∈ column.toList, c.isUpper) (book sheet : String) (row' : ℕ)
    {column' : String} (hcolumn' : ∀ c ∈ column'.toList, c.isUpper) :
    ((grid (enter s spreadsheetId worksheetName row column value) book sheet).cell row'
        (lettersValue column'.toList) = value ∧
      (m.setCell spreadsheetId worksheetName row column value).held book sheet row' column' =
        value) ∨
    ((grid (enter s spreadsheetId worksheetName row column value) book sheet).cell row'
        (lettersValue column'.toList) =
          (grid s book sheet).cell row' (lettersValue column'.toList) ∧
      (m.setCell spreadsheetId worksheetName row column value).held book sheet row' column' =
        m.held book sheet row' column') := by
  rw [h s spreadsheetId worksheetName row column value book sheet row' _ hcolumn]
  unfold MemoryGoogleSheetsGateway.held MemoryGoogleSheetsGateway.setCell
  dsimp only
  rw [Dict.get?_set]
  by_cases hsame : book = spreadsheetId ∧ sheet = worksheetName ∧ row' = row ∧ column' = column
  · obtain ⟨rfl, rfl, rfl, rfl⟩ := hsame
    rw [if_pos ⟨rfl, rfl, rfl, rfl⟩, if_pos rfl]
    exact Or.inl ⟨rfl, rfl⟩
  · rw [if_neg, if_neg]
    · exact Or.inr ⟨rfl, rfl⟩
    · intro hkey
      simp only [Prod.mk.injEq] at hkey
      exact hsame hkey
    · rintro ⟨hbook, hsheet, hrow, hletters⟩
      exact hsame ⟨hbook, hsheet, hrow,
        String.toList_inj.mp (lettersValue_inj hcolumn' hcolumn hletters)⟩

/-- An entry keeps the mirror. -/
theorem Mirrored.entered (hm : Mirrored has customers grid float s m)
    (h : KeepsEntries grid enter) {spreadsheetId worksheetName column : String} {row : ℕ}
    {value : CellValue} (hcolumn : ∀ c ∈ column.toList, c.isUpper) :
    Mirrored has customers grid float (enter s spreadsheetId worksheetName row column value)
      (m.setCell spreadsheetId worksheetName row column value) := by
  refine ⟨⟨hm.mirrors.sheets, ?_⟩, ?_, ?_⟩
  · intro book sheet row' column' hsheet hcolumn'
    rcases h.cell_entered (s := s) (m := m) row value hcolumn book sheet row' hcolumn' with ⟨hcell, hheld⟩ | ⟨hcell, hheld⟩
    · show SameCell float _ ((m.setCell spreadsheetId worksheetName row column value).held book
        sheet row' column')
      rw [hcell, hheld]
      exact .shows (CellValue.Shows.refl value)
    · show SameCell float _ ((m.setCell spreadsheetId worksheetName row column value).held book
        sheet row' column')
      rw [hcell, hheld]
      exact hm.mirrors.cells book sheet row' column' hsheet hcolumn'
  · intro book sheet row' column' hsheet hcustomer hcolumn'
    rcases h.cell_entered (s := s) (m := m) row value hcolumn book sheet row' hcolumn' with ⟨hcell, hheld⟩ | ⟨hcell, hheld⟩
    · rw [hcell, hheld]
      exact CellValue.Shows.refl value
    · rw [hcell, hheld]
      exact hm.texts book sheet row' column' hsheet hcustomer hcolumn'
  · intro book sheet row' hsheet column' hfilled
    have hcolumn' := filledColumns_capitals column' hfilled
    rcases h.cell_entered (s := s) (m := m) row value hcolumn book sheet row' hcolumn' with ⟨hcell, hheld⟩ | ⟨hcell, hheld⟩
    · rw [hcell, hheld]
      exact ⟨rfl, rfl⟩
    · rw [hcell, hheld]
      exact hm.amounts book sheet row' hsheet column' hfilled

end Customers

end BondTrading
