/-
# BondTrading.Imports.Blocks -- the block of rows a preview decodes

Which sheet `preview` reads, where its block begins and ends, and that the accepted and the
rejected rows of the block together are the block.  What becomes of a row is a function of
its own cells, its number and the column of the header; two workbooks that differ in other
rows of their blocks have the same outcome for a row.
-/
import BondTrading.Imports.Reader
import BondTrading.Py.Numbered
import Mathlib.Data.List.TakeWhile

namespace BondTrading

open Py (Returns orRaise)
open Py.Numbered (takeWhile_range map_key_filterMap filter_key_filterMap perm_of_division
  pairwise_keys)

/-! ## The header -/

theorem sheet_cell {sheet : SpreadsheetSheet} {row : ℕ} (hpos : 0 < row) (column : ℕ) :
    sheet.cell row column = SpreadsheetRow.cell (sheet.rowAt row) column := by
  unfold SpreadsheetSheet.cell
  by_cases hrow : sheet.maxRow < row
  · have hempty : sheet.rowAt row = [] := by
      unfold SpreadsheetSheet.maxRow at hrow
      rw [SpreadsheetSheet.rowAt, List.getD_eq_getElem?_getD, List.getElem?_eq_none (by omega)]
      rfl
    rw [if_pos (Or.inr hrow), hempty, SpreadsheetRow.cell, List.getD_nil, ite_self]
  · rw [if_neg]
    simp only [not_or]
    exact ⟨by omega, hrow⟩

/-- The header of a sheet: the first row with a header cell, and its first such column. -/
structure IsHeader (sheet : SpreadsheetSheet) (header column : ℕ) : Prop where
  pos : 0 < header
  le : header ≤ sheet.maxRow
  column : headerColumn (sheet.rowAt header) = some column
  first : ∀ row, 0 < row → row < header → headerColumn (sheet.rowAt row) = none

/-- The search over the rows, counted from any number. -/
theorem findSome_zipIdx {rows : List SpreadsheetRow} {n header column : ℕ} :
    ((rows.zipIdx n).findSome? fun entry =>
        (headerColumn entry.1).map fun column => (entry.2, column)) = some (header, column) ↔
      ∃ i, header = n + i ∧ i < rows.length ∧ headerColumn (rows.getD i []) = some column ∧
        ∀ j, j < i → headerColumn (rows.getD j []) = none := by
  induction rows generalizing n with
  | nil => simp
  | cons row rows ih =>
      rw [List.zipIdx_cons, List.findSome?_cons]
      cases hrow : headerColumn row with
      | some c =>
          constructor
          · intro h
            obtain ⟨rfl, rfl⟩ := Prod.mk.inj (Option.some.inj h)
            refine ⟨0, rfl, by simp, hrow, ?_⟩
            intro j hj
            omega
          · rintro ⟨i, hheader, -, hcolumn, hbefore⟩
            cases i with
            | zero =>
                have hsame : c = column := Option.some.inj (hrow.symm.trans hcolumn)
                simp [hheader, hsame]
            | succ i =>
                have hnone := hbefore 0 (Nat.succ_pos i)
                cases hrow.symm.trans hnone
      | none =>
          apply ih.trans
          constructor
          · rintro ⟨i, hheader, hlt, hcolumn, hbefore⟩
            refine ⟨i + 1, by omega, by simpa using hlt, hcolumn, ?_⟩
            intro j hj
            cases j with
            | zero => exact hrow
            | succ j => exact hbefore j (by omega)
          · rintro ⟨i, hheader, hlt, hcolumn, hbefore⟩
            cases i with
            | zero => cases hrow.symm.trans hcolumn
            | succ i =>
                refine ⟨i, by omega, by simpa using hlt, hcolumn, ?_⟩
                intro j hj
                exact hbefore (j + 1) (by omega)

/-- **`_find_header` finds the header**, where there is one. -/
theorem findHeader_eq_ok {sheet : SpreadsheetSheet} {header column : ℕ} :
    findHeader sheet = .ok (header, column) ↔ IsHeader sheet header column := by
  rw [findHeader, Py.orRaise_eq_ok, findSome_zipIdx]
  constructor
  · rintro ⟨i, rfl, hlt, hcolumn, hbefore⟩
    refine ⟨by omega, ?_, ?_, ?_⟩
    · unfold SpreadsheetSheet.maxRow
      omega
    · rw [SpreadsheetSheet.rowAt, Nat.add_sub_cancel_left]
      exact hcolumn
    · intro row hpos hrow
      exact hbefore (row - 1) (by omega)
  · rintro ⟨hpos, hle, hcolumn, hfirst⟩
    unfold SpreadsheetSheet.maxRow at hle
    refine ⟨header - 1, by omega, by omega, hcolumn, ?_⟩
    intro j hj
    have hbefore := hfirst (j + 1) (by omega) (by omega)
    rwa [SpreadsheetSheet.rowAt, Nat.add_sub_cancel] at hbefore

/-- A cell in which `_find_header` sees the header. -/
def SpreadsheetSheet.HasHeaderCell (sheet : SpreadsheetSheet) : Prop :=
  ∃ row ∈ sheet.rows, ∃ cell ∈ row, cell.isHeader = true

theorem headerColumn_isSome {row : SpreadsheetRow} :
    (headerColumn row).isSome = true ↔ ∃ cell ∈ row, cell.isHeader = true := by
  rw [headerColumn, Option.isSome_map, List.find?_isSome]
  constructor
  · rintro ⟨entry, hmem, hcell⟩
    exact ⟨entry.1, List.fst_mem_of_mem_zipIdx hmem, hcell⟩
  · rintro ⟨cell, hmem, hcell⟩
    obtain ⟨i, hi, rfl⟩ := List.getElem_of_mem hmem
    exact ⟨(row[i], 1 + i), List.mk_add_mem_zipIdx_iff_getElem?.mpr (List.getElem?_eq_getElem hi),
      hcell⟩

theorem findHeader_isOk {sheet : SpreadsheetSheet} :
    (findHeader sheet).isOk = true ↔ sheet.HasHeaderCell := by
  have hsearch : (findHeader sheet).isOk = ((sheet.rows.zipIdx 1).findSome? fun entry =>
      (headerColumn entry.1).map fun column => (entry.2, column)).isSome := by
    unfold findHeader orRaise
    split
    · rename_i h
      rw [h]
      rfl
    · rename_i h
      rw [h]
      rfl
  rw [hsearch, List.findSome?_isSome_iff]
  constructor
  · rintro ⟨entry, hmem, hsome⟩
    rw [Option.isSome_map] at hsome
    exact ⟨entry.1, List.fst_mem_of_mem_zipIdx hmem, headerColumn_isSome.mp hsome⟩
  · rintro ⟨row, hmem, hcell⟩
    obtain ⟨i, hi, rfl⟩ := List.getElem_of_mem hmem
    refine ⟨(sheet.rows[i], 1 + i),
      List.mk_add_mem_zipIdx_iff_getElem?.mpr (List.getElem?_eq_getElem hi), ?_⟩
    rw [Option.isSome_map]
    exact headerColumn_isSome.mpr hcell

/-! ## The chosen sheet -/

/-- **The first sheet with a header cell**, the ones with the requested name before all. -/
structure IsChosen (sheets : List SpreadsheetSheet) (requested : String)
    (sheet : SpreadsheetSheet) : Prop where
  found : sheet.HasHeaderCell
  first : ∃ before after, sheetOrder sheets requested = before ++ sheet :: after ∧
    ∀ other ∈ before, ¬ other.HasHeaderCell

theorem selectSheet_eq_ok {sheets : List SpreadsheetSheet} {requested : String}
    {sheet : SpreadsheetSheet} :
    selectSheet sheets requested = .ok sheet ↔ IsChosen sheets requested sheet := by
  rw [selectSheet, Py.orRaise_eq_ok, List.find?_eq_some_iff_append]
  constructor
  · rintro ⟨hfound, before, after, horder, hbefore⟩
    refine ⟨findHeader_isOk.mp hfound, before, after, horder, ?_⟩
    intro other hother hcell
    have hnot := hbefore other hother
    rw [findHeader_isOk.mpr hcell] at hnot
    cases hnot
  · rintro ⟨hfound, before, after, horder, hbefore⟩
    refine ⟨findHeader_isOk.mpr hfound, before, after, horder, ?_⟩
    intro other hother
    rw [Bool.not_eq_true', Bool.eq_false_iff]
    intro hok
    exact hbefore other hother (findHeader_isOk.mp hok)

/-- A sheet is chosen wherever one has a header. -/
theorem exists_chosen {sheets : List SpreadsheetSheet} (requested : String)
    (h : ∃ sheet ∈ sheets, sheet.HasHeaderCell) : ∃ sheet, IsChosen sheets requested sheet := by
  obtain ⟨sheet, hmem, hcell⟩ := h
  have hsearch : ((sheetOrder sheets requested).find? fun s => (findHeader s).isOk).isSome := by
    rw [List.find?_isSome]
    exact ⟨sheet, List.mem_append_right _ hmem, findHeader_isOk.mpr hcell⟩
  obtain ⟨chosen, hchosen⟩ := Option.isSome_iff_exists.mp hsearch
  refine ⟨chosen, selectSheet_eq_ok.mp ?_⟩
  rw [selectSheet, Py.orRaise_eq_ok]
  exact hchosen

/-! ## Rows -/

theorem parseRow_eq {sheet : SpreadsheetSheet} {row : ℕ} (hpos : 0 < row) (isinColumn : ℕ) :
    parseRow sheet row isinColumn =
      parseCells (SpreadsheetRow.cell (sheet.rowAt row)) row isinColumn := by
  rw [parseRow, funext (sheet_cell hpos)]

/-- The accepted row of these cells, if they are accepted. -/
def acceptedRow (isinColumn row : ℕ) (cells : SpreadsheetRow) : Option ImportRow :=
  match parseCells (SpreadsheetRow.cell cells) row isinColumn with
  | .ok parsed => some parsed
  | .error _ => none

/-- The error of these cells, if they are rejected. -/
def rejectedRow (isinColumn row : ℕ) (cells : SpreadsheetRow) : Option ImportRowError :=
  match parseCells (SpreadsheetRow.cell cells) row isinColumn with
  | .error (.invalid e) => some ⟨row, e.field, e.message, e.sourceValue⟩
  | _ => none

/-- These cells raise another exception than a `_RowValidationError`. -/
def RaisesRow (isinColumn row : ℕ) (cells : SpreadsheetRow) : Prop :=
  ∃ e, parseCells (SpreadsheetRow.cell cells) row isinColumn = .error (.raised e)

/-- What the accepted row was made of. -/
structure ParsedFrom (cell : ℕ → SpreadsheetCell) (row isinColumn : ℕ) (parsed : ImportRow) :
    Prop where
  rowNumber : parsed.rowNumber = row
  isin : manualText (cell isinColumn) "isin" = .ok parsed.sourceIsin ∧
    rowIsin parsed.sourceIsin = .ok parsed.normalizedIsin
  event : ∃ text, manualText (cell 4) "target_event_type" = .ok text ∧
    eventType text = .ok parsed.targetEventType
  purchaseDate : manualDate (cell 5) "purchase_date" = .ok parsed.purchaseDate
  targetEventDate : manualDate (cell 7) "target_event_date" = .ok parsed.targetEventDate
  quantity : manualPositive (cell 8) "quantity" = .ok parsed.quantity
  cleanPrice : manualNonNegative (cell 9) "purchase_clean_price_rub_per_bond" =
    .ok parsed.purchaseCleanPriceRubPerBond
  accruedInterest : manualNonNegative (cell 10) "purchase_accrued_interest_rub_per_bond" =
    .ok parsed.purchaseAccruedInterestRubPerBond
  commission : manualNonNegative (cell 12) "purchase_commission_rub_per_bond" =
    .ok parsed.purchaseCommissionRubPerBond
  redemption : optionalDecimal (cell 14) = .ok parsed.targetRedemptionPriceRubPerBond
  saleCommission : ∃ sale, optionalDecimal (cell 18) = .ok sale ∧
    parsed.saleCommissionRubPerBond = sale.getD ZERO
  plannedYield : optionalDecimal (cell 22) = .ok parsed.plannedYieldManualReference

theorem parseCells_eq_ok {cell : ℕ → SpreadsheetCell} {row isinColumn : ℕ} {parsed : ImportRow}
    (h : parseCells cell row isinColumn = .ok parsed) : ParsedFrom cell row isinColumn parsed := by
  simp only [parseCells, Py.bind_eq_ok] at h
  obtain ⟨_, htext, _, hisin, _, hevent, _, htype, _, hpurchase, _, htarget, h⟩ := h
  obtain ⟨_, hquantity, _, hclean, _, haccrued, _, hcommission, h⟩ := h
  obtain ⟨_, hredemption, _, hsale, _, hplanned, hreturn⟩ := h
  obtain rfl := Except.ok.inj hreturn
  exact ⟨rfl, ⟨htext, hisin⟩, ⟨_, hevent, htype⟩, hpurchase, htarget, hquantity, hclean, haccrued,
    hcommission, hredemption, ⟨_, hsale, rfl⟩, hplanned⟩

theorem acceptedRow_rowNumber {isinColumn row : ℕ} {cells : SpreadsheetRow} {parsed : ImportRow}
    (h : acceptedRow isinColumn row cells = some parsed) : parsed.rowNumber = row := by
  unfold acceptedRow at h
  split at h
  · rename_i hparse
    obtain rfl := Option.some.inj h
    exact (parseCells_eq_ok hparse).rowNumber
  · cases h

theorem rejectedRow_rowNumber {isinColumn row : ℕ} {cells : SpreadsheetRow} {e : ImportRowError}
    (h : rejectedRow isinColumn row cells = some e) : e.rowNumber = row := by
  unfold rejectedRow at h
  split at h
  · obtain rfl := Option.some.inj h
    rfl
  · cases h

/-- A row that does not raise is either accepted or rejected. -/
theorem rejectedRow_isSome {isinColumn row : ℕ} {cells : SpreadsheetRow}
    (h : ¬ RaisesRow isinColumn row cells) :
    (rejectedRow isinColumn row cells).isSome = !(acceptedRow isinColumn row cells).isSome := by
  unfold rejectedRow acceptedRow
  cases hparse : parseCells (SpreadsheetRow.cell cells) row isinColumn with
  | ok parsed => rfl
  | error e =>
      cases e with
      | invalid e => rfl
      | raised e => exact absurd ⟨e, hparse⟩ h

/-! ## The loop -/

/-- The row numbers the loop comes to. -/
def runOf (sheet : SpreadsheetSheet) (numbers : List ℕ) : List ℕ :=
  numbers.takeWhile fun row => ¬ isEmptyRow (sheet.rowAt row)

/-- The accumulators after the run, from `acc`. -/
def ReadLoop.after (acc : ReadLoop) (sheet : SpreadsheetSheet) (isinColumn : ℕ)
    (run : List ℕ) : ReadLoop where
  rowsRead := acc.rowsRead + run.length
  rows := acc.rows ++ run.filterMap fun row => acceptedRow isinColumn row (sheet.rowAt row)
  errors := acc.errors ++ run.filterMap fun row => rejectedRow isinColumn row (sheet.rowAt row)

/-- **The loop returns exactly when no row of the run raises**, by induction on the numbers
that are left. -/
theorem readRows_returns {sheet : SpreadsheetSheet} {isinColumn : ℕ} {numbers : List ℕ}
    (hpos : ∀ row ∈ numbers, 0 < row) (acc : ReadLoop) :
    Returns (readRows sheet isinColumn numbers acc)
      (∀ row ∈ runOf sheet numbers, ¬ RaisesRow isinColumn row (sheet.rowAt row))
      (acc.after sheet isinColumn (runOf sheet numbers)) := by
  induction numbers generalizing acc with
  | nil =>
      have hafter : acc.after sheet isinColumn [] = acc := by
        simp [ReadLoop.after]
      rw [runOf, List.takeWhile_nil, hafter]
      apply (Returns.ok acc).congr
      exact iff_of_true trivial fun row h => absurd h List.not_mem_nil
  | cons row rest ih =>
      have hparse : parseRow sheet row isinColumn = _ :=
        parseRow_eq (hpos row List.mem_cons_self) isinColumn
      have ih := ih fun other hother => hpos other (List.mem_cons_of_mem _ hother)
      rw [readRows, hparse]
      cases hblank : isEmptyRow (sheet.rowAt row) with
      | true =>
          have hrun : runOf sheet (row :: rest) = [] :=
            List.takeWhile_cons_of_neg (by simp [hblank])
          have hafter : acc.after sheet isinColumn [] = acc := by
            simp [ReadLoop.after]
          rw [if_pos rfl, hrun, hafter]
          apply (Returns.ok acc).congr
          exact iff_of_true trivial fun other h => absurd h List.not_mem_nil
      | false =>
          have hrun : runOf sheet (row :: rest) = row :: runOf sheet rest :=
            List.takeWhile_cons_of_pos (by simp [hblank])
          rw [if_neg Bool.false_ne_true, hrun]
          cases hrow : parseCells (SpreadsheetRow.cell (sheet.rowAt row)) row isinColumn with
          | ok parsed =>
              have hfine : ¬ RaisesRow isinColumn row (sheet.rowAt row) := by
                rintro ⟨e, he⟩
                cases hrow.symm.trans he
              have hafter : (ReadLoop.mk (acc.rowsRead + 1) (acc.rows ++ [parsed])
                    acc.errors).after sheet isinColumn (runOf sheet rest) =
                  acc.after sheet isinColumn (row :: runOf sheet rest) := by
                simp [ReadLoop.after, acceptedRow, rejectedRow, hrow]
                omega
              rw [← hafter]
              apply (ih _).congr
              simp [hfine]
          | error failure =>
              cases failure with
              | invalid e =>
                  have hfine : ¬ RaisesRow isinColumn row (sheet.rowAt row) := by
                    rintro ⟨e, he⟩
                    cases hrow.symm.trans he
                  have hafter : (ReadLoop.mk (acc.rowsRead + 1) acc.rows (acc.errors ++
                        [⟨row, e.field, e.message, e.sourceValue⟩])).after sheet isinColumn
                        (runOf sheet rest) =
                      acc.after sheet isinColumn (row :: runOf sheet rest) := by
                    simp [ReadLoop.after, acceptedRow, rejectedRow, hrow]
                    omega
                  rw [← hafter]
                  apply (ih _).congr
                  simp [hfine]
              | raised e =>
                  refine ⟨fun h => absurd ⟨e, hrow⟩ (h row List.mem_cons_self), ?_⟩
                  intro h
                  exact ⟨.raised e, rfl⟩

/-! ## The preview -/

/-- The numbers of the rows of the block. -/
def blockOf (sheet : SpreadsheetSheet) (header : ℕ) : List ℕ :=
  runOf sheet (List.range' (header + 1) (sheet.maxRow - header))

/-- The preview of a sheet that was read to the end of its block. -/
def decodedPreview (fileName checksum : String) (sheet : SpreadsheetSheet) (header column : ℕ) :
    ImportPreview where
  fileName := fileName
  sheetName := sheet.title
  checksum := checksum
  headerRowNumber := header
  rowsRead := (blockOf sheet header).length
  rows := (blockOf sheet header).filterMap fun row => acceptedRow column row (sheet.rowAt row)
  errors := (blockOf sheet header).filterMap fun row => rejectedRow column row (sheet.rowAt row)
  uploadId := none

section Preview

variable {libraries : SpreadsheetLibraries} {sha256 : Bytes → String} {content : Bytes}
  {fileName requested : String} {sheets : List SpreadsheetSheet} {sheet : SpreadsheetSheet}
  {header column : ℕ}

/-- A file that was opened has a supported name. -/
theorem validate_of_loadSheets (hload : loadSheets libraries content fileName = .ok sheets) :
    validateSpreadsheetUpload fileName none = .ok () := by
  have hooxml : [".xlsx", ".xlsm", ".xltx", ".xltm"] ⊆ supportedExtensions := by decide
  have hcalamine : [".xls", ".xlsb"] ⊆ supportedExtensions := by decide
  have hnumbers : [".numbers"] ⊆ supportedExtensions := by decide
  have hsupported : Py.Text.lower (Py.Path.suffix fileName) ∈ supportedExtensions := by
    unfold loadSheets at hload
    generalize Py.Text.lower (Py.Path.suffix fileName) = suffix at hload ⊢
    by_cases h : suffix ∈ [".xlsx", ".xlsm", ".xltx", ".xltm"]
    · exact hooxml h
    · by_cases h' : suffix ∈ [".xls", ".xlsb"]
      · exact hcalamine h'
      · by_cases h'' : suffix ∈ [".numbers"]
        · exact hnumbers h''
        · simp only [if_neg h, if_neg h', if_neg h''] at hload
          cases hload
  rw [validateSpreadsheetUpload, Py.raiseIf, if_neg (not_not.mpr hsupported)]
  rfl

/-- **A preview returns exactly when no row of the block raises**, and then it is the decoded
one. -/
theorem previewSpreadsheet_returns (hload : loadSheets libraries content fileName = .ok sheets)
    (hchosen : IsChosen sheets requested sheet) (hheader : IsHeader sheet header column) :
    Returns (previewSpreadsheet libraries sha256 content fileName requested)
      (∀ row ∈ blockOf sheet header, ¬ RaisesRow column row (sheet.rowAt row))
      (decodedPreview (Py.Path.name fileName) (sha256 content) sheet header column) := by
  have hpos : ∀ row ∈ List.range' (header + 1) (sheet.maxRow - header), 0 < row := by
    intro row hrow
    have := List.mem_range'_1.mp hrow
    omega
  have hloop : Returns (readRows sheet column _ ⟨0, [], []⟩) _ _ := readRows_returns hpos _
  rw [previewSpreadsheet, validate_of_loadSheets hload, hload]
  simp only [Py.mapError_ok, Py.ok_bind]
  rw [selectSheet_eq_ok.mpr hchosen, Py.ok_bind, findHeader_eq_ok.mpr hheader, Py.ok_bind]
  simp only [ReadLoop.after, Nat.zero_add, List.nil_append] at hloop
  suffices hboth : Returns _ (_ ∧ True) _ from hboth.congr (and_true _).to_iff
  exact hloop.bind fun _ => Returns.ok _

/-- The sheet of a preview that returned. -/
theorem chosen_of_preview {p : ImportPreview}
    (hload : loadSheets libraries content fileName = .ok sheets)
    (h : previewSpreadsheet libraries sha256 content fileName requested = .ok p) :
    ∃ sheet header column, IsChosen sheets requested sheet ∧ IsHeader sheet header column ∧
      (∀ row ∈ blockOf sheet header, ¬ RaisesRow column row (sheet.rowAt row)) ∧
      p = decodedPreview (Py.Path.name fileName) (sha256 content) sheet header column := by
  have hreturned := h
  rw [previewSpreadsheet, validate_of_loadSheets hload, hload] at hreturned
  simp only [Py.mapError_ok, Py.ok_bind, Py.bind_eq_ok] at hreturned
  obtain ⟨sheet, hselect, ⟨header, column⟩, hfind, -⟩ := hreturned
  have hchosen := selectSheet_eq_ok.mp hselect
  have hheader := findHeader_eq_ok.mp hfind
  have hreturns : Returns (previewSpreadsheet libraries sha256 content fileName requested) _ _ :=
    previewSpreadsheet_returns hload hchosen hheader
  have hfine := hreturns.iff.mp ⟨p, h⟩
  exact ⟨sheet, header, column, hchosen, hheader, hfine,
    Except.ok.inj (h.symm.trans (hreturns.returns hfine))⟩

end Preview

/-! ## What a preview says -/

/-- **A preview decodes the block of its sheet.** -/
structure DecodesBlock (sheets : List SpreadsheetSheet) (requested : String)
    (sheet : SpreadsheetSheet) (header column : ℕ) (p : ImportPreview) : Prop where
  chosen : IsChosen sheets requested sheet
  sheetName : p.sheetName = sheet.title
  isHeader : IsHeader sheet header column
  headerRowNumber : p.headerRowNumber = header
  within : header + p.rowsRead ≤ sheet.maxRow
  block : ∀ row, header < row → row ≤ header + p.rowsRead → isEmptyRow (sheet.rowAt row) = false
  stops : header + p.rowsRead < sheet.maxRow →
    isEmptyRow (sheet.rowAt (header + p.rowsRead + 1)) = true
  numbers : (p.rows.map ImportRow.rowNumber ++ p.errors.map ImportRowError.rowNumber).Perm
    (List.range' (header + 1) p.rowsRead)
  rowsOrdered : (p.rows.map ImportRow.rowNumber).Pairwise (· < ·)
  errorsOrdered : (p.errors.map ImportRowError.rowNumber).Pairwise (· < ·)
  accepted : ∀ row, header < row → row ≤ header + p.rowsRead →
    p.rows.filter (fun parsed => parsed.rowNumber = row) =
      (acceptedRow column row (sheet.rowAt row)).toList
  rejected : ∀ row, header < row → row ≤ header + p.rowsRead →
    p.errors.filter (fun e => e.rowNumber = row) =
      (rejectedRow column row (sheet.rowAt row)).toList

/-- The block is a run of numbers after the header. -/
theorem blockOf_eq_range {sheet : SpreadsheetSheet} {header column : ℕ}
    (hheader : IsHeader sheet header column) :
    ∃ m, header + m ≤ sheet.maxRow ∧ blockOf sheet header = List.range' (header + 1) m ∧
      (∀ row, header < row → row ≤ header + m → isEmptyRow (sheet.rowAt row) = false) ∧
      (header + m < sheet.maxRow → isEmptyRow (sheet.rowAt (header + m + 1)) = true) := by
  obtain ⟨m, hm, hrun, hall, hstop⟩ := takeWhile_range
    (fun row => decide ¬ isEmptyRow (sheet.rowAt row) = true) (header + 1)
    (sheet.maxRow - header)
  have hle := hheader.le
  refine ⟨m, by omega, hrun, ?_, ?_⟩
  · intro row hlo hhi
    have hrow := hall row (by omega) (by omega)
    simpa using hrow
  · intro hlt
    have hrow := hstop (by omega)
    rw [show header + 1 + m = header + m + 1 by omega] at hrow
    simpa using hrow

theorem decodedPreview_decodes {sheets : List SpreadsheetSheet} {requested : String}
    {sheet : SpreadsheetSheet} {header column : ℕ} (hchosen : IsChosen sheets requested sheet)
    (hheader : IsHeader sheet header column)
    (hfine : ∀ row ∈ blockOf sheet header, ¬ RaisesRow column row (sheet.rowAt row))
    (fileName checksum : String) :
    DecodesBlock sheets requested sheet header column
      (decodedPreview fileName checksum sheet header column) := by
  obtain ⟨m, hwithin, hblock, hall, hstop⟩ := blockOf_eq_range hheader
  have hcount : (blockOf sheet header).length = m := by
    rw [hblock, List.length_range']
  have hmem : ∀ {row}, header < row → row ≤ header + m → row ∈ blockOf sheet header := by
    intro row hlo hhi
    rw [hblock, List.mem_range'_1]
    omega
  have hnodup : (blockOf sheet header).Nodup := by
    rw [hblock]
    exact List.nodup_range'
  have hsorted : (blockOf sheet header).Pairwise (· < ·) := by
    rw [hblock]
    exact List.pairwise_lt_range'
  constructor
  case chosen => exact hchosen
  case sheetName => rfl
  case isHeader => exact hheader
  case headerRowNumber => rfl
  case within =>
    show header + (blockOf sheet header).length ≤ sheet.maxRow
    omega
  case block =>
    show ∀ row, header < row → row ≤ header + (blockOf sheet header).length → _
    rw [hcount]
    exact hall
  case stops =>
    show header + (blockOf sheet header).length < sheet.maxRow →
      isEmptyRow (sheet.rowAt (header + (blockOf sheet header).length + 1)) = true
    rw [hcount]
    exact hstop
  case numbers =>
    show List.Perm _ (List.range' (header + 1) (blockOf sheet header).length)
    rw [hcount, ← hblock]
    apply perm_of_division
    · exact fun _ _ => acceptedRow_rowNumber
    · exact fun _ _ => rejectedRow_rowNumber
    · intro row hrow
      exact rejectedRow_isSome (hfine row hrow)
  case rowsOrdered => exact pairwise_keys (fun _ _ => acceptedRow_rowNumber) hsorted
  case errorsOrdered => exact pairwise_keys (fun _ _ => rejectedRow_rowNumber) hsorted
  case accepted =>
    show ∀ row, header < row → row ≤ header + (blockOf sheet header).length → _
    intro row hlo hhi
    rw [hcount] at hhi
    exact filter_key_filterMap (fun _ _ => acceptedRow_rowNumber) hnodup (hmem hlo hhi)
  case rejected =>
    show ∀ row, header < row → row ≤ header + (blockOf sheet header).length → _
    intro row hlo hhi
    rw [hcount] at hhi
    exact filter_key_filterMap (fun _ _ => rejectedRow_rowNumber) hnodup (hmem hlo hhi)

/-! ## Other rows -/

theorem IsHeader.unique {sheet : SpreadsheetSheet} {header column header' column' : ℕ}
    (h : IsHeader sheet header column) (h' : IsHeader sheet header' column') :
    header' = header ∧ column' = column := by
  have hfound := findHeader_eq_ok.mpr h
  rw [findHeader_eq_ok.mpr h'] at hfound
  exact Prod.mk.inj (Except.ok.inj hfound)

theorem hasHeaderCell_iff {sheet : SpreadsheetSheet} :
    sheet.HasHeaderCell ↔ ∃ header column, IsHeader sheet header column := by
  rw [← findHeader_isOk]
  constructor
  · intro hok
    obtain ⟨⟨header, column⟩, hfound⟩ := Py.exists_of_isOk hok
    exact ⟨header, column, findHeader_eq_ok.mp hfound⟩
  · rintro ⟨header, column, hheader⟩
    rw [findHeader_eq_ok.mpr hheader]
    rfl

/-- `after` is `sheet` with other rows of its block than row `r` changed, and none of them
blanked. -/
structure EditsBlock (r : ℕ) (sheet after : SpreadsheetSheet) : Prop where
  title : after.title = sheet.title
  maxRow : after.maxRow = sheet.maxRow
  rows : ∀ n, after.rowAt n = sheet.rowAt n ∨
    (n ≠ r ∧ (∃ header column, IsHeader sheet header column ∧ n ∈ blockOf sheet header) ∧
      isEmptyRow (after.rowAt n) = false)

namespace EditsBlock

variable {r : ℕ} {sheet after : SpreadsheetSheet}

/-- The rows up to the header are not in the block. -/
theorem isHeader (h : EditsBlock r sheet after) {header column : ℕ}
    (hheader : IsHeader sheet header column) : IsHeader after header column := by
  have hsame : ∀ n, n ≤ header → after.rowAt n = sheet.rowAt n := by
    intro n hn
    rcases h.rows n with hrow | ⟨-, ⟨header', column', hheader', hmem⟩, -⟩
    · exact hrow
    · exfalso
      obtain ⟨rfl, -⟩ := hheader.unique hheader'
      obtain ⟨m, -, hblock, -, -⟩ := blockOf_eq_range hheader
      rw [hblock, List.mem_range'_1] at hmem
      omega
  constructor
  case pos => exact hheader.pos
  case le =>
    rw [h.maxRow]
    exact hheader.le
  case column =>
    rw [hsame header (Nat.le_refl header)]
    exact hheader.column
  case first =>
    intro row hpos hlt
    rw [hsame row (by omega)]
    exact hheader.first row hpos hlt

theorem hasHeaderCell (h : EditsBlock r sheet after) :
    after.HasHeaderCell ↔ sheet.HasHeaderCell := by
  constructor
  · intro hafter
    by_contra hnone
    -- without a header there is no block, and nothing was changed
    have hrows : after.rows = sheet.rows := by
      have hlength : after.rows.length = sheet.rows.length := h.maxRow
      apply List.ext_getElem hlength
      intro i hi hi'
      rcases h.rows (i + 1) with hrow | ⟨-, ⟨header, column, hheader, -⟩, -⟩
      · rw [SpreadsheetSheet.rowAt, SpreadsheetSheet.rowAt, Nat.add_sub_cancel] at hrow
        simpa [List.getD_eq_getElem?_getD, hi, hi'] using hrow
      · exact absurd (hasHeaderCell_iff.mpr ⟨header, column, hheader⟩) hnone
    unfold SpreadsheetSheet.HasHeaderCell at hafter hnone
    rw [hrows] at hafter
    exact hnone hafter
  · intro hsheet
    obtain ⟨header, column, hheader⟩ := hasHeaderCell_iff.mp hsheet
    exact hasHeaderCell_iff.mpr ⟨header, column, h.isHeader hheader⟩

theorem isEmptyRow_eq (h : EditsBlock r sheet after) (n : ℕ) :
    isEmptyRow (after.rowAt n) = isEmptyRow (sheet.rowAt n) := by
  rcases h.rows n with hrow | ⟨-, ⟨header, column, hheader, hmem⟩, hfilled⟩
  · rw [hrow]
  · have hpassed := List.mem_takeWhile_imp hmem
    rw [hfilled]
    simpa using hpassed

theorem blockOf_eq (h : EditsBlock r sheet after) (header : ℕ) :
    blockOf after header = blockOf sheet header := by
  have hpredicate : (fun row => decide ¬ isEmptyRow (after.rowAt row) = true) =
      fun row => decide ¬ isEmptyRow (sheet.rowAt row) = true := by
    funext row
    rw [h.isEmptyRow_eq row]
  rw [blockOf, blockOf, runOf, runOf, hpredicate, h.maxRow]

theorem rowAt_eq (h : EditsBlock r sheet after) : after.rowAt r = sheet.rowAt r := by
  rcases h.rows r with hrow | ⟨hne, -, -⟩
  · exact hrow
  · exact absurd rfl hne

end EditsBlock

/-- Two searches that agree at every place find related elements. -/
theorem forall₂_find {α : Type} {R : α → α → Prop} {p : α → Bool} {l l' : List α}
    (h : List.Forall₂ R l l') (hp : ∀ a b, R a b → p b = p a) {a b : α}
    (ha : l.find? p = some a) (hb : l'.find? p = some b) : R a b := by
  induction h with
  | nil => cases ha
  | cons hab _ ih =>
      rename_i x y xs ys _
      rw [List.find?_cons] at ha hb
      rw [hp x y hab] at hb
      cases hx : p x with
      | true =>
          rw [hx] at ha hb
          obtain rfl := Option.some.inj ha
          obtain rfl := Option.some.inj hb
          exact hab
      | false =>
          rw [hx] at ha hb
          exact ih ha hb

/-- The sheets chosen before and after such edits. -/
theorem EditsBlock.of_chosen {r : ℕ} {sheets sheets' : List SpreadsheetSheet}
    {requested : String} {sheet sheet' : SpreadsheetSheet}
    (h : List.Forall₂ (EditsBlock r) sheets sheets') (hchosen : IsChosen sheets requested sheet)
    (hchosen' : IsChosen sheets' requested sheet') : EditsBlock r sheet sheet' := by
  have horder : List.Forall₂ (EditsBlock r) (sheetOrder sheets requested)
      (sheetOrder sheets' requested) := by
    apply List.rel_append _ h
    apply List.rel_filter _ h
    intro a b hab
    simp only [SpreadsheetSheet.isRequested, hab.title]
  have hsearch : ∀ a b, EditsBlock r a b → (findHeader b).isOk = (findHeader a).isOk := by
    intro a b hab
    rw [Bool.eq_iff_iff, findHeader_isOk, findHeader_isOk]
    exact hab.hasHeaderCell
  have hfind := selectSheet_eq_ok.mpr hchosen
  have hfind' := selectSheet_eq_ok.mpr hchosen'
  rw [selectSheet, Py.orRaise_eq_ok] at hfind hfind'
  exact forall₂_find horder hsearch hfind hfind'

/-- **What `preview` decodes**: the block under the first header of the first sheet that has
one, every row of it once, each by its own cells.  Other rows of the block may change, as
long as none is blanked and the preview still returns. -/
theorem previewSpreadsheet_decodes {libraries : SpreadsheetLibraries} {sha256 : Bytes → String}
    {content : Bytes} {fileName requested : String} {sheets : List SpreadsheetSheet}
    {p : ImportPreview} (hload : loadSheets libraries content fileName = .ok sheets)
    (h : previewSpreadsheet libraries sha256 content fileName requested = .ok p) :
    (∃ sheet header column, DecodesBlock sheets requested sheet header column p) ∧
      ∀ (libraries' : SpreadsheetLibraries) (content' : Bytes) (fileName' : String)
        (sheets' : List SpreadsheetSheet) (p' : ImportPreview) (r : ℕ),
        loadSheets libraries' content' fileName' = .ok sheets' →
        previewSpreadsheet libraries' sha256 content' fileName' requested = .ok p' →
        p.headerRowNumber < r → r ≤ p.headerRowNumber + p.rowsRead →
        List.Forall₂ (EditsBlock r) sheets sheets' →
        p'.rows.filter (fun row => row.rowNumber = r) =
            p.rows.filter (fun row => row.rowNumber = r) ∧
          p'.errors.filter (fun e => e.rowNumber = r) =
            p.errors.filter (fun e => e.rowNumber = r) := by
  obtain ⟨sheet, header, column, hchosen, hheader, hfine, rfl⟩ := chosen_of_preview hload h
  have hdecodes := decodedPreview_decodes hchosen hheader hfine (Py.Path.name fileName)
    (sha256 content)
  refine ⟨⟨sheet, header, column, hdecodes⟩, ?_⟩
  intro libraries' content' fileName' sheets' p' r hload' h' hlo hhi hedits
  obtain ⟨sheet', header', column', hchosen', hheader', hfine', rfl⟩ :=
    chosen_of_preview hload' h'
  have hdecodes' := decodedPreview_decodes hchosen' hheader' hfine' (Py.Path.name fileName')
    (sha256 content')
  have hedit := EditsBlock.of_chosen hedits hchosen hchosen'
  obtain ⟨rfl, rfl⟩ := (hedit.isHeader hheader).unique hheader'
  -- row `r` is in both blocks
  have hread : (blockOf sheet' header').length = (blockOf sheet header').length := by
    rw [hedit.blockOf_eq header']
  have hhi' : r ≤ header' + (blockOf sheet' header').length := by
    rw [hread]
    exact hhi
  constructor
  · rw [hdecodes.accepted r hlo hhi, hdecodes'.accepted r hlo hhi', hedit.rowAt_eq]
  · rw [hdecodes.rejected r hlo hhi, hdecodes'.rejected r hlo hhi', hedit.rowAt_eq]

/-- A data row: one purchase, with its quantity, its clean price and its exit commission. -/
def purchaseRow (quantity cleanPrice saleCommission : SpreadsheetValue) : List SpreadsheetValue :=
  [.none, .text "RU000A107SX3", .text "ЭкономЛизинг 1р-07", .text "погашение",
    .datetime 739761 0, .none, .date 740027, quantity, cleanPrice, .number "3.51", .none,
    .number "0.39", .none, .number "1000", .none, .none, .none, saleCommission]

/-- A workbook with an empty row, a header and these rows, as `python-calamine` reads it. -/
def calamineWorkbook (rows : List (List SpreadsheetValue)) : SpreadsheetLibraries where
  openpyxl _ _ := none
  calamine _ := some [("Notes", [[.text "Plan"]]),
    ("Доход счёт 2026", [] :: [.none, .text "isin "] :: rows)]
  numbersParser _ := none

/-- The sheets `_load_calamine` makes of it. -/
def calamineSheets (rows : List (List SpreadsheetValue)) : List SpreadsheetSheet :=
  [⟨"Notes", [[⟨.text "Plan", false⟩]]⟩,
    ⟨"Доход счёт 2026", [] :: [⟨.none, false⟩, ⟨.text "isin ", false⟩] ::
      rows.map fun row => row.map (⟨·, false⟩)⟩]

theorem loadSheets_calamine (rows : List (List SpreadsheetValue)) :
    loadSheets (calamineWorkbook rows) [] "portfolio.xls" = .ok (calamineSheets rows) := by
  have hsuffix : Py.Text.lower (Py.Path.suffix "portfolio.xls") = ".xls" := by decide +kernel
  unfold loadSheets
  rw [hsuffix]
  rfl

/-- An accepted row, a rejected one, and a third behind a blank. -/
def threeRows : List (List SpreadsheetValue) :=
  [purchaseRow (.number "40") (.number "962.9") .none,
    purchaseRow (.number "0") (.number "962.9") .none, [.text " "],
    purchaseRow (.number "2") (.number "962.9") .none]

theorem previewSpreadsheet_decodes_threeRows :
    ∃ p, previewSpreadsheet (calamineWorkbook threeRows) (fun _ => "") [] "portfolio.xls"
        defaultSheetName = .ok p ∧
      (p.rowsRead, p.errors.map ImportRowError.rowNumber) = (2, [4]) ∧
      ∃ sheet header column,
        DecodesBlock (calamineSheets threeRows) defaultSheetName sheet header column p := by
  have hread : (previewSpreadsheet (calamineWorkbook threeRows) (fun _ => "") [] "portfolio.xls"
      defaultSheetName).toOption.map (fun p => (p.rowsRead, p.errors.map ImportRowError.rowNumber))
        = some (2, [4]) := by decide +kernel
  cases h : previewSpreadsheet (calamineWorkbook threeRows) (fun _ => "") [] "portfolio.xls"
      defaultSheetName with
  | error e =>
      rw [h] at hread
      cases hread
  | ok p =>
      rw [h] at hread
      exact ⟨p, rfl, Option.some.inj hread, (previewSpreadsheet_decodes (loadSheets_calamine _) h).1⟩

end BondTrading
