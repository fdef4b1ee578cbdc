/-
# BondTrading.Sheets.Frame -- what a synchronization may touch

Whatever the sheet holds, MOEX answers and the database refuses: a batch that reaches
`update_cells` addresses no cell twice, stays in the header row and in rows with an ISIN,
and never writes a column the customer fills.
-/
import BondTrading.Sheets.Written

namespace BondTrading

open Py (Decimal Dict Instant Zone Routine)
open Sql (World)

/-! ## Addresses -/

/-- The cell an update writes. -/
def CellUpdate.address (u : CellUpdate) : ℕ × String := (u.rowNumber, u.column)

/-- Blocks of cells in distinct rows, each with distinct columns, have no cell in common. -/
theorem nodup_addresses {blocks : List (ℕ × List String)} (hrows : (blocks.map Prod.fst).Nodup)
    (hcolumns : ∀ b ∈ blocks, b.2.Nodup) :
    (blocks.flatMap fun b => b.2.map fun column => (b.1, column)).Nodup := by
  induction blocks with
  | nil => exact List.nodup_nil
  | cons b blocks ih =>
      obtain ⟨hfresh, hrest⟩ := List.nodup_cons.mp hrows
      rw [List.flatMap_cons, List.nodup_append]
      refine ⟨?_, ih hrest fun c hc => hcolumns c (List.mem_cons_of_mem _ hc), ?_⟩
      · refine List.Nodup.map ?_ (hcolumns b List.mem_cons_self)
        intro column column' h
        exact (Prod.mk.inj h).2
      · rintro ⟨row, column⟩ hb ⟨row', column'⟩ hothers h
        obtain ⟨rfl, rfl⟩ := Prod.mk.inj h
        obtain ⟨_, -, hrow⟩ := List.mem_map.mp hb
        obtain ⟨other, hother, hmem⟩ := List.mem_flatMap.mp hothers
        obtain ⟨_, -, hrow'⟩ := List.mem_map.mp hmem
        refine hfresh (List.mem_map.mpr ⟨other, hother, ?_⟩)
        rw [(Prod.mk.inj hrow').1, (Prod.mk.inj hrow).1]

/-- Rows that a selection keeps, by a key it keeps. -/
theorem sublist_map_filterMap {α β κ : Type} {f : α → Option β} {key : α → κ} {key' : β → κ}
    (h : ∀ a b, f a = some b → key' b = key a) (l : List α) :
    ((l.filterMap f).map key').Sublist (l.map key) := by
  induction l with
  | nil => exact List.Sublist.slnil
  | cons a l ih =>
      rw [List.map_cons]
      cases hf : f a with
      | none =>
          rw [List.filterMap_cons_none hf]
          exact ih.cons _
      | some b =>
          rw [List.filterMap_cons_some hf, List.map_cons, h a b hf]
          exact ih.cons_cons _

/-! ## Rows with and without an ISIN -/

section Rows

variable {connection : SheetConnectionModel} {rows : List SheetDataRow}

theorem normalizedRow_eq_some {row : SheetDataRow} {entry : SheetDataRow × String}
    (h : normalizedRow connection row = some entry) :
    entry.1 = row ∧ normalizeIsin (row.rawIsin connection) = .ok entry.2 := by
  unfold normalizedRow at h
  split at h
  · rename_i isin hok
    cases h
    exact ⟨rfl, hok⟩
  · exact absurd h (by simp)

theorem isinError_eq_some {row : SheetDataRow} {e : SheetRowError}
    (h : isinError connection row = some e) :
    ∃ error, normalizeIsin (row.rawIsin connection) = .error error ∧
      e = .row row.rowNumber (row.rawIsin connection) error.str := by
  unfold isinError at h
  split at h
  · exact absurd h (by simp)
  · rename_i error hraised
    cases h
    exact ⟨error, hraised, rfl⟩

theorem mem_normalizedRows {entry : SheetDataRow × String}
    (h : entry ∈ normalizedRows connection rows) :
    entry.1 ∈ rows ∧ normalizeIsin (entry.1.rawIsin connection) = .ok entry.2 := by
  obtain ⟨row, hrow, hentry⟩ := List.mem_filterMap.mp h
  obtain ⟨rfl, hok⟩ := normalizedRow_eq_some hentry
  exact ⟨hrow, hok⟩

/-- The row number of an error of a row. -/
def SheetRowError.number : SheetRowError → ℕ
  | .row number _ _ => number
  | .isin _ _ => 0

/-- A row with an invalid ISIN shares its number with no normalized row. -/
theorem mem_isinErrors (hrows : (rows.map SheetDataRow.rowNumber).Nodup) {e : SheetRowError}
    (h : e ∈ isinErrors connection rows) :
    (∃ row ∈ rows, ∃ isin message, e = .row row.rowNumber isin message) ∧
      ∀ entry ∈ normalizedRows connection rows, entry.1.rowNumber ≠ e.number := by
  obtain ⟨row, hrow, he⟩ := List.mem_filterMap.mp h
  obtain ⟨error, hraised, rfl⟩ := isinError_eq_some he
  refine ⟨⟨row, hrow, _, _, rfl⟩, ?_⟩
  intro entry hentry hnumber
  obtain ⟨hmem, hok⟩ := mem_normalizedRows hentry
  have hsame : entry.1 = row := List.inj_on_of_nodup_map hrows hmem hrow hnumber
  rw [hsame, hraised] at hok
  exact absurd hok (by simp)

/-- Errors about a normalized row, or about an ISIN, mark no row as invalid. -/
theorem invalidRowUpdates_of_known {normalized : List (SheetDataRow × String)}
    {errors : List SheetRowError}
    (h : ∀ e ∈ errors, (∃ entry ∈ normalized, ∃ isin message,
      e = .row entry.1.rowNumber isin message) ∨ ∃ isin message, e = .isin isin message) :
    invalidRowUpdates connection normalized errors = [] := by
  unfold invalidRowUpdates
  split
  · rfl
  · refine List.flatMap_eq_nil_iff.mpr fun e he => ?_
    rcases h e he with ⟨entry, hentry, isin, message, rfl⟩ | ⟨isin, message, rfl⟩
    · exact if_pos (List.any_eq_true.mpr ⟨entry, hentry, decide_eq_true rfl⟩)
    · rfl

theorem invalidRowUpdates_append (connection : SheetConnectionModel)
    (normalized : List (SheetDataRow × String)) (errors errors' : List SheetRowError) :
    invalidRowUpdates connection normalized (errors ++ errors') =
      invalidRowUpdates connection normalized errors ++
        invalidRowUpdates connection normalized errors' := by
  unfold invalidRowUpdates
  split
  · rfl
  · exact List.flatMap_append

/-- The cells of the rows with an invalid ISIN, as blocks. -/
def invalidBlocks (connection : SheetConnectionModel) (rows : List SheetDataRow) :
    List (ℕ × List String) :=
  match Py.Text.given connection.statusColumn with
  | none => []
  | some status => (isinErrors connection rows).map fun e => (e.number, [status, "AL"])

theorem invalidRowUpdates_blocks (hrows : (rows.map SheetDataRow.rowNumber).Nodup) :
    (invalidRowUpdates connection (normalizedRows connection rows)
        (isinErrors connection rows)).map CellUpdate.address =
      (invalidBlocks connection rows).flatMap fun b => b.2.map fun column => (b.1, column) := by
  unfold invalidRowUpdates invalidBlocks
  cases Py.Text.given connection.statusColumn with
  | none => rfl
  | some status =>
      show ((isinErrors connection rows).flatMap (errorCells status _)).map _ =
        ((isinErrors connection rows).map fun e => (e.number, [status, "AL"])).flatMap _
      rw [List.map_flatMap, List.flatMap_map]
      refine List.flatMap_congr fun e he => ?_
      obtain ⟨⟨row, -, isin, message, rfl⟩, hapart⟩ := mem_isinErrors hrows he
      -- no normalized row has this number
      have hnone : (normalizedRows connection rows).any
          (fun entry => entry.1.rowNumber = row.rowNumber) = false := by
        rw [List.any_eq_false]
        intro entry hentry
        rw [decide_eq_true_eq]
        exact hapart entry hentry
      show (if (normalizedRows connection rows).any _ then [] else _).map CellUpdate.address = _
      rw [hnone]
      rfl

end Rows

/-! ## The batch -/

section Batch

variable {connection : SheetConnectionModel} {rows : List SheetDataRow}

/-- The blocks of a batch: the header, the normalized rows and the invalid rows. -/
def batchBlocks (connection : SheetConnectionModel) (rows : List SheetDataRow)
    (written : List RowUpdates) : List (ℕ × List String) :=
  (connection.headerRow, calculationColumns) ::
    (((normalizedRows connection rows).zip written).map fun w => (w.1.1.rowNumber, w.2.keys)) ++
    invalidBlocks connection rows

theorem cellUpdates_address (rowNumber : ℕ) (values : RowUpdates) :
    (cellUpdates rowNumber values).map CellUpdate.address =
      values.keys.map fun column => (rowNumber, column) := by
  rw [cellUpdates, List.map_map, Dict.keys, List.map_map]
  rfl

theorem headerUpdates_address (connection : SheetConnectionModel) :
    (headerUpdates connection).map CellUpdate.address =
      calculationColumns.map fun column => (connection.headerRow, column) := by
  rw [headerUpdates, List.map_map, calculationColumns, List.map_map]
  rfl

/-- The rows of the blocks are distinct. -/
theorem nodup_batchBlocks_rows (hrows : (rows.map SheetDataRow.rowNumber).Nodup)
    (hbelow : ∀ row ∈ rows, connection.headerRow < row.rowNumber) {written : List RowUpdates}
    (hlength : (normalizedRows connection rows).length = written.length) :
    ((batchBlocks connection rows written).map Prod.fst).Nodup := by
  have hnormalized : (((normalizedRows connection rows).zip written).map fun w =>
      (w.1.1.rowNumber, w.2.keys)).map Prod.fst =
      (normalizedRows connection rows).map fun entry => entry.1.rowNumber := by
    rw [List.map_map]
    show ((normalizedRows connection rows).zip written).map
      ((fun entry : SheetDataRow × String => entry.1.rowNumber) ∘ Prod.fst) = _
    rw [← List.map_map, List.map_fst_zip (Nat.le_of_eq hlength)]
  have hdistinct : ((normalizedRows connection rows).map fun entry =>
      entry.1.rowNumber).Nodup := by
    refine List.Nodup.sublist (sublist_map_filterMap ?_ rows) hrows
    intro row entry h
    rw [(normalizedRow_eq_some h).1]
  have hinvalid : ((isinErrors connection rows).map SheetRowError.number).Nodup := by
    refine List.Nodup.sublist (sublist_map_filterMap ?_ rows) hrows
    intro row e h
    obtain ⟨error, -, rfl⟩ := isinError_eq_some h
    rfl
  have hblocks : (invalidBlocks connection rows).map Prod.fst =
      (isinErrors connection rows).map SheetRowError.number ∨
      invalidBlocks connection rows = [] := by
    unfold invalidBlocks
    split
    · exact Or.inr rfl
    · refine Or.inl ?_
      rw [List.map_map]
      rfl
  have hrest : ((invalidBlocks connection rows).map Prod.fst).Nodup ∧
      ∀ n ∈ (invalidBlocks connection rows).map Prod.fst,
        n ∈ (isinErrors connection rows).map SheetRowError.number := by
    rcases hblocks with h | h
    · rw [h]
      exact ⟨hinvalid, fun _ hn => hn⟩
    · rw [h]
      exact ⟨List.nodup_nil, fun _ hn => absurd hn List.not_mem_nil⟩
  unfold batchBlocks
  rw [List.cons_append, List.map_cons, List.map_append, hnormalized, List.nodup_cons,
    List.nodup_append]
  refine ⟨?_, hdistinct, hrest.1, ?_⟩
  · -- the header row stands above all data rows
    intro hheader
    rcases List.mem_append.mp hheader with h | h
    · obtain ⟨entry, hentry, hnumber⟩ := List.mem_map.mp h
      exact Nat.ne_of_gt (hbelow _ (mem_normalizedRows hentry).1) hnumber
    · obtain ⟨e, he, hnumber⟩ := List.mem_map.mp (hrest.2 _ h)
      obtain ⟨⟨row, hrow, isin, message, rfl⟩, -⟩ := mem_isinErrors hrows he
      exact Nat.ne_of_gt (hbelow row hrow) hnumber
  · intro n hn n' hn' hsame
    obtain ⟨entry, hentry, rfl⟩ := List.mem_map.mp hn
    obtain ⟨e, he, rfl⟩ := List.mem_map.mp (hrest.2 _ hn')
    exact (mem_isinErrors hrows he).2 entry hentry hsame

/-- The cells the row loop wrote, as blocks. -/
theorem rowCells_address (entries : List (SheetDataRow × String)) (written : List RowUpdates) :
    ((entries.zip written).flatMap fun w => cellUpdates w.1.1.rowNumber w.2).map
        CellUpdate.address =
      ((entries.zip written).map fun w => (w.1.1.rowNumber, w.2.keys)).flatMap
        fun b => b.2.map fun column => (b.1, column) := by
  rw [List.map_flatMap, List.flatMap_map]
  refine List.flatMap_congr fun w _ => ?_
  exact cellUpdates_address w.1.1.rowNumber w.2

/-- **The cells of a batch are the cells of its blocks.** -/
theorem batchOf_address (hrows : (rows.map SheetDataRow.rowNumber).Nodup)
    {loop : RowLoop} {written : List RowUpdates}
    (hupdates : loop.updates = ((normalizedRows connection rows).zip written).flatMap
      fun w => cellUpdates w.1.1.rowNumber w.2)
    (hinvalid : invalidRowUpdates connection (normalizedRows connection rows) loop.rowErrors =
      invalidRowUpdates connection (normalizedRows connection rows)
        (isinErrors connection rows)) :
    (batchOf connection (normalizedRows connection rows) loop).map CellUpdate.address =
      (batchBlocks connection rows written).flatMap fun b =>
        b.2.map fun column => (b.1, column) := by
  unfold batchOf batchBlocks
  rw [List.map_append, List.map_append, hinvalid, invalidRowUpdates_blocks hrows, hupdates,
    rowCells_address, headerUpdates_address, List.flatMap_append, List.flatMap_cons,
    List.append_assoc]

/-- The status column is not AL. -/
theorem WellPlaced.status_ne (h : WellPlaced connection) {status : String}
    (hstatus : Py.Text.given connection.statusColumn = some status) : status ≠ "AL" := by
  intro hAL
  have hcolumn : connection.statusColumn = some status := (Option.filter_eq_some_iff.mp hstatus).1
  have hused : status ∈ connection.usedColumns := by
    unfold SheetConnectionModel.usedColumns
    rw [hcolumn]
    exact List.mem_append_right _ (List.mem_singleton.mpr rfl)
  apply h.apart status hused
  rw [hAL]
  decide

/-- No block names a column twice. -/
theorem nodup_batchBlocks_columns (hplaced : WellPlaced connection) {written : List RowUpdates} :
    ∀ b ∈ batchBlocks connection rows written, b.2.Nodup := by
  intro b hb
  unfold batchBlocks at hb
  rcases List.mem_append.mp hb with hb | hb
  · rcases List.mem_cons.mp hb with rfl | hb
    · show calculationColumns.Nodup
      decide
    · obtain ⟨w, -, rfl⟩ := List.mem_map.mp hb
      exact w.2.nodup
  · unfold invalidBlocks at hb
    split at hb
    · exact absurd hb List.not_mem_nil
    · rename_i status hstatus
      obtain ⟨e, -, rfl⟩ := List.mem_map.mp hb
      show [status, "AL"].Nodup
      rw [List.nodup_cons, List.mem_singleton]
      exact ⟨hplaced.status_ne hstatus, List.nodup_singleton _⟩

/-- Where a cell of the blocks lies. -/
theorem mem_batchBlocks {written : List RowUpdates}
    (hwritten : List.Forall₂ (fun (e : SheetDataRow × String) values =>
      Confined connection e.1 values) (normalizedRows connection rows) written)
    {b : ℕ × List String} (hb : b ∈ batchBlocks connection rows written) :
    b = (connection.headerRow, calculationColumns) ∨
      ∃ row ∈ rows, b.1 = row.rowNumber ∧ ∀ column ∈ b.2, Writable connection row column := by
  unfold batchBlocks at hb
  rcases List.mem_append.mp hb with hb | hb
  · rcases List.mem_cons.mp hb with rfl | hb
    · exact Or.inl rfl
    · obtain ⟨w, hw, rfl⟩ := List.mem_map.mp hb
      have hconfined : Confined connection w.1.1 w.2 :=
        (List.forall₂_iff_zip.mp hwritten).2 hw
      refine Or.inr ⟨w.1.1, (mem_normalizedRows (List.of_mem_zip hw).1).1, rfl, ?_⟩
      exact hconfined
  · unfold invalidBlocks at hb
    split at hb
    · exact absurd hb List.not_mem_nil
    · rename_i status hstatus
      obtain ⟨e, he, rfl⟩ := List.mem_map.mp hb
      obtain ⟨row, hrow, hraised⟩ := List.mem_filterMap.mp he
      obtain ⟨error, -, rfl⟩ := isinError_eq_some hraised
      refine Or.inr ⟨row, hrow, rfl, ?_⟩
      intro column hcolumn
      rcases List.mem_cons.mp hcolumn with rfl | hcolumn
      · exact writable_status (Option.filter_eq_some_iff.mp hstatus).1
      · obtain rfl := List.mem_singleton.mp hcolumn
        exact writable_calculation (by decide)

end Batch

/-! ## In frame -/

/-- The columns `execute` writes on data rows. -/
def SheetConnectionModel.outputColumns (connection : SheetConnectionModel) : List String :=
  connection.priceColumn :: (connection.updatedAtColumn.toList ++
    connection.statusColumn.toList ++ calculationColumns ++ ["J", "L"])

/-- Where an update of a batch may go: to a header of AD:AL, or to a data row with an ISIN,
in an output column, and to J and L only where the sheet has nothing there. -/
inductive InFrame (connection : SheetConnectionModel) (rows : List SheetDataRow)
    (u : CellUpdate) : Prop where
  | header (row : u.rowNumber = connection.headerRow) (column : u.column ∈ calculationColumns)
  | data (row : SheetDataRow) (read : row ∈ rows) (number : u.rowNumber = row.rowNumber)
      (isin : (row.get connection.isinColumn).isBlank = false)
      (column : u.column ∈ connection.outputColumns)
      (customer : u.column ∉ connection.isinColumn :: ["E", "H", "I", "V"])
      (accrued : u.column = "J" → (row.get "J").isBlank = true)
      (commission : u.column = "L" → (row.get "L").isBlank = true)

section InFrame

variable {connection : SheetConnectionModel} {row : SheetDataRow} {column : String}

theorem Writable.mem_outputColumns (h : Writable connection row column) :
    column ∈ connection.outputColumns := by
  unfold SheetConnectionModel.outputColumns
  rcases h with (rfl | h | h | h) | ⟨rfl, -⟩ | ⟨rfl, -⟩
  · exact List.mem_cons_self
  · simp [h]
  · simp [h]
  · simp [h]
  · simp
  · simp

/-- A column of its own is a used column other than that of the ISIN, or a calculation. -/
theorem SheetConnectionModel.OwnColumn.cases (hplaced : WellPlaced connection)
    (h : connection.OwnColumn column) :
    (column ∈ connection.usedColumns ∧ column ≠ connection.isinColumn) ∨
      column ∈ calculationColumns := by
  have hdistinct := hplaced.distinct
  unfold SheetConnectionModel.usedColumns at hdistinct ⊢
  rw [List.append_assoc, List.cons_append, List.nodup_cons] at hdistinct
  have hother : column ∈ [connection.priceColumn] ++ (connection.updatedAtColumn.toList ++
      connection.statusColumn.toList) →
      column ∈ [connection.isinColumn, connection.priceColumn] ++
        connection.updatedAtColumn.toList ++ connection.statusColumn.toList ∧
        column ≠ connection.isinColumn := by
    intro hcolumn
    refine ⟨?_, ?_⟩
    · rw [List.append_assoc]
      exact List.mem_cons_of_mem _ hcolumn
    · intro heq
      exact hdistinct.1 (heq ▸ hcolumn)
  rcases h with rfl | h | h | h
  · exact Or.inl (hother (by simp))
  · exact Or.inl (hother (by simp [h]))
  · exact Or.inl (hother (by simp [h]))
  · exact Or.inr h

/-- **No column of the customer is writable.** -/
theorem Writable.not_customer (hplaced : WellPlaced connection)
    (h : Writable connection row column) :
    column ∉ connection.isinColumn :: ["E", "H", "I", "V"] := by
  have hisin : connection.isinColumn ∉ reservedColumns := by
    apply hplaced.apart
    unfold SheetConnectionModel.usedColumns
    simp
  intro hcustomer
  rcases h with h | ⟨rfl, -⟩ | ⟨rfl, -⟩
  · rcases h.cases hplaced with ⟨hused, hne⟩ | hcalculation
    · rcases List.mem_cons.mp hcustomer with rfl | hfixed
      · exact hne rfl
      · exact hplaced.apart column hused
          ((by decide : ∀ c ∈ ["E", "H", "I", "V"], c ∈ reservedColumns) column hfixed)
    · rcases List.mem_cons.mp hcustomer with rfl | hfixed
      · exact hisin (List.mem_append_right _ hcalculation)
      · exact (by decide : ∀ c ∈ ["E", "H", "I", "V"], c ∉ calculationColumns) column hfixed
          hcalculation
  · rcases List.mem_cons.mp hcustomer with h | h
    · exact hisin (h ▸ by decide)
    · exact absurd h (by decide)
  · rcases List.mem_cons.mp hcustomer with h | h
    · exact hisin (h ▸ by decide)
    · exact absurd h (by decide)

/-- J and L are no columns of a connection. -/
theorem SheetConnectionModel.OwnColumn.not_input (hplaced : WellPlaced connection)
    (h : connection.OwnColumn column) : column ∉ ["J", "L"] := by
  intro hinput
  rcases h.cases hplaced with ⟨hused, -⟩ | hcalculation
  · exact hplaced.apart column hused
      ((by decide : ∀ c ∈ ["J", "L"], c ∈ reservedColumns) column hinput)
  · exact (by decide : ∀ c ∈ ["J", "L"], c ∉ calculationColumns) column hinput hcalculation

theorem Writable.accrued_blank (hplaced : WellPlaced connection)
    (h : Writable connection row column) (hJ : column = "J") : (row.get "J").isBlank = true := by
  rcases h with h | ⟨-, hblank⟩ | ⟨hL, -⟩
  · exact absurd (by rw [hJ]; decide) (h.not_input hplaced)
  · exact hblank
  · exact absurd (hJ.symm.trans hL) (by decide)

theorem Writable.commission_blank (hplaced : WellPlaced connection)
    (h : Writable connection row column) (hL : column = "L") : (row.get "L").isBlank = true := by
  rcases h with h | ⟨hJ, -⟩ | ⟨-, hblank⟩
  · exact absurd (by rw [hL]; decide) (h.not_input hplaced)
  · exact absurd (hL.symm.trans hJ) (by decide)
  · exact hblank

end InFrame

end BondTrading
