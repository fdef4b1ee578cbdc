/-
# BondTrading.Sheets.Batches -- what a batch holds for a row

The rows of a sheet are distinct and stand below its header, so the updates of a row are
the ones that were computed from it, and a cell of the row is written as its values say.
-/
import BondTrading.Sheets.Placement
import BondTrading.Sheets.RowCells

namespace BondTrading

open Py (Decimal Dict Instant Zone)
open Sql (World)

/-! ## The batch of a run -/

/-- A call of `execute` that writes has the batch of the rows it read, given what is known of
their ISINs. -/
theorem execute_call_batch [Py.Context] {env : SyncEnvironment} {job : SheetSyncJobModel}
    {w : ServiceWorld} {k : ExternalCall} (hk : k.Writes) (hw : k ∉ w.calls)
    (h : k ∈ (execute env job w).2.calls) :
    ∃ connection sheetRows refreshed batch,
      w.work.sheets.connection? job.connectionId = some connection ∧
      env.readRows connection.spreadsheetId connection.worksheetName
        (Py.distinct (connection.isinColumn :: sheetInputColumns)) (connection.headerRow + 1) =
          .ok sheetRows ∧
      sheetBatch env connection refreshed (dataRows connection sheetRows) = .ok batch ∧
      k = .updateCells connection.spreadsheetId connection.worksheetName batch := by
  obtain ⟨connection, sheetRows, refreshes, loop, hfound, hread, herrors, hloop, hcall⟩ :=
    execute_call hk hw h
  have hagrees := rowLoop_batch env connection (Refreshes.value refreshes)
    (dataRows connection sheetRows) herrors
  rw [hloop] at hagrees
  obtain ⟨batch, hbatch, rfl⟩ := hagrees.of_ok
  exact ⟨connection, sheetRows, _, _, hfound, hread, hbatch, hcall⟩

/-! ## Updates of a row and of a cell -/

/-- The updates of a batch for a row. -/
def rowCells (batch : List CellUpdate) (rowNumber : ℕ) : List CellUpdate :=
  batch.filter fun u => u.rowNumber = rowNumber

/-- What a batch writes to a cell, update by update. -/
def written (batch : List CellUpdate) (rowNumber : ℕ) (column : String) : List CellContent :=
  (batch.filter fun u => u.rowNumber = rowNumber ∧ u.column = column).map CellUpdate.value

theorem written_rowCells (batch : List CellUpdate) (rowNumber : ℕ) (column : String) :
    written (rowCells batch rowNumber) rowNumber column = written batch rowNumber column := by
  unfold written rowCells
  rw [List.filter_filter]
  congr 1
  refine List.filter_congr fun u _ => ?_
  simp only [Bool.decide_and]
  cases decide (u.rowNumber = rowNumber) <;> simp

theorem written_cellUpdates (rowNumber : ℕ) (values : RowUpdates) (column : String) :
    written (cellUpdates rowNumber values) rowNumber column = (values.get? column).toList := by
  unfold written cellUpdates
  rw [List.filter_map]
  have hcolumn : (fun u : CellUpdate => decide (u.rowNumber = rowNumber ∧ u.column = column)) ∘
      (fun e : String × CellContent => ⟨rowNumber, e.1, e.2⟩) = fun e => decide (e.1 = column) := by
    funext e
    simp
  show ((values.entries.filter (_ ∘ fun e : String × CellContent =>
    (⟨rowNumber, e.1, e.2⟩ : CellUpdate))).map _).map _ = _
  rw [hcolumn, Dict.filter_entries, List.map_map, List.map_map]
  exact List.map_id _

/-! ## Rows -/

section Rows

variable {env : SyncEnvironment} {connection : SheetConnectionModel} {zone : Zone}
  {moex : MoexClient} {known : Option RefreshedInstrument} {row : SheetDataRow}
  {refreshed : String → Option RefreshedInstrument} {rows : List SheetDataRow}
  {batch : List CellUpdate}

/-- The values of a row, refreshed or not. -/
def rowValues [Py.Context] (connection : SheetConnectionModel) (zone : Zone) (moex : MoexClient)
    (known : Option RefreshedInstrument) (row : SheetDataRow) : Except PyError RowUpdates :=
  match known with
  | none => .ok (failedRowUpdates connection)
  | some value => valuedRow connection zone moex value row

theorem rowUpdates_eq_ok [Py.Context] {cells : List CellUpdate} :
    rowUpdates connection zone moex known row = .ok cells ↔
      ∃ values, rowValues connection zone moex known row = .ok values ∧
        cells = cellUpdates row.rowNumber values := by
  cases known with
  | none =>
      constructor
      · intro h
        exact ⟨_, rfl, (Except.ok.inj h).symm⟩
      · rintro ⟨values, hvalues, rfl⟩
        obtain rfl := Except.ok.inj hvalues
        rfl
  | some value =>
      show (valuedRow connection zone moex value row >>= _) = _ ↔ _
      rw [Py.bind_eq_ok]
      refine exists_congr fun values => and_congr_right fun _ => ?_
      exact ⟨fun h => (Except.ok.inj h).symm, fun h => congrArg _ h.symm⟩

theorem rowNumber_of_mem_cellUpdates {rowNumber : ℕ} {values : RowUpdates} {u : CellUpdate}
    (h : u ∈ cellUpdates rowNumber values) : u.rowNumber = rowNumber := by
  obtain ⟨e, -, rfl⟩ := List.mem_map.mp h
  rfl

/-- A batch has nothing of its header for a data row. -/
theorem rowCells_header {n : ℕ} (hbelow : connection.headerRow < n) :
    rowCells (headerUpdates connection) n = [] := by
  unfold rowCells
  rw [List.filter_eq_nil_iff]
  intro u hu
  obtain ⟨e, -, rfl⟩ := List.mem_map.mp hu
  simpa using Nat.ne_of_lt hbelow

/-- The cells of rows with an invalid ISIN, where the connection has a status column. -/
def invalidCells (status : String) (rowNumber : ℕ) : List CellUpdate :=
  [⟨rowNumber, status, .text "INVALID ISIN"⟩, ⟨rowNumber, "AL", .text "НЕВЕРНЫЙ ISIN"⟩]

theorem invalidRowUpdates_eq (hrows : (rows.map SheetDataRow.rowNumber).Nodup) {status : String}
    (hstatus : Py.Text.given connection.statusColumn = some status) :
    invalidRowUpdates connection (normalizedRows connection rows) (isinErrors connection rows) =
      (isinErrors connection rows).flatMap fun e => invalidCells status e.number := by
  unfold invalidRowUpdates
  rw [hstatus]
  refine List.flatMap_congr fun e he => ?_
  obtain ⟨⟨row, -, isin, message, rfl⟩, hapart⟩ := mem_isinErrors hrows he
  -- no normalized row has this number
  refine if_neg fun hany => ?_
  obtain ⟨entry, hentry, hsame⟩ := List.any_eq_true.mp hany
  exact hapart entry hentry (of_decide_eq_true hsame)

/-- **The updates of a row with an invalid ISIN.** -/
theorem rowCells_invalid (hrows : (rows.map SheetDataRow.rowNumber).Nodup) (n : ℕ) :
    rowCells (invalidRowUpdates connection (normalizedRows connection rows)
        (isinErrors connection rows)) n =
      (Py.Text.given connection.statusColumn).toList.flatMap fun status =>
        if n ∈ (isinErrors connection rows).map SheetRowError.number then invalidCells status n
        else [] := by
  cases hstatus : Py.Text.given connection.statusColumn with
  | none =>
      unfold invalidRowUpdates
      rw [hstatus]
      rfl
  | some status =>
      have hnumbers : ((isinErrors connection rows).map SheetRowError.number).Nodup := by
        refine List.Nodup.sublist (sublist_map_filterMap ?_ rows) hrows
        intro row e h
        obtain ⟨error, -, rfl⟩ := isinError_eq_some h
        rfl
      have hpure : (isinErrors connection rows).mapM
          (fun e => (Except.ok (invalidCells status e.number) : Except PyError _)) =
            .ok ((isinErrors connection rows).map fun e => invalidCells status e.number) :=
        List.mapM_pure
      have hkey : ∀ (e : SheetRowError) cells,
          (Except.ok (invalidCells status e.number) : Except PyError _) = .ok cells →
            ∀ u ∈ cells, u.rowNumber = e.number := by
        intro e cells hcells u hu
        obtain rfl := Except.ok.inj hcells
        rcases List.mem_cons.mp hu with rfl | hu
        · rfl
        · obtain rfl := List.mem_singleton.mp hu
          rfl
      obtain ⟨hmem, hnone⟩ := Py.filter_flatten_mapM SheetRowError.number CellUpdate.rowNumber
        hkey hnumbers hpure n
      rw [invalidRowUpdates_eq hrows hstatus, List.flatMap_def]
      show List.filter _ _ = (if _ then _ else _) ++ []
      rw [List.append_nil]
      split
      · rename_i hn
        obtain ⟨e, he, rfl⟩ := List.mem_map.mp hn
        exact (Except.ok.inj (hmem e he rfl)).symm
      · rename_i hn
        exact hnone hn

/-- **What a batch holds for a row**: the cells computed from the row, or the two status
cells of a row with an invalid ISIN. -/
theorem rowCells_batch [Py.Context] (hbatch : sheetBatch env connection refreshed rows = .ok batch)
    (hrows : (rows.map SheetDataRow.rowNumber).Nodup)
    (hbelow : ∀ row ∈ rows, connection.headerRow < row.rowNumber) (hrow : row ∈ rows) :
    (∀ isin, normalizeIsin (row.rawIsin connection) = .ok isin →
      rowUpdates connection env.zone env.moex (refreshed isin) row =
        .ok (rowCells batch row.rowNumber)) ∧
    (∀ error, normalizeIsin (row.rawIsin connection) = .error error →
      rowCells batch row.rowNumber =
        (Py.Text.given connection.statusColumn).toList.flatMap fun status =>
          invalidCells status row.rowNumber) := by
  simp only [sheetBatch, Py.bind_eq_ok] at hbatch
  obtain ⟨cells, hcells, hreturn⟩ := hbatch
  obtain rfl := Except.ok.inj hreturn
  have hnumbers : ((normalizedRows connection rows).map fun entry =>
      entry.1.rowNumber).Nodup := by
    refine List.Nodup.sublist (sublist_map_filterMap ?_ rows) hrows
    intro row entry h
    rw [(normalizedRow_eq_some h).1]
  have hkey : ∀ (entry : SheetDataRow × String) own,
      rowUpdates connection env.zone env.moex (refreshed entry.2) entry.1 = .ok own →
        ∀ u ∈ own, u.rowNumber = entry.1.rowNumber := by
    intro entry own hown u hu
    obtain ⟨values, -, rfl⟩ := rowUpdates_eq_ok.mp hown
    exact rowNumber_of_mem_cellUpdates hu
  obtain ⟨hmem, hnone⟩ := Py.filter_flatten_mapM
    (fun entry : SheetDataRow × String => entry.1.rowNumber) CellUpdate.rowNumber hkey hnumbers
    hcells row.rowNumber
  have hsplit : rowCells (headerUpdates connection ++ cells.flatten ++
      invalidRowUpdates connection (normalizedRows connection rows)
        (isinErrors connection rows)) row.rowNumber =
      cells.flatten.filter (fun u => u.rowNumber = row.rowNumber) ++
        rowCells (invalidRowUpdates connection (normalizedRows connection rows)
          (isinErrors connection rows)) row.rowNumber := by
    unfold rowCells
    rw [List.filter_append, List.filter_append]
    show rowCells (headerUpdates connection) row.rowNumber ++ _ ++ _ = _
    rw [rowCells_header (hbelow row hrow), List.nil_append]
  rw [hsplit, rowCells_invalid hrows]
  constructor
  · intro isin hisin
    have hentry : (row, isin) ∈ normalizedRows connection rows := by
      refine List.mem_filterMap.mpr ⟨row, hrow, ?_⟩
      unfold normalizedRow
      rw [hisin]
    have hvalid : row.rowNumber ∉ (isinErrors connection rows).map SheetRowError.number := by
      intro h
      obtain ⟨e, he, hsame⟩ := List.mem_map.mp h
      exact (mem_isinErrors hrows he).2 _ hentry hsame.symm
    simp only [if_neg hvalid]
    rw [List.flatMap_eq_nil_iff.mpr fun _ _ => rfl, List.append_nil]
    exact hmem _ hentry rfl
  · intro error hraised
    have herror : row.rowNumber ∈ (isinErrors connection rows).map SheetRowError.number := by
      have hmarked : .row row.rowNumber (row.rawIsin connection) error.str ∈
          isinErrors connection rows := by
        refine List.mem_filterMap.mpr ⟨row, hrow, ?_⟩
        unfold isinError
        rw [hraised]
      exact List.mem_map.mpr ⟨_, hmarked, rfl⟩
    have habsent : row.rowNumber ∉ (normalizedRows connection rows).map fun entry =>
        entry.1.rowNumber := by
      intro h
      obtain ⟨entry, hentry, hsame⟩ := List.mem_map.mp h
      obtain ⟨e, he, hnumber⟩ := List.mem_map.mp herror
      exact (mem_isinErrors hrows he).2 entry hentry (hsame.trans hnumber.symm)
    simp only [if_pos herror]
    rw [hnone habsent, List.nil_append]

end Rows

end BondTrading
