/-
# BondTrading.Sheets.Alike -- what a synchronization reads off its rows

A run looks at few things of a row: its number, the text of the ISIN, the purchase date and the
amounts.  Two sheets whose data rows agree in them have the same run, call by call and
exception by exception.
-/
import BondTrading.Sheets.Memory
import BondTrading.Sheets.Sparse
import BondTrading.Sheets.Writes

namespace BondTrading

open Py (Decimal Dict Instant Zone Routine)
open Sql (Fault World)

/-! ## Cells -/

/-- The same amount, or no amount. -/
structure CellValue.SameAmount (value held : CellValue) : Prop where
  blank : value.isBlank = held.isBlank
  amount : parseDecimal value = parseDecimal held

section Cells

variable {value held cell : CellValue}

theorem CellValue.blank_cases (h : value.isBlank = true) : value = .none ∨ value = .text "" := by
  cases value with
  | none => exact Or.inl rfl
  | text s => exact Or.inr (congrArg CellValue.text (String.isEmpty_iff.mp h))
  | bool b => cases h
  | number repr => cases h
  | date d => cases h

theorem parseDecimal_of_blank (h : value.isBlank = true) : parseDecimal value = none := by
  rcases CellValue.blank_cases h with rfl | rfl
  · rfl
  · decide +kernel

theorem parseDate_of_blank (h : value.isBlank = true) : parseDate value = .ok none := by
  rcases CellValue.blank_cases h with rfl | rfl
  · rfl
  · rfl

theorem CellValue.str_of_blank (h : value.isBlank = true) : value.str = "" := by
  rcases CellValue.blank_cases h with rfl | rfl
  · rfl
  · rfl

/-- Either the cell itself was read, or nothing for an empty cell. -/
theorem CellValue.Shows.eq_or_blank (h : value.Shows held) :
    value = held ∨ (value.isBlank = true ∧ held.isBlank = true) := by
  unfold CellValue.Shows at h
  split at h
  · rename_i hblank
    exact Or.inr ⟨h, hblank⟩
  · exact Or.inl h

theorem CellValue.Shows.sameAmount (h : value.Shows held) : value.SameAmount held := by
  rcases h.eq_or_blank with rfl | ⟨hvalue, hheld⟩
  · exact ⟨rfl, rfl⟩
  · exact ⟨hvalue.trans hheld.symm,
      (parseDecimal_of_blank hvalue).trans (parseDecimal_of_blank hheld).symm⟩

theorem CellValue.Shows.parseDate_eq (h : value.Shows held) : parseDate value = parseDate held := by
  rcases h.eq_or_blank with rfl | ⟨hvalue, hheld⟩
  · rfl
  · rw [parseDate_of_blank hvalue, parseDate_of_blank hheld]

theorem CellValue.Shows.str_eq (h : value.Shows held) : value.str = held.str := by
  rcases h.eq_or_blank with rfl | ⟨hvalue, hheld⟩
  · rfl
  · rw [str_of_blank hvalue, str_of_blank hheld]

theorem CellValue.SameAmount.trans (h : value.SameAmount cell) (h' : cell.SameAmount held) :
    value.SameAmount held :=
  ⟨h.blank.trans h'.blank, h.amount.trans h'.amount⟩

end Cells

/-! ## Rows -/

/-- A run reads the same off both rows. -/
structure SheetDataRow.Alike (connection : SheetConnectionModel) (row held : SheetDataRow) :
    Prop where
  number : row.rowNumber = held.rowNumber
  texts : ∀ column ∈ [connection.isinColumn, "E"], (row.get column).Shows (held.get column)
  amounts : ∀ column ∈ ["H", "I", "J", "L", "V"],
    (row.get column).SameAmount (held.get column)

section Rows

variable {connection : SheetConnectionModel} {zone : Zone} {moex : MoexClient}
  {refreshed : String → Option RefreshedInstrument} {row held : SheetDataRow}

namespace SheetDataRow.Alike

theorem date (h : row.Alike connection held) : parseDate (row.get "E") = parseDate (held.get "E") :=
  (h.texts "E" (by simp)).parseDate_eq

theorem decimal (h : row.Alike connection held) {column : String}
    (hcolumn : column ∈ ["H", "I", "J", "L", "V"]) :
    parseDecimal (row.get column) = parseDecimal (held.get column) :=
  (h.amounts column hcolumn).amount

theorem blank (h : row.Alike connection held) {column : String}
    (hcolumn : column ∈ ["H", "I", "J", "L", "V"]) :
    (row.get column).isBlank = (held.get column).isBlank :=
  (h.amounts column hcolumn).blank

theorem emit_eq (h : row.Alike connection held) (acc : RowLoop) : acc.emit row = acc.emit held := by
  funext values
  unfold RowLoop.emit
  rw [h.number]

theorem addError_eq (h : row.Alike connection held) (acc : RowLoop) :
    acc.addError row = acc.addError held := by
  funext isin message
  unfold RowLoop.addError
  rw [h.number]

theorem commissionTotal_eq (h : row.Alike connection held) :
    commissionTotal row = commissionTotal held := by
  unfold commissionTotal
  rw [h.blank (by decide), h.decimal (by decide)]

theorem commissionUpdates_eq (h : row.Alike connection held) :
    commissionUpdates row = commissionUpdates held := by
  funext updates
  unfold commissionUpdates
  rw [h.blank (by decide)]

theorem lookUp_eq (h : row.Alike connection held) (acc : RowLoop) (value : RefreshedInstrument) :
    acc.lookUp moex value row = acc.lookUp moex value held := by
  funext isin date
  unfold RowLoop.lookUp
  rw [h.addError_eq]

theorem purchaseAccrued_eq (h : row.Alike connection held) (acc : RowLoop)
    (value : RefreshedInstrument) :
    acc.purchaseAccrued moex value row = acc.purchaseAccrued moex value held := by
  funext isin updates
  unfold RowLoop.purchaseAccrued
  rw [h.date, h.blank (by decide), h.decimal (by decide), h.lookUp_eq]

theorem parseSheetPurchase_eq (h : row.Alike connection held) :
    parseSheetPurchase row = parseSheetPurchase held := by
  funext accrued commission
  unfold parseSheetPurchase
  rw [h.date, h.decimal (by decide : "H" ∈ _), h.decimal (by decide : "I" ∈ _),
    h.decimal (by decide : "V" ∈ _)]

/-- **A round of the loop** does the same for both. -/
theorem rowStep_eq [Py.Context] (h : row.Alike connection held) (acc : RowLoop) (isin : String) :
    rowStep connection zone moex refreshed acc (row, isin) =
      rowStep connection zone moex refreshed acc (held, isin) := by
  unfold rowStep
  simp only [h.emit_eq, h.addError_eq, h.commissionTotal_eq, h.commissionUpdates_eq,
    h.purchaseAccrued_eq, h.parseSheetPurchase_eq]

theorem rawIsin_eq (h : row.Alike connection held) :
    row.rawIsin connection = held.rawIsin connection :=
  (h.texts connection.isinColumn (by simp)).str_eq

end SheetDataRow.Alike

/-! ## Lists of rows -/

/-- Rows that are alike, with the same ISIN. -/
def AlikeEntries (connection : SheetConnectionModel) (entry held : SheetDataRow × String) : Prop :=
  entry.1.Alike connection held.1 ∧ entry.2 = held.2

variable {rows heldRows : List SheetDataRow} {entries heldEntries : List (SheetDataRow × String)}

theorem SheetDataRow.Alike.normalizedRow_eq (h : row.Alike connection held) :
    normalizedRow connection row =
      (normalizedRow connection held).map fun entry => (row, entry.2) := by
  unfold normalizedRow
  rw [h.rawIsin_eq]
  generalize normalizeIsin (held.rawIsin connection) = normalized
  cases normalized with
  | error e => rfl
  | ok isin => rfl

theorem normalizedRows_alike
    (h : List.Forall₂ (SheetDataRow.Alike connection) rows heldRows) :
    List.Forall₂ (AlikeEntries connection) (normalizedRows connection rows)
      (normalizedRows connection heldRows) := by
  unfold normalizedRows
  induction h with
  | nil => exact .nil
  | @cons row held rows heldRows hrow _ ih =>
      rw [List.filterMap_cons, List.filterMap_cons, hrow.normalizedRow_eq]
      cases hnormalized : normalizedRow connection held with
      | none => exact ih
      | some entry =>
          obtain ⟨rfl, -⟩ := normalizedRow_eq_some hnormalized
          exact .cons ⟨hrow, rfl⟩ ih

theorem isinErrors_alike (h : List.Forall₂ (SheetDataRow.Alike connection) rows heldRows) :
    isinErrors connection rows = isinErrors connection heldRows := by
  unfold isinErrors
  induction h with
  | nil => rfl
  | @cons row held rows heldRows hrow _ ih =>
      have hhead : isinError connection row = isinError connection held := by
        unfold isinError
        rw [hrow.rawIsin_eq, hrow.number]
      rw [List.filterMap_cons, List.filterMap_cons, hhead, ih]

theorem isins_alike (h : List.Forall₂ (AlikeEntries connection) entries heldEntries) :
    entries.map Prod.snd = heldEntries.map Prod.snd := by
  induction h with
  | nil => rfl
  | cons hentry _ ih => rw [List.map_cons, List.map_cons, hentry.2, ih]

theorem any_alike (h : List.Forall₂ (AlikeEntries connection) entries heldEntries) (number : ℕ) :
    (entries.any fun entry => entry.1.rowNumber = number) =
      heldEntries.any fun entry => entry.1.rowNumber = number := by
  induction h with
  | nil => rfl
  | cons hentry _ ih => rw [List.any_cons, List.any_cons, hentry.1.number, ih]

/-- **The loop over the rows** does the same for both. -/
theorem rowLoop_alike [Py.Context] (env : SyncEnvironment) (errors : List SheetRowError)
    (h : List.Forall₂ (AlikeEntries connection) entries heldEntries) :
    rowLoop env connection refreshed errors entries =
      rowLoop env connection refreshed errors heldEntries := by
  unfold rowLoop
  generalize (⟨[], Dict.empty, errors, []⟩ : RowLoop) = acc
  induction h generalizing acc with
  | nil => rfl
  | @cons entry held _ _ hentry _ ih =>
      obtain ⟨row, isin⟩ := entry
      obtain ⟨heldRow, heldIsin⟩ := held
      obtain ⟨hrow, rfl⟩ := hentry
      rw [List.foldlM_cons, List.foldlM_cons, SheetDataRow.Alike.rowStep_eq hrow]
      exact bind_congr fun next => ih next

theorem batchOf_alike (h : List.Forall₂ (AlikeEntries connection) entries heldEntries)
    (loop : RowLoop) : batchOf connection entries loop = batchOf connection heldEntries loop := by
  have hcells : ∀ status, errorCells status entries = errorCells status heldEntries := by
    intro status
    funext error
    unfold errorCells
    cases error with
    | isin isin message => rfl
    | row number rawIsin message =>
        dsimp only
        rw [any_alike h]
  unfold batchOf invalidRowUpdates
  simp only [hcells]

end Rows

/-! ## Sheets -/

/-- A run over some sheet: what the gateway answers. -/
def SyncEnvironment.facing (env : SyncEnvironment)
    (checkConnection : String → Except PyError (List String))
    (readRows : String → String → List String → ℕ → Except PyError (List SheetDataRow))
    (updateCells : String → String → List CellUpdate → Except PyError Unit) : SyncEnvironment :=
  { env with checkConnection, readRows, updateCells }

section Facing

variable {env : SyncEnvironment} {connection : SheetConnectionModel}
  {check check' : String → Except PyError (List String)}
  {read read' : String → String → List String → ℕ → Except PyError (List SheetDataRow)}
  {update update' : String → String → List CellUpdate → Except PyError Unit}

/-- The loop over the ISINs asks no sheet. -/
theorem refreshAll_facing (isins : List String) :
    refreshAll (env.facing check read update) connection isins =
      refreshAll env connection isins := by
  induction isins with
  | nil => rfl
  | cons isin isins ih =>
      rw [refreshAll, refreshAll, ih]
      rfl

/-- **What a run does with rows that are alike** is the same. -/
theorem writeSheet_facing [Py.Context] {rows heldRows : List SheetDataRow}
    (hrows : List.Forall₂ (SheetDataRow.Alike connection) rows heldRows) :
    writeSheet (env.facing check read update) connection rows =
      writeSheet (env.facing check' read' update) connection heldRows := by
  have hentries := normalizedRows_alike hrows
  have hlength : (normalizedRows connection rows).length =
      (normalizedRows connection heldRows).length := hentries.length_eq
  have hloop : ∀ known errors, rowLoop (env.facing check read update) connection known errors
      (normalizedRows connection rows) =
        rowLoop (env.facing check' read' update) connection known errors
          (normalizedRows connection heldRows) :=
    fun known errors => rowLoop_alike env errors hentries
  unfold writeSheet
  dsimp only
  simp only [refreshAll_facing, isins_alike hentries, isinErrors_alike hrows, hloop,
    batchOf_alike hentries, hlength, hrows.length_eq]
  rfl

/-- A run asks the sheet only to take the batch it writes. -/
theorem writeSheet_taking [Py.Context] {rows : List SheetDataRow} {w : ServiceWorld}
    (hupdate : ∀ batch, .updateCells connection.spreadsheetId connection.worksheetName batch ∈
      (writeSheet (env.facing check read update) connection rows w).2.calls →
        update connection.spreadsheetId connection.worksheetName batch =
          update' connection.spreadsheetId connection.worksheetName batch) :
    writeSheet (env.facing check read update) connection rows w =
      writeSheet (env.facing check read update') connection rows w := by
  have hloop : ∀ refreshed errors, rowLoop (env.facing check read update') connection refreshed
      errors (normalizedRows connection rows) =
        rowLoop (env.facing check read update) connection refreshed errors
          (normalizedRows connection rows) := fun _ _ => rfl
  unfold writeSheet at hupdate ⊢
  simp only [refreshAll_facing, hloop] at hupdate ⊢
  rcases hrefresh : refreshAll env connection
      (Py.distinct ((normalizedRows connection rows).map Prod.snd)) w with ⟨e | refreshes, w₁⟩
  · rw [Routine.bind_of_error hrefresh, Routine.bind_of_error hrefresh]
  rw [Routine.bind_of_ok hrefresh] at hupdate ⊢
  rw [Routine.bind_of_ok hrefresh]
  cases hexpired : w₁.expired with
  | true =>
      rw [Routine.bind_of_error (World.readLoaded_of_expired hexpired),
        Routine.bind_of_error (World.readLoaded_of_expired hexpired)]
  | false =>
      have hread := World.readLoaded_of_not_expired (ε := PyError) hexpired
      rw [Routine.bind_of_ok hread] at hupdate ⊢
      rw [Routine.bind_of_ok hread]
      cases hcomputed : rowLoop (env.facing check read update) connection refreshes.value
          (isinErrors connection rows ++ refreshes.2) (normalizedRows connection rows) with
      | error e =>
          rw [Routine.bind_of_error (Routine.lift_apply _ _),
            Routine.bind_of_error (Routine.lift_apply _ _)]
      | ok loop =>
          rw [hcomputed, Routine.bind_of_ok (Routine.lift_apply _ _),
            Routine.modify_bind_apply] at hupdate
          rw [Routine.bind_of_ok (Routine.lift_apply _ _), Routine.modify_bind_apply,
            Routine.bind_of_ok (Routine.lift_apply _ _), Routine.modify_bind_apply]
          -- the call is made before it is answered
          have hsame := hupdate (batchOf connection (normalizedRows connection rows) loop) (by
            rw [calls_of_bind fun _ => sameCalls_allows.pure _]
            exact List.mem_append_right _ (List.mem_singleton.mpr rfl))
          simp only [SyncEnvironment.facing, hsame]

/-- The two sheets answer a run of this connection alike. -/
structure AnswerAlike (connection : SheetConnectionModel)
    (check check' : String → Except PyError (List String))
    (read read' : String → String → List String → ℕ → Except PyError (List SheetDataRow)) :
    Prop where
  checked : ∃ names, check connection.spreadsheetId = .ok names ∧ connection.worksheetName ∈ names
  checked' : ∃ names, check' connection.spreadsheetId = .ok names ∧
    connection.worksheetName ∈ names
  rows : ∃ rows heldRows, read connection.spreadsheetId connection.worksheetName
      (Py.distinct (connection.isinColumn :: sheetInputColumns)) (connection.headerRow + 1) =
        .ok rows ∧
    read' connection.spreadsheetId connection.worksheetName
      (Py.distinct (connection.isinColumn :: sheetInputColumns)) (connection.headerRow + 1) =
        .ok heldRows ∧
    List.Forall₂ (SheetDataRow.Alike connection) (dataRows connection rows)
      (dataRows connection heldRows)

/-- A reading that finds its connection, the worksheet and the rows. -/
theorem readSheet_of_answers (env : SyncEnvironment) {job : SheetSyncJobModel} {w : ServiceWorld}
    {names : List String} {rows : List SheetDataRow}
    (hquery : (World.query (env.faults .connection) (fun t : Tables =>
      t.sheets.connection? job.connectionId) : Service _) w = (.ok (some connection), w))
    (hcheck : env.checkConnection connection.spreadsheetId = .ok names)
    (hname : connection.worksheetName ∈ names)
    (hread : env.readRows connection.spreadsheetId connection.worksheetName
      (Py.distinct (connection.isinColumn :: sheetInputColumns)) (connection.headerRow + 1) =
        .ok rows) :
    readSheet env job w = (.ok (connection, dataRows connection rows), { w with
      work := Tables.editSheets (·.setRowsRead job.id (dataRows connection rows).length)
        (Tables.editSheets (·.startAttempt connection.id env.draw.startedAt) w.work)
      calls := w.calls ++ [.checkConnection connection.spreadsheetId] ++
        [.readRows connection.spreadsheetId connection.worksheetName
          (Py.distinct (connection.isinColumn :: sheetInputColumns))
            (connection.headerRow + 1)] }) := by
  have hnamed : Py.raiseIf (connection.worksheetName ∉ names)
      (PyError.valueError ("Вкладка «" ++ connection.worksheetName ++ "» не найдена")) = .ok () :=
    Py.raiseIf_eq_ok.mpr (not_not_intro hname)
  unfold readSheet
  rw [Routine.bind_of_ok hquery]
  have hfound : Py.orRaise (some connection)
      (PyError.valueError "Подключение Google Таблицы удалено") = .ok connection := rfl
  rw [hfound, Routine.lift_ok_bind, Routine.bind_of_ok (World.edit_apply _ _), hcheck,
    Routine.bind_of_ok (World.call_apply _ _ _), hnamed, Routine.lift_ok_bind]
  dsimp only
  rw [hread, Routine.bind_of_ok (World.call_apply _ _ _),
    Routine.bind_of_ok (World.edit_apply _ _)]
  rfl

/-- **A run over two sheets that answer alike** is the same run, if both take what it writes: what
it returns or raises, what it leaves in the database, and every call it makes. -/
theorem execute_facing [Py.Context] {job : SheetSyncJobModel} {w : ServiceWorld}
    (h : ∀ connection, w.work.sheets.connection? job.connectionId = some connection →
      AnswerAlike connection check check' read read')
    (htaken : ∀ spreadsheetId worksheetName batch, .updateCells spreadsheetId worksheetName batch ∈
      (execute (env.facing check read update) job w).2.calls →
        update spreadsheetId worksheetName batch = update' spreadsheetId worksheetName batch) :
    execute (env.facing check read update) job w =
      execute (env.facing check' read' update') job w := by
  rcases hquery : (World.query (env.faults .connection) (fun t : Tables =>
      t.sheets.connection? job.connectionId) : Service _) w with ⟨e | found, w₁⟩
  · have hread : ∀ check read update,
        readSheet (env.facing check read update) job w = (.error e, w₁) :=
      fun _ _ _ => Routine.bind_of_error hquery
    unfold execute
    rw [Routine.bind_of_error (hread _ _ _), Routine.bind_of_error (hread _ _ _)]
  · obtain ⟨-, -, rfl, rfl⟩ := World.query_eq_ok hquery
    cases hfound : w₁.work.sheets.connection? job.connectionId with
    | none =>
        have hread : ∀ check read update, readSheet (env.facing check read update) job w₁ =
            (.error (.valueError "Подключение Google Таблицы удалено"), w₁) := by
          intro check read update
          rw [hfound] at hquery
          unfold readSheet
          rw [Routine.bind_of_ok (by exact hquery)]
          rfl
        unfold execute
        rw [Routine.bind_of_error (hread _ _ _), Routine.bind_of_error (hread _ _ _)]
    | some connection =>
        obtain ⟨⟨names, hcheck, hname⟩, ⟨names', hcheck', hname'⟩,
          ⟨rows, heldRows, hread, hread', hrows⟩⟩ := h connection hfound
        rw [hfound] at hquery
        have hleft := readSheet_of_answers (env.facing check read update) hquery hcheck
          hname hread
        have hright := readSheet_of_answers (env.facing check' read' update') hquery hcheck'
          hname' hread'
        rw [← hrows.length_eq] at hright
        unfold execute at htaken ⊢
        rw [Routine.bind_of_ok hleft] at htaken ⊢
        rw [Routine.bind_of_ok hright]
        dsimp only at htaken ⊢
        rw [calls_of_bind fun report w => completeSheet_calls connection.id report] at htaken
        apply Routine.bind_apply_congr
        rw [writeSheet_taking fun batch => htaken _ _ batch]
        exact congrFun (writeSheet_facing hrows) _

end Facing

end BondTrading
