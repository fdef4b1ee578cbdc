/-
# BondTrading.Sheets.Connection -- the connection of a user to a spreadsheet

The tables behind the synchronization and `SheetSyncService.configure`.  What
`configure` stores is `WellPlaced`: its columns are pairwise distinct, and none of them
is a column the customer fills or the calculation writes.
-/
import BondTrading.Db.Models
import BondTrading.Sheets.Ranges
import BondTrading.Sql.Rows
import Mathlib.Data.List.Sort

namespace BondTrading

open Py (Instant raiseIf orRaise)
open Sql (UniqueOn updateWhere)

/-! ## Columns with a fixed meaning -/

/-- `SHEET_INPUT_COLUMNS`: purchase date, quantity, price, accrued interest, commission
and the planned yield. -/
def sheetInputColumns : List String := ["E", "H", "I", "J", "L", "V"]

/-- `CALCULATION_HEADERS`. -/
def calculationHeaders : List (String × String) :=
  [("AD", "Текущий НКД MOEX, ₽/шт."),
    ("AE", "Выплачено купонов, шт."),
    ("AF", "Получено купонов, ₽"),
    ("AG", "Текущая стоимость с купонами, ₽"),
    ("AH", "Текущий доход до налога, ₽"),
    ("AI", "Текущий чистый доход, ₽"),
    ("AJ", "Годовой текущий %, после налога"),
    ("AK", "Отклонение от плана, п.п."),
    ("AL", "Статус расчёта")]

def calculationColumns : List String := calculationHeaders.map Prod.fst

/-- `set(SHEET_INPUT_COLUMNS) | set(CALCULATION_HEADERS)`. -/
def reservedColumns : List String := sheetInputColumns ++ calculationColumns

/-! ## Tables -/

structure SheetTables where
  connections : List SheetConnectionModel
  jobs : List SheetSyncJobModel
  deriving DecidableEq, Repr

def SheetTables.Constraints (t : SheetTables) : Prop :=
  UniqueOn SheetConnectionModel.id t.connections ∧
    UniqueOn (fun c : SheetConnectionModel => (c.ownerId, c.provider)) t.connections ∧
    UniqueOn SheetSyncJobModel.id t.jobs ∧
    ∀ j ∈ t.jobs, ∃ c ∈ t.connections, c.id = j.connectionId

instance : DecidablePred SheetTables.Constraints := fun t => by
  unfold SheetTables.Constraints
  infer_instance

/-- A committed state of the two tables. -/
abbrev SheetDatabase := { t : SheetTables // t.Constraints }

/-- `session.commit()`. -/
def SheetTables.commit (t : SheetTables) : Except PyError SheetDatabase :=
  Sql.commit SheetTables.Constraints (.database "IntegrityError") t

/-- `get_connection`. -/
def SheetTables.connectionOf (t : SheetTables) (owner : UserId) : Option SheetConnectionModel :=
  t.connections.find? fun c => c.ownerId = owner ∧ c.provider = "google_sheets"

/-- `session.get(SheetConnectionModel, id)`. -/
def SheetTables.connection? (t : SheetTables) (id : ConnectionId) :
    Option SheetConnectionModel :=
  t.connections.find? fun c => c.id = id

/-! ## `configure` -/

/-- The fields of `SheetConnectionUpdate`. -/
structure ConnectionValues where
  spreadsheetId : String
  worksheetName : String
  headerRow : ℕ
  isinColumn : String
  priceColumn : String
  updatedAtColumn : Option String
  statusColumn : Option String
  priceMode : SheetPriceMode
  enabled : Bool
  syncIntervalSeconds : ℕ
  deriving DecidableEq, Repr

/-- `used_columns`. -/
def ConnectionValues.usedColumns (v : ConnectionValues) : List String :=
  [v.isinColumn, v.priceColumn] ++ v.updatedAtColumn.toList ++ v.statusColumn.toList

/-- `collisions`: the used columns that have a fixed meaning, in order. -/
def ConnectionValues.collisions (v : ConnectionValues) : List String :=
  (v.usedColumns.filter fun c => c ∈ reservedColumns).insertionSort (· ≤ ·)

/-- The checks of `configure`, and `normalized`. -/
def ConnectionValues.normalize (v : ConnectionValues) : Except PyError ConnectionValues := do
  let spreadsheetId ← extractSpreadsheetId v.spreadsheetId
  let worksheetName := Py.Text.strip v.worksheetName
  let isinColumn ← normalizeColumn v.isinColumn
  let priceColumn ← normalizeColumn v.priceColumn
  let updatedAtColumn ← normalizeOptionalColumn v.updatedAtColumn
  let statusColumn ← normalizeOptionalColumn v.statusColumn
  let normalized : ConnectionValues :=
    { v with spreadsheetId, worksheetName, isinColumn, priceColumn, updatedAtColumn, statusColumn }
  raiseIf worksheetName.isEmpty (.valueError "Не указано название вкладки Google Таблицы")
  raiseIf (¬ normalized.usedColumns.Nodup)
    (.valueError "Колонки ISIN, цены, времени и статуса не должны совпадать")
  raiseIf (normalized.collisions ≠ [])
    (.valueError ("Колонки подключения пересекаются с исходными или расчётными колонками: " ++
      ", ".intercalate normalized.collisions))
  return normalized

/-- `setattr` of every normalized field. -/
def SheetConnectionModel.assign (c : SheetConnectionModel) (v : ConnectionValues) :
    SheetConnectionModel :=
  { c with
    spreadsheetId := v.spreadsheetId
    worksheetName := v.worksheetName
    headerRow := v.headerRow
    isinColumn := v.isinColumn
    priceColumn := v.priceColumn
    updatedAtColumn := v.updatedAtColumn
    statusColumn := v.statusColumn
    priceMode := v.priceMode
    enabled := v.enabled
    syncIntervalSeconds := v.syncIntervalSeconds }

/-- `SheetConnectionModel(owner_id=.., provider="google_sheets")` with its defaults. -/
def newConnection (id : ConnectionId) (owner : UserId) (now : Instant) : SheetConnectionModel where
  id := id
  ownerId := owner
  provider := "google_sheets"
  spreadsheetId := ""
  worksheetName := ""
  headerRow := 1
  isinColumn := "A"
  priceColumn := "C"
  updatedAtColumn := none
  statusColumn := none
  priceMode := .bestOfferCleanRub
  enabled := false
  syncIntervalSeconds := 300
  lastAttemptAt := none
  lastSuccessAt := none
  lastError := none
  lastPayloadHash := none
  createdAt := now

/-- `SheetSyncService.configure`: the committed tables and the stored connection. -/
def configure (db : SheetDatabase) (owner : UserId) (values : ConnectionValues)
    (id : ConnectionId) (now : Instant) :
    Except PyError (SheetDatabase × SheetConnectionModel) := do
  let normalized ← values.normalize
  match db.val.connectionOf owner with
  | some connection =>
      let stored := connection.assign normalized
      let committed ← SheetTables.commit { db.val with
        connections := updateWhere (fun c => c.id = connection.id) (·.assign normalized)
          db.val.connections }
      return (committed, stored)
  | none =>
      let stored := (newConnection id owner now).assign normalized
      let committed ← SheetTables.commit { db.val with
        connections := db.val.connections ++ [stored] }
      return (committed, stored)

/-! ## What is stored -/

/-- The columns a connection uses. -/
def SheetConnectionModel.usedColumns (c : SheetConnectionModel) : List String :=
  [c.isinColumn, c.priceColumn] ++ c.updatedAtColumn.toList ++ c.statusColumn.toList

/-- **The columns of a connection do not collide**, with each other or with a column of
fixed meaning. -/
structure WellPlaced (c : SheetConnectionModel) : Prop where
  distinct : c.usedColumns.Nodup
  apart : ∀ column ∈ c.usedColumns, column ∉ reservedColumns

theorem ConnectionValues.not_reserved {v : ConnectionValues} (h : v.collisions = [])
    {column : String} (hcolumn : column ∈ v.usedColumns) : column ∉ reservedColumns := by
  intro hreserved
  have hmem : column ∈ v.collisions :=
    (List.mem_insertionSort (· ≤ ·)).mpr
      (List.mem_filter.mpr ⟨hcolumn, decide_eq_true hreserved⟩)
  rw [h] at hmem
  exact absurd hmem List.not_mem_nil

theorem ConnectionValues.normalize_wellPlaced {v n : ConnectionValues} (h : v.normalize = .ok n)
    (c : SheetConnectionModel) : WellPlaced (c.assign n) := by
  simp only [ConnectionValues.normalize, Py.bind_eq_ok, Py.raiseIf_eq_ok] at h
  obtain ⟨_, -, _, -, _, -, _, -, _, -, -, -, -, hdistinct, -, hcollisions, hreturn⟩ := h
  obtain rfl := Except.ok.inj hreturn
  refine ⟨not_not.mp hdistinct, ?_⟩
  intro column hcolumn
  exact ConnectionValues.not_reserved (not_not.mp hcollisions) hcolumn

/-- A column that was checked has a name. -/
theorem normalizeOptionalColumn_given {value column : Option String}
    (h : normalizeOptionalColumn value = .ok column) : Py.Text.given column = column := by
  cases value with
  | none =>
      obtain rfl := Except.ok.inj h
      rfl
  | some value =>
      have h : (if (Py.Text.strip value).isEmpty then .ok none
          else (checkColumn value).map some) = Except.ok column := h
      split at h
      · obtain rfl := Except.ok.inj h
        rfl
      · obtain ⟨checked, hchecked, rfl⟩ := Py.map_eq_ok.mp h
        simp only [checkColumn, Py.bind_eq_ok, Py.raiseIf_eq_ok] at hchecked
        obtain ⟨_, hname, hreturn⟩ := hchecked
        obtain rfl := Except.ok.inj hreturn
        -- an empty text is no column name
        refine Option.filter_eq_some_iff.mpr ⟨rfl, ?_⟩
        rw [decide_eq_true_eq]
        intro hempty
        refine hname (Or.inl ?_)
        rw [String.isEmpty_iff.mp hempty]
        decide

theorem configure_statusColumn {db db' : SheetDatabase} {owner : UserId}
    {values : ConnectionValues} {id : ConnectionId} {now : Instant}
    {connection : SheetConnectionModel}
    (h : configure db owner values id now = .ok (db', connection)) :
    Py.Text.given connection.statusColumn = connection.statusColumn := by
  simp only [configure, Py.bind_eq_ok] at h
  obtain ⟨normalized, hnormalized, h⟩ := h
  have hgiven : Py.Text.given normalized.statusColumn = normalized.statusColumn := by
    simp only [ConnectionValues.normalize, Py.bind_eq_ok] at hnormalized
    obtain ⟨_, -, _, -, _, -, _, -, status, hstatus, _, -, _, -, _, -, hreturn⟩ := hnormalized
    obtain rfl := Except.ok.inj hreturn
    exact normalizeOptionalColumn_given hstatus
  split at h
  · obtain ⟨committed, -, hreturn⟩ := Py.bind_eq_ok.mp h
    obtain ⟨rfl, rfl⟩ := Prod.mk.inj (Except.ok.inj hreturn)
    exact hgiven
  · obtain ⟨committed, -, hreturn⟩ := Py.bind_eq_ok.mp h
    obtain ⟨rfl, rfl⟩ := Prod.mk.inj (Except.ok.inj hreturn)
    exact hgiven

/-- What `configure` returns is in the committed tables and is well placed. -/
theorem configure_stored {db db' : SheetDatabase} {owner : UserId} {values : ConnectionValues}
    {id : ConnectionId} {now : Instant} {connection : SheetConnectionModel}
    (h : configure db owner values id now = .ok (db', connection)) :
    WellPlaced connection ∧ connection ∈ db'.val.connections := by
  simp only [configure, Py.bind_eq_ok] at h
  obtain ⟨normalized, hnormalized, h⟩ := h
  split at h
  · rename_i found hfound
    obtain ⟨committed, hcommit, hreturn⟩ := Py.bind_eq_ok.mp h
    obtain ⟨rfl, rfl⟩ := Prod.mk.inj (Except.ok.inj hreturn)
    refine ⟨ConnectionValues.normalize_wellPlaced hnormalized _, ?_⟩
    rw [Sql.commit_eq_ok.mp hcommit]
    refine Sql.mem_updateWhere.mpr ⟨found, List.mem_of_find?_eq_some hfound, ?_⟩
    exact (if_pos (decide_eq_true rfl)).symm
  · obtain ⟨committed, hcommit, hreturn⟩ := Py.bind_eq_ok.mp h
    obtain ⟨rfl, rfl⟩ := Prod.mk.inj (Except.ok.inj hreturn)
    refine ⟨ConnectionValues.normalize_wellPlaced hnormalized _, ?_⟩
    rw [Sql.commit_eq_ok.mp hcommit]
    exact List.mem_append_right _ (List.mem_singleton.mpr rfl)

end BondTrading
