/-
# BondTrading.Lots.Settings -- the calculation settings of a user

`application/services/settings.py` and `api/v1/routers/settings.py`.
-/
import BondTrading.Db.Tables
import BondTrading.Sheets.Queue

namespace BondTrading

open Py (Decimal Instant)
open Sql (UniqueOn updateWhere)

/-! ## Partial updates -/

/-- A field of a patch: absent from the request, or present with a value or `null`. -/
abbrev Patch (α : Type) := Option (Option α)

/-- Assign to a nullable column. -/
def Patch.apply {α : Type} (patch : Patch α) (old : Option α) : Option α := patch.getD old

/-- Assign to a column that is not nullable: the commit refuses a `null`. -/
def Patch.applyRequired {α : Type} (patch : Patch α) (old : α) : Except PyError α :=
  match patch with
  | none => .ok old
  | some (some value) => .ok value
  | some none => .error (.database "IntegrityError")

/-! ## The service -/

/-- `AppSettingModel(singleton_key="default", owner_id=..)` with its defaults. -/
def defaultSettings (id : SettingsId) (owner : UserId) : AppSettingModel where
  id := id
  ownerId := owner
  singletonKey := "default"
  marketDataTtlSeconds := 900
  taxMode := .none
  taxRate := 13 / 100
  legacyTaxCompatibility := false
  defaultSaleCommissionRubPerBond := 0
  timezone := "Europe/Moscow"
  formulaVersion := "1.0.0"

def PortfolioTables.settingsOf (t : PortfolioTables) (owner : UserId) : Option AppSettingModel :=
  t.settings.find? fun s => s.singletonKey = "default" ∧ s.ownerId = owner

/-- `SettingsService.get`: the row, and the tables with the row it may have added. -/
def getSettings (t : Tables) (owner : UserId) (id : SettingsId) : AppSettingModel × Tables :=
  match t.portfolio.settingsOf owner with
  | some settings => (settings, t)
  | none =>
      let settings := defaultSettings id owner
      (settings, { t with portfolio := { t.portfolio with
        settings := t.portfolio.settings ++ [settings] } })

theorem PortfolioTables.settingsOf_eq_some {t : PortfolioTables} {owner : UserId}
    {settings : AppSettingModel} (h : t.settingsOf owner = some settings) :
    settings ∈ t.settings ∧ settings.ownerId = owner ∧ settings.singletonKey = "default" := by
  have hkeys := List.find?_some h
  rw [decide_eq_true_eq] at hkeys
  exact ⟨List.mem_of_find?_eq_some h, hkeys.2, hkeys.1⟩

/-- The settings row of a user, in the tables that `SettingsService.get` leaves. -/
theorem getSettings_spec (t : Tables) (user : UserId) (id : SettingsId) :
    (getSettings t user id).1 ∈ (getSettings t user id).2.portfolio.settings ∧
      (getSettings t user id).1.ownerId = user ∧
      (getSettings t user id).1.singletonKey = "default" := by
  unfold getSettings
  cases hfound : t.portfolio.settingsOf user with
  | some settings => exact PortfolioTables.settingsOf_eq_some hfound
  | none => exact ⟨List.mem_append_right _ (List.mem_singleton.mpr rfl), rfl, rfl⟩

/-- The row it may add is the user's; every other table stays. -/
theorem getSettings_tables (t : Tables) (user : UserId) (id : SettingsId) :
    ∃ new : List AppSettingModel, (∀ s ∈ new, s.ownerId = user) ∧
      (getSettings t user id).2 =
        { t with portfolio := { t.portfolio with settings := t.portfolio.settings ++ new } } := by
  unfold getSettings
  cases t.portfolio.settingsOf user with
  | some settings => exact ⟨[], by simp, by rw [List.append_nil]⟩
  | none => exact ⟨[defaultSettings id user], by simp [defaultSettings], rfl⟩

/-- The settings as `SettingsService.get` leaves them. -/
theorem getSettings_unique {t : Tables} (ht : t.Constraints) {id : SettingsId}
    (hid : ∀ s ∈ t.portfolio.settings, s.id ≠ id) (user : UserId) :
    UniqueOn AppSettingModel.id (getSettings t user id).2.portfolio.settings ∧
      UniqueOn (fun s : AppSettingModel => (s.ownerId, s.singletonKey))
        (getSettings t user id).2.portfolio.settings := by
  have hportfolio := ht.portfolio
  unfold getSettings
  cases hfound : t.portfolio.settingsOf user with
  | some settings => exact ⟨hportfolio.settingIds, hportfolio.settingOwners⟩
  | none =>
      refine ⟨Sql.uniqueOn_append_singleton.mpr ⟨hportfolio.settingIds, hid⟩,
        Sql.uniqueOn_append_singleton.mpr ⟨hportfolio.settingOwners, ?_⟩⟩
      intro s hs hkey
      obtain ⟨howner, hkey⟩ := Prod.mk.inj hkey
      exact List.find?_eq_none.mp hfound s hs (decide_eq_true ⟨hkey, howner⟩)

/-! ## The routes -/

structure SettingsOut where
  marketDataTtlSeconds : ℕ
  taxMode : TaxMode
  taxRate : ℚ
  legacyTaxCompatibility : Bool
  defaultSaleCommissionRubPerBond : ℚ
  timezone : String
  formulaVersion : String
  deriving DecidableEq, Repr

def SettingsOut.ofModel (s : AppSettingModel) : SettingsOut where
  marketDataTtlSeconds := s.marketDataTtlSeconds
  taxMode := s.taxMode
  taxRate := s.taxRate
  legacyTaxCompatibility := s.legacyTaxCompatibility
  defaultSaleCommissionRubPerBond := s.defaultSaleCommissionRubPerBond
  timezone := s.timezone
  formulaVersion := s.formulaVersion

structure SettingsPatch where
  marketDataTtlSeconds : Patch ℕ
  taxMode : Patch TaxMode
  taxRate : Patch ℚ
  legacyTaxCompatibility : Patch Bool
  defaultSaleCommissionRubPerBond : Patch ℚ
  timezone : Patch String
  deriving DecidableEq, Repr

/-- The loop over the fields of the patch. -/
def AppSettingModel.patch (s : AppSettingModel) (p : SettingsPatch) :
    Except PyError AppSettingModel := do
  let marketDataTtlSeconds ← p.marketDataTtlSeconds.applyRequired s.marketDataTtlSeconds
  let taxMode ← p.taxMode.applyRequired s.taxMode
  let taxRate ← p.taxRate.applyRequired s.taxRate
  let legacyTaxCompatibility ← p.legacyTaxCompatibility.applyRequired s.legacyTaxCompatibility
  let defaultSaleCommissionRubPerBond ←
    p.defaultSaleCommissionRubPerBond.applyRequired s.defaultSaleCommissionRubPerBond
  let timezone ← p.timezone.applyRequired s.timezone
  return { s with
    marketDataTtlSeconds, taxMode, taxRate, legacyTaxCompatibility,
    defaultSaleCommissionRubPerBond, timezone }

theorem AppSettingModel.patch_keys {s patched : AppSettingModel} {p : SettingsPatch}
    (h : s.patch p = .ok patched) :
    patched.id = s.id ∧ patched.ownerId = s.ownerId ∧ patched.singletonKey = s.singletonKey := by
  simp only [AppSettingModel.patch, Py.bind_eq_ok] at h
  obtain ⟨_, -, _, -, _, -, _, -, _, -, _, -, hreturn⟩ := h
  rw [← Except.ok.inj hreturn]
  exact ⟨rfl, rfl, rfl⟩

/-- The identifiers and the clock one request about settings draws. -/
structure SettingsDraw where
  settings : SettingsId
  job : JobId
  now : Instant

/-- `get_app_settings`.  The request ends without a commit, so a row it added is gone. -/
def getAppSettings (db : Database) (owner : UserId) (draw : SettingsDraw) :
    Except PyError SettingsOut := do
  let (settings, tables) := getSettings db.val owner draw.settings
  let _ ← tables.commit
  return SettingsOut.ofModel settings

/-- `update_app_settings`. -/
def updateAppSettings (db : Database) (owner : UserId) (patch : SettingsPatch)
    (draw : SettingsDraw) : Except PyError (Database × SettingsOut) := do
  let (settings, tables) := getSettings db.val owner draw.settings
  let patched ← settings.patch patch
  let committed ← Tables.commit
    { tables with
      portfolio := { tables.portfolio with
        settings := updateWhere (fun s => s.id = settings.id) (fun _ => patched)
          tables.portfolio.settings }
      sheets := (enqueueSheetSync tables.sheets owner .settingsChanged draw.job draw.now).1 }
  return (committed, SettingsOut.ofModel patched)

end BondTrading
