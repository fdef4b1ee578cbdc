/-
# BondTrading.Db.Tables -- the database

The tables of `infrastructure/db/models.py` outside the user accounts, in three groups,
and the constraints the schema declares for them.  A committed state is a `Database`.
-/
import BondTrading.Sheets.Connection
import BondTrading.Sql.Session
import Mathlib.Tactic.MkIffOfInductiveProp

namespace BondTrading

open Py (Decimal)
open Sql (UniqueOn UniqueOnSome References)

/-! ## What MOEX says -/

/-- The shared tables: instruments, their corporate actions and market snapshots. -/
structure MarketTables where
  instruments : List BondInstrumentModel
  actions : List CorporateActionModel
  markets : List MarketSnapshotModel
  deriving DecidableEq, Repr

/-- The columns of the unique constraint of `corporate_actions`. -/
def CorporateActionModel.identity (a : CorporateActionModel) :
    InstrumentId × ActionType × Date × String :=
  (a.instrumentId, a.actionType, a.eventDate, a.sourcePayloadHash)

@[mk_iff] structure MarketTables.Constraints (t : MarketTables) : Prop where
  instrumentIds : UniqueOn BondInstrumentModel.id t.instruments
  isins : UniqueOn BondInstrumentModel.isin t.instruments
  actionIds : UniqueOn CorporateActionModel.id t.actions
  actionIdentities : UniqueOn CorporateActionModel.identity t.actions
  actionInstruments :
    References (some ∘ CorporateActionModel.instrumentId) BondInstrumentModel.id t.actions
      t.instruments
  marketIds : UniqueOn MarketSnapshotModel.id t.markets
  marketInstruments :
    References (some ∘ MarketSnapshotModel.instrumentId) BondInstrumentModel.id t.markets
      t.instruments

instance : DecidablePred MarketTables.Constraints := fun t =>
  decidable_of_iff' _ (MarketTables.constraints_iff t)

/-- `select(BondInstrumentModel).where(isin == ..)`. -/
def MarketTables.instrumentOf (t : MarketTables) (isin : String) : Option BondInstrumentModel :=
  t.instruments.find? fun i => i.isin = isin

/-! ## Portfolios -/

structure PortfolioTables where
  uploads : List UploadedFileModel
  batches : List ImportBatchModel
  lots : List BondLotModel
  yields : List YieldSnapshotModel
  settings : List AppSettingModel
  deriving DecidableEq, Repr

/-- The columns of the unique constraint of `import_batches`. -/
def ImportBatchModel.identity (b : ImportBatchModel) : UserId × String × String :=
  (b.ownerId, b.checksum, b.sheetName)

/-- The columns of the unique constraint of `bond_lots`: the batch and the row of an
imported lot. -/
def BondLotModel.importedFrom (l : BondLotModel) : Option (BatchId × ℤ) :=
  match l.importBatchId, l.sourceRowNumber with
  | some batch, some row => some (batch, row)
  | _, _ => none

/-- `CHECK (quantity > 0)`; the database orders a NaN above every number. -/
def isPositive : Decimal → Bool
  | .finite q => 0 < q
  | .infinity negative => !negative
  | .nan | .snan => true

/-- A number, or the NaN that a `NUMERIC` column takes. -/
def isNumeric : Decimal → Bool
  | .finite _ | .nan => true
  | .infinity _ | .snan => false

/-- What a `NUMERIC(p, s)` column takes: a number it has the digits for.  There is no infinity of
limited precision, and a signalling NaN has no text the database reads. -/
def Sql.Numeric.takes (c : Sql.Numeric) : Decimal → Bool
  | .finite q => c.Holds q
  | .nan => true
  | .infinity _ | .snan => false

@[simp] theorem Sql.Numeric.takes_finite (c : Sql.Numeric) (q : ℚ) :
    c.takes (.finite q) = decide (c.Holds q) := rfl

theorem isNumeric_of_takes {c : Sql.Numeric} {d : Decimal} (h : c.takes d = true) :
    isNumeric d = true := by
  cases d with
  | finite q => rfl
  | nan => rfl
  | infinity negative => cases h
  | snan => cases h

/-- The `MONEY` columns of a lot. -/
def BondLotModel.amounts (l : BondLotModel) : List Decimal :=
  [l.quantity, l.purchaseCleanPriceRubPerBond, l.purchaseAccruedInterestRubPerBond,
    l.purchaseCommissionRubPerBond, l.saleCommissionRubPerBond] ++
    l.targetRedemptionPriceRubPerBond.toList

/-- The `MONEY` columns of a yield snapshot. -/
def YieldSnapshotModel.amounts (y : YieldSnapshotModel) : List Decimal :=
  [y.purchaseTotal, y.plannedExitTotal, y.plannedProfitBeforeTax, y.plannedProfitAfterTax] ++
    y.currentExitTotal.toList ++ y.currentProfitBeforeTax.toList ++ y.currentProfitAfterTax.toList

/-- Its `PERCENT` columns. -/
def YieldSnapshotModel.percents (y : YieldSnapshotModel) : List Decimal :=
  [y.plannedAnnualYieldBeforeTax, y.plannedAnnualYieldAfterTax] ++
    y.currentAnnualYieldBeforeTax.toList ++ y.currentAnnualYieldAfterTax.toList ++
    y.yieldDeltaPp.toList

@[mk_iff] structure PortfolioTables.Constraints (t : PortfolioTables) (market : MarketTables) :
    Prop where
  uploadIds : UniqueOn UploadedFileModel.id t.uploads
  objectKeys : UniqueOn UploadedFileModel.objectKey t.uploads
  batchIds : UniqueOn ImportBatchModel.id t.batches
  batchIdentities : UniqueOn ImportBatchModel.identity t.batches
  batchUploads : UniqueOnSome ImportBatchModel.uploadedFileId t.batches
  uploadsExist :
    References ImportBatchModel.uploadedFileId UploadedFileModel.id t.batches t.uploads
  lotIds : UniqueOn BondLotModel.id t.lots
  lotRows : UniqueOnSome BondLotModel.importedFrom t.lots
  quantities : ∀ l ∈ t.lots, isPositive l.quantity
  amounts : ∀ l ∈ t.lots, ∀ a ∈ l.amounts, MONEY.takes a
  references : ∀ l ∈ t.lots, ∀ a ∈ l.plannedYieldManualReference, PERCENT.takes a
  lotInstruments :
    References (some ∘ BondLotModel.instrumentId) BondInstrumentModel.id t.lots
      market.instruments
  lotBatches : References BondLotModel.importBatchId ImportBatchModel.id t.lots t.batches
  yieldAmounts : ∀ y ∈ t.yields, ∀ a ∈ y.amounts, MONEY.takes a
  yieldPercents : ∀ y ∈ t.yields, ∀ a ∈ y.percents, PERCENT.takes a
  yieldIds : UniqueOn YieldSnapshotModel.id t.yields
  yieldLots : References (some ∘ YieldSnapshotModel.lotId) BondLotModel.id t.yields t.lots
  yieldMarkets :
    References YieldSnapshotModel.marketSnapshotId MarketSnapshotModel.id t.yields market.markets
  settingIds : UniqueOn AppSettingModel.id t.settings
  settingOwners :
    UniqueOn (fun s : AppSettingModel => (s.ownerId, s.singletonKey)) t.settings

instance (market : MarketTables) : DecidablePred (PortfolioTables.Constraints · market) :=
  fun t => decidable_of_iff' _ (PortfolioTables.constraints_iff t market)

/-- Portfolios refer to market rows by identifiers only. -/
theorem PortfolioTables.Constraints.withMarket {t : PortfolioTables} {m m' : MarketTables}
    (h : t.Constraints m)
    (hinstruments : ∀ k ∈ m.instruments.map BondInstrumentModel.id,
      k ∈ m'.instruments.map BondInstrumentModel.id)
    (hmarkets : ∀ k ∈ m.markets.map MarketSnapshotModel.id,
      k ∈ m'.markets.map MarketSnapshotModel.id) : t.Constraints m' :=
  { h with
    lotInstruments := h.lotInstruments.mono hinstruments
    yieldMarkets := h.yieldMarkets.mono hmarkets }

/-! ## All tables -/

structure Tables where
  market : MarketTables
  portfolio : PortfolioTables
  sheets : SheetTables
  deriving DecidableEq, Repr

@[mk_iff] structure Tables.Constraints (t : Tables) : Prop where
  market : t.market.Constraints
  portfolio : t.portfolio.Constraints t.market
  sheets : t.sheets.Constraints

instance : DecidablePred Tables.Constraints := fun t =>
  decidable_of_iff' _ (Tables.constraints_iff t)

/-- A committed state. -/
abbrev Database := { t : Tables // t.Constraints }

/-- A database just created. -/
def Database.empty : Database := ⟨⟨⟨[], [], []⟩, ⟨[], [], [], [], []⟩, ⟨[], []⟩⟩, by decide⟩

/-- The database with other sheet tables. -/
def Database.withSheets (db : Database) (sheets : SheetDatabase) : Database :=
  ⟨{ db.val with sheets := sheets.val },
    ⟨db.property.market, db.property.portfolio, sheets.property⟩⟩

/-- The sheet tables of the database. -/
def Database.sheets (db : Database) : SheetDatabase := ⟨db.val.sheets, db.property.sheets⟩

/-- `session.commit()` of a request that is one transaction. -/
def Tables.commit (t : Tables) : Except PyError Database :=
  Sql.commit Tables.Constraints (.database "IntegrityError") t

instance : Sql.SessionErrors PyError := ⟨.database "DBAPIError", .pendingRollback⟩

end BondTrading
