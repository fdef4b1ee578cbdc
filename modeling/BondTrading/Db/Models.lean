/-
# BondTrading.Db.Models -- the rows of the database

`infrastructure/db/models.py`: one structure per table, with the columns some modelled
function reads or writes.  Identifiers are drawn by the program (`uuid4`) and stand as
numbers.  A `NUMERIC` column that MOEX or the settings fill holds an exact number; the
columns of a lot hold what the user or the spreadsheet sent, which need not be one, and what
an import sends to their decimals.
`updated_at` columns and texts that only an operator reads are left out.
-/
import BondTrading.Domain.Models
import BondTrading.Py.Time
import BondTrading.Sql.Numeric

namespace BondTrading

open Py (Instant Decimal)

/-- The type of the columns with amounts. -/
def MONEY : Sql.Numeric := ⟨24, 8⟩

/-- The type of the columns with yields and rates. -/
def PERCENT : Sql.Numeric := ⟨24, 10⟩

/-- What a column holds of a value it takes. -/
def Sql.Numeric.stored (c : Sql.Numeric) : Decimal → Decimal
  | .finite q => .finite (c.round q)
  | d => d

abbrev UserId := ℕ
abbrev SessionId := ℕ
abbrev InstrumentId := ℕ
abbrev ActionId := ℕ
abbrev MarketId := ℕ
abbrev BatchId := ℕ
abbrev UploadId := ℕ
abbrev LotId := ℕ
abbrev SettingsId := ℕ
abbrev YieldId := ℕ
abbrev ConnectionId := ℕ
abbrev JobId := ℕ

/-! ## Users and sessions -/

inductive UserRole where
  | user
  | admin
  deriving DecidableEq, Repr

/-- `users`. -/
structure UserModel where
  id : UserId
  username : String
  email : String
  passwordHash : String
  role : UserRole
  isActive : Bool
  mustChangePassword : Bool
  lastLoginAt : Option Instant
  deriving DecidableEq, Repr

/-- `auth_sessions`. -/
structure AuthSessionModel where
  id : SessionId
  userId : UserId
  tokenHash : String
  csrfTokenHash : String
  expiresAt : Instant
  lastSeenAt : Instant
  revokedAt : Option Instant
  userAgent : Option String
  deriving DecidableEq, Repr

/-! ## Instruments and what MOEX says about them -/

/-- `bond_instruments`. -/
structure BondInstrumentModel where
  id : InstrumentId
  isin : String
  secid : String
  shortName : String
  fullName : Option String
  primaryBoardId : Option String
  currency : String
  initialFaceValue : Option ℚ
  currentFaceValue : Option ℚ
  maturityDate : Option Date
  offerDate : Option Date
  couponPeriodDays : Option ℤ
  isAmortizing : Bool
  isFloatingCoupon : Bool
  isActive : Bool
  sourceUpdatedAt : Option Instant
  deriving DecidableEq, Repr

/-- `BondInstrumentModel(isin=.., secid=.., short_name=.., currency="RUB")` with its
defaults. -/
def newInstrument (id : InstrumentId) (isin secid shortName : String) : BondInstrumentModel where
  id := id
  isin := isin
  secid := secid
  shortName := shortName
  fullName := none
  primaryBoardId := none
  currency := "RUB"
  initialFaceValue := none
  currentFaceValue := none
  maturityDate := none
  offerDate := none
  couponPeriodDays := none
  isAmortizing := false
  isFloatingCoupon := false
  isActive := true
  sourceUpdatedAt := none

/-- `corporate_actions`. -/
structure CorporateActionModel where
  id : ActionId
  instrumentId : InstrumentId
  actionType : ActionType
  eventDate : Date
  recordDate : Option Date
  amountRubPerBond : Option ℚ
  percent : Option ℚ
  source : String
  sourcePayloadHash : String
  sourceUpdatedAt : Instant
  deriving DecidableEq, Repr

/-- `market_snapshots`. -/
structure MarketSnapshotModel where
  id : MarketId
  instrumentId : InstrumentId
  boardId : Option String
  receivedAt : Instant
  marketTimestamp : Option Instant
  bidPercent : Option ℚ
  bidRubPerBond : Option ℚ
  bidDepthLots : Option ℚ
  offerPercent : Option ℚ
  offerRubPerBond : Option ℚ
  offerDepthLots : Option ℚ
  lotSize : ℚ
  currentFaceValue : Option ℚ
  accruedInterestRubPerBond : Option ℚ
  lastPricePercent : Option ℚ
  status : String
  delayedStatus : String
  errorMessage : Option String
  rawPayload : String
  deriving DecidableEq, Repr

/-! ## Portfolios -/

/-- One entry of `row_errors` of an import: `asdict(ImportRowError)`. -/
structure ImportRowError where
  rowNumber : ℕ
  field : String
  message : String
  sourceValue : Option String
  deriving DecidableEq, Repr

/-- `import_batches`. -/
structure ImportBatchModel where
  id : BatchId
  ownerId : UserId
  uploadedFileId : Option UploadId
  fileName : String
  sheetName : String
  importedAt : Instant
  rowsRead : ℕ
  lotsCreated : ℕ
  instrumentsUpdated : ℕ
  rowErrors : List ImportRowError
  checksum : String
  deriving DecidableEq, Repr

/-- `uploaded_files`. -/
structure UploadedFileModel where
  id : UploadId
  ownerId : UserId
  originalFileName : String
  objectKey : String
  contentType : String
  fileFormat : String
  sizeBytes : ℕ
  checksum : String
  status : String
  parseError : Option String
  createdAt : Instant
  deriving DecidableEq, Repr

/-- `bond_lots`. -/
structure BondLotModel where
  id : LotId
  ownerId : UserId
  instrumentId : InstrumentId
  purchaseDate : Date
  quantity : Decimal
  purchaseCleanPriceRubPerBond : Decimal
  purchaseAccruedInterestRubPerBond : Decimal
  purchaseCommissionRubPerBond : Decimal
  targetEventType : String
  targetEventDate : Date
  targetRedemptionPriceRubPerBond : Option Decimal
  targetRedemptionOverrideReason : Option String
  targetRedemptionOverrideUpdatedAt : Option Instant
  saleCommissionRubPerBond : Decimal
  plannedYieldManualReference : Option Decimal
  sourceRowNumber : Option ℤ
  sourceSheetName : String
  notes : Option String
  importBatchId : Option BatchId
  createdAt : Instant
  updatedAt : Instant
  deriving DecidableEq, Repr

/-- `calculation_details` of a yield snapshot: the two results as they came out. -/
structure CalculationDetails where
  taxMode : TaxMode
  taxRate : ℚ
  planned : YieldResult Decimal
  current : Option (YieldResult Decimal)
  deriving DecidableEq, Repr

/-- `yield_snapshots`; the amounts are the results of the engine. -/
structure YieldSnapshotModel where
  id : YieldId
  lotId : LotId
  valuationDate : Date
  marketSnapshotId : Option MarketId
  purchaseTotal : Decimal
  plannedExitTotal : Decimal
  plannedProfitBeforeTax : Decimal
  plannedProfitAfterTax : Decimal
  plannedAnnualYieldBeforeTax : Decimal
  plannedAnnualYieldAfterTax : Decimal
  currentExitTotal : Option Decimal
  currentProfitBeforeTax : Option Decimal
  currentProfitAfterTax : Option Decimal
  currentAnnualYieldBeforeTax : Option Decimal
  currentAnnualYieldAfterTax : Option Decimal
  yieldDeltaPp : Option Decimal
  calculationVersion : String
  calculationDetails : CalculationDetails
  createdAt : Instant
  deriving DecidableEq, Repr

/-- `app_settings`. -/
structure AppSettingModel where
  id : SettingsId
  ownerId : UserId
  singletonKey : String
  marketDataTtlSeconds : ℕ
  taxMode : TaxMode
  taxRate : ℚ
  legacyTaxCompatibility : Bool
  defaultSaleCommissionRubPerBond : ℚ
  timezone : String
  formulaVersion : String
  deriving DecidableEq, Repr

/-! ## Google Sheets -/

inductive SheetPriceMode where
  | bestBidPercent
  | bestBidCleanRub
  | bestBidFullRub
  | bestOfferPercent
  | bestOfferCleanRub
  | bestOfferFullRub
  deriving DecidableEq, Repr

inductive SheetSyncJobStatus where
  | queued
  | running
  | succeeded
  | failed
  deriving DecidableEq, Repr

inductive SheetSyncTrigger where
  | scheduled
  | manual
  | importCommitted
  | lotCreated
  | lotUpdated
  | lotDeleted
  | settingsChanged
  | moexRefreshed
  deriving DecidableEq, Repr

/-- `sheet_connections`. -/
structure SheetConnectionModel where
  id : ConnectionId
  ownerId : UserId
  provider : String
  spreadsheetId : String
  worksheetName : String
  headerRow : ℕ
  isinColumn : String
  priceColumn : String
  updatedAtColumn : Option String
  statusColumn : Option String
  priceMode : SheetPriceMode
  enabled : Bool
  syncIntervalSeconds : ℕ
  lastAttemptAt : Option Instant
  lastSuccessAt : Option Instant
  lastError : Option String
  lastPayloadHash : Option String
  createdAt : Instant
  deriving DecidableEq, Repr

/-- One entry of `row_errors` of a synchronization: a row with a wrong ISIN, or an ISIN
whose refresh failed. -/
inductive SheetRowError where
  | row (rowNumber : ℕ) (isin message : String)
  | isin (isin message : String)
  deriving DecidableEq, Repr

/-- `sheet_sync_jobs`. -/
structure SheetSyncJobModel where
  id : JobId
  connectionId : ConnectionId
  trigger : SheetSyncTrigger
  status : SheetSyncJobStatus
  attemptCount : ℕ
  nextAttemptAt : Option Instant
  startedAt : Option Instant
  completedAt : Option Instant
  rowsRead : ℕ
  rowsUpdated : ℕ
  instrumentsRefreshed : ℕ
  rowErrors : List SheetRowError
  errorMessage : Option String
  createdAt : Instant
  deriving DecidableEq, Repr

end BondTrading
