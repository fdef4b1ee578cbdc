/-
# BondTrading.Domain.Models -- the data of the calculation core and its exceptions

The data classes of `domain/calculations/models.py` are generic in the amounts they
carry.  The program runs at `Decimal`; the exact layer (`Domain.Exact`) states what
the formulas mean at `ℚ`, and `map Decimal.finite` carries one to the other.

`PyError` collects every exception the modelled services raise or catch.
-/
import BondTrading.Py.Decimal

namespace BondTrading

open Py (Decimal Signal Raises)

/-- A calendar date as its proleptic Gregorian ordinal (`date.toordinal()`), so that
`(b - a).days` is `b - a`. -/
abbrev Date := ℤ

/-! ## Enumerations -/

inductive ActionType where
  | coupon
  | amortization
  | offer
  | maturity
  deriving DecidableEq, Repr

/-- The values of the `StrEnum`. -/
def ActionType.value : ActionType → String
  | .coupon => "coupon"
  | .amortization => "amortization"
  | .offer => "offer"
  | .maturity => "maturity"

inductive TaxMode where
  | none
  | flatRate
  | legacyDivide113
  deriving DecidableEq, Repr

/-! ## Data classes -/

structure TaxPolicy (δ : Type) where
  mode : TaxMode
  rate : δ
  deriving DecidableEq, Repr

structure CorporateCashFlow (δ : Type) where
  actionType : ActionType
  eventDate : Date
  amountRubPerBond : δ
  deriving DecidableEq, Repr

structure PurchaseInput (δ : Type) where
  purchaseDate : Date
  quantity : δ
  cleanPriceRubPerBond : δ
  accruedInterestRubPerBond : δ
  commissionRubPerBond : δ
  deriving DecidableEq, Repr

structure PlannedYieldInput (δ : Type) where
  purchase : PurchaseInput δ
  targetDate : Date
  finalRedemptionRubPerBond : δ
  cashflows : List (CorporateCashFlow δ)
  saleCommissionRubPerBond : δ
  taxPolicy : TaxPolicy δ
  deriving DecidableEq, Repr

structure CurrentYieldInput (δ : Type) where
  purchase : PurchaseInput δ
  valuationDate : Date
  bidRubPerBond : δ
  currentAccruedInterestRubPerBond : δ
  cashflows : List (CorporateCashFlow δ)
  saleCommissionRubPerBond : δ
  taxPolicy : TaxPolicy δ
  deriving DecidableEq, Repr

structure PurchaseResult (δ : Type) where
  cleanPriceTotal : δ
  accruedInterestTotal : δ
  commissionTotal : δ
  purchaseTotal : δ
  deriving DecidableEq, Repr

structure YieldResult (δ : Type) where
  purchase : PurchaseResult δ
  couponsTotal : δ
  amortizationsTotal : δ
  redemptionOrMarketTotal : δ
  accruedInterestTotal : δ
  saleCommissionTotal : δ
  exitTotal : δ
  profitBeforeTax : δ
  profitAfterTax : δ
  annualYieldBeforeTax : δ
  annualYieldAfterTax : δ
  holdingDays : ℤ
  deriving DecidableEq, Repr

section Map

variable {α β : Type} (f : α → β)

def TaxPolicy.map (p : TaxPolicy α) : TaxPolicy β := ⟨p.mode, f p.rate⟩

def CorporateCashFlow.map (c : CorporateCashFlow α) : CorporateCashFlow β :=
  ⟨c.actionType, c.eventDate, f c.amountRubPerBond⟩

def PurchaseInput.map (p : PurchaseInput α) : PurchaseInput β where
  purchaseDate := p.purchaseDate
  quantity := f p.quantity
  cleanPriceRubPerBond := f p.cleanPriceRubPerBond
  accruedInterestRubPerBond := f p.accruedInterestRubPerBond
  commissionRubPerBond := f p.commissionRubPerBond

def PlannedYieldInput.map (v : PlannedYieldInput α) : PlannedYieldInput β where
  purchase := v.purchase.map f
  targetDate := v.targetDate
  finalRedemptionRubPerBond := f v.finalRedemptionRubPerBond
  cashflows := v.cashflows.map (CorporateCashFlow.map f)
  saleCommissionRubPerBond := f v.saleCommissionRubPerBond
  taxPolicy := v.taxPolicy.map f

def CurrentYieldInput.map (v : CurrentYieldInput α) : CurrentYieldInput β where
  purchase := v.purchase.map f
  valuationDate := v.valuationDate
  bidRubPerBond := f v.bidRubPerBond
  currentAccruedInterestRubPerBond := f v.currentAccruedInterestRubPerBond
  cashflows := v.cashflows.map (CorporateCashFlow.map f)
  saleCommissionRubPerBond := f v.saleCommissionRubPerBond
  taxPolicy := v.taxPolicy.map f

def PurchaseResult.map (p : PurchaseResult α) : PurchaseResult β where
  cleanPriceTotal := f p.cleanPriceTotal
  accruedInterestTotal := f p.accruedInterestTotal
  commissionTotal := f p.commissionTotal
  purchaseTotal := f p.purchaseTotal

def YieldResult.map (r : YieldResult α) : YieldResult β where
  purchase := r.purchase.map f
  couponsTotal := f r.couponsTotal
  amortizationsTotal := f r.amortizationsTotal
  redemptionOrMarketTotal := f r.redemptionOrMarketTotal
  accruedInterestTotal := f r.accruedInterestTotal
  saleCommissionTotal := f r.saleCommissionTotal
  exitTotal := f r.exitTotal
  profitBeforeTax := f r.profitBeforeTax
  profitAfterTax := f r.profitAfterTax
  annualYieldBeforeTax := f r.annualYieldBeforeTax
  annualYieldAfterTax := f r.annualYieldAfterTax
  holdingDays := r.holdingDays

end Map

/-! ## Exceptions -/

/-- The `DomainError` family; `code` is what the API reports. -/
inductive DomainErrorKind where
  | domain
  | invalidHoldingPeriod
  | invalidAmount
  | invalidIsin
  | authenticationFailed
  | authorizationFailed
  deriving DecidableEq, Repr

def DomainErrorKind.code : DomainErrorKind → String
  | .domain => "domain_error"
  | .invalidHoldingPeriod => "invalid_holding_period"
  | .invalidAmount => "invalid_amount"
  | .invalidIsin => "invalid_isin"
  | .authenticationFailed => "authentication_failed"
  | .authorizationFailed => "authorization_failed"

/-- The `details` a `DomainError` carries. -/
inductive ErrorDetails where
  | none
  | amount (value : Decimal)
  | cashflow (value : CorporateCashFlow Decimal)
  | period (purchaseDate exitDate : Date)
  | text (value : String)
  | lot (id : ℕ)
  deriving DecidableEq, Repr

/-- An exception.  `external` is one raised by code outside the repository
(an HTTP client, the Google client, the object storage). -/
inductive PyError where
  | domain (kind : DomainErrorKind) (message : String) (details : ErrorDetails)
  | decimal (signal : Signal)
  | valueError (message : String)
  | external (message : String)
  | database (message : String)
  | pendingRollback
  deriving DecidableEq, Repr

instance : Raises PyError := ⟨PyError.decimal⟩

/-- `str(exc)`. -/
def PyError.str : PyError → String
  | .domain _ message _ => message
  | .decimal signal => signal.str
  | .valueError message => message
  | .external message => message
  | .database message => message
  | .pendingRollback =>
      "This Session's transaction has been rolled back due to a previous exception during flush."

/-- What a caller can tell about an exception without looking at its details. -/
def PyError.kind : PyError → Option DomainErrorKind × String
  | .domain kind message _ => (some kind, message)
  | e => (none, e.str)

end BondTrading
