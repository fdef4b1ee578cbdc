/-
# BondTrading.Domain.Engine -- the yield calculations

`domain/calculations/tax.py` and `domain/calculations/engine.py`, at `Decimal`, in any context of
the arithmetic.  Every arithmetic step and every comparison may raise, so the functions run in
`Except PyError` and the order of their steps is the order of the source; `<||>` and
`<&&>` stop where Python's `or` and `and` stop.
-/
import BondTrading.Domain.Models

namespace BondTrading

open Py (Decimal)

/-- `ZERO = Decimal(0)`. -/
def ZERO : Decimal := .finite 0

def invalidAmount (message : String) (details : ErrorDetails) : PyError :=
  .domain .invalidAmount message details

variable [Py.Context]

/-! ## `tax.py` -/

def applyTax (profit : Decimal) (policy : TaxPolicy Decimal) : Except PyError Decimal := do
  if ← profit.le ZERO <||> pure (policy.mode = .none) then
    return profit
  match policy.mode with
  | .none => return profit
  | .flatRate =>
      unless ← ZERO.le policy.rate <&&> policy.rate.le (.ofInt 1) do
        throw (invalidAmount "Tax rate must be between zero and one" (.amount policy.rate))
      profit.mul (← (Decimal.ofInt 1).sub policy.rate)
  | .legacyDivide113 => profit.div (.finite (113 / 100))

/-! ## `engine.py` -/

def validatePurchase (value : PurchaseInput Decimal) : Except PyError Unit := do
  if ← value.quantity.le ZERO then
    throw (invalidAmount "Quantity must be positive" (.amount value.quantity))
  if ← value.cleanPriceRubPerBond.lt ZERO <||> value.accruedInterestRubPerBond.lt ZERO <||>
      value.commissionRubPerBond.lt ZERO then
    throw (invalidAmount "Purchase amounts cannot be negative" .none)

def calculatePurchase (value : PurchaseInput Decimal) : Except PyError (PurchaseResult Decimal) := do
  validatePurchase value
  let cleanTotal ← value.cleanPriceRubPerBond.mul value.quantity
  let accruedTotal ← value.accruedInterestRubPerBond.mul value.quantity
  let commissionTotal ← value.commissionRubPerBond.mul value.quantity
  let purchaseTotal ← (← cleanTotal.add accruedTotal).add commissionTotal
  return ⟨cleanTotal, accruedTotal, commissionTotal, purchaseTotal⟩

def annualizeProfit (profit purchaseTotal : Decimal) (purchaseDate exitDate : Date) :
    Except PyError (Decimal × ℤ) := do
  let holdingDays := exitDate - purchaseDate
  if holdingDays ≤ 0 then
    throw (.domain .invalidHoldingPeriod "Exit date must be after purchase date"
      (.period purchaseDate exitDate))
  if ← purchaseTotal.le ZERO then
    throw (invalidAmount "Purchase total must be positive" (.amount purchaseTotal))
  let ratio ← profit.div purchaseTotal
  let scaled ← (← ratio.mul (.ofInt 365)).div (.ofInt holdingDays)
  return (← scaled.mul (.ofInt 100), holdingDays)

/-- The two accumulators and the `seen` set of `_cashflow_totals`. -/
structure CashflowTotals where
  coupons : Decimal
  amortizations : Decimal
  seen : List (ActionType × Date × Decimal)

/-- One round of the loop of `_cashflow_totals`. -/
def cashflowStep (purchaseDate exitDate : Date) (quantity : Decimal) (acc : CashflowTotals)
    (cashflow : CorporateCashFlow Decimal) : Except PyError CashflowTotals := do
  if ← cashflow.amountRubPerBond.lt ZERO then
    throw (invalidAmount "Cash flow amount cannot be negative" (.cashflow cashflow))
  if ¬ (purchaseDate < cashflow.eventDate ∧ cashflow.eventDate ≤ exitDate) then
    return acc
  let identity := (cashflow.actionType, cashflow.eventDate, cashflow.amountRubPerBond)
  if identity ∈ acc.seen then
    return acc
  let seen := identity :: acc.seen
  match cashflow.actionType with
  | .coupon =>
      let coupons ← acc.coupons.add (← cashflow.amountRubPerBond.mul quantity)
      return ⟨coupons, acc.amortizations, seen⟩
  | .amortization =>
      let amortizations ← acc.amortizations.add (← cashflow.amountRubPerBond.mul quantity)
      return ⟨acc.coupons, amortizations, seen⟩
  | _ => return { acc with seen }

def cashflowTotals (cashflows : List (CorporateCashFlow Decimal)) (purchaseDate exitDate : Date)
    (quantity : Decimal) : Except PyError (Decimal × Decimal) := do
  let totals ← cashflows.foldlM (cashflowStep purchaseDate exitDate quantity) ⟨ZERO, ZERO, []⟩
  return (totals.coupons, totals.amortizations)

def yieldResult (purchase : PurchaseResult Decimal)
    (coupons amortizations redemptionOrMarket accruedInterest saleCommission exitTotal : Decimal)
    (purchaseDate exitDate : Date) (taxPolicy : TaxPolicy Decimal) :
    Except PyError (YieldResult Decimal) := do
  let profitBeforeTax ← exitTotal.sub purchase.purchaseTotal
  let profitAfterTax ← applyTax profitBeforeTax taxPolicy
  let (annualBefore, holdingDays) ←
    annualizeProfit profitBeforeTax purchase.purchaseTotal purchaseDate exitDate
  let (annualAfter, _) ←
    annualizeProfit profitAfterTax purchase.purchaseTotal purchaseDate exitDate
  return {
    purchase
    couponsTotal := coupons
    amortizationsTotal := amortizations
    redemptionOrMarketTotal := redemptionOrMarket
    accruedInterestTotal := accruedInterest
    saleCommissionTotal := saleCommission
    exitTotal
    profitBeforeTax
    profitAfterTax
    annualYieldBeforeTax := annualBefore
    annualYieldAfterTax := annualAfter
    holdingDays }

def calculatePlannedYield (value : PlannedYieldInput Decimal) :
    Except PyError (YieldResult Decimal) := do
  if ← value.finalRedemptionRubPerBond.lt ZERO <||> value.saleCommissionRubPerBond.lt ZERO then
    throw (invalidAmount "Exit amounts cannot be negative" .none)
  let purchase ← calculatePurchase value.purchase
  let (coupons, amortizations) ←
    cashflowTotals value.cashflows value.purchase.purchaseDate value.targetDate
      value.purchase.quantity
  let redemptionTotal ← value.finalRedemptionRubPerBond.mul value.purchase.quantity
  let saleCommission ← value.saleCommissionRubPerBond.mul value.purchase.quantity
  let exitTotal ← (← (← coupons.add amortizations).add redemptionTotal).sub saleCommission
  yieldResult purchase coupons amortizations redemptionTotal ZERO saleCommission exitTotal
    value.purchase.purchaseDate value.targetDate value.taxPolicy

/-- The check of one exit amount in the loop at the head of `calculate_current_yield`. -/
def checkExitAmount (amount : Decimal) : Except PyError Unit := do
  if ← amount.lt ZERO then
    throw (invalidAmount "Current exit amounts cannot be negative" (.amount amount))

def calculateCurrentYield (value : CurrentYieldInput Decimal) :
    Except PyError (YieldResult Decimal) := do
  checkExitAmount value.bidRubPerBond
  checkExitAmount value.currentAccruedInterestRubPerBond
  checkExitAmount value.saleCommissionRubPerBond
  let purchase ← calculatePurchase value.purchase
  let (coupons, amortizations) ←
    cashflowTotals value.cashflows value.purchase.purchaseDate value.valuationDate
      value.purchase.quantity
  let marketTotal ← value.bidRubPerBond.mul value.purchase.quantity
  let accruedTotal ← value.currentAccruedInterestRubPerBond.mul value.purchase.quantity
  let saleCommission ← value.saleCommissionRubPerBond.mul value.purchase.quantity
  let exitTotal ←
    (← (← (← marketTotal.add accruedTotal).add coupons).add amortizations).sub saleCommission
  yieldResult purchase coupons amortizations marketTotal accruedTotal saleCommission exitTotal
    value.purchase.purchaseDate value.valuationDate value.taxPolicy

end BondTrading
