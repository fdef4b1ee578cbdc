/-
# BondTrading.Sheets.Calculations -- the calculation of one sheet row

`application/services/sheet_calculations.py`: the paid coupons, the purchase as the row
states it, and the current result.
-/
import BondTrading.Domain.Engine
import BondTrading.Sheets.Cells

namespace BondTrading

open Py (Decimal Dict)

/-- `DEFAULT_PURCHASE_COMMISSION`. -/
def defaultPurchaseCommission : Decimal := .finite (2 / 5)

/-- `_CUSTOMER_TAX_POLICY`. -/
def customerTaxPolicy : TaxPolicy Decimal := ⟨.legacyDivide113, .finite (13 / 100)⟩

structure SheetPurchaseInput where
  purchaseDate : Date
  quantity : Decimal
  purchasePriceRubPerBond : Decimal
  purchaseAccruedRubPerBond : Decimal
  purchaseCommissionTotalRub : Decimal
  plannedAnnualYieldPercent : Option Decimal
  deriving DecidableEq, Repr

structure SheetCurrentCalculation where
  paidCouponCount : ℕ
  paidCouponsTotalRub : Decimal
  currentExitTotalRub : Decimal
  profitBeforeTaxRub : Decimal
  profitAfterTaxRub : Decimal
  annualYieldAfterTaxPercent : Decimal
  planDeltaPp : Option Decimal
  deriving DecidableEq, Repr

/-- `paid`: the coupons of the holding period. -/
def paidCoupons (purchaseDate valuationDate : Date) (cashflows : List (CorporateCashFlow Decimal)) :
    List (CorporateCashFlow Decimal) :=
  cashflows.filter fun c =>
    c.actionType = .coupon ∧ purchaseDate < c.eventDate ∧ c.eventDate ≤ valuationDate

variable [Py.Context]

/-- `sum((amount * quantity for .. in paid), start=Decimal(0))`. -/
def couponSum (quantity : Decimal) (paid : List (CorporateCashFlow Decimal)) :
    Except PyError Decimal :=
  paid.foldlM (fun total c => do total.add (← c.amountRubPerBond.mul quantity)) ZERO

/-- `summarize_paid_coupons`. -/
def summarizePaidCoupons (purchaseDate valuationDate : Date) (quantity : Decimal)
    (cashflows : List (CorporateCashFlow Decimal)) : Except PyError (ℕ × Decimal) := do
  let paid := paidCoupons purchaseDate valuationDate cashflows
  let total ← couponSum quantity paid
  return ((Py.distinct (paid.map CorporateCashFlow.eventDate)).length, total)

/-- The columns of a purchase that could not be read. -/
def missingColumns (purchaseDate : Option Date) (quantity purchasePrice : Option Decimal) :
    List String :=
  (if purchaseDate = none then ["E"] else []) ++ (if quantity = none then ["H"] else []) ++
    (if purchasePrice = none then ["I"] else [])

/-- The comparisons of `parse_sheet_purchase`: the text of the first check that fails. -/
def checkPurchase (quantity purchasePrice purchaseAccrued commissionTotal : Decimal) :
    Except PyError (Option String) := do
  if ← quantity.le ZERO then
    return some "КОЛИЧЕСТВО ДОЛЖНО БЫТЬ БОЛЬШЕ НУЛЯ"
  if ← purchasePrice.lt ZERO <||> purchaseAccrued.lt ZERO <||> commissionTotal.lt ZERO then
    return some "ЦЕНА, НКД И КОМИССИЯ НЕ МОГУТ БЫТЬ ОТРИЦАТЕЛЬНЫМИ"
  return none

/-- `parse_sheet_purchase`: the purchase, or the text that says what is wrong. -/
def parseSheetPurchase (row : SheetDataRow) (purchaseAccrued : Option Decimal)
    (commissionTotal : Decimal) : Except PyError (Option SheetPurchaseInput × Option String) := do
  let purchaseDate ← parseDate (row.get "E")
  let quantity := parseDecimal (row.get "H")
  let purchasePrice := parseDecimal (row.get "I")
  match purchaseDate, quantity, purchasePrice, purchaseAccrued with
  | some purchaseDate, some quantity, some purchasePrice, some purchaseAccrued =>
      match ← checkPurchase quantity purchasePrice purchaseAccrued commissionTotal with
      | some message => return (none, some message)
      | none =>
          return (some ⟨purchaseDate, quantity, purchasePrice, purchaseAccrued, commissionTotal,
            parseDecimal (row.get "V")⟩, none)
  | some _, some _, some _, none => return (none, some "НКД НА ДАТУ ПОКУПКИ НЕ НАЙДЕН")
  | purchaseDate, quantity, purchasePrice, _ =>
      return (none, some ("НЕТ ДАННЫХ: " ++
        ", ".intercalate (missingColumns purchaseDate quantity purchasePrice)))

/-- `calculate_sheet_current`. -/
def calculateSheetCurrent (purchase : SheetPurchaseInput) (valuationDate : Date)
    (offerRubPerBond currentAccruedRubPerBond : Decimal)
    (cashflows : List (CorporateCashFlow Decimal)) : Except PyError SheetCurrentCalculation := do
  -- L is the commission of the whole row; the engine takes it per bond
  let commission ← purchase.purchaseCommissionTotalRub.div purchase.quantity
  let result ← calculateCurrentYield {
    purchase := {
      purchaseDate := purchase.purchaseDate
      quantity := purchase.quantity
      cleanPriceRubPerBond := purchase.purchasePriceRubPerBond
      accruedInterestRubPerBond := purchase.purchaseAccruedRubPerBond
      commissionRubPerBond := commission }
    valuationDate
    bidRubPerBond := offerRubPerBond
    currentAccruedInterestRubPerBond := currentAccruedRubPerBond
    cashflows
    saleCommissionRubPerBond := ZERO
    taxPolicy := customerTaxPolicy }
  let (paidCouponCount, _) ←
    summarizePaidCoupons purchase.purchaseDate valuationDate purchase.quantity cashflows
  let planDelta ←
    match purchase.plannedAnnualYieldPercent with
    | some planned => (result.annualYieldAfterTax.sub planned).map some
    | none => .ok none
  return {
    paidCouponCount
    paidCouponsTotalRub := result.couponsTotal
    currentExitTotalRub := result.exitTotal
    profitBeforeTaxRub := result.profitBeforeTax
    profitAfterTaxRub := result.profitAfterTax
    annualYieldAfterTaxPercent := result.annualYieldAfterTax
    planDeltaPp := planDelta }

end BondTrading
