/-
# BondTrading.Domain.Digits -- the current scenario at the digits of a context

The formulas of the current scenario with every operation taken to the digits of the context,
in the order of the source, because sums of rounded numbers depend on their order.  A formula is
nothing where a check of the engine fails or a step overflows; the engine follows it.
-/
import BondTrading.Domain.Exact
import BondTrading.Py.Outcome

namespace BondTrading

open Py (Decimal Context Follows)

variable [Context]

/-! ## Formulas -/

/-- A number at the digits of the context. -/
def fix? (q : ℚ) : Option ℚ := (Context.fix q).toOption

/-- `total + amount * quantity`. -/
def fixedAdd (quantity total amount : ℚ) : Option ℚ := do
  fix? (total + (← fix? (amount * quantity)))

/-- One amount after the other. -/
def fixedSum (quantity total : ℚ) (amounts : List ℚ) : Option ℚ :=
  amounts.foldlM (fixedAdd quantity) total

/-- The amounts of the events of one type in the window, each event once, in their order. -/
def newAmounts (t : ActionType) (pd ed : Date) : List Identity → List (CorporateCashFlow ℚ) → List ℚ
  | _, [] => []
  | seen, c :: l =>
      if InWindow pd ed c ∧ (c.actionType, c.eventDate, c.amountRubPerBond) ∉ seen then
        (if c.actionType = t then [c.amountRubPerBond] else []) ++
          newAmounts t pd ed ((c.actionType, c.eventDate, c.amountRubPerBond) :: seen) l
      else newAmounts t pd ed seen l

/-- What a position receives of coupons and of amortizations. -/
def fixedTotals (cashflows : List (CorporateCashFlow ℚ)) (pd ed : Date) (quantity : ℚ) :
    Option (ℚ × ℚ) := do
  guard (∀ c ∈ cashflows, 0 ≤ c.amountRubPerBond)
  let coupons ← fixedSum quantity 0 (newAmounts .coupon pd ed [] cashflows)
  let amortizations ← fixedSum quantity 0 (newAmounts .amortization pd ed [] cashflows)
  return (coupons, amortizations)

/-- What a purchase costs. -/
def PurchaseInput.fixedCosts (p : PurchaseInput ℚ) : Option (PurchaseResult ℚ) := do
  guard (0 < p.quantity)
  guard (0 ≤ p.cleanPriceRubPerBond ∧ 0 ≤ p.accruedInterestRubPerBond ∧ 0 ≤ p.commissionRubPerBond)
  let cleanTotal ← fix? (p.cleanPriceRubPerBond * p.quantity)
  let accruedTotal ← fix? (p.accruedInterestRubPerBond * p.quantity)
  let commissionTotal ← fix? (p.commissionRubPerBond * p.quantity)
  let purchaseTotal ← fix? ((← fix? (cleanTotal + accruedTotal)) + commissionTotal)
  return ⟨cleanTotal, accruedTotal, commissionTotal, purchaseTotal⟩

/-- What tax leaves of a profit. -/
def fixedTax (profit : ℚ) (policy : TaxPolicy ℚ) : Option ℚ :=
  if profit ≤ 0 then some profit
  else
    match policy.mode with
    | .none => some profit
    | .flatRate => do
        guard (0 ≤ policy.rate ∧ policy.rate ≤ 1)
        fix? (profit * (← fix? (1 - policy.rate)))
    | .legacyDivide113 => fix? (profit / (113 / 100))

/-- A year of a profit, in percent. -/
def fixedYield (profit purchaseTotal : ℚ) (pd ed : Date) : Option ℚ := do
  guard (pd < ed)
  guard (0 < purchaseTotal)
  let ratio ← fix? (profit / purchaseTotal)
  let scaled ← fix? ((← fix? (ratio * 365)) / ((ed - pd : ℤ) : ℚ))
  fix? (scaled * 100)

/-- The current scenario. -/
def CurrentYieldInput.fixedForm (v : CurrentYieldInput ℚ) : Option (YieldResult ℚ) := do
  let p := v.purchase
  guard (0 ≤ v.bidRubPerBond)
  guard (0 ≤ v.currentAccruedInterestRubPerBond)
  guard (0 ≤ v.saleCommissionRubPerBond)
  let costs ← p.fixedCosts
  let (coupons, amortizations) ←
    fixedTotals v.cashflows p.purchaseDate v.valuationDate p.quantity
  let market ← fix? (v.bidRubPerBond * p.quantity)
  let accrued ← fix? (v.currentAccruedInterestRubPerBond * p.quantity)
  let sale ← fix? (v.saleCommissionRubPerBond * p.quantity)
  let exitTotal ←
    fix? ((← fix? ((← fix? ((← fix? (market + accrued)) + coupons)) + amortizations)) - sale)
  let profit ← fix? (exitTotal - costs.purchaseTotal)
  let taxed ← fixedTax profit v.taxPolicy
  let annualBefore ← fixedYield profit costs.purchaseTotal p.purchaseDate v.valuationDate
  let annualAfter ← fixedYield taxed costs.purchaseTotal p.purchaseDate v.valuationDate
  return {
    purchase := costs
    couponsTotal := coupons
    amortizationsTotal := amortizations
    redemptionOrMarketTotal := market
    accruedInterestTotal := accrued
    saleCommissionTotal := sale
    exitTotal
    profitBeforeTax := profit
    profitAfterTax := taxed
    annualYieldBeforeTax := annualBefore
    annualYieldAfterTax := annualAfter
    holdingDays := v.valuationDate - p.purchaseDate }

/-! ## The engine follows them -/

section Operations

variable (a b : ℚ)

end Operations

section Cashflows

variable {pd ed : Date} {q : ℚ} {c : CorporateCashFlow ℚ} {seen : List Identity}

end Cashflows

end BondTrading
