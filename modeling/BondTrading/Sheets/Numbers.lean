/-
# BondTrading.Sheets.Numbers -- the engine gives no NaN

Every amount the engine reads passes an ordering comparison first, and a comparison with a
NaN raises.  What it then computes is an arithmetic of values that are no NaN, where an
operation without a value raises as well.
-/
import BondTrading.Py.Outcome
import BondTrading.Sheets.Rows

namespace BondTrading

open Py (Decimal Gives)

/-! ## Operations -/

section Operations

variable {a b : Decimal}

theorem lt_gives (a b : Decimal) : Gives (a.lt b : Except PyError Bool) fun _ => a.isNaN = false := by
  intro r hr
  cases hnan : a.isNaN with
  | false => rfl
  | true =>
      obtain ⟨e, he⟩ := (Decimal.lt_raises_iff (ε := PyError) a b).mpr (Or.inl hnan)
      cases hr.symm.trans he

theorem le_gives (a b : Decimal) : Gives (a.le b : Except PyError Bool) fun _ => a.isNaN = false := by
  intro r hr
  cases hnan : a.isNaN with
  | false => rfl
  | true =>
      obtain ⟨e, he⟩ := (Decimal.le_raises_iff (ε := PyError) a b).mpr (Or.inl hnan)
      cases hr.symm.trans he

theorem fixed_gives [Py.Context] (q : ℚ) :
    Gives (Decimal.fixed q : Except PyError Decimal) fun c => c.isNaN = false := by
  intro d hd
  obtain ⟨r, -, rfl⟩ := Decimal.fixed_eq_ok.mp hd
  rfl

theorem add_gives [Py.Context] (ha : a.isNaN = false) (hb : b.isNaN = false) :
    Gives (a.add b : Except PyError Decimal) fun c => c.isNaN = false := by
  cases a with
  | nan => cases ha
  | snan => cases ha
  | finite p =>
      cases b with
      | nan => cases hb
      | snan => cases hb
      | finite q => exact fixed_gives (p + q)
      | infinity t => exact .ok rfl
  | infinity s =>
      cases b with
      | nan => cases hb
      | snan => cases hb
      | finite q => exact .ok rfl
      | infinity t =>
          show Gives (if s = t then _ else _) _
          split
          · exact .ok rfl
          · exact .error _

theorem neg_isNaN (a : Decimal) : a.neg.isNaN = a.isNaN := by
  cases a <;> rfl

theorem sub_gives [Py.Context] (ha : a.isNaN = false) (hb : b.isNaN = false) :
    Gives (a.sub b : Except PyError Decimal) fun c => c.isNaN = false :=
  add_gives ha ((neg_isNaN b).trans hb)

theorem mul_gives [Py.Context] (ha : a.isNaN = false) (hb : b.isNaN = false) :
    Gives (a.mul b : Except PyError Decimal) fun c => c.isNaN = false := by
  cases a with
  | nan => cases ha
  | snan => cases ha
  | finite p =>
      cases b with
      | nan => cases hb
      | snan => cases hb
      | finite q => exact fixed_gives (p * q)
      | infinity t =>
          show Gives (if p = 0 then _ else _) _
          split
          · exact .error _
          · exact .ok rfl
  | infinity s =>
      cases b with
      | nan => cases hb
      | snan => cases hb
      | finite q =>
          show Gives (if q = 0 then _ else _) _
          split
          · exact .error _
          · exact .ok rfl
      | infinity t => exact .ok rfl

theorem div_gives [Py.Context] (ha : a.isNaN = false) (hb : b.isNaN = false) :
    Gives (a.div b : Except PyError Decimal) fun c => c.isNaN = false := by
  cases a with
  | nan => cases ha
  | snan => cases ha
  | finite p =>
      cases b with
      | nan => cases hb
      | snan => cases hb
      | finite q =>
          show Gives (if q = 0 then _ else _) _
          split
          · exact .error _
          · exact fixed_gives (p / q)
      | infinity t => exact .ok rfl
  | infinity s =>
      cases b with
      | nan => cases hb
      | snan => cases hb
      | finite q => exact .ok rfl
      | infinity t => exact .error _

end Operations

/-! ## The engine -/

/-- The amounts of a purchase, none of them a NaN. -/
structure PurchaseInput.Numeric (value : PurchaseInput Decimal) : Prop where
  quantity : value.quantity.isNaN = false
  cleanPrice : value.cleanPriceRubPerBond.isNaN = false
  accrued : value.accruedInterestRubPerBond.isNaN = false
  commission : value.commissionRubPerBond.isNaN = false

theorem validatePurchase_gives (value : PurchaseInput Decimal) :
    Gives (validatePurchase value) fun _ => value.Numeric := by
  unfold validatePurchase
  refine Gives.bind (le_gives _ _) fun empty hquantity => ?_
  refine Gives.check fun _ => ?_
  refine Gives.bind (Gives.orM (lt_gives _ _) (Gives.orM (lt_gives _ _) (lt_gives _ _))) ?_
  rintro negative ⟨hclean, hrest⟩
  cases negative with
  | true => exact .error _
  | false =>
      obtain ⟨haccrued, hcommission⟩ := hrest rfl
      exact .ok ⟨hquantity, hclean, haccrued, hcommission rfl⟩

theorem calculatePurchase_gives [Py.Context] (value : PurchaseInput Decimal) :
    Gives (calculatePurchase value) fun r =>
      value.Numeric ∧ r.purchaseTotal.isNaN = false := by
  unfold calculatePurchase
  refine Gives.bind (validatePurchase_gives value) fun _ hvalue => ?_
  refine Gives.bind (mul_gives hvalue.cleanPrice hvalue.quantity) fun clean hclean => ?_
  refine Gives.bind (mul_gives hvalue.accrued hvalue.quantity) fun accrued haccrued => ?_
  refine Gives.bind (mul_gives hvalue.commission hvalue.quantity) fun commission hcommission => ?_
  refine Gives.bind (add_gives hclean haccrued) fun subtotal hsubtotal => ?_
  refine Gives.bind (add_gives hsubtotal hcommission) fun total htotal => ?_
  exact .ok ⟨hvalue, htotal⟩

/-- The tax of the sheet: a division by a constant. -/
theorem applyTax_gives [Py.Context] {profit : Decimal} (hprofit : profit.isNaN = false) :
    Gives (applyTax profit customerTaxPolicy) fun r => r.isNaN = false := by
  unfold applyTax
  refine Gives.bind .trivial fun untaxed _ => ?_
  cases untaxed with
  | true => exact .ok hprofit
  | false => exact div_gives hprofit rfl

theorem annualizeProfit_gives [Py.Context] {profit purchaseTotal : Decimal}
    (hprofit : profit.isNaN = false) (purchaseDate exitDate : Date) :
    Gives (annualizeProfit profit purchaseTotal purchaseDate exitDate) fun r =>
      r.1.isNaN = false := by
  unfold annualizeProfit
  refine Gives.check fun _ => ?_
  refine Gives.bind (le_gives _ _) fun _ htotal => ?_
  refine Gives.check fun _ => ?_
  refine Gives.bind (div_gives hprofit htotal) fun ratio hratio => ?_
  refine Gives.bind (mul_gives hratio rfl) fun yearly hyearly => ?_
  refine Gives.bind (div_gives hyearly rfl) fun scaled hscaled => ?_
  refine Gives.bind (mul_gives hscaled rfl) fun percent hpercent => ?_
  exact .ok hpercent

/-- Both accumulators of the cash flows are numbers. -/
def CashflowTotals.Numeric (totals : CashflowTotals) : Prop :=
  totals.coupons.isNaN = false ∧ totals.amortizations.isNaN = false

theorem cashflowStep_gives [Py.Context] {quantity : Decimal} (hquantity : quantity.isNaN = false)
    (purchaseDate exitDate : Date) {acc : CashflowTotals} (hacc : acc.Numeric)
    (cashflow : CorporateCashFlow Decimal) :
    Gives (cashflowStep purchaseDate exitDate quantity acc cashflow) CashflowTotals.Numeric := by
  unfold cashflowStep
  refine Gives.bind (lt_gives _ _) fun _ hamount => ?_
  refine Gives.check fun _ => ?_
  split
  · exact .ok hacc
  · by_cases hseen : (cashflow.actionType, cashflow.eventDate, cashflow.amountRubPerBond) ∈ acc.seen
    · simp only [hseen, if_true]
      exact .ok hacc
    · simp only [hseen, if_false]
      split
      · refine Gives.bind (mul_gives hamount hquantity) fun _ hpaid => ?_
        refine Gives.bind (add_gives hacc.1 hpaid) fun _ hcoupons => ?_
        exact .ok ⟨hcoupons, hacc.2⟩
      · refine Gives.bind (mul_gives hamount hquantity) fun _ hpaid => ?_
        refine Gives.bind (add_gives hacc.2 hpaid) fun _ hamortizations => ?_
        exact .ok ⟨hacc.1, hamortizations⟩
      · exact .ok hacc

theorem cashflowTotals_gives [Py.Context] {quantity : Decimal} (hquantity : quantity.isNaN = false)
    (cashflows : List (CorporateCashFlow Decimal)) (purchaseDate exitDate : Date) :
    Gives (cashflowTotals cashflows purchaseDate exitDate quantity) fun r =>
      r.1.isNaN = false ∧ r.2.isNaN = false := by
  unfold cashflowTotals
  refine Gives.bind (Gives.foldlM (I := CashflowTotals.Numeric) ?_ ⟨rfl, rfl⟩) ?_
  · intro acc hacc cashflow _
    exact cashflowStep_gives hquantity purchaseDate exitDate hacc cashflow
  · intro totals htotals
    exact .ok htotals

theorem checkExitAmount_gives (amount : Decimal) :
    Gives (checkExitAmount amount) fun _ => amount.isNaN = false := by
  unfold checkExitAmount
  refine Gives.bind (lt_gives _ _) fun negative hamount => ?_
  cases negative with
  | true => exact .error _
  | false => exact .ok hamount

/-- The results that the sheet shows, none of them a NaN. -/
structure YieldResult.Numeric (result : YieldResult Decimal) : Prop where
  coupons : result.couponsTotal.isNaN = false
  exitTotal : result.exitTotal.isNaN = false
  profitBeforeTax : result.profitBeforeTax.isNaN = false
  profitAfterTax : result.profitAfterTax.isNaN = false
  annualYieldAfterTax : result.annualYieldAfterTax.isNaN = false

/-- **The engine gives no NaN**, whatever amounts it is called with. -/
theorem calculateCurrentYield_gives [Py.Context] {value : CurrentYieldInput Decimal}
    (hpolicy : value.taxPolicy = customerTaxPolicy) :
    Gives (calculateCurrentYield value) YieldResult.Numeric := by
  unfold calculateCurrentYield
  refine Gives.bind (checkExitAmount_gives _) fun _ hbid => ?_
  refine Gives.bind (checkExitAmount_gives _) fun _ haccrued => ?_
  refine Gives.bind (checkExitAmount_gives _) fun _ hcommission => ?_
  refine Gives.bind (calculatePurchase_gives _) ?_
  rintro purchase ⟨hpurchase, htotal⟩
  have hquantity := hpurchase.quantity
  refine Gives.bind (cashflowTotals_gives hquantity _ _ _) ?_
  rintro ⟨coupons, amortizations⟩ ⟨hcoupons, hamortizations⟩
  refine Gives.bind (mul_gives hbid hquantity) fun market hmarket => ?_
  refine Gives.bind (mul_gives haccrued hquantity) fun current hcurrent => ?_
  refine Gives.bind (mul_gives hcommission hquantity) fun sale hsale => ?_
  refine Gives.bind (add_gives hmarket hcurrent) fun _ hsum => ?_
  refine Gives.bind (add_gives hsum hcoupons) fun _ hsum => ?_
  refine Gives.bind (add_gives hsum hamortizations) fun _ hsum => ?_
  refine Gives.bind (sub_gives hsum hsale) fun exitTotal hexit => ?_
  unfold yieldResult
  refine Gives.bind (sub_gives hexit htotal) fun before hbefore => ?_
  rw [hpolicy]
  refine Gives.bind (applyTax_gives hbefore) fun after hafter => ?_
  refine Gives.bind .trivial fun annualBefore _ => ?_
  refine Gives.bind (annualizeProfit_gives hafter _ _) fun annualAfter hannual => ?_
  exact .ok ⟨hcoupons, hexit, hbefore, hafter, hannual⟩

/-- **Nor does the calculation of a row.** -/
theorem calculateSheetCurrent_gives [Py.Context] (purchase : SheetPurchaseInput)
    (valuationDate : Date)
    (offer accrued : Decimal) (cashflows : List (CorporateCashFlow Decimal)) :
    Gives (calculateSheetCurrent purchase valuationDate offer accrued cashflows) fun r =>
      r.currentExitTotalRub.isNaN = false ∧ r.profitBeforeTaxRub.isNaN = false ∧
        r.profitAfterTaxRub.isNaN = false ∧ r.annualYieldAfterTaxPercent.isNaN = false := by
  unfold calculateSheetCurrent
  refine Gives.bind .trivial fun commission _ => ?_
  refine Gives.bind (calculateCurrentYield_gives rfl) fun result hresult => ?_
  refine Gives.bind .trivial fun coupons _ => ?_
  have hnumbers := And.intro hresult.exitTotal (And.intro hresult.profitBeforeTax
    (And.intro hresult.profitAfterTax hresult.annualYieldAfterTax))
  -- the plan, where the row states one, changes none of the four
  cases purchase.plannedAnnualYieldPercent with
  | none => exact .ok hnumbers
  | some planned => exact Gives.bind .trivial fun planDelta _ => .ok hnumbers

/-- A rounded amount that is no NaN is written as a number. -/
theorem money_gives {d : Decimal} (hd : d.isNaN = false) :
    Gives (money (some d)) fun cell => ∃ q : ℚ, cell = .decimal (.finite q) := by
  refine Gives.map ?_
  cases d with
  | finite q =>
      rw [Decimal.quantize_finite]
      split
      · exact .ok ⟨_, rfl⟩
      · exact .error _
  | infinity s => exact .error _
  | nan => cases hd
  | snan => cases hd

end BondTrading
