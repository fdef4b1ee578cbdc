/-
# BondTrading.Domain.Scaling -- the quantity is a factor of every amount

A position of `k * q` bonds costs, receives and earns `k` times what `q` bonds do.  Each
formula of `Domain.Exact` is shown to have that degree (amounts one, yields zero), the
conditions of a scenario do not see the size of a positive quantity, and the two entry
points inherit both.
-/
import BondTrading.Domain.Yields

namespace BondTrading

open Py (Decimal Returns)

/-! ## Vocabulary -/

def PurchaseInput.withQuantity (p : PurchaseInput ℚ) (q : ℚ) : PurchaseInput ℚ :=
  { p with quantity := q }

def PlannedYieldInput.withQuantity (v : PlannedYieldInput ℚ) (q : ℚ) : PlannedYieldInput ℚ :=
  { v with purchase := v.purchase.withQuantity q }

def CurrentYieldInput.withQuantity (v : CurrentYieldInput ℚ) (q : ℚ) : CurrentYieldInput ℚ :=
  { v with purchase := v.purchase.withQuantity q }

/-- `k` times the money, at the same yields over the same days. -/
def YieldResult.scale (k : ℚ) (r : YieldResult ℚ) : YieldResult ℚ where
  purchase := r.purchase.map (k * ·)
  couponsTotal := k * r.couponsTotal
  amortizationsTotal := k * r.amortizationsTotal
  redemptionOrMarketTotal := k * r.redemptionOrMarketTotal
  accruedInterestTotal := k * r.accruedInterestTotal
  saleCommissionTotal := k * r.saleCommissionTotal
  exitTotal := k * r.exitTotal
  profitBeforeTax := k * r.profitBeforeTax
  profitAfterTax := k * r.profitAfterTax
  annualYieldBeforeTax := r.annualYieldBeforeTax
  annualYieldAfterTax := r.annualYieldAfterTax
  holdingDays := r.holdingDays

/-- Every field of a result that is an amount of money. -/
def YieldResult.amounts (r : YieldResult ℚ) : List ℚ :=
  [r.purchase.cleanPriceTotal, r.purchase.accruedInterestTotal, r.purchase.commissionTotal,
    r.purchase.purchaseTotal, r.couponsTotal, r.amortizationsTotal, r.redemptionOrMarketTotal,
    r.accruedInterestTotal, r.saleCommissionTotal, r.exitTotal, r.profitBeforeTax,
    r.profitAfterTax]

/-- The fields that are not. -/
def YieldResult.rates (r : YieldResult ℚ) : ℚ × ℚ × ℤ :=
  (r.annualYieldBeforeTax, r.annualYieldAfterTax, r.holdingDays)

@[simp] theorem YieldResult.amounts_scale (k : ℚ) (r : YieldResult ℚ) :
    (r.scale k).amounts = r.amounts.map (k * ·) := rfl

@[simp] theorem YieldResult.rates_scale (k : ℚ) (r : YieldResult ℚ) :
    (r.scale k).rates = r.rates := rfl

/-- A calculation in which the quantity is a factor of the money and of nothing else. -/
structure ScalesWithQuantity (calculate : ℚ → Except PyError (YieldResult Decimal)) : Prop where
  returns_iff : ∀ q q', 0 < q → 0 < q' →
    ((∃ r, calculate q = .ok r) ↔ ∃ r, calculate q' = .ok r)
  scales : ∀ q, 0 < q → ∀ r, calculate q = .ok r →
    ∃ x : YieldResult ℚ, r = x.map .finite ∧
      ∀ q', 0 < q' → calculate q' = .ok ((x.scale (q' / q)).map .finite)

/-- A calculation that gives the parts of a lot the yields of the whole, and amounts that
add up to those of the whole. -/
def SplitsByQuantity (calculate : ℚ → Except PyError (YieldResult Decimal)) : Prop :=
  ∀ q₁ q₂, 0 < q₁ → 0 < q₂ → ∀ r, calculate (q₁ + q₂) = .ok r →
    ∃ x x₁ x₂ : YieldResult ℚ, r = x.map .finite ∧
      calculate q₁ = .ok (x₁.map .finite) ∧ calculate q₂ = .ok (x₂.map .finite) ∧
      x₁.rates = x.rates ∧ x₂.rates = x.rates ∧
      List.zipWith (· + ·) x₁.amounts x₂.amounts = x.amounts

/-! ## The degree of each formula -/

section Degree

variable {k : ℚ} (p : PurchaseInput ℚ) (q : ℚ)

theorem PurchaseInput.costs_mul :
    (p.withQuantity (k * q)).costs = (p.withQuantity q).costs.map (k * ·) := by
  simp only [PurchaseInput.costs, PurchaseInput.withQuantity, PurchaseResult.map,
    PurchaseResult.mk.injEq]
  refine ⟨?_, ?_, ?_, ?_⟩ <;> ring

theorem eventTotal_mul (t : ActionType) (pd ed : Date) (l : List (CorporateCashFlow ℚ)) :
    eventTotal t pd ed (k * q) l = k * eventTotal t pd ed q l :=
  mul_assoc _ _ _

/-- A positive factor leaves the profit on its side of zero. -/
theorem taxedProfit_mul (hk : 0 < k) (profit : ℚ) (policy : TaxPolicy ℚ) :
    taxedProfit (k * profit) policy = k * taxedProfit profit policy := by
  have hside : k * profit ≤ 0 ↔ profit ≤ 0 :=
    ⟨fun h => nonpos_of_mul_nonpos_right h hk, mul_nonpos_of_nonneg_of_nonpos hk.le⟩
  by_cases hprofit : profit ≤ 0
  · simp only [taxedProfit, if_pos hprofit, if_pos (hside.mpr hprofit)]
  · simp only [taxedProfit, if_neg hprofit, if_neg (hprofit ∘ hside.mp)]
    cases policy.mode with
    | none => rfl
    | flatRate => exact mul_assoc _ _ _
    | legacyDivide113 => exact mul_div_assoc _ _ _

theorem annualYield_mul (hk : 0 < k) (profit total : ℚ) (days : ℤ) :
    annualYield (k * profit) (k * total) days = annualYield profit total days := by
  rw [annualYield, mul_div_mul_left _ _ hk.ne', annualYield]

theorem exactResult_mul (hk : 0 < k) (coupons amortizations other accrued sale exitTotal : ℚ)
    (ed : Date) (policy : TaxPolicy ℚ) :
    exactResult (p.withQuantity (k * q)) (k * coupons) (k * amortizations) (k * other)
        (k * accrued) (k * sale) (k * exitTotal) ed policy =
      (exactResult (p.withQuantity q) coupons amortizations other accrued sale exitTotal ed
        policy).scale k := by
  have htotal : ((p.withQuantity q).costs.map (k * ·)).purchaseTotal =
      k * (p.withQuantity q).costs.purchaseTotal := rfl
  have hdate : (p.withQuantity (k * q)).purchaseDate = (p.withQuantity q).purchaseDate := rfl
  simp only [exactResult, YieldResult.scale, p.costs_mul, htotal, hdate, ← mul_sub,
    taxedProfit_mul hk, annualYield_mul hk]

/-- Every condition is on the amounts of one bond, on dates, or on a sign that a positive
factor leaves alone. -/
theorem PurchaseInput.admissible_mul (hk : 0 < k) (exits : List ℚ) (flows : List (CorporateCashFlow ℚ))
    (ed : Date) (policy : TaxPolicy ℚ) (profit : ℚ) :
    Admissible (p.withQuantity (k * q)) exits flows ed policy (k * profit) ↔
      Admissible (p.withQuantity q) exits flows ed policy profit := by
  have hquantity : 0 < (p.withQuantity (k * q)).quantity ↔ 0 < (p.withQuantity q).quantity :=
    mul_pos_iff_of_pos_left hk
  have htotal : 0 < (p.withQuantity (k * q)).costs.purchaseTotal ↔
      0 < (p.withQuantity q).costs.purchaseTotal := by
    rw [p.costs_mul]
    exact mul_pos_iff_of_pos_left hk
  have haccepts : policy.Accepts (k * profit) ↔ policy.Accepts profit := by
    unfold TaxPolicy.Accepts
    rw [mul_pos_iff_of_pos_left hk]
  rw [admissible_iff, admissible_iff, hquantity, htotal, haccepts]
  rfl

end Degree

/-! ## The two scenarios -/

section Scenarios

variable {k : ℚ} (hk : 0 < k) (q : ℚ)
include hk

theorem PlannedYieldInput.closedForm_mul (v : PlannedYieldInput ℚ) :
    (v.withQuantity (k * q)).closedForm = (v.withQuantity q).closedForm.scale k := by
  have hresult := exactResult_mul v.purchase q hk
    (eventTotal .coupon v.purchase.purchaseDate v.targetDate q v.cashflows)
    (eventTotal .amortization v.purchase.purchaseDate v.targetDate q v.cashflows)
    (v.finalRedemptionRubPerBond * q) 0 (v.saleCommissionRubPerBond * q)
    (v.withQuantity q).closedForm.exitTotal v.targetDate v.taxPolicy
  refine Eq.trans ?_ hresult
  simp only [PlannedYieldInput.closedForm, PlannedYieldInput.withQuantity,
    PurchaseInput.withQuantity, exactResult, eventTotal_mul, mul_zero]
  ring_nf

theorem CurrentYieldInput.closedForm_mul (v : CurrentYieldInput ℚ) :
    (v.withQuantity (k * q)).closedForm = (v.withQuantity q).closedForm.scale k := by
  have hresult := exactResult_mul v.purchase q hk
    (eventTotal .coupon v.purchase.purchaseDate v.valuationDate q v.cashflows)
    (eventTotal .amortization v.purchase.purchaseDate v.valuationDate q v.cashflows)
    (v.bidRubPerBond * q) (v.currentAccruedInterestRubPerBond * q)
    (v.saleCommissionRubPerBond * q) (v.withQuantity q).closedForm.exitTotal v.valuationDate
    v.taxPolicy
  refine Eq.trans ?_ hresult
  simp only [CurrentYieldInput.closedForm, CurrentYieldInput.withQuantity,
    PurchaseInput.withQuantity, exactResult, eventTotal_mul]
  ring_nf

end Scenarios

/-! ## Both entry points -/

theorem ScalesWithQuantity.of_returns {calculate : ℚ → Except PyError (YieldResult Decimal)}
    {admissible : ℚ → Prop} {closed : ℚ → YieldResult ℚ}
    (hreturns : ∀ q, Returns (calculate q) (admissible q) ((closed q).map .finite))
    (hadmissible : ∀ k q, 0 < k → (admissible (k * q) ↔ admissible q))
    (hclosed : ∀ k q, 0 < k → closed (k * q) = (closed q).scale k) :
    ScalesWithQuantity calculate := by
  have hfactor : ∀ q q' : ℚ, 0 < q → q' = q' / q * q := fun q q' hq =>
    (div_mul_cancel₀ q' hq.ne').symm
  have hsame : ∀ q q', 0 < q → 0 < q' → (admissible q ↔ admissible q') := by
    intro q q' hq hq'
    conv => rhs; rw [hfactor q q' hq]
    exact (hadmissible _ q (div_pos hq' hq)).symm
  constructor
  · intro q q' hq hq'
    rw [(hreturns q).iff, (hreturns q').iff]
    exact hsame q q' hq hq'
  · intro q hq r hr
    have hadm : admissible q := (hreturns q).iff.mp ⟨r, hr⟩
    refine ⟨closed q, Except.ok.inj (hr.symm.trans ((hreturns q).returns hadm)), ?_⟩
    intro q' hq'
    rw [← hclosed _ q (div_pos hq' hq), ← hfactor q q' hq]
    exact (hreturns q').returns ((hsame q q' hq hq').mp hadm)

/-- The shares of the parts add up to one. -/
theorem ScalesWithQuantity.splits {calculate : ℚ → Except PyError (YieldResult Decimal)}
    (h : ScalesWithQuantity calculate) : SplitsByQuantity calculate := by
  intro q₁ q₂ h₁ h₂ r hr
  have hsum : 0 < q₁ + q₂ := add_pos h₁ h₂
  have hshares : q₁ / (q₁ + q₂) + q₂ / (q₁ + q₂) = 1 := by
    rw [← add_div, div_self hsum.ne']
  obtain ⟨x, hx, hparts⟩ := h.scales _ hsum r hr
  refine ⟨x, x.scale (q₁ / (q₁ + q₂)), x.scale (q₂ / (q₁ + q₂)), hx, hparts q₁ h₁,
    hparts q₂ h₂, rfl, rfl, ?_⟩
  rw [YieldResult.amounts_scale, YieldResult.amounts_scale, List.zipWith_map, List.zipWith_self]
  simp [← add_mul, hshares]

theorem PlannedYieldInput.admissible_mul (v : PlannedYieldInput ℚ) {k : ℚ} (q : ℚ) (hk : 0 < k) :
    (v.withQuantity (k * q)).Admissible ↔ (v.withQuantity q).Admissible := by
  have hprofit : (v.withQuantity (k * q)).closedForm.profitBeforeTax =
      k * (v.withQuantity q).closedForm.profitBeforeTax := by
    rw [PlannedYieldInput.closedForm_mul hk]
    rfl
  unfold PlannedYieldInput.Admissible
  rw [hprofit]
  exact v.purchase.admissible_mul q hk _ _ _ _ _

theorem CurrentYieldInput.admissible_mul (v : CurrentYieldInput ℚ) {k : ℚ} (q : ℚ) (hk : 0 < k) :
    (v.withQuantity (k * q)).Admissible ↔ (v.withQuantity q).Admissible := by
  have hprofit : (v.withQuantity (k * q)).closedForm.profitBeforeTax =
      k * (v.withQuantity q).closedForm.profitBeforeTax := by
    rw [CurrentYieldInput.closedForm_mul hk]
    rfl
  unfold CurrentYieldInput.Admissible
  rw [hprofit]
  exact v.purchase.admissible_mul q hk _ _ _ _ _

/-- **Quantity is only a factor.**  With everything else equal, two positive quantities are
both accepted or both rejected; the amounts are in the ratio of the quantities, the yields
and the days are the same; so a lot may be split without changing its yield, and the
amounts of its parts add up to its own. -/
theorem yields_scale_with_quantity :
    (∀ v : PlannedYieldInput ℚ,
      ScalesWithQuantity (fun q => calculatePlannedYield ((v.withQuantity q).map .finite)) ∧
      SplitsByQuantity (fun q => calculatePlannedYield ((v.withQuantity q).map .finite))) ∧
    (∀ v : CurrentYieldInput ℚ,
      ScalesWithQuantity (fun q => calculateCurrentYield ((v.withQuantity q).map .finite)) ∧
      SplitsByQuantity (fun q => calculateCurrentYield ((v.withQuantity q).map .finite))) := by
  constructor
  · intro v
    have hscales : ScalesWithQuantity
        (fun q => calculatePlannedYield ((v.withQuantity q).map .finite)) :=
      .of_returns (fun q => calculatePlannedYield_returns (v.withQuantity q))
        (fun _ q hk => v.admissible_mul q hk) (fun _ q hk => v.closedForm_mul hk q)
    exact ⟨hscales, hscales.splits⟩
  · intro v
    have hscales : ScalesWithQuantity
        (fun q => calculateCurrentYield ((v.withQuantity q).map .finite)) :=
      .of_returns (fun q => calculateCurrentYield_returns (v.withQuantity q))
        (fun _ q hk => v.admissible_mul q hk) (fun _ q hk => v.closedForm_mul hk q)
    exact ⟨hscales, hscales.splits⟩

/-- Ten bonds as four and six: the four cost 3844 of the 9610. -/
theorem yields_scale_with_quantity_yearHolding :
    ∃ x x₁ x₂ : YieldResult ℚ,
      calculatePlannedYield ((yearHolding.withQuantity 4).map .finite) = .ok (x₁.map .finite) ∧
        calculatePlannedYield ((yearHolding.withQuantity 6).map .finite) = .ok (x₂.map .finite) ∧
        x₁.rates = x.rates ∧ x₂.rates = x.rates ∧
        List.zipWith (· + ·) x₁.amounts x₂.amounts = x.amounts := by
  have hwhole : (yearHolding.withQuantity (4 + 6)).Admissible := by
    constructor <;> decide +kernel
  obtain ⟨x, x₁, x₂, -, hparts⟩ := (yields_scale_with_quantity.1 yearHolding).2 4 6 (by decide)
    (by decide) _ ((calculatePlannedYield_returns _).returns hwhole)
  exact ⟨x, x₁, x₂, hparts⟩

end BondTrading
