/-
# BondTrading.Domain.Monotone -- which way the yield moves

The annual yield after tax as a function of one argument at a time.  Tax is monotone and
has degree one, so the yield is the taxed RETURN on the purchase, `exit / cost - 1`,
annualised; an exit amount moves the first term up, and a purchase amount moves it down
as long as the exit is worth something.
-/
import BondTrading.Domain.Scaling

namespace BondTrading

open Py (Decimal)

theorem finite_le_true {a b : ℚ} (h : a ≤ b) :
    (Decimal.finite a).le (.finite b) = Except.ok (ε := PyError) true := by
  rw [Decimal.le_finite, decide_eq_true h]

/-! ## Tax -/

section Tax

variable {policy : TaxPolicy ℚ} {profit profit' : ℚ}

theorem taxedProfit_of_nonpos (h : profit ≤ 0) : taxedProfit profit policy = profit := if_pos h

/-- Tax never takes more than the profit. -/
theorem taxedProfit_nonneg (haccepts : policy.Accepts profit) (h : 0 < profit) :
    0 ≤ taxedProfit profit policy := by
  rw [taxedProfit, if_neg (not_le.mpr h)]
  cases hmode : policy.mode with
  | none => exact h.le
  | flatRate => exact mul_nonneg h.le (sub_nonneg.mpr (haccepts h hmode).2)
  | legacyDivide113 => exact div_nonneg h.le (by norm_num)

/-- Tax never adds to it. -/
theorem taxedProfit_le (haccepts : policy.Accepts profit) : taxedProfit profit policy ≤ profit := by
  by_cases h : profit ≤ 0
  · exact (taxedProfit_of_nonpos h).le
  · have hpos : 0 < profit := not_le.mp h
    rw [taxedProfit, if_neg h]
    cases hmode : policy.mode with
    | none => exact le_refl _
    | flatRate =>
        have hrate : 0 ≤ policy.rate := (haccepts hpos hmode).1
        exact mul_le_of_le_one_right hpos.le (by linarith)
    | legacyDivide113 => exact div_le_self hpos.le (by norm_num)

/-- Crossing the kink: up to zero the profit itself, beyond it something non-negative. -/
theorem taxedProfit_mono (haccepts : policy.Accepts profit') (h : profit ≤ profit') :
    taxedProfit profit policy ≤ taxedProfit profit' policy := by
  by_cases hprofit : profit ≤ 0
  · by_cases hprofit' : profit' ≤ 0
    · rwa [taxedProfit_of_nonpos hprofit, taxedProfit_of_nonpos hprofit']
    · calc taxedProfit profit policy
          = profit := taxedProfit_of_nonpos hprofit
        _ ≤ 0 := hprofit
        _ ≤ taxedProfit profit' policy := taxedProfit_nonneg haccepts (not_le.mp hprofit')
  · have hpos' : 0 < profit' := lt_of_lt_of_le (not_le.mp hprofit) h
    rw [taxedProfit, taxedProfit, if_neg hprofit, if_neg (not_le.mpr hpos')]
    cases hmode : policy.mode with
    | none => exact h
    | flatRate =>
        have hkeep : 0 ≤ 1 - policy.rate := sub_nonneg.mpr (haccepts hpos' hmode).2
        exact mul_le_mul_of_nonneg_right h hkeep
    | legacyDivide113 => exact div_le_div_of_nonneg_right h (by norm_num)

end Tax

/-! ## The yield of one holding -/

theorem annualYield_mono {profit profit' total : ℚ} {days : ℤ} (htotal : 0 < total)
    (hdays : 0 < days) (h : profit ≤ profit') :
    annualYield profit total days ≤ annualYield profit' total days := by
  have hdays : (0 : ℚ) < days := Int.cast_pos.mpr hdays
  unfold annualYield
  gcongr

/-- What is left of the exit `exitTotal` of a purchase for `cost`, after tax, a year. -/
def yieldAfterTax (policy : TaxPolicy ℚ) (exitTotal cost : ℚ) (days : ℤ) : ℚ :=
  annualYield (taxedProfit (exitTotal - cost) policy) cost days

theorem yieldAfterTax_mono_exit {policy : TaxPolicy ℚ} {exit exit' cost : ℚ} {days : ℤ}
    (hcost : 0 < cost) (hdays : 0 < days) (haccepts : policy.Accepts (exit' - cost))
    (h : exit ≤ exit') :
    yieldAfterTax policy exit cost days ≤ yieldAfterTax policy exit' cost days := by
  have hprofit : exit - cost ≤ exit' - cost := sub_le_sub_right h cost
  exact annualYield_mono hcost hdays (taxedProfit_mono haccepts hprofit)

/-- Tax has degree one, so it may be taken of the return. -/
theorem yieldAfterTax_eq_return (policy : TaxPolicy ℚ) (exit : ℚ) {cost : ℚ} (days : ℤ)
    (hcost : 0 < cost) :
    yieldAfterTax policy exit cost days = annualYield (taxedProfit (exit / cost - 1) policy) 1 days := by
  have hreturn : exit - cost = cost * (exit / cost - 1) := by
    rw [mul_sub, mul_div_cancel₀ exit hcost.ne', mul_one]
  have hyield := annualYield_mul hcost (taxedProfit (exit / cost - 1) policy) 1 days
  rw [yieldAfterTax, hreturn, taxedProfit_mul hcost, ← hyield, mul_one]

theorem yieldAfterTax_anti_cost {policy : TaxPolicy ℚ} {exit cost cost' : ℚ} {days : ℤ}
    (hcost : 0 < cost) (hdays : 0 < days) (hexit : 0 ≤ exit)
    (haccepts : policy.Accepts (exit - cost)) (h : cost ≤ cost') :
    yieldAfterTax policy exit cost' days ≤ yieldAfterTax policy exit cost days := by
  have hcost' : 0 < cost' := lt_of_lt_of_le hcost h
  have hreturn : exit / cost' - 1 ≤ exit / cost - 1 :=
    sub_le_sub_right (div_le_div_of_nonneg_left hexit hcost h) 1
  -- the return is positive exactly when the profit is
  have haccepts' : policy.Accepts (exit / cost - 1) := by
    intro hpos hmode
    rw [sub_pos, one_lt_div hcost] at hpos
    exact haccepts (sub_pos.mpr hpos) hmode
  rw [yieldAfterTax_eq_return policy exit days hcost, yieldAfterTax_eq_return policy exit days hcost']
  exact annualYield_mono one_pos hdays (taxedProfit_mono haccepts' hreturn)

/-! ## More events -/

theorem eventAmounts_mono {t : ActionType} {pd ed : Date} {l l' : List (CorporateCashFlow ℚ)}
    (h : ∀ c ∈ l, c ∈ l') : eventAmounts t pd ed l ⊆ eventAmounts t pd ed l' := by
  intro x hx
  obtain ⟨c, hc, hevent⟩ := mem_eventAmounts.mp hx
  exact mem_eventAmounts.mpr ⟨c, h c hc, hevent⟩

/-- Whether the new flow is outside the window, a repetition or counted. -/
theorem eventTotal_mono {t : ActionType} {pd ed : Date} {q : ℚ} {l l' : List (CorporateCashFlow ℚ)}
    (hq : 0 ≤ q) (hl' : ∀ c ∈ l', 0 ≤ c.amountRubPerBond) (h : ∀ c ∈ l, c ∈ l') :
    eventTotal t pd ed q l ≤ eventTotal t pd ed q l' := by
  have hsum : ∑ x ∈ eventAmounts t pd ed l, x.2 ≤ ∑ x ∈ eventAmounts t pd ed l', x.2 := by
    refine Finset.sum_le_sum_of_subset_of_nonneg (eventAmounts_mono h) fun x hx _ => ?_
    obtain ⟨c, hc, -, -, rfl⟩ := mem_eventAmounts.mp hx
    exact hl' c hc
  exact mul_le_mul_of_nonneg_left hsum hq

/-! ## The current scenario -/

section Current

variable {v v' : CurrentYieldInput ℚ}

/-- Whenever both can be computed, `v'` yields at least what `v` does. -/
def YieldsNoLess (v v' : CurrentYieldInput ℚ) : Prop :=
  ∀ r r', calculateCurrentYield (v.map .finite) = .ok r →
    calculateCurrentYield (v'.map .finite) = .ok r' →
    r.annualYieldAfterTax.le r'.annualYieldAfterTax = Except.ok (ε := PyError) true

/-- The same where the exit of `v` is worth something. -/
def YieldsNoMore (v v' : CurrentYieldInput ℚ) : Prop :=
  ∀ r r', calculateCurrentYield (v.map .finite) = .ok r →
    calculateCurrentYield (v'.map .finite) = .ok r' →
    ZERO.le r.exitTotal = Except.ok (ε := PyError) true →
    r'.annualYieldAfterTax.le r.annualYieldAfterTax = Except.ok (ε := PyError) true

theorem CurrentYieldInput.ok_inv {r : YieldResult Decimal}
    (h : calculateCurrentYield (v.map .finite) = .ok r) :
    v.Admissible ∧ r = v.closedForm.map .finite := by
  have hreturns := calculateCurrentYield_returns v
  have hadm : v.Admissible := hreturns.iff.mp ⟨r, h⟩
  exact ⟨hadm, Except.ok.inj (h.symm.trans (hreturns.returns hadm))⟩

theorem CurrentYieldInput.closedForm_yield (v : CurrentYieldInput ℚ) :
    v.closedForm.annualYieldAfterTax = yieldAfterTax v.taxPolicy v.closedForm.exitTotal
      v.purchase.costs.purchaseTotal (v.valuationDate - v.purchase.purchaseDate) := rfl

theorem CurrentYieldInput.Admissible.days_pos (h : v.Admissible) :
    0 < v.valuationDate - v.purchase.purchaseDate := sub_pos.mpr h.exit_after

/-- The same purchase, held for the same days: the exits decide. -/
theorem yieldsNoLess_of_exit (hpurchase : v.purchase = v'.purchase)
    (hvaluation : v.valuationDate = v'.valuationDate) (hpolicy : v.taxPolicy = v'.taxPolicy)
    (hexit : v.Admissible → v'.Admissible → v.closedForm.exitTotal ≤ v'.closedForm.exitTotal) :
    YieldsNoLess v v' := by
  intro r r' hr hr'
  obtain ⟨hadm, rfl⟩ := v.ok_inv hr
  obtain ⟨hadm', rfl⟩ := v'.ok_inv hr'
  have hmono := yieldAfterTax_mono_exit hadm'.total_pos hadm'.days_pos hadm'.rate_ok
    (hexit hadm hadm')
  have hyield : v.closedForm.annualYieldAfterTax ≤ v'.closedForm.annualYieldAfterTax := by
    rw [v.closedForm_yield, v'.closedForm_yield, hpurchase, hvaluation, hpolicy]
    exact hmono
  exact finite_le_true hyield

/-- The same exit after the same days: the purchases decide. -/
theorem yieldsNoMore_of_cost (hdate : v.purchase.purchaseDate = v'.purchase.purchaseDate)
    (hvaluation : v.valuationDate = v'.valuationDate) (hpolicy : v.taxPolicy = v'.taxPolicy)
    (hexit : v.closedForm.exitTotal = v'.closedForm.exitTotal)
    (hcost : v.Admissible → v.purchase.costs.purchaseTotal ≤ v'.purchase.costs.purchaseTotal) :
    YieldsNoMore v v' := by
  intro r r' hr hr' hworth
  obtain ⟨hadm, rfl⟩ := v.ok_inv hr
  obtain ⟨hadm', rfl⟩ := v'.ok_inv hr'
  have hworth : 0 ≤ v.closedForm.exitTotal := of_decide_eq_true (Except.ok.inj hworth)
  have hanti := yieldAfterTax_anti_cost hadm.total_pos hadm.days_pos hworth hadm.rate_ok
    (hcost hadm)
  have hyield : v'.closedForm.annualYieldAfterTax ≤ v.closedForm.annualYieldAfterTax := by
    rw [v.closedForm_yield, v'.closedForm_yield, ← hdate, ← hvaluation, ← hpolicy, ← hexit]
    exact hanti
  exact finite_le_true hyield

/-! ### Exit amounts -/

theorem bid_yieldsNoLess (v : CurrentYieldInput ℚ) {bid : ℚ} (h : v.bidRubPerBond ≤ bid) :
    YieldsNoLess v { v with bidRubPerBond := bid } := by
  refine yieldsNoLess_of_exit rfl rfl rfl fun hadm _ => ?_
  have hmarket := mul_le_mul_of_nonneg_right h hadm.quantity_pos.le
  simp only [CurrentYieldInput.closedForm, exactResult]
  linarith only [hmarket]

theorem accrued_yieldsNoLess (v : CurrentYieldInput ℚ) {accrued : ℚ}
    (h : v.currentAccruedInterestRubPerBond ≤ accrued) :
    YieldsNoLess v { v with currentAccruedInterestRubPerBond := accrued } := by
  refine yieldsNoLess_of_exit rfl rfl rfl fun hadm _ => ?_
  have haccrued := mul_le_mul_of_nonneg_right h hadm.quantity_pos.le
  simp only [CurrentYieldInput.closedForm, exactResult]
  linarith only [haccrued]

theorem saleCommission_yieldsNoLess (v : CurrentYieldInput ℚ) {sale : ℚ}
    (h : v.saleCommissionRubPerBond ≤ sale) :
    YieldsNoLess { v with saleCommissionRubPerBond := sale } v := by
  refine yieldsNoLess_of_exit rfl rfl rfl fun _ hadm => ?_
  have hsale := mul_le_mul_of_nonneg_right h hadm.quantity_pos.le
  simp only [CurrentYieldInput.closedForm, exactResult]
  linarith only [hsale]

theorem cashflow_yieldsNoLess (v : CurrentYieldInput ℚ)
    {before after : List (CorporateCashFlow ℚ)} (c : CorporateCashFlow ℚ)
    (h : v.cashflows = before ++ after) :
    YieldsNoLess v { v with cashflows := before ++ c :: after } := by
  refine yieldsNoLess_of_exit rfl rfl rfl fun hadm hadm' => ?_
  have hkept : ∀ d ∈ v.cashflows, d ∈ before ++ c :: after := by
    intro d hd
    rw [h] at hd
    simp only [List.mem_append, List.mem_cons] at hd ⊢
    tauto
  have hevents : ∀ t, eventTotal t v.purchase.purchaseDate v.valuationDate _ v.cashflows ≤
      eventTotal t v.purchase.purchaseDate v.valuationDate _ _ := fun t =>
    eventTotal_mono hadm.quantity_pos.le hadm'.flows_nonneg hkept
  have hcoupons := hevents .coupon
  have hamortizations := hevents .amortization
  simp only [CurrentYieldInput.closedForm, exactResult]
  linarith only [hcoupons, hamortizations]

/-! ### Purchase amounts -/

/-- Dearer in any of the three amounts of a bond. -/
theorem purchase_yieldsNoMore (v : CurrentYieldInput ℚ) {clean accrued commission : ℚ}
    (hclean : v.purchase.cleanPriceRubPerBond ≤ clean)
    (haccrued : v.purchase.accruedInterestRubPerBond ≤ accrued)
    (hcommission : v.purchase.commissionRubPerBond ≤ commission) :
    YieldsNoMore v { v with purchase :=
      ⟨v.purchase.purchaseDate, v.purchase.quantity, clean, accrued, commission⟩ } := by
  refine yieldsNoMore_of_cost rfl rfl rfl rfl fun hadm => ?_
  have hq : 0 ≤ v.purchase.quantity := hadm.quantity_pos.le
  simp only [PurchaseInput.costs]
  gcongr

end Current

/-! ## The result after tax -/

/-- What tax may do to a result. -/
structure TaxedFairly (r : YieldResult Decimal) : Prop where
  yield_le : r.annualYieldAfterTax.le r.annualYieldBeforeTax = Except.ok (ε := PyError) true
  loss : r.profitBeforeTax.le ZERO = Except.ok (ε := PyError) true →
    r.profitAfterTax = r.profitBeforeTax
  gain : ZERO.lt r.profitBeforeTax = Except.ok (ε := PyError) true →
    ZERO.le r.profitAfterTax = Except.ok (ε := PyError) true

theorem exactResult_taxedFairly (p : PurchaseInput ℚ)
    (coupons amortizations other accrued sale exitTotal : ℚ) {ed : Date} {policy : TaxPolicy ℚ}
    (htotal : 0 < p.costs.purchaseTotal) (hdate : p.purchaseDate < ed)
    (haccepts : policy.Accepts (exitTotal - p.costs.purchaseTotal)) :
    TaxedFairly ((exactResult p coupons amortizations other accrued sale exitTotal ed policy).map
      .finite) := by
  constructor
  · have hyield := annualYield_mono htotal (sub_pos.mpr hdate) (taxedProfit_le haccepts)
    exact finite_le_true hyield
  · intro hloss
    have hloss : exitTotal - p.costs.purchaseTotal ≤ 0 :=
      of_decide_eq_true (Except.ok.inj hloss)
    show Decimal.finite _ = Decimal.finite _
    exact congrArg Decimal.finite (taxedProfit_of_nonpos hloss)
  · intro hgain
    have hgain : 0 < exitTotal - p.costs.purchaseTotal :=
      of_decide_eq_true (Except.ok.inj hgain)
    exact finite_le_true (taxedProfit_nonneg haccepts hgain)

/-- **Which way the current yield moves.**  Of two inputs that differ in one argument and
can both be computed, the one with the higher bid, the higher current accrued interest or
one more cash flow anywhere in the tuple yields no less; the one with the higher sale
commission no more, and so does the one with the dearer purchase while the exit is worth
something.  Tax lowers no loss, turns no gain into one and never raises the yield. -/
theorem currentYield_monotone (v : CurrentYieldInput ℚ) :
    (∀ bid, v.bidRubPerBond ≤ bid → YieldsNoLess v { v with bidRubPerBond := bid }) ∧
    (∀ accrued, v.currentAccruedInterestRubPerBond ≤ accrued →
      YieldsNoLess v { v with currentAccruedInterestRubPerBond := accrued }) ∧
    (∀ before after c, v.cashflows = before ++ after → 0 ≤ c.amountRubPerBond →
      YieldsNoLess v { v with cashflows := before ++ c :: after }) ∧
    (∀ sale, v.saleCommissionRubPerBond ≤ sale →
      YieldsNoLess { v with saleCommissionRubPerBond := sale } v) ∧
    (∀ clean, v.purchase.cleanPriceRubPerBond ≤ clean →
      YieldsNoMore v { v with purchase.cleanPriceRubPerBond := clean }) ∧
    (∀ accrued, v.purchase.accruedInterestRubPerBond ≤ accrued →
      YieldsNoMore v { v with purchase.accruedInterestRubPerBond := accrued }) ∧
    (∀ commission, v.purchase.commissionRubPerBond ≤ commission →
      YieldsNoMore v { v with purchase.commissionRubPerBond := commission }) ∧
    ∀ r, calculateCurrentYield (v.map .finite) = .ok r → TaxedFairly r := by
  refine ⟨fun _ h => bid_yieldsNoLess v h, fun _ h => accrued_yieldsNoLess v h,
    fun _ _ c h _ => cashflow_yieldsNoLess v c h, fun _ h => saleCommission_yieldsNoLess v h,
    fun _ h => purchase_yieldsNoMore v h le_rfl le_rfl,
    fun _ h => purchase_yieldsNoMore v le_rfl h le_rfl,
    fun _ h => purchase_yieldsNoMore v le_rfl le_rfl h, ?_⟩
  intro r hr
  obtain ⟨hadm, rfl⟩ := v.ok_inv hr
  exact exactResult_taxedFairly v.purchase _ _ _ _ _ _ hadm.total_pos hadm.exit_after hadm.rate_ok

/-- Ten bonds bought at 950 and quoted at 990 half a year on, with one coupon paid. -/
def halfYearHolding : CurrentYieldInput ℚ where
  purchase := ⟨738000, 10, 950, 10, 1⟩
  valuationDate := 738182
  bidRubPerBond := 990
  currentAccruedInterestRubPerBond := 5
  cashflows := [⟨.coupon, 738100, 30⟩]
  saleCommissionRubPerBond := 2
  taxPolicy := ⟨.flatRate, 13 / 100⟩

theorem halfYearHolding_admissible (bid : ℚ) (h : bid = 990 ∨ bid = 1000) :
    CurrentYieldInput.Admissible { halfYearHolding with bidRubPerBond := bid } := by
  rcases h with rfl | rfl
  · constructor <;> decide +kernel
  · constructor <;> decide +kernel

theorem currentYield_monotone_halfYearHolding :
    ∃ r r', calculateCurrentYield (halfYearHolding.map .finite) = .ok r ∧
      calculateCurrentYield
        (CurrentYieldInput.map .finite { halfYearHolding with bidRubPerBond := 1000 }) = .ok r' ∧
      r.annualYieldAfterTax.le r'.annualYieldAfterTax = Except.ok (ε := PyError) true := by
  have hlow := (calculateCurrentYield_returns halfYearHolding).returns
    (halfYearHolding_admissible 990 (.inl rfl))
  have hhigh := (calculateCurrentYield_returns _).returns
    (halfYearHolding_admissible 1000 (.inr rfl))
  exact ⟨_, _, hlow, hhigh,
    (currentYield_monotone halfYearHolding).1 1000 (by decide +kernel) _ _ hlow hhigh⟩

end BondTrading
