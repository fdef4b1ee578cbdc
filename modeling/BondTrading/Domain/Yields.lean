/-
# BondTrading.Domain.Yields -- the engine computes the closed formulas

Each function of the engine is given its exact condition (`Py.Returns`) at finite
amounts, in the order the source calls them, and the two entry points are assembled
from these.  The result of a scenario is a function of the SET of its cash flows.
-/
import BondTrading.Domain.Exact
import BondTrading.Py.Outcome

namespace BondTrading

open Py (Decimal Returns)

/-! ## The steps -/

theorem validatePurchase_returns (p : PurchaseInput ℚ) :
    Returns (validatePurchase (p.map .finite))
      (0 < p.quantity ∧ 0 ≤ p.cleanPriceRubPerBond ∧ 0 ≤ p.accruedInterestRubPerBond ∧
        0 ≤ p.commissionRubPerBond) () := by
  have hshape : validatePurchase (p.map .finite) =
      if p.quantity ≤ 0 then
        .error (invalidAmount "Quantity must be positive" (.amount (.finite p.quantity)))
      else if p.cleanPriceRubPerBond < 0 ∨ p.accruedInterestRubPerBond < 0 ∨
          p.commissionRubPerBond < 0 then
        .error (invalidAmount "Purchase amounts cannot be negative" .none)
      else .ok () := by
    simp [validatePurchase, PurchaseInput.map, ZERO, throw, throwThe, MonadExceptOf.throw,
      pure, Except.pure]
  rw [hshape]
  refine (Returns.check _ _ (Returns.check _ _ (Returns.ok ()))).congr ?_
  simp only [not_le, not_or, not_lt, and_true]

theorem calculatePurchase_returns (p : PurchaseInput ℚ) :
    Returns (calculatePurchase (p.map .finite))
      (0 < p.quantity ∧ 0 ≤ p.cleanPriceRubPerBond ∧ 0 ≤ p.accruedInterestRubPerBond ∧
        0 ≤ p.commissionRubPerBond) (p.costs.map .finite) := by
  unfold calculatePurchase
  have htotals := Returns.ok (ε := PyError) (p.costs.map Decimal.finite)
  refine ((validatePurchase_returns p).bind fun _ => ?_).congr (and_true _).to_iff
  simpa [PurchaseInput.map, PurchaseResult.map, PurchaseInput.costs, pure, Except.pure]
    using htotals

/-- What `apply_tax` accepts. -/
def TaxPolicy.Accepts (policy : TaxPolicy ℚ) (profit : ℚ) : Prop :=
  0 < profit → policy.mode = .flatRate → 0 ≤ policy.rate ∧ policy.rate ≤ 1

theorem applyTax_returns (profit : ℚ) (policy : TaxPolicy ℚ) :
    Returns (applyTax (.finite profit) (policy.map .finite)) (policy.Accepts profit)
      (.finite (taxedProfit profit policy)) := by
  by_cases hprofit : profit ≤ 0
  · have hok : applyTax (.finite profit) (policy.map .finite) = .ok (.finite profit) := by
      simp [applyTax, TaxPolicy.map, ZERO, hprofit, pure, Except.pure]
    rw [hok, taxedProfit, if_pos hprofit]
    exact (Returns.ok _).congr ⟨fun _ h => absurd h (not_lt.mpr hprofit), fun _ => trivial⟩
  · have hpos : 0 < profit := not_le.mp hprofit
    rw [taxedProfit, if_neg hprofit]
    cases hmode : policy.mode with
    | none =>
        have hok : applyTax (.finite profit) (policy.map .finite) = .ok (.finite profit) := by
          simp [applyTax, TaxPolicy.map, ZERO, hmode, pure, Except.pure]
        rw [hok]
        exact (Returns.ok _).congr
          ⟨fun _ _ h => absurd (hmode.symm.trans h) (by decide), fun _ => trivial⟩
    | legacyDivide113 =>
        have hok : applyTax (.finite profit) (policy.map .finite) =
            .ok (.finite (profit / (113 / 100))) := by
          simp [applyTax, TaxPolicy.map, ZERO, hmode, hpos, pure, Except.pure]
        rw [hok]
        exact (Returns.ok _).congr
          ⟨fun _ _ h => absurd (hmode.symm.trans h) (by decide), fun _ => trivial⟩
    | flatRate =>
        have hshape : applyTax (.finite profit) (policy.map .finite) =
            if 0 ≤ policy.rate ∧ policy.rate ≤ 1 then
              .ok (.finite (profit * (1 - policy.rate)))
            else .error (invalidAmount "Tax rate must be between zero and one"
              (.amount (.finite policy.rate))) := by
          simp [applyTax, TaxPolicy.map, ZERO, hmode, hpos, Decimal.ofInt, throw, throwThe,
            MonadExceptOf.throw, pure, Except.pure]
        rw [hshape]
        refine ⟨fun h => if_pos (h hpos hmode), fun h => ⟨_, if_neg fun hrate => ?_⟩⟩
        exact h fun _ _ => hrate

theorem annualizeProfit_returns (profit total : ℚ) (pd ed : Date) :
    Returns (annualizeProfit (.finite profit) (.finite total) pd ed) (pd < ed ∧ 0 < total)
      (.finite (annualYield profit total (ed - pd)), ed - pd) := by
  unfold annualizeProfit
  by_cases hdays : ed - pd ≤ 0
  · have hnot : ¬ pd < ed := not_lt.mpr (sub_nonpos.mp hdays)
    refine ⟨fun h => absurd h.1 hnot, fun _ => ⟨.domain .invalidHoldingPeriod
      "Exit date must be after purchase date" (.period pd ed), ?_⟩⟩
    rw [if_pos hdays]
    rfl
  · have hlt : pd < ed := sub_pos.mp (not_le.mp hdays)
    have hne : ((ed - pd : ℤ) : ℚ) ≠ 0 := Int.cast_ne_zero.mpr (sub_pos.mpr hlt).ne'
    rw [if_neg hdays]
    by_cases htotal : total ≤ 0
    · refine ⟨fun h => absurd h.2 (not_lt.mpr htotal), fun _ => ⟨invalidAmount
        "Purchase total must be positive" (.amount (.finite total)), ?_⟩⟩
      simp only [ZERO, Decimal.le_finite, htotal, decide_true, Py.ok_bind, if_true]
      rfl
    · have hpos : total ≠ 0 := fun h => htotal h.le
      refine ⟨fun _ => ?_, fun h => absurd ⟨hlt, not_le.mp htotal⟩ h⟩
      simp only [ZERO, Decimal.le_finite, htotal, decide_false, Py.ok_bind, Decimal.div_finite,
        hpos, if_false, Decimal.ofInt, Decimal.mul_finite, hne]
      rfl

/-- The tail shared by both scenarios. -/
theorem yieldResult_returns (p : PurchaseInput ℚ)
    (coupons amortizations redemptionOrMarket accrued sale exitTotal : ℚ) (ed : Date)
    (policy : TaxPolicy ℚ) :
    Returns
      (yieldResult (p.costs.map .finite) (.finite coupons) (.finite amortizations)
        (.finite redemptionOrMarket) (.finite accrued) (.finite sale) (.finite exitTotal)
        p.purchaseDate ed (policy.map .finite))
      (policy.Accepts (exitTotal - p.costs.purchaseTotal) ∧ p.purchaseDate < ed ∧
        0 < p.costs.purchaseTotal)
      ((exactResult p coupons amortizations redemptionOrMarket accrued sale exitTotal ed
        policy).map .finite) := by
  unfold yieldResult
  simp only [PurchaseResult.map, Decimal.sub_finite, Py.ok_bind]
  refine (applyTax_returns _ policy).bind fun _ => ?_
  have hbefore := annualizeProfit_returns (exitTotal - p.costs.purchaseTotal)
    p.costs.purchaseTotal p.purchaseDate ed
  have hafter := annualizeProfit_returns
    (taxedProfit (exitTotal - p.costs.purchaseTotal) policy) p.costs.purchaseTotal
    p.purchaseDate ed
  -- both calls check the same period and the same purchase total
  suffices htwice : Returns _ (_ ∧ _ ∧ True) _ from
    htwice.congr ⟨fun h => h.1, fun h => ⟨h, h, trivial⟩⟩
  exact hbefore.bind fun _ => hafter.bind fun _ => Returns.ok _

/-! ## The two scenarios -/

theorem checkExitAmount_returns (a : ℚ) :
    Returns (checkExitAmount (.finite a)) (0 ≤ a) () := by
  simp only [checkExitAmount, ZERO, Decimal.lt_finite, Py.ok_bind, decide_eq_true_eq]
  exact (Returns.check _ _ (Returns.ok ())).congr ((and_true _).to_iff.trans not_lt)

theorem cashflowTotals_returns (pd ed : Date) (q : ℚ) (l : List (CorporateCashFlow ℚ)) :
    Returns (cashflowTotals (l.map (CorporateCashFlow.map .finite)) pd ed (.finite q))
      (∀ c ∈ l, 0 ≤ c.amountRubPerBond)
      (.finite (eventTotal .coupon pd ed q l), .finite (eventTotal .amortization pd ed q l)) := by
  refine ⟨cashflowTotals_of_nonneg, fun h => ?_⟩
  obtain ⟨details, hdetails⟩ := cashflowTotals_of_negative pd ed q h
  exact ⟨_, hdetails⟩

/-- The conditions of a scenario, as its checks come in the source. -/
theorem admissible_iff (p : PurchaseInput ℚ) (exits : List ℚ)
    (flows : List (CorporateCashFlow ℚ)) (ed : Date) (policy : TaxPolicy ℚ) (profit : ℚ) :
    Admissible p exits flows ed policy profit ↔
      (∀ a ∈ exits, 0 ≤ a) ∧
        (0 < p.quantity ∧ 0 ≤ p.cleanPriceRubPerBond ∧ 0 ≤ p.accruedInterestRubPerBond ∧
          0 ≤ p.commissionRubPerBond) ∧
        (∀ c ∈ flows, 0 ≤ c.amountRubPerBond) ∧
        policy.Accepts profit ∧ p.purchaseDate < ed ∧ 0 < p.costs.purchaseTotal := by
  constructor
  · rintro ⟨hq, hc, ha, hm, hexits, hflows, htotal, hdate, hrate⟩
    exact ⟨hexits, ⟨hq, hc, ha, hm⟩, hflows, hrate, hdate, htotal⟩
  · rintro ⟨hexits, ⟨hq, hc, ha, hm⟩, hflows, hrate, hdate, htotal⟩
    exact ⟨hq, hc, ha, hm, hexits, hflows, htotal, hdate, hrate⟩

theorem calculatePlannedYield_returns (v : PlannedYieldInput ℚ) :
    Returns (calculatePlannedYield (v.map .finite)) v.Admissible (v.closedForm.map .finite) := by
  have htail := yieldResult_returns v.purchase
    (eventTotal .coupon v.purchase.purchaseDate v.targetDate v.purchase.quantity v.cashflows)
    (eventTotal .amortization v.purchase.purchaseDate v.targetDate v.purchase.quantity v.cashflows)
    (v.finalRedemptionRubPerBond * v.purchase.quantity) 0
    (v.saleCommissionRubPerBond * v.purchase.quantity) v.closedForm.exitTotal v.targetDate
    v.taxPolicy
  suffices h : Returns _ (_ ∧ _ ∧ _ ∧ _) _ from h.congr (admissible_iff ..).symm
  have hexits : ¬ (v.finalRedemptionRubPerBond < 0 ∨ v.saleCommissionRubPerBond < 0) ↔
      ∀ a ∈ [v.finalRedemptionRubPerBond, v.saleCommissionRubPerBond], 0 ≤ a := by
    simp [not_or]
  rw [← hexits]
  unfold calculatePlannedYield
  simp only [PlannedYieldInput.map, ZERO, Decimal.lt_finite, Py.ok_orM_ok, Py.ok_bind,
    Bool.or_eq_true, decide_eq_true_eq]
  refine Returns.check _ _ ((calculatePurchase_returns v.purchase).bind fun _ => ?_)
  refine (cashflowTotals_returns v.purchase.purchaseDate v.targetDate v.purchase.quantity
    v.cashflows).bind fun _ => ?_
  simp only [PurchaseInput.map, Decimal.mul_finite, Decimal.add_finite, Decimal.sub_finite,
    Py.ok_bind]
  exact htail

theorem calculateCurrentYield_returns (v : CurrentYieldInput ℚ) :
    Returns (calculateCurrentYield (v.map .finite)) v.Admissible (v.closedForm.map .finite) := by
  have htail := yieldResult_returns v.purchase
    (eventTotal .coupon v.purchase.purchaseDate v.valuationDate v.purchase.quantity v.cashflows)
    (eventTotal .amortization v.purchase.purchaseDate v.valuationDate v.purchase.quantity
      v.cashflows)
    (v.bidRubPerBond * v.purchase.quantity)
    (v.currentAccruedInterestRubPerBond * v.purchase.quantity)
    (v.saleCommissionRubPerBond * v.purchase.quantity) v.closedForm.exitTotal v.valuationDate
    v.taxPolicy
  have hexits : (∀ a ∈ [v.bidRubPerBond, v.currentAccruedInterestRubPerBond,
        v.saleCommissionRubPerBond], 0 ≤ a) ↔
      0 ≤ v.bidRubPerBond ∧ 0 ≤ v.currentAccruedInterestRubPerBond ∧
        0 ≤ v.saleCommissionRubPerBond := by
    simp
  have hadmissible := admissible_iff v.purchase [v.bidRubPerBond,
    v.currentAccruedInterestRubPerBond, v.saleCommissionRubPerBond] v.cashflows v.valuationDate
    v.taxPolicy v.closedForm.profitBeforeTax
  rw [hexits, and_assoc, and_assoc] at hadmissible
  refine Returns.congr ?_ hadmissible.symm
  unfold calculateCurrentYield
  refine (checkExitAmount_returns _).bind fun _ => ?_
  refine (checkExitAmount_returns _).bind fun _ => ?_
  refine (checkExitAmount_returns _).bind fun _ => ?_
  refine (calculatePurchase_returns v.purchase).bind fun _ => ?_
  refine (cashflowTotals_returns v.purchase.purchaseDate v.valuationDate v.purchase.quantity
    v.cashflows).bind fun _ => ?_
  simp only [CurrentYieldInput.map, PurchaseInput.map, Decimal.mul_finite, Decimal.add_finite,
    Decimal.sub_finite, Py.ok_bind]
  exact htail

/-! ## The flows as a set -/

theorem calculatePlannedYield_congr (v : PlannedYieldInput ℚ) {l : List (CorporateCashFlow ℚ)}
    (h : ∀ c, c ∈ l ↔ c ∈ v.cashflows) :
    (calculatePlannedYield (PlannedYieldInput.map .finite { v with cashflows := l })).mapError
        PyError.kind = (calculatePlannedYield (v.map .finite)).mapError PyError.kind := by
  unfold calculatePlannedYield
  refine Py.mapError_bind_right _ _ fun negative _ => ?_
  cases negative with
  | true => rfl
  | false =>
      refine Py.mapError_bind_right _ _ fun purchase _ => ?_
      exact Py.mapError_bind_congr _ _ (cashflowTotals_congr h)

theorem calculateCurrentYield_congr (v : CurrentYieldInput ℚ) {l : List (CorporateCashFlow ℚ)}
    (h : ∀ c, c ∈ l ↔ c ∈ v.cashflows) :
    (calculateCurrentYield (CurrentYieldInput.map .finite { v with cashflows := l })).mapError
        PyError.kind = (calculateCurrentYield (v.map .finite)).mapError PyError.kind := by
  unfold calculateCurrentYield
  refine Py.mapError_bind_right _ _ fun _ _ => ?_
  refine Py.mapError_bind_right _ _ fun _ _ => ?_
  refine Py.mapError_bind_right _ _ fun _ _ => ?_
  refine Py.mapError_bind_right _ _ fun purchase _ => ?_
  exact Py.mapError_bind_congr _ _ (cashflowTotals_congr h)

/-! ## What the results are made of -/

/-- A purchase that was calculated passed its comparisons. -/
theorem calculatePurchase_compared {p : PurchaseInput Decimal} {r : PurchaseResult Decimal}
    (h : calculatePurchase p = .ok r) :
    (p.quantity.le ZERO : Except PyError Bool) = .ok false ∧
      (p.cleanPriceRubPerBond.lt ZERO : Except PyError Bool) = .ok false ∧
      (p.accruedInterestRubPerBond.lt ZERO : Except PyError Bool) = .ok false ∧
      (p.commissionRubPerBond.lt ZERO : Except PyError Bool) = .ok false := by
  simp only [calculatePurchase, validatePurchase, Py.bind_eq_ok] at h
  obtain ⟨_, ⟨empty, hquantity, hamounts⟩, -⟩ := h
  cases empty with
  | true => cases hamounts
  | false =>
      obtain ⟨negative, hamounts, hvalid⟩ := Py.bind_eq_ok.mp hamounts
      cases negative with
      | true => cases hvalid
      | false =>
          obtain ⟨hclean, hrest⟩ := Py.orM_eq_false_iff.mp hamounts
          obtain ⟨haccrued, hcommission⟩ := Py.orM_eq_false_iff.mp hrest
          exact ⟨hquantity, hclean, haccrued, hcommission⟩

theorem yieldResult_totals [Py.Context] {purchase : PurchaseResult Decimal}
    {coupons amortizations redemptionOrMarket accrued sale exitTotal : Decimal} {pd ed : Date}
    {policy : TaxPolicy Decimal} {r : YieldResult Decimal}
    (h : yieldResult purchase coupons amortizations redemptionOrMarket accrued sale exitTotal pd ed
      policy = .ok r) :
    r.couponsTotal = coupons ∧ r.amortizationsTotal = amortizations ∧
      r.redemptionOrMarketTotal = redemptionOrMarket := by
  simp only [yieldResult, Py.bind_eq_ok] at h
  obtain ⟨_, -, _, -, _, -, _, -, hreturn⟩ := h
  obtain rfl := Except.ok.inj hreturn
  exact ⟨rfl, rfl, rfl⟩

/-- The totals of a planned result come from the loop over the cash flows. -/
theorem plannedYield_totals {v : PlannedYieldInput Decimal} {r : YieldResult Decimal}
    (h : calculatePlannedYield v = .ok r) :
    (v.purchase.quantity.le ZERO : Except PyError Bool) = .ok false ∧
      cashflowTotals v.cashflows v.purchase.purchaseDate v.targetDate v.purchase.quantity =
        .ok (r.couponsTotal, r.amortizationsTotal) ∧
      (v.finalRedemptionRubPerBond.mul v.purchase.quantity : Except PyError Decimal) =
        .ok r.redemptionOrMarketTotal := by
  simp only [calculatePlannedYield, Py.bind_eq_ok] at h
  obtain ⟨negative, -, h⟩ := h
  cases negative with
  | true => cases h
  | false =>
      simp only [Bool.false_eq_true, if_false, Py.bind_eq_ok] at h
      obtain ⟨_, hpurchase, totals, htotals, _, hredemption, _, -, _, -, _, -, _, -, hresult⟩ := h
      obtain ⟨hcoupons, hamortizations, hmarket⟩ := yieldResult_totals hresult
      rw [hcoupons, hamortizations, hmarket]
      exact ⟨(calculatePurchase_compared hpurchase).1, htotals, hredemption⟩

/-- The totals of a current result come from the same loop. -/
theorem currentYield_totals [Py.Context] {v : CurrentYieldInput Decimal} {r : YieldResult Decimal}
    (h : calculateCurrentYield v = .ok r) :
    cashflowTotals v.cashflows v.purchase.purchaseDate v.valuationDate v.purchase.quantity =
      .ok (r.couponsTotal, r.amortizationsTotal) := by
  simp only [calculateCurrentYield, Py.bind_eq_ok] at h
  obtain ⟨_, -, _, -, _, -, _, -, totals, htotals, _, -, _, -, _, -, _, -, _, -, _, -, _, -,
    hresult⟩ := h
  obtain ⟨hcoupons, hamortizations, -⟩ := yieldResult_totals hresult
  rw [hcoupons, hamortizations]
  exact htotals

/-! ## The calculation rules -/

/-- **Both entry points compute the documented formulas, exactly when they can.**  A
scenario returns under `Admissible` and only there; what it returns is the closed form
over the SET of distinct events in its window; and a tuple with the same members, in
any order and with any repetitions, gives the same result, or the same kind of error
with the same message. -/
theorem yields_eq_closedForm :
    (∀ v : PlannedYieldInput ℚ,
      ((∃ r, calculatePlannedYield (v.map .finite) = .ok r) ↔ v.Admissible) ∧
      (v.Admissible → calculatePlannedYield (v.map .finite) = .ok (v.closedForm.map .finite)) ∧
      ∀ l : List (CorporateCashFlow ℚ), (∀ c, c ∈ l ↔ c ∈ v.cashflows) →
        (calculatePlannedYield (PlannedYieldInput.map .finite { v with cashflows := l })).mapError
          PyError.kind = (calculatePlannedYield (v.map .finite)).mapError PyError.kind) ∧
    (∀ v : CurrentYieldInput ℚ,
      ((∃ r, calculateCurrentYield (v.map .finite) = .ok r) ↔ v.Admissible) ∧
      (v.Admissible → calculateCurrentYield (v.map .finite) = .ok (v.closedForm.map .finite)) ∧
      ∀ l : List (CorporateCashFlow ℚ), (∀ c, c ∈ l ↔ c ∈ v.cashflows) →
        (calculateCurrentYield (CurrentYieldInput.map .finite { v with cashflows := l })).mapError
          PyError.kind = (calculateCurrentYield (v.map .finite)).mapError PyError.kind) := by
  refine ⟨fun v => ?_, fun v => ?_⟩
  · have h := calculatePlannedYield_returns v
    exact ⟨h.iff, h.returns, fun _ hl => calculatePlannedYield_congr v hl⟩
  · have h := calculateCurrentYield_returns v
    exact ⟨h.iff, h.returns, fun _ hl => calculateCurrentYield_congr v hl⟩

/-- Ten bonds held for a year: a coupon listed twice and one paid on the purchase date. -/
def yearHolding : PlannedYieldInput ℚ where
  purchase := ⟨738000, 10, 950, 10, 1⟩
  targetDate := 738365
  finalRedemptionRubPerBond := 1000
  cashflows := [⟨.coupon, 738100, 30⟩, ⟨.offer, 738200, 1000⟩, ⟨.coupon, 738100, 30⟩,
    ⟨.coupon, 738000, 30⟩]
  saleCommissionRubPerBond := 0
  taxPolicy := ⟨.legacyDivide113, 13 / 100⟩

theorem yearHolding_admissible : yearHolding.Admissible := by
  constructor <;> decide +kernel

theorem yields_eq_closedForm_yearHolding :
    ∃ r, calculatePlannedYield (yearHolding.map .finite) = .ok r ∧
      r.couponsTotal = .finite 300 ∧ r.exitTotal = .finite 10300 := by
  refine ⟨_, (yields_eq_closedForm.1 yearHolding).2.1 yearHolding_admissible, ?_, ?_⟩
  · decide +kernel
  · decide +kernel

end BondTrading
