/-
# BondTrading.Sheets.Formula -- the row formula

What the rules say of a row: the amounts of a bond are multiplied by the quantity, the
commission in column L is charged once, a positive profit is divided by 1.13.  The program
reaches it through the engine of the lots, whose commission is per bond; at finite amounts
the division and the multiplication cancel, and so do the conditions.
-/
import BondTrading.Domain.Yields
import BondTrading.Sheets.Harmless

namespace BondTrading

open Py (Decimal Dict Returns)

/-! ## The rules -/

/-- A purchase of the sheet whose numbers are finite. -/
structure RowPurchase where
  purchaseDate : Date
  quantity : ℚ
  price : ℚ
  accrued : ℚ
  commission : ℚ
  planned : Option ℚ
  deriving DecidableEq, Repr

/-- `profit_after_tax`. -/
def customerProfit (profit : ℚ) : ℚ := if 0 < profit then profit / (113 / 100) else profit

namespace RowPurchase

/-- As the program holds it. -/
def held (x : RowPurchase) : SheetPurchaseInput :=
  ⟨x.purchaseDate, .finite x.quantity, .finite x.price, .finite x.accrued, .finite x.commission,
    x.planned.map .finite⟩

/-- `purchase_total`. -/
def cost (x : RowPurchase) : ℚ :=
  x.price * x.quantity + x.accrued * x.quantity + x.commission

variable (x : RowPurchase) (valuationDate : Date) (offer current : ℚ)
  (flows : List (CorporateCashFlow ℚ))

/-- What one bond has paid: the distinct events of the holding period. -/
def paid : ℚ :=
  ∑ e ∈ eventAmounts .coupon x.purchaseDate valuationDate flows, e.2 +
    ∑ e ∈ eventAmounts .amortization x.purchaseDate valuationDate flows, e.2

/-- `current_exit_total`. -/
def exitTotal : ℚ :=
  offer * x.quantity + current * x.quantity + x.quantity * x.paid valuationDate flows

def profit : ℚ := x.exitTotal valuationDate offer current flows - x.cost

/-- Per cent a year, after tax. -/
def annualYield : ℚ :=
  customerProfit (x.profit valuationDate offer current flows) / x.cost *
    (365 / (valuationDate - x.purchaseDate : ℤ)) * 100

/-- **The row formula.** -/
structure Formula (r : SheetCurrentCalculation) : Prop where
  exitTotal : r.currentExitTotalRub = .finite (x.exitTotal valuationDate offer current flows)
  profitBeforeTax : r.profitBeforeTaxRub = .finite (x.profit valuationDate offer current flows)
  profitAfterTax : r.profitAfterTaxRub =
    .finite (customerProfit (x.profit valuationDate offer current flows))
  annualYield : r.annualYieldAfterTaxPercent =
    .finite (x.annualYield valuationDate offer current flows)
  planDelta : r.planDeltaPp = x.planned.map fun planned =>
    .finite (x.annualYield valuationDate offer current flows - planned)

/-- The calculation the adapter asks for. -/
def input : CurrentYieldInput ℚ :=
  sheetInput x.purchaseDate x.quantity x.price x.accrued (x.commission / x.quantity) valuationDate
    offer current flows

/-- When it applies. -/
def Valued : Prop :=
  0 ≤ offer ∧ 0 ≤ current ∧ (∀ c ∈ flows, 0 ≤ c.amountRubPerBond) ∧
    x.purchaseDate < valuationDate ∧ 0 < x.cost

end RowPurchase

/-! ## The engine at the row's amounts -/

theorem taxedProfit_customer (profit rate : ℚ) :
    taxedProfit profit ⟨.legacyDivide113, rate⟩ = customerProfit profit := by
  by_cases h : profit ≤ 0
  · rw [taxedProfit, if_pos h, customerProfit, if_neg (not_lt.mpr h)]
  · rw [taxedProfit, if_neg h, customerProfit, if_pos (not_le.mp h)]

theorem RowPurchase.exitTotal_input (x : RowPurchase) (valuationDate : Date)
    (offer current : ℚ) (flows : List (CorporateCashFlow ℚ)) :
    (x.input valuationDate offer current flows).closedForm.exitTotal =
      x.exitTotal valuationDate offer current flows := by
  simp only [RowPurchase.input, sheetInput, CurrentYieldInput.closedForm, exactResult,
    eventTotal, RowPurchase.exitTotal, RowPurchase.paid]
  ring

section Engine

variable {x : RowPurchase} (hx : x.held.Accepted) (valuationDate : Date) (offer current : ℚ)
  (flows : List (CorporateCashFlow ℚ))

include hx

theorem RowPurchase.quantity_pos : 0 < x.quantity := hx.quantity

/-- L divided by the quantity and multiplied by it. -/
theorem RowPurchase.purchaseTotal_input :
    (x.input valuationDate offer current flows).purchase.costs.purchaseTotal = x.cost := by
  have hcommission : x.commission / x.quantity * x.quantity = x.commission :=
    div_mul_cancel₀ _ (RowPurchase.quantity_pos hx).ne'
  show _ + _ + x.commission / x.quantity * x.quantity = _
  rw [hcommission]
  rfl

theorem RowPurchase.profit_input :
    (x.input valuationDate offer current flows).closedForm.profitBeforeTax =
      x.profit valuationDate offer current flows := by
  show (x.input valuationDate offer current flows).closedForm.exitTotal -
    (x.input valuationDate offer current flows).purchase.costs.purchaseTotal = _
  rw [RowPurchase.exitTotal_input, RowPurchase.purchaseTotal_input hx]
  rfl

theorem RowPurchase.profitAfterTax_input :
    (x.input valuationDate offer current flows).closedForm.profitAfterTax =
      customerProfit (x.profit valuationDate offer current flows) := by
  rw [← RowPurchase.profit_input hx, ← taxedProfit_customer _ (13 / 100)]
  rfl

theorem RowPurchase.annualYield_input :
    (x.input valuationDate offer current flows).closedForm.annualYieldAfterTax =
      x.annualYield valuationDate offer current flows := by
  show BondTrading.annualYield
    (x.input valuationDate offer current flows).closedForm.profitAfterTax
    (x.input valuationDate offer current flows).purchase.costs.purchaseTotal
    (valuationDate - x.purchaseDate) = _
  rw [RowPurchase.profitAfterTax_input hx, RowPurchase.purchaseTotal_input hx,
    BondTrading.annualYield, RowPurchase.annualYield, mul_div_assoc]

/-- What the parser has accepted leaves the conditions of the row. -/
theorem RowPurchase.admissible_input :
    (x.input valuationDate offer current flows).Admissible ↔
      x.Valued valuationDate offer current flows := by
  have hq : 0 < x.quantity := RowPurchase.quantity_pos hx
  have htotal := RowPurchase.purchaseTotal_input hx valuationDate offer current flows
  constructor
  · intro h
    have hexits := h.exits_nonneg
    refine ⟨hexits _ (by simp [input, sheetInput]), hexits _ (by simp [input, sheetInput]),
      h.flows_nonneg, h.exit_after, ?_⟩
    rw [← htotal]
    exact h.total_pos
  · rintro ⟨hoffer, hcurrent, hflows, hdate, hcost⟩
    refine ⟨hq, hx.price, hx.accrued, div_nonneg hx.commission hq.le, ?_, hflows, ?_, hdate, ?_⟩
    · intro a ha
      simp only [input, sheetInput, List.mem_cons, List.not_mem_nil, or_false] at ha
      rcases ha with rfl | rfl | rfl
      · exact hoffer
      · exact hcurrent
      · exact le_refl _
    · rw [htotal]
      exact hcost
    · intro _ hmode
      cases hmode

end Engine

/-! ## The adapter -/

/-- A purchase comes only out of checks that it passed. -/
theorem parseSheetPurchase_accepted {row : SheetDataRow} {accrued : Option Decimal}
    {commissionTotal : Decimal} {x : SheetPurchaseInput} {message : Option String}
    (h : parseSheetPurchase row accrued commissionTotal = .ok (some x, message)) : x.Accepted := by
  obtain ⟨date, hdate, -⟩ := Py.bind_eq_ok.mp h
  have hspec := parseSheetPurchase_spec hdate accrued commissionTotal
  split at hspec
  · obtain ⟨status, hnone⟩ := hspec
    cases Except.ok.inj (hnone.symm.trans h)
  · obtain ⟨checked, hcheck, hpair⟩ := Py.map_eq_ok.mp (hspec.symm.trans h)
    cases checked with
    | some text => cases hpair
    | none =>
        obtain ⟨hsome, -⟩ := Prod.mk.inj hpair
        obtain rfl := Option.some.inj hsome
        exact check_eq_none_iff.mp hcheck

theorem planDelta_finite (annualYield : ℚ) (planned : Option ℚ) :
    planDelta (.finite annualYield) (planned.map .finite) =
      .ok (planned.map fun planned => .finite (annualYield - planned)) := by
  cases planned with
  | none => rfl
  | some planned =>
      show ((Decimal.finite annualYield).sub (.finite planned) : Except PyError Decimal).map some = _
      rw [Decimal.sub_finite]
      rfl

/-- Coupons of finite amounts are summed and multiplied. -/
theorem couponSum_finite (q : ℚ) (flows : List (CorporateCashFlow ℚ)) :
    couponSum (.finite q) (flows.map (CorporateCashFlow.map .finite)) =
      .ok (.finite (q * (flows.map CorporateCashFlow.amountRubPerBond).sum)) := by
  -- the sum so far goes into the accumulator
  suffices h : ∀ total : ℚ, (flows.map (CorporateCashFlow.map Decimal.finite)).foldlM
      (fun total c => do total.add (← c.amountRubPerBond.mul (.finite q)))
        (Decimal.finite total) = (.ok (.finite
          (total + q * (flows.map CorporateCashFlow.amountRubPerBond).sum)) :
            Except PyError Decimal) by
    have hzero := h 0
    rw [zero_add] at hzero
    exact hzero
  induction flows with
  | nil =>
      intro total
      rw [List.map_nil, List.map_nil, List.sum_nil, mul_zero, add_zero]
      rfl
  | cons c flows ih =>
      intro total
      rw [List.map_cons, List.foldlM_cons]
      show ((Decimal.finite total).add (.finite (c.amountRubPerBond * q)) >>= _) = _
      rw [Decimal.add_finite, Py.ok_bind, ih, List.map_cons, List.sum_cons]
      refine congrArg (Except.ok ∘ Decimal.finite) ?_
      ring

/-- The calculation of finite amounts, around that of the engine. -/
theorem RowPurchase.calculate_held {x : RowPurchase} (hq : x.quantity ≠ 0) (valuationDate : Date)
    (offer current : ℚ) (flows : List (CorporateCashFlow ℚ)) :
    calculateSheetCurrent x.held valuationDate (.finite offer) (.finite current)
        (flows.map (CorporateCashFlow.map .finite)) = (do
      let result ← calculateCurrentYield ((x.input valuationDate offer current flows).map .finite)
      let (paidCouponCount, _) ← summarizePaidCoupons x.purchaseDate valuationDate
        (.finite x.quantity) (flows.map (CorporateCashFlow.map .finite))
      let delta ← planDelta result.annualYieldAfterTax (x.planned.map .finite)
      return ⟨paidCouponCount, result.couponsTotal, result.exitTotal, result.profitBeforeTax,
        result.profitAfterTax, result.annualYieldAfterTax, delta⟩) := by
  unfold calculateSheetCurrent planDelta RowPurchase.held
  dsimp only
  rw [Decimal.div_finite, if_neg hq, Py.ok_bind]
  cases x.planned with
  | none => rfl
  | some planned => rfl

/-- At finite amounts everything after the calculation of the engine returns. -/
theorem calculateSheetCurrent_returns {x : RowPurchase} (hx : x.held.Accepted)
    (valuationDate : Date) (offer current : ℚ) (flows : List (CorporateCashFlow ℚ)) :
    ∃ value, Returns (calculateSheetCurrent x.held valuationDate (.finite offer) (.finite current)
        (flows.map (CorporateCashFlow.map .finite)))
      (x.Valued valuationDate offer current flows) value ∧
      x.Formula valuationDate offer current flows value := by
  have hengine := (calculateCurrentYield_returns (x.input valuationDate offer current flows)).congr
    (RowPurchase.admissible_input hx valuationDate offer current flows)
  have hafter := RowPurchase.profitAfterTax_input hx valuationDate offer current flows
  have hannual := RowPurchase.annualYield_input hx valuationDate offer current flows
  refine ⟨⟨(Py.distinct ((paidCoupons x.purchaseDate valuationDate (flows.map
      (CorporateCashFlow.map .finite))).map CorporateCashFlow.eventDate)).length,
    .finite (x.input valuationDate offer current flows).closedForm.couponsTotal,
    .finite (x.exitTotal valuationDate offer current flows),
    .finite (x.profit valuationDate offer current flows),
    .finite (customerProfit (x.profit valuationDate offer current flows)),
    .finite (x.annualYield valuationDate offer current flows),
    x.planned.map fun planned =>
      .finite (x.annualYield valuationDate offer current flows - planned)⟩,
    ?_, rfl, rfl, rfl, rfl, rfl⟩
  rw [RowPurchase.calculate_held (RowPurchase.quantity_pos hx).ne']
  refine (hengine.bind fun _ => ?_).congr (and_true _).to_iff
  simp only [YieldResult.map, hannual, planDelta_finite, summarizePaidCoupons, paidCoupons_map,
    couponSum_finite, Py.ok_bind, hafter, RowPurchase.exitTotal_input,
    RowPurchase.profit_input hx]
  exact Returns.ok _

/-- **The sheet calculates the row formula.**  On a row the parser accepts, its numbers
finite, the calculation succeeds exactly when the quote, the accrued interest and the flows
are not negative, the purchase lies before the valuation and costs something; and then every
figure is the formula's. -/
theorem calculateSheetCurrent_eq_formula (row : SheetDataRow) (accrued : Option Decimal)
    (commissionTotal : Decimal) (x : RowPurchase) (message : Option String)
    (hrow : parseSheetPurchase row accrued commissionTotal = .ok (some x.held, message))
    (valuationDate : Date) (offer current : ℚ) (flows : List (CorporateCashFlow ℚ)) :
    ((∃ r, calculateSheetCurrent x.held valuationDate (.finite offer) (.finite current)
        (flows.map (CorporateCashFlow.map .finite)) = .ok r) ↔
      x.Valued valuationDate offer current flows) ∧
    ∀ r, calculateSheetCurrent x.held valuationDate (.finite offer) (.finite current)
        (flows.map (CorporateCashFlow.map .finite)) = .ok r →
      x.Formula valuationDate offer current flows r := by
  obtain ⟨value, hreturns, hformula⟩ := calculateSheetCurrent_returns
    (parseSheetPurchase_accepted hrow) valuationDate offer current flows
  refine ⟨hreturns.iff, fun r hr => ?_⟩
  have hvalue := hreturns.returns (hreturns.iff.mp ⟨r, hr⟩)
  obtain rfl := Except.ok.inj (hr.symm.trans hvalue)
  exact hformula

/-- Ten bonds at 950 and 5 each, 4 of commission for the row, a plan of 12 per cent. -/
def plannedRow : SheetDataRow :=
  ⟨2, Dict.ofList [("E", .text "01.01.2024"), ("H", .number "10"), ("I", .text "950,00"),
    ("V", .text "12")]⟩

/-- Valued half a year on, a coupon of 30 having been paid. -/
theorem calculateSheetCurrent_eq_formula_plannedRow :
    ∃ r, calculateSheetCurrent (RowPurchase.held ⟨738886, 10, 950, 5, 4, some 12⟩) 739068
        (.finite 960) (.finite 7) [⟨.coupon, 738980, .finite 30⟩] = .ok r ∧
      RowPurchase.Formula ⟨738886, 10, 950, 5, 4, some 12⟩ 739068 960 7
        [⟨.coupon, 738980, 30⟩] r := by
  obtain ⟨hiff, hformula⟩ := calculateSheetCurrent_eq_formula plannedRow (some (.finite 5))
    (.finite 4) ⟨738886, 10, 950, 5, 4, some 12⟩ none (by decide +kernel) 739068 960 7
    [⟨.coupon, 738980, 30⟩]
  obtain ⟨r, hr⟩ := hiff.mpr ⟨by decide, by decide, by simp, by decide, by decide +kernel⟩
  exact ⟨r, hr, hformula r hr⟩

end BondTrading
