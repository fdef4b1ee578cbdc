/-
# BondTrading.Sheets.Harmless -- the rows that cannot stop a run

Only the calculation of a row stands in a `try`.  What else raises on the way of a row stops
the whole run: a date that is a NaN, a comparison with a NaN, an amount that cannot be rounded
to kopecks.  `RowHarmless` says of the cells of a row, and of what MOEX says of its ISIN, that
nothing of this happens; it is exactly when the updates of the row can be computed.

An infinite price, accrued interest or commission is harmless, because the calculation raises
on it, and so is an amount that the calculation cannot hold.  An infinite quantity is harmless
only before the first coupon, and an infinite plan only where nothing is calculated.

The arithmetic is that of any context; every amount below is a formula at its digits.
-/
import BondTrading.Domain.Digits
import BondTrading.Instruments.Cashflows
import BondTrading.Sheets.Batches

namespace BondTrading

open Py (Context Decimal Dict Follows Gives Zone)

/-! ## The comparisons of a purchase -/

/-- The comparisons of `parse_sheet_purchase` do not raise; each is made only where the
amounts before it are acceptable. -/
def SheetPurchaseInput.Comparable (x : SheetPurchaseInput) : Prop :=
  x.quantity.isNaN = false ∧ (x.quantity.Positive →
    x.purchasePriceRubPerBond.isNaN = false ∧ (x.purchasePriceRubPerBond.Nonneg →
      x.purchaseAccruedRubPerBond.isNaN = false ∧ (x.purchaseAccruedRubPerBond.Nonneg →
        x.purchaseCommissionTotalRub.isNaN = false)))

/-- The amounts of a purchase that `parse_sheet_purchase` accepts. -/
structure SheetPurchaseInput.Accepted (x : SheetPurchaseInput) : Prop where
  quantity : x.quantity.Positive
  price : x.purchasePriceRubPerBond.Nonneg
  accrued : x.purchaseAccruedRubPerBond.Nonneg
  commission : x.purchaseCommissionTotalRub.Nonneg

section Checks

variable {x : SheetPurchaseInput}

/-- `checkPurchase` at the amounts of a purchase. -/
def SheetPurchaseInput.check (x : SheetPurchaseInput) : Except PyError (Option String) :=
  checkPurchase x.quantity x.purchasePriceRubPerBond x.purchaseAccruedRubPerBond
    x.purchaseCommissionTotalRub

theorem check_of_accepted (h : x.Accepted) : x.check = .ok none := by
  unfold SheetPurchaseInput.check checkPurchase ZERO
  rw [Decimal.le_zero h.quantity.number, Decimal.lt_zero h.price.number,
    Decimal.lt_zero h.accrued.number, Decimal.lt_zero h.commission.number]
  simp [h.quantity, h.price, h.accrued, h.commission, pure, Except.pure]

/-- The check that passes. -/
theorem check_eq_none_iff : x.check = .ok none ↔ x.Accepted := by
  refine ⟨fun h => ?_, check_of_accepted⟩
  unfold SheetPurchaseInput.check checkPurchase ZERO at h
  obtain ⟨empty, hempty, h⟩ := Py.bind_eq_ok.mp h
  cases empty with
  | true => cases Except.ok.inj h
  | false =>
      obtain ⟨negative, hnegative, h⟩ := Py.bind_eq_ok.mp h
      cases negative with
      | true => cases Except.ok.inj h
      | false =>
          obtain ⟨hprice, hrest⟩ := Py.orM_eq_false_iff.mp hnegative
          obtain ⟨haccrued, hcommission⟩ := Py.orM_eq_false_iff.mp hrest
          exact ⟨(Decimal.le_zero_eq_ok.mp hempty).2.mp rfl,
            (Decimal.lt_zero_eq_ok.mp hprice).2.mp rfl,
            (Decimal.lt_zero_eq_ok.mp haccrued).2.mp rfl,
            (Decimal.lt_zero_eq_ok.mp hcommission).2.mp rfl⟩

end Checks

/-! ## The purchase a row states -/

/-- The purchase that the cells of a row state, with this accrued interest. -/
def SheetDataRow.stated (row : SheetDataRow) (accrued : Option Decimal) (commission : Decimal) :
    Option SheetPurchaseInput :=
  match parseDate (row.get "E"), parseDecimal (row.get "H"), parseDecimal (row.get "I"),
      accrued with
  | .ok (some date), some quantity, some price, some accrued =>
      some ⟨date, quantity, price, accrued, commission, parseDecimal (row.get "V")⟩
  | _, _, _, _ => none

section Parsing

variable {row : SheetDataRow} {date : Option Date}

/-- **`parse_sheet_purchase`**: without a purchase to check it returns, and a purchase is
returned if the check passes. -/
theorem parseSheetPurchase_spec (hdate : parseDate (row.get "E") = .ok date)
    (accrued : Option Decimal) (commission : Decimal) :
    match row.stated accrued commission with
    | none => ∃ status, parseSheetPurchase row accrued commission = .ok (none, status)
    | some x => parseSheetPurchase row accrued commission =
        x.check.map fun message => (if message = none then some x else none, message) := by
  unfold SheetDataRow.stated parseSheetPurchase
  rw [hdate]
  simp only [Py.ok_bind]
  cases date with
  | none => exact ⟨_, rfl⟩
  | some date =>
      cases parseDecimal (row.get "H") with
      | none => exact ⟨_, rfl⟩
      | some quantity =>
          cases parseDecimal (row.get "I") with
          | none => exact ⟨_, rfl⟩
          | some price =>
              cases accrued with
              | none => exact ⟨_, rfl⟩
              | some accrued =>
                  show (checkPurchase quantity price accrued commission >>= _) =
                    (checkPurchase quantity price accrued commission).map _
                  cases checkPurchase quantity price accrued commission with
                  | error e => rfl
                  | ok message =>
                      cases message with
                      | none => rfl
                      | some message => rfl

end Parsing

/-! ## What can be written -/

section Cells

end Cells

/-! ## What MOEX says of an instrument -/

/-- The amount of a cash flow, where it is a number. -/
def CorporateCashFlow.number? (c : CorporateCashFlow Decimal) : Option (CorporateCashFlow ℚ) :=
  match c.amountRubPerBond with
  | .finite amount => some ⟨c.actionType, c.eventDate, amount⟩
  | _ => none

/-- The cash flows of an instrument. -/
def RefreshedInstrument.flows (value : RefreshedInstrument) : List (CorporateCashFlow ℚ) :=
  value.cashflows.filterMap CorporateCashFlow.number?

/-- **The accrued interest of an instrument is ordinary**: finite, and small enough to be
rounded to kopecks. -/
structure RefreshedInstrument.Ordinary (value : RefreshedInstrument) (moex : MoexClient) :
    Prop where
  current : ∀ q, value.market.accruedInterestRubPerBond = some q → Decimal.Quantizable 2 q
  historical : ∀ date d, moex.accruedInterestOn value.instrument.secid
    value.instrument.primaryBoardId date = .ok (some d) →
      ∃ q, d = .finite q ∧ Decimal.Quantizable 2 q

/-- The accrued interest of a purchase on this date: the cell, or MOEX for an empty cell. -/
def SheetDataRow.purchaseAccrued (row : SheetDataRow) (moex : MoexClient)
    (value : RefreshedInstrument) (date : Date) : Option Decimal :=
  if (row.get "J").isBlank then historicalAccruedOn moex value date else parseDecimal (row.get "J")

section Instrument

variable {moex : MoexClient} {value : RefreshedInstrument} {row : SheetDataRow}

end Instrument

/-! ## The coupons of a purchase -/

/-- The coupons of the holding period. -/
def paidFlows (purchaseDate valuationDate : Date) (flows : List (CorporateCashFlow ℚ)) :
    List (CorporateCashFlow ℚ) :=
  flows.filter fun c => c.actionType = .coupon ∧ InWindow purchaseDate valuationDate c

theorem paidCoupons_map (purchaseDate valuationDate : Date) (flows : List (CorporateCashFlow ℚ)) :
    paidCoupons purchaseDate valuationDate (flows.map (CorporateCashFlow.map .finite)) =
      (paidFlows purchaseDate valuationDate flows).map (CorporateCashFlow.map .finite) := by
  unfold paidCoupons paidFlows
  rw [List.filter_map]
  rfl

variable [Context]

/-- The coupons can be summed and rounded. -/
def CouponsRound (purchaseDate valuationDate : Date) (quantity : Decimal)
    (flows : List (CorporateCashFlow ℚ)) : Prop :=
  match quantity with
  | .finite q => ∃ total, fixedSum q 0 ((paidFlows purchaseDate valuationDate flows).map
      CorporateCashFlow.amountRubPerBond) = some total ∧ Decimal.Quantizable 2 total
  | _ => paidFlows purchaseDate valuationDate flows = []

section Coupons

variable {purchaseDate valuationDate : Date} {quantity : Decimal}
  {flows : List (CorporateCashFlow ℚ)}

end Coupons

/-! ## The calculation -/

/-- The calculation of a purchase whose amounts are finite, with this commission of a bond. -/
def sheetInput (purchaseDate : Date) (quantity price accrued commission : ℚ) (valuationDate : Date)
    (offer current : ℚ) (flows : List (CorporateCashFlow ℚ)) : CurrentYieldInput ℚ where
  purchase := ⟨purchaseDate, quantity, price, accrued, commission⟩
  valuationDate
  bidRubPerBond := offer
  currentAccruedInterestRubPerBond := current
  cashflows := flows
  saleCommissionRubPerBond := 0
  taxPolicy := ⟨.legacyDivide113, 13 / 100⟩

/-- The distance of a yield from the plan.  It is infinite for an infinite plan, and there is none
for a signalling NaN. -/
def planDistance (annualYield : ℚ) : Option Decimal → Option (Option Decimal)
  | none => some none
  | some (.finite planned) => (fix? (annualYield - planned)).map fun d => some (.finite d)
  | some (.infinity negative) => some (some (.infinity !negative))
  | some .nan => some (some .nan)
  | some .snan => none

/-- What is calculated of a purchase whose amounts are finite, with its distance from the plan. -/
def sheetForm (purchaseDate : Date) (quantity price accrued commission : ℚ)
    (planned : Option Decimal) (valuationDate : Date) (offer current : ℚ)
    (flows : List (CorporateCashFlow ℚ)) : Option (YieldResult ℚ × Option Decimal) := do
  let perBond ← fix? (commission / quantity)
  let result ← (sheetInput purchaseDate quantity price accrued perBond valuationDate offer current
    flows).fixedForm
  let distance ← planDistance result.annualYieldAfterTax planned
  return (result, distance)

/-- The amounts of a result that the sheet shows can be rounded. -/
structure YieldResult.Round (r : YieldResult ℚ) : Prop where
  coupons : Decimal.Quantizable 2 r.couponsTotal
  exitTotal : Decimal.Quantizable 2 r.exitTotal
  profitBeforeTax : Decimal.Quantizable 2 r.profitBeforeTax
  profitAfterTax : Decimal.Quantizable 2 r.profitAfterTax
  annualYieldAfterTax : Decimal.Quantizable 2 r.annualYieldAfterTax

/-- What is calculated of a purchase can be rounded. -/
def SheetPurchaseInput.CalculationRounds (x : SheetPurchaseInput) (valuationDate : Date)
    (offer current : ℚ) (flows : List (CorporateCashFlow ℚ)) : Prop :=
  ∀ q p a c : ℚ, x.quantity = .finite q → x.purchasePriceRubPerBond = .finite p →
    x.purchaseAccruedRubPerBond = .finite a → x.purchaseCommissionTotalRub = .finite c →
      ∀ r distance, sheetForm x.purchaseDate q p a c x.plannedAnnualYieldPercent valuationDate offer
          current flows = some (r, distance) →
        r.Round ∧ ∀ d ∈ distance, d.Rounds 2

section Infinite

variable {q : ℚ} {a b : Decimal}

variable {x : SheetPurchaseInput} {valuationDate : Date} {offer current : ℚ}
  {flows : List (CorporateCashFlow ℚ)}

end Infinite

section Finite

variable {x : SheetPurchaseInput} {valuationDate : Date} {offer current : ℚ}
  {flows : List (CorporateCashFlow ℚ)}

/-- The distance from the plan, where a yield was calculated. -/
def planDelta (annualYield : Decimal) : Option Decimal → Except PyError (Option Decimal)
  | some planned => (annualYield.sub planned).map some
  | none => .ok none

/-- What the sheet shows of a result. -/
def YieldResult.shown (r : YieldResult ℚ) (couponCount : ℕ) (distance : Option Decimal) :
    SheetCurrentCalculation :=
  ⟨couponCount, .finite r.couponsTotal, .finite r.exitTotal, .finite r.profitBeforeTax,
    .finite r.profitAfterTax, .finite r.annualYieldAfterTax, distance⟩

end Finite

/-! ## The row -/

/-- What is computed of an accepted purchase can be rounded. -/
def SheetPurchaseInput.Settles (x : SheetPurchaseInput) (mode : SheetPriceMode)
    (valuationDate : Date) (value : RefreshedInstrument) : Prop :=
  CouponsRound x.purchaseDate valuationDate x.quantity value.flows ∧
    ∀ offer current, marketRubPrice value.market mode = some offer →
      value.market.accruedInterestRubPerBond = some current →
        x.CalculationRounds valuationDate offer current value.flows

/-- **A row that cannot stop a run.** -/
def RowHarmless (mode : SheetPriceMode) (zone : Zone) (moex : MoexClient)
    (value : RefreshedInstrument) (row : SheetDataRow) : Prop :=
  ∀ commission, commissionTotal row = some commission →
    (row.get "E").isNaNNumber = false ∧
      ∀ date x, parseDate (row.get "E") = .ok (some date) →
        row.stated (row.purchaseAccrued moex value date) commission = some x →
          x.Comparable ∧ (x.Accepted → x.Settles mode (valuationDateOf zone value.market) value)

section Row

variable {connection : SheetConnectionModel} {zone : Zone} {moex : MoexClient}
  {value : RefreshedInstrument} {row : SheetDataRow} {x : SheetPurchaseInput}
  {updates : RowUpdates}

end Row

end BondTrading
