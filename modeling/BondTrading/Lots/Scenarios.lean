/-
# BondTrading.Lots.Scenarios -- the planned scenario and the market

`calculate` computes the planned result before it looks at the market, and the current one
after it, in one transaction.  What the market says cannot change the planned figures, but an
exception of the current scenario takes them along, and so does a current figure that its column
has no digits for: on a quote that is no later than the purchase nothing is stored, without a
quote the plan is.
-/
import BondTrading.Lots.LatestAmounts

namespace BondTrading

open Py (Decimal Returns Zone)
open Sql (UniqueOn References)

/-! ## Amounts that were compared -/

/-- The purchase of a plan, at a quote. -/
def PlannedYieldInput.quoted (w : PlannedYieldInput ℚ) (date : Date) (exit : ℚ × ℚ) :
    CurrentYieldInput ℚ where
  purchase := w.purchase
  valuationDate := date
  bidRubPerBond := exit.1
  currentAccruedInterestRubPerBond := exit.2
  cashflows := w.cashflows
  saleCommissionRubPerBond := w.saleCommissionRubPerBond
  taxPolicy := w.taxPolicy

/-- The columns have the digits for the figures of a scenario. -/
@[mk_iff] structure YieldResult.Fits (r : YieldResult ℚ) : Prop where
  exitTotal : MONEY.Holds r.exitTotal
  profitBeforeTax : MONEY.Holds r.profitBeforeTax
  profitAfterTax : MONEY.Holds r.profitAfterTax
  annualYieldBeforeTax : PERCENT.Holds r.annualYieldBeforeTax
  annualYieldAfterTax : PERCENT.Holds r.annualYieldAfterTax

/-- They have the digits for a plan. -/
@[mk_iff] structure PlannedYieldInput.Fits (w : PlannedYieldInput ℚ) : Prop where
  purchaseTotal : MONEY.Holds w.purchase.costs.purchaseTotal
  figures : w.closedForm.Fits

section Quotes

variable {w : PlannedYieldInput ℚ} {date : Date}

end Quotes

/-! ## The plan of a lot -/

/-- The tax policy of a user, stored or not. -/
def Tables.taxPolicy (t : Tables) (owner : UserId) : TaxPolicy ℚ :=
  match t.portfolio.settingsOf owner with
  | some settings => ⟨settings.taxMode, settings.taxRate⟩
  | none => ⟨.none, 13 / 100⟩

theorem getSettings_policy (t : Tables) (owner : UserId) (id : SettingsId) :
    (⟨(getSettings t owner id).1.taxMode, (getSettings t owner id).1.taxRate⟩ : TaxPolicy ℚ) =
      t.taxPolicy owner := by
  unfold getSettings Tables.taxPolicy
  cases t.portfolio.settingsOf owner with
  | none => rfl
  | some settings => rfl

/-- **The lot has the plan `w`**: its amounts are numbers, and its redemption is known. -/
structure PlansAs (order : EventOrder) (t : Tables) (owner : UserId) (id : LotId)
    (loaded : LoadedLot) (w : PlannedYieldInput ℚ) : Prop where
  found : t.getLot owner id = some loaded
  purchase : loaded.lot.purchase = w.purchase.map .finite
  targetDate : loaded.lot.targetEventDate = w.targetDate
  redemption : loaded.targetRedemption (order.select t.market loaded.lot.instrumentId) =
    .ok (.finite w.finalRedemptionRubPerBond)
  cashflows : storedCashflows (order.select t.market loaded.lot.instrumentId) = w.cashflows
  sale : loaded.lot.saleCommissionRubPerBond = .finite w.saleCommissionRubPerBond
  policy : t.taxPolicy owner = w.taxPolicy

/-- Everything the plan is made of is the same. -/
structure SamePlan (t t' : Tables) : Prop where
  lots : t'.portfolio.lots = t.portfolio.lots
  settings : t'.portfolio.settings = t.portfolio.settings
  instruments : t'.market.instruments = t.market.instruments
  actions : t'.market.actions = t.market.actions

theorem SamePlan.symm {t t' : Tables} (h : SamePlan t t') : SamePlan t' t :=
  ⟨h.lots.symm, h.settings.symm, h.instruments.symm, h.actions.symm⟩

section Plan

variable {order : EventOrder} {t t' : Tables} {owner : UserId} {id : LotId} {loaded : LoadedLot}
  {w : PlannedYieldInput ℚ}

theorem PlansAs.congr (h : PlansAs order t owner id loaded w) (hsame : SamePlan t t') :
    PlansAs order t' owner id loaded w := by
  have hselect : order.select t'.market loaded.lot.instrumentId =
      order.select t.market loaded.lot.instrumentId := by
    unfold EventOrder.select
    rw [hsame.actions]
  refine ⟨?_, h.purchase, h.targetDate, hselect ▸ h.redemption, hselect ▸ h.cashflows, h.sale, ?_⟩
  · rw [← h.found, Tables.getLot, Tables.getLot, hsame.lots]
    unfold Tables.loadLot
    rw [hsame.instruments]
  · rw [← h.policy, Tables.taxPolicy, Tables.taxPolicy, PortfolioTables.settingsOf,
      PortfolioTables.settingsOf, hsame.settings]

/-- A lot has one plan. -/
theorem PlansAs.unique (h : PlansAs order t owner id loaded w) {loaded' : LoadedLot}
    {w' : PlannedYieldInput ℚ} (h' : PlansAs order t owner id loaded' w') :
    loaded = loaded' ∧ w = w' := by
  obtain rfl := Option.some.inj (h.found.symm.trans h'.found)
  have hfinite : ∀ {q q' : ℚ}, Decimal.finite q = .finite q' → q = q' := Decimal.finite.inj
  obtain ⟨hdate, hquantity, hclean, haccrued, hcommission⟩ :=
    (PurchaseInput.mk.injEq ..).mp (h.purchase.symm.trans h'.purchase)
  refine ⟨rfl, (PlannedYieldInput.mk.injEq ..).mpr ⟨?_, h.targetDate.symm.trans h'.targetDate,
    hfinite (Except.ok.inj (h.redemption.symm.trans h'.redemption)),
    h.cashflows.symm.trans h'.cashflows, hfinite (h.sale.symm.trans h'.sale),
    h.policy.symm.trans h'.policy⟩⟩
  exact (PurchaseInput.mk.injEq ..).mpr
    ⟨hdate, hfinite hquantity, hfinite hclean, hfinite haccrued, hfinite hcommission⟩

/-- The input that `calculate` gives the engine. -/
theorem PlansAs.input (h : PlansAs order t owner id loaded w) (settingsId : SettingsId) :
    plannedInput loaded.lot (.finite w.finalRedemptionRubPerBond)
      (storedCashflows (order.select t.market loaded.lot.instrumentId))
      (getSettings t owner settingsId).1 = w.map .finite := by
  have hpolicy := (getSettings_policy t owner settingsId).trans h.policy
  refine (PlannedYieldInput.mk.injEq ..).mpr ⟨h.purchase, h.targetDate, rfl, ?_, h.sale, ?_⟩
  · rw [h.cashflows]
  · rw [← hpolicy]
    rfl

end Plan

/-! ## The transaction -/

/-- The identifiers a calculation draws are new. -/
structure CalculationDraw.Fresh (draw : CalculationDraw) (t : Tables) : Prop where
  yield : ∀ y ∈ t.portfolio.yields, y.id ≠ draw.yield
  settings : ∀ s ∈ t.portfolio.settings, s.id ≠ draw.settings

/-- The columns have the digits for the figures of a snapshot. -/
def YieldSnapshotModel.Fits (y : YieldSnapshotModel) : Prop :=
  (∀ a ∈ y.amounts, MONEY.takes a = true) ∧ ∀ a ∈ y.percents, PERCENT.takes a = true

/-- The planned figures of a stored snapshot, the purchase total first. -/
def YieldSnapshotModel.planned (y : YieldSnapshotModel) : List Decimal :=
  [y.purchaseTotal, y.plannedExitTotal, y.plannedProfitBeforeTax, y.plannedProfitAfterTax,
    y.plannedAnnualYieldBeforeTax, y.plannedAnnualYieldAfterTax]

/-- The same figures of a result. -/
def YieldResult.figures (r : YieldResult Decimal) : List Decimal :=
  [r.purchase.purchaseTotal, r.exitTotal, r.profitBeforeTax, r.profitAfterTax,
    r.annualYieldBeforeTax, r.annualYieldAfterTax]

/-- The quote that a calculation of the lot reads. -/
def Tables.quote (t : Tables) (loaded : LoadedLot) : Option (ℚ × ℚ) :=
  (t.market.latestOf loaded.lot.instrumentId).bind MarketSnapshotModel.exit

/-- No snapshot has a negative bid or accrued interest. -/
def Tables.QuotesNonneg (t : Tables) : Prop :=
  ∀ m ∈ t.market.markets, (∀ bid ∈ m.bidRubPerBond, 0 ≤ bid) ∧
    ∀ accrued ∈ m.accruedInterestRubPerBond, 0 ≤ accrued

theorem Tables.QuotesNonneg.quote {t : Tables} (h : t.QuotesNonneg) {loaded : LoadedLot}
    {e : ℚ × ℚ} (he : t.quote loaded = some e) : 0 ≤ e.1 ∧ 0 ≤ e.2 := by
  obtain ⟨market, hmarket, hexit⟩ := Option.bind_eq_some_iff.mp he
  obtain ⟨hbids, haccrueds⟩ := h market (Sql.mem_of_firstBy hmarket).1
  obtain ⟨bid, hbid, hexit⟩ := Option.bind_eq_some_iff.mp hexit
  obtain ⟨accrued, haccrued, hexit⟩ := Option.bind_eq_some_iff.mp hexit
  obtain rfl := Option.some.inj hexit
  exact ⟨hbids bid hbid, haccrueds accrued haccrued⟩

section Transaction

variable {order : EventOrder} {zone : Zone} {db : Database} {owner : UserId} {id : LotId}
  {valuationDate : Option Date} {draw : CalculationDraw} {loaded : LoadedLot}
  {w : PlannedYieldInput ℚ}

end Transaction

/-! ## Two markets -/

end BondTrading
