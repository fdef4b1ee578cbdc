/-
# BondTrading.Lots.Calculation -- the yields of a lot

`LotService.calculate`: the stored actions of the lot's instrument become cash flows, the
engine computes the planned result and, where the market has a bid, the current one, and
a snapshot of both is committed.
-/
import BondTrading.Domain.Yields
import BondTrading.Instruments.Service
import BondTrading.Lots.Service

namespace BondTrading

open Py (Decimal Instant Zone)

/-! ## What the select returns -/

/-- `ORDER BY event_date`: the database arranges the rows by date, and rows of one date
in any way. -/
structure EventOrder where
  arrange : List CorporateActionModel → List CorporateActionModel
  perm : ∀ rows, (arrange rows).Perm rows
  sorted : ∀ rows, (arrange rows).Pairwise fun a b => a.eventDate ≤ b.eventDate

/-- The actions of an instrument, as the select returns them. -/
def EventOrder.select (order : EventOrder) (t : MarketTables) (instrument : InstrumentId) :
    List CorporateActionModel :=
  order.arrange (t.actions.filter fun a => a.instrumentId = instrument)

/-! ## Inputs of the engine -/

/-- `cashflows`: the actions with an amount. -/
def storedCashflows (actions : List CorporateActionModel) : List (CorporateCashFlow ℚ) :=
  actions.filterMap fun a => a.amountRubPerBond.map fun amount => ⟨a.actionType, a.eventDate, amount⟩

def BondLotModel.purchase (lot : BondLotModel) : PurchaseInput Decimal where
  purchaseDate := lot.purchaseDate
  quantity := lot.quantity
  cleanPriceRubPerBond := lot.purchaseCleanPriceRubPerBond
  accruedInterestRubPerBond := lot.purchaseAccruedInterestRubPerBond
  commissionRubPerBond := lot.purchaseCommissionRubPerBond

/-- `wanted_type`. -/
def BondLotModel.wantedType (lot : BondLotModel) : ActionType :=
  if lot.targetEventType = "maturity" then .maturity else .offer

/-- The amount of the first action that is the target event of the lot. -/
def BondLotModel.targetAmount (lot : BondLotModel) (actions : List CorporateActionModel) :
    Option ℚ :=
  actions.findSome? fun a =>
    if a.actionType = lot.wantedType ∧ a.eventDate = lot.targetEventDate then a.amountRubPerBond
    else none

/-- `_target_redemption`. -/
def LoadedLot.targetRedemption (loaded : LoadedLot) (actions : List CorporateActionModel) :
    Except PyError Decimal :=
  match loaded.lot.targetRedemptionPriceRubPerBond with
  | some price => .ok price
  | none =>
      match loaded.lot.targetAmount actions with
      | some amount => .ok (.finite amount)
      | none =>
          match loaded.instrument.currentFaceValue with
          | some value =>
              if loaded.lot.targetEventType = "maturity" then .ok (.finite value)
              else unavailable
          | none => unavailable
where
  unavailable : Except PyError Decimal := .error (.domain .domain
    "Target redemption value is unavailable; set a manual override or refresh MOEX data"
    (.lot loaded.lot.id))

/-- `_valuation_date`: the day of the market's own time, or today. -/
def lotValuationDate (zone : Zone) (now : Instant) (market : Option MarketSnapshotModel) : Date :=
  Py.localDate zone ((market.bind MarketSnapshotModel.marketTimestamp).getD now)

/-- The bid and the accrued interest of a market that has both. -/
def MarketSnapshotModel.exit (market : MarketSnapshotModel) : Option (ℚ × ℚ) := do
  return (← market.bidRubPerBond, ← market.accruedInterestRubPerBond)

/-! ## The calculation -/

/-- `CalculationBundle`. -/
structure CalculationBundle where
  snapshot : YieldSnapshotModel
  planned : YieldResult Decimal
  current : Option (YieldResult Decimal)
  deriving DecidableEq, Repr

/-- The identifiers and the clock one calculation draws. -/
structure CalculationDraw where
  settings : SettingsId
  yield : YieldId
  now : Instant

/-- `YieldSnapshotModel(..)`. -/
def newYield (lot : LotId) (valuationDate : Date) (market : Option MarketSnapshotModel)
    (planned : YieldResult Decimal) (current : Option (YieldResult Decimal))
    (yieldDelta : Option Decimal) (settings : AppSettingModel) (draw : CalculationDraw) :
    YieldSnapshotModel where
  id := draw.yield
  lotId := lot
  valuationDate := valuationDate
  marketSnapshotId := market.map MarketSnapshotModel.id
  purchaseTotal := planned.purchase.purchaseTotal
  plannedExitTotal := planned.exitTotal
  plannedProfitBeforeTax := planned.profitBeforeTax
  plannedProfitAfterTax := planned.profitAfterTax
  plannedAnnualYieldBeforeTax := planned.annualYieldBeforeTax
  plannedAnnualYieldAfterTax := planned.annualYieldAfterTax
  currentExitTotal := current.map YieldResult.exitTotal
  currentProfitBeforeTax := current.map YieldResult.profitBeforeTax
  currentProfitAfterTax := current.map YieldResult.profitAfterTax
  currentAnnualYieldBeforeTax := current.map YieldResult.annualYieldBeforeTax
  currentAnnualYieldAfterTax := current.map YieldResult.annualYieldAfterTax
  yieldDeltaPp := yieldDelta
  calculationVersion := settings.formulaVersion
  calculationDetails := ⟨settings.taxMode, settings.taxRate, planned, current⟩
  createdAt := draw.now

/-- `PlannedYieldInput(..)`. -/
def plannedInput (lot : BondLotModel) (redemption : Decimal)
    (cashflows : List (CorporateCashFlow ℚ)) (settings : AppSettingModel) :
    PlannedYieldInput Decimal where
  purchase := lot.purchase
  targetDate := lot.targetEventDate
  finalRedemptionRubPerBond := redemption
  cashflows := cashflows.map (CorporateCashFlow.map .finite)
  saleCommissionRubPerBond := lot.saleCommissionRubPerBond
  taxPolicy := ⟨settings.taxMode, .finite settings.taxRate⟩

/-- `CurrentYieldInput(..)`. -/
def currentInput (lot : BondLotModel) (valuationDate : Date) (exit : ℚ × ℚ)
    (cashflows : List (CorporateCashFlow ℚ)) (settings : AppSettingModel) :
    CurrentYieldInput Decimal where
  purchase := lot.purchase
  valuationDate := valuationDate
  bidRubPerBond := .finite exit.1
  currentAccruedInterestRubPerBond := .finite exit.2
  cashflows := cashflows.map (CorporateCashFlow.map .finite)
  saleCommissionRubPerBond := lot.saleCommissionRubPerBond
  taxPolicy := ⟨settings.taxMode, .finite settings.taxRate⟩

/-- `current`: computed where the market has a bid and accrued interest. -/
def currentYield (lot : BondLotModel) (valuationDate : Date) (exit : Option (ℚ × ℚ))
    (cashflows : List (CorporateCashFlow ℚ)) (settings : AppSettingModel) :
    Except PyError (Option (YieldResult Decimal)) :=
  match exit with
  | some exit =>
      (calculateCurrentYield (currentInput lot valuationDate exit cashflows settings)).map some
  | none => .ok none

/-- `yield_delta`. -/
def yieldDelta (planned : YieldResult Decimal) :
    Option (YieldResult Decimal) → Except PyError (Option Decimal)
  | some current => (current.annualYieldAfterTax.sub planned.annualYieldAfterTax).map some
  | none => .ok none

/-- The date `calculate` values a lot at. -/
def calculationDate (zone : Zone) (db : Database) (instrument : InstrumentId)
    (valuationDate : Option Date) (draw : CalculationDraw) : Date :=
  valuationDate.getD (lotValuationDate zone draw.now (db.val.market.latestOf instrument))

/-- `LotService.calculate`. -/
def calculate (order : EventOrder) (zone : Zone) (db : Database) (owner : UserId) (id : LotId)
    (valuationDate : Option Date) (draw : CalculationDraw) :
    Except PyError (Database × CalculationBundle) := do
  let loaded ← db.val.requiredLot owner id
  let actions := order.select db.val.market loaded.lot.instrumentId
  let cashflows := storedCashflows actions
  let (settings, tables) := getSettings db.val owner draw.settings
  let redemption ← loaded.targetRedemption actions
  let planned ← calculatePlannedYield (plannedInput loaded.lot redemption cashflows settings)
  let market := db.val.market.latestOf loaded.lot.instrumentId
  let date := calculationDate zone db loaded.lot.instrumentId valuationDate draw
  let current ← currentYield loaded.lot date (market.bind MarketSnapshotModel.exit) cashflows settings
  let delta ← yieldDelta planned current
  let snapshot := newYield loaded.lot.id date market planned current delta settings draw
  let committed ← Tables.commit { tables with
    portfolio := { tables.portfolio with yields := tables.portfolio.yields ++ [snapshot] } }
  return (committed, ⟨snapshot, planned, current⟩)

/-! ## What the results are made of -/

/-- Only a number compares as greater than zero. -/
theorem finite_of_positive {d : Decimal} (hnumeric : isNumeric d = true)
    (hpositive : (d.le ZERO : Except PyError Bool) = .ok false) : ∃ q : ℚ, d = .finite q ∧ 0 < q := by
  cases d with
  | finite q =>
      refine ⟨q, rfl, ?_⟩
      have h := Except.ok.inj hpositive
      exact not_le.mp (of_decide_eq_false h)
  | infinity s => exact absurd hnumeric (by simp [isNumeric])
  | nan => cases hpositive
  | snan => cases hpositive

/-- The quantity of a stored lot that passed the engine's check. -/
theorem getLot_quantity {db : Database} {owner : UserId} {id : LotId} {loaded : LoadedLot}
    (hlot : db.val.getLot owner id = some loaded)
    (hpositive : (loaded.lot.quantity.le ZERO : Except PyError Bool) = .ok false) :
    ∃ q : ℚ, loaded.lot.quantity = .finite q ∧ 0 < q := by
  refine finite_of_positive (isNumeric_of_takes (c := MONEY) ?_) hpositive
  exact db.property.portfolio.amounts _ (getLot_eq_some hlot).1 _ (by simp [BondLotModel.amounts])

/-- **What `calculate` returned**, step by step. -/
theorem calculate_eq_ok {order : EventOrder} {zone : Zone} {db db' : Database} {owner : UserId}
    {id : LotId} {valuationDate : Option Date} {draw : CalculationDraw}
    {bundle : CalculationBundle}
    (h : calculate order zone db owner id valuationDate draw = .ok (db', bundle)) :
    ∃ loaded redemption, db.val.getLot owner id = some loaded ∧
      loaded.targetRedemption (order.select db.val.market loaded.lot.instrumentId) =
        .ok redemption ∧
      calculatePlannedYield (plannedInput loaded.lot redemption
        (storedCashflows (order.select db.val.market loaded.lot.instrumentId))
        (getSettings db.val owner draw.settings).1) = .ok bundle.planned ∧
      currentYield loaded.lot
        (calculationDate zone db loaded.lot.instrumentId valuationDate draw)
        ((db.val.market.latestOf loaded.lot.instrumentId).bind MarketSnapshotModel.exit)
        (storedCashflows (order.select db.val.market loaded.lot.instrumentId))
        (getSettings db.val owner draw.settings).1 = .ok bundle.current := by
  simp only [calculate, Py.bind_eq_ok] at h
  obtain ⟨loaded, hloaded, redemption, hredemption, planned, hplanned, current, hcurrent, _, -, _,
    -, hreturn⟩ := h
  obtain ⟨-, rfl⟩ := Prod.mk.inj (Except.ok.inj hreturn)
  exact ⟨loaded, redemption, Py.orRaise_eq_ok.mp hloaded, hredemption, hplanned, hcurrent⟩

end BondTrading
