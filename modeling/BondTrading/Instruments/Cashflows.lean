/-
# BondTrading.Instruments.Cashflows -- stored actions as cash flows

`_instrument_cashflows` of `application/services/sheets.py`: of the stored actions, the
latest first, the first amount of every type and date counts.
-/
import BondTrading.Instruments.Service

namespace BondTrading

open Py (Decimal)

/-- `(action_type, event_date)`. -/
def CorporateActionModel.event (a : CorporateActionModel) : ActionType × Date :=
  (a.actionType, a.eventDate)

/-- The place of an action type among the texts of the enumeration. -/
def ActionType.rank : ActionType → ℕ
  | .amortization => 0
  | .coupon => 1
  | .maturity => 2
  | .offer => 3

/-- What the loop carries: the events it has seen and the flows it has kept. -/
structure LatestFlows where
  seen : List (ActionType × Date)
  cashflows : List (CorporateCashFlow Decimal)

/-- One round: an event that was seen, or an action without an amount, is passed over. -/
def latestFlowStep (acc : LatestFlows) (action : CorporateActionModel) : LatestFlows :=
  match action.amountRubPerBond with
  | none => acc
  | some amount =>
      if action.event ∈ acc.seen then acc
      else
        ⟨action.event :: acc.seen,
          acc.cashflows ++ [⟨action.actionType, action.eventDate, .finite amount⟩]⟩

/-- The order of `sorted(.., key=(event_date, action_type))`. -/
def CorporateCashFlow.before (a b : CorporateCashFlow Decimal) : Prop :=
  a.eventDate < b.eventDate ∨ (a.eventDate = b.eventDate ∧ a.actionType.rank ≤ b.actionType.rank)

instance : DecidableRel CorporateCashFlow.before := fun _ _ =>
  inferInstanceAs (Decidable (_ ∨ _))

/-- `_instrument_cashflows`, from the actions as the select returns them. -/
def instrumentCashflows (actions : List CorporateActionModel) : List (CorporateCashFlow Decimal) :=
  (actions.foldl latestFlowStep ⟨[], []⟩).cashflows.insertionSort CorporateCashFlow.before

/-- The select of `_instrument_cashflows`. -/
def MarketTables.latestActions (t : MarketTables) (instrument : InstrumentId) :
    List CorporateActionModel :=
  (t.actions.filter fun a => a.instrumentId = instrument).insertionSort fun a b =>
    b.sourceUpdatedAt ≤ a.sourceUpdatedAt

end BondTrading
