/-
# BondTrading.Presentation.Portfolio -- the page that lists the lots

`portfolio`, `_portfolio_rows`, `_latest_market` and `_freshness` of `presentation/router.py`,
and `evaluate_liquidity` of `domain/calculations/liquidity.py`.  A row keeps what the handler
reads of it.  A sort by a `Decimal` raises when it compares a NaN, which every sort of two
rows or more does if there is one.
-/
import BondTrading.Lots.Calculation
import BondTrading.Orders.Stable
import BondTrading.Py.Names
import Mathlib.Order.WithBot

namespace BondTrading

open Py (Decimal Instant)

/-! ## The rows -/

inductive LiquidityStatus where
  | sufficient
  | partial_
  | none
  | unknown
  deriving DecidableEq, Repr

structure LiquidityResult where
  status : LiquidityStatus
  availableBondsAtBestBid : Option Decimal
  deriving DecidableEq, Repr

/-- `evaluate_liquidity`. -/
def evaluateLiquidity (quantity : Decimal) (bidPresent : Bool) (bidDepthLots : Option Decimal)
    (lotSize : Decimal) : Except PyError LiquidityResult := do
  if ← orM (quantity.le ZERO) (lotSize.le ZERO) then
    throw (invalidAmount "Quantity and lot size must be positive" .none)
  if ¬ bidPresent then return ⟨.none, some ZERO⟩
  match bidDepthLots with
  | none => return ⟨.unknown, none⟩
  | some depth => do
      let available ← depth.mul lotSize
      if ← available.le ZERO then return ⟨.none, some available⟩
      let status := if ← quantity.le available then .sufficient else .partial_
      return ⟨status, some available⟩

inductive Freshness where
  | missing
  | fresh
  | stale
  deriving DecidableEq, Repr

/-- `_freshness`. -/
def freshness (market : Option MarketSnapshotModel) (ttlSeconds : ℕ) (now : Instant) : Freshness :=
  match market with
  | none => .missing
  | some m => if now - ttlSeconds * 1000000 ≤ m.receivedAt then .fresh else .stale

/-- The latest yields of a lot. -/
def PortfolioTables.latestYield (t : PortfolioTables) (lot : LotId) : Option YieldSnapshotModel :=
  Sql.firstBy (fun y : YieldSnapshotModel => -y.createdAt) (fun y => y.lotId = lot) t.yields

structure PortfolioRow where
  lot : BondLotModel
  instrument : BondInstrumentModel
  purchaseTotal : Decimal
  market : Option MarketSnapshotModel
  plannedYield : Option Decimal
  currentYield : Option Decimal
  delta : Option Decimal
  liquidity : LiquidityResult
  freshness : Freshness
  deriving DecidableEq, Repr

/-- The body of the loop of `_portfolio_rows`. -/
def portfolioRow (t : Tables) (ttlSeconds : ℕ) (now : Instant) (loaded : LoadedLot) :
    Except PyError PortfolioRow := do
  let market := t.market.latestOf loaded.lot.instrumentId
  let latestYield := t.portfolio.latestYield loaded.lot.id
  let purchase ← calculatePurchase loaded.lot.purchase
  let liquidity ← evaluateLiquidity loaded.lot.quantity
    (market.bind MarketSnapshotModel.bidRubPerBond).isSome
    ((market.bind MarketSnapshotModel.bidDepthLots).map .finite)
    (.finite ((market.map MarketSnapshotModel.lotSize).getD 1))
  return {
    lot := loaded.lot
    instrument := loaded.instrument
    purchaseTotal := purchase.purchaseTotal
    market := market
    plannedYield := latestYield.map YieldSnapshotModel.plannedAnnualYieldAfterTax
    currentYield := latestYield.bind YieldSnapshotModel.currentAnnualYieldAfterTax
    delta := latestYield.bind YieldSnapshotModel.yieldDeltaPp
    liquidity := liquidity
    freshness := freshness market ttlSeconds now }

/-- `_portfolio_rows`, with the settings row it may add. -/
def portfolioRows (t : Tables) (owner : UserId) (settings : SettingsId) (now : Instant) :
    Except PyError (List PortfolioRow × Tables) := do
  let (row, tables) := getSettings t owner settings
  let rows ← (t.listAll owner).mapM (portfolioRow t row.marketDataTtlSeconds now)
  return (rows, tables)

/-! ## Filters -/

/-- `needle in text`. -/
def isWithin (needle text : String) : Bool := decide (needle.toList <:+: text.toList)

/-- The query of the page. -/
structure PortfolioQuery where
  search : Option String
  eventType : Option String
  comparison : Option String
  dataStatus : Option String
  sort : String
  deriving DecidableEq, Repr

/-- `value or Decimal(default)`: a zero is false. -/
def orDefault (value : Option Decimal) (default : ℚ) : Decimal :=
  (value.filter fun d => d ≠ .finite 0).getD (.finite default)

def searched (search : Option String) (rows : List PortfolioRow) : List PortfolioRow :=
  match Py.Text.given search with
  | none => rows
  | some text =>
      let needle := Py.Text.lower (Py.Text.strip text)
      rows.filter fun row => isWithin needle (Py.Text.lower row.instrument.isin) ||
        isWithin needle (Py.Text.lower row.instrument.shortName)

def ofEventType (eventType : Option String) (rows : List PortfolioRow) : List PortfolioRow :=
  match eventType with
  | some "maturity" => rows.filter fun row => row.lot.targetEventType = "maturity"
  | some "offer" => rows.filter fun row => row.lot.targetEventType = "offer"
  | _ => rows

def compared (comparison : Option String) (rows : List PortfolioRow) :
    Except PyError (List PortfolioRow) :=
  match comparison with
  | some "above" => rows.filterM fun row => ZERO.lt (orDefault row.delta 0)
  | some "below" => rows.filterM fun row =>
      match row.delta with
      | none => .ok false
      | some delta => delta.lt ZERO
  | _ => .ok rows

def ofDataStatus (dataStatus : Option String) (rows : List PortfolioRow) : List PortfolioRow :=
  match dataStatus with
  | some "stale" => rows.filter fun row => row.freshness = .stale
  | some "no_bid" => rows.filter fun row => (row.market.bind MarketSnapshotModel.bidPercent).isNone
  | _ => rows

/-! ## Sorting -/

/-- The place of a number among the numbers and the infinities. -/
def Py.Decimal.rank : Decimal → WithBot (WithTop ℚ)
  | .finite q => ((q : WithTop ℚ) : WithBot (WithTop ℚ))
  | .infinity true => ⊥
  | .infinity false => ((⊤ : WithTop ℚ) : WithBot (WithTop ℚ))
  | .nan | .snan => ⊥

/-- Of two numbers the rank decides which is less. -/
theorem lt_eq_rank {a b : Decimal} (ha : a.isNaN = false) (hb : b.isNaN = false) :
    (a.lt b : Except PyError Bool) = .ok (decide (a.rank < b.rank)) := by
  cases a with
  | nan => cases ha
  | snan => cases ha
  | finite q =>
      cases b with
      | nan => cases hb
      | snan => cases hb
      | finite r => simp [Decimal.rank]
      | infinity s =>
          cases s with
          | true => simp [Decimal.lt, Decimal.rank]
          | false =>
              have htop : ((q : WithTop ℚ) : WithBot (WithTop ℚ)) < ((⊤ : WithTop ℚ) : _) :=
                WithBot.coe_lt_coe.mpr (WithTop.coe_lt_top q)
              exact congrArg Except.ok (decide_eq_true htop).symm
  | infinity s =>
      cases b with
      | nan => cases hb
      | snan => cases hb
      | finite r => cases s <;> simp [Decimal.lt, Decimal.rank]
      | infinity t => cases s <;> cases t <;> simp [Decimal.lt, Decimal.rank]

/-- `rows.sort(key=.., reverse=True)` with a `Decimal` for a key. -/
def sortByDecimal (key : PortfolioRow → Decimal) (rows : List PortfolioRow) :
    Except PyError (List PortfolioRow) :=
  if 2 ≤ rows.length ∧ rows.any fun row => (key row).isNaN then
    Decimal.raise .invalidOperation
  else .ok (Orders.sortedDesc (fun row => (key row).rank) rows)

/-- `datetime.min.replace(tzinfo=UTC)`. -/
def minInstant : Instant := (Py.minOrdinal - Py.epochOrdinal) * 86400 * 1000000

/-- `rows.sort(key=sort_keys.get(sort, sort_keys["delta"]), reverse=True)`. -/
def sortRows (sort : String) (rows : List PortfolioRow) : Except PyError (List PortfolioRow) :=
  match sort with
  | "current_yield" => sortByDecimal (fun row => orDefault row.currentYield (-999999)) rows
  | "purchase_date" => .ok (Orders.sortedDesc (fun row => row.lot.purchaseDate) rows)
  | "target_date" => .ok (Orders.sortedDesc (fun row => row.lot.targetEventDate) rows)
  | "updated_at" => .ok (Orders.sortedDesc
      (fun row => (row.market.map MarketSnapshotModel.receivedAt).getD minInstant) rows)
  | _ => sortByDecimal (fun row => orDefault row.delta (-999999)) rows

/-- `portfolio`: the rows of the page. -/
def portfolio (rows : List PortfolioRow) (query : PortfolioQuery) :
    Except PyError (List PortfolioRow) := do
  let rows := ofEventType query.eventType (searched query.search rows)
  let rows ← compared query.comparison rows
  sortRows query.sort (ofDataStatus query.dataStatus rows)

end BondTrading
