/-
# BondTrading.Instruments.Moex -- what MOEX answers, and the calls of the services

`infrastructure/moex/schemas.py`.  The client itself is outside: a `MoexClient` is its
answers, with what `map_refresh_result` guarantees of each.
-/
import BondTrading.Db.Tables
import BondTrading.Domain.Isin

namespace BondTrading

open Py (Decimal Instant Routine)

/-! ## Answers -/

structure MoexInstrumentData (δ : Type) where
  isin : String
  secid : String
  shortName : String
  fullName : Option String
  primaryBoardId : Option String
  currency : String
  initialFaceValue : Option δ
  currentFaceValue : Option δ
  maturityDate : Option Date
  offerDate : Option Date
  couponPeriodDays : Option ℤ
  couponValue : Option δ
  isAmortizing : Bool
  isFloatingCoupon : Bool
  isActive : Bool
  sourceUpdatedAt : Instant
  deriving DecidableEq, Repr

structure MoexCorporateActionData (δ : Type) where
  actionType : ActionType
  eventDate : Date
  recordDate : Option Date
  amountRubPerBond : Option δ
  percent : Option δ
  sourcePayloadHash : String
  deriving DecidableEq, Repr

structure MoexMarketData (δ : Type) where
  boardId : Option String
  receivedAt : Instant
  marketTimestamp : Option Instant
  bidPercent : Option δ
  bidRubPerBond : Option δ
  bidDepthLots : Option δ
  offerPercent : Option δ
  offerRubPerBond : Option δ
  offerDepthLots : Option δ
  lotSize : δ
  currentFaceValue : Option δ
  accruedInterestRubPerBond : Option δ
  lastPricePercent : Option δ
  status : String
  delayedStatus : String
  rawPayload : String
  deriving DecidableEq, Repr

structure MoexRefreshResult (δ : Type) where
  instrument : MoexInstrumentData δ
  actions : List (MoexCorporateActionData δ)
  market : MoexMarketData δ
  deriving DecidableEq, Repr

/-- The MOEX client: what it answers to each call.  An answer carries the ISIN it was
asked for. -/
structure MoexClient where
  refresh : String → Except PyError (MoexRefreshResult ℚ)
  accruedInterestOn : String → Option String → Date → Except PyError (Option Decimal)
  answersIsin : ∀ isin result, refresh isin = .ok result →
    normalizeIsin isin = .ok result.instrument.isin

/-! ## A bond at par -/

/-- What MOEX says of a bond at 95 % of its face value with one coupon, given by its amount
and the hash of its row. -/
def parBond (coupon : ℚ × String) (isin : String) : MoexRefreshResult ℚ where
  instrument := {
    isin
    secid := isin
    shortName := "Облигация"
    fullName := none
    primaryBoardId := some "TQCB"
    currency := "RUB"
    initialFaceValue := some 1000
    currentFaceValue := some 1000
    maturityDate := none
    offerDate := none
    couponPeriodDays := some 182
    couponValue := some coupon.1
    isAmortizing := false
    isFloatingCoupon := false
    isActive := true
    sourceUpdatedAt := 1700000000000000 }
  actions := [⟨.coupon, 738900, none, some coupon.1, none, coupon.2⟩]
  market := {
    boardId := some "TQCB"
    receivedAt := 1720000000000000
    marketTimestamp := none
    bidPercent := some 94
    bidRubPerBond := some 940
    bidDepthLots := none
    offerPercent := some 95
    offerRubPerBond := some 950
    offerDepthLots := none
    lotSize := 1
    currentFaceValue := some 1000
    accruedInterestRubPerBond := some 12
    lastPricePercent := some 95
    status := "ok"
    delayedStatus := "delayed"
    rawPayload := "\x7b\x7d" }

/-- MOEX where every ISIN is a bond at par. -/
def parClient (coupon : ℚ × String) : MoexClient where
  refresh isin := (normalizeIsin isin).map (parBond coupon)
  accruedInterestOn _ _ _ := .ok (some (.finite 10))
  answersIsin isin result h := by
    cases hisin : normalizeIsin isin with
    | error e =>
        rw [hisin] at h
        exact absurd h (by simp [Except.map])
    | ok normalized =>
        rw [hisin] at h
        obtain rfl := Except.ok.inj h
        rfl

/-- MOEX with this answer for every normalized ISIN. -/
def answeringClient (answer : String → Except PyError (MoexRefreshResult ℚ))
    (h : ∀ isin result, answer isin = .ok result → result.instrument.isin = isin) : MoexClient where
  refresh isin := normalizeIsin isin >>= answer
  accruedInterestOn _ _ _ := .ok (some (.finite 10))
  answersIsin isin result hresult := by
    obtain ⟨normalized, hnormalized, hanswer⟩ := Py.bind_eq_ok.mp hresult
    rw [hnormalized, h normalized result hanswer]

/-- A bond at par whose coupon is listed twice. -/
def repeatedBond (isin : String) : MoexRefreshResult ℚ :=
  { parBond (40, "coupon-40") isin with
    actions := (parBond (40, "coupon-40") isin).actions ++ (parBond (40, "coupon-40") isin).actions }

/-! ## The world of a service -/

/-- `CellUpdate.value`. -/
inductive CellContent where
  | none
  | text (value : String)
  | decimal (value : Decimal)
  deriving DecidableEq, Repr

structure CellUpdate where
  rowNumber : ℕ
  column : String
  value : CellContent
  deriving DecidableEq, Repr

/-- A call to MOEX or to Google Sheets. -/
inductive ExternalCall where
  | refresh (isin : String)
  | accruedInterestOn (secid : String) (boardId : Option String) (valueDate : Date)
  | checkConnection (spreadsheetId : String)
  | readRows (spreadsheetId worksheetName : String) (columns : List String) (firstDataRow : ℕ)
  | updateCells (spreadsheetId worksheetName : String) (updates : List CellUpdate)
  deriving DecidableEq, Repr

/-- The session of a service and the calls it has made. -/
abbrev ServiceWorld := Sql.World Tables.Constraints ExternalCall

/-- A service method. -/
abbrev Service (α : Type) := Routine ServiceWorld PyError α

end BondTrading
