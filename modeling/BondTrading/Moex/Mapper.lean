/-
# BondTrading.Moex.Mapper -- from four payloads to an instrument, its actions and a quote

`infrastructure/moex/mapper.py`, and `bid_to_rubles` of `domain/calculations/market.py`.  The
warning about a missing BIDDEPTH is only logged and left out.
-/
import BondTrading.Instruments.Moex
import BondTrading.Moex.Tables
import Mathlib.Data.List.Infix

namespace BondTrading

open Py (Decimal Dict Gives Instant Json)

/-! ## Quotes in roubles -/

inductive QuoteBasis where
  | percentOfFace
  | rubles
  deriving DecidableEq, Repr

namespace Moex

/-- `bid_to_rubles`. -/
def bidToRubles (bid faceValue : Decimal) (quoteBasis : QuoteBasis) :
    Except MapperError Decimal := do
  if ← (Decimal.lt bid (.finite 0) <||> Decimal.lt faceValue (.finite 0)) then
    throw (.domain (.domain .invalidAmount "Bid and face value cannot be negative" .none))
  match quoteBasis with
  | .percentOfFace => do
      let share ← Decimal.div bid (.finite 100)
      Decimal.mul share faceValue
  | .rubles => return bid

/-! ## Values -/

/-- What the mapper uses of the standard library: `datetime.fromisoformat`, which gives a
local time and an offset if the text has one, and the SHA-256 of
`json.dumps(dict(row), sort_keys=True, ensure_ascii=False, default=str)`. -/
structure Library where
  fromIsoFormat : String → Option (ℤ × Option ℤ)
  payloadHash : Row → Except MapperError String

/-- `timezone.utcoffset(..)` at a local time. -/
abbrev LocalZone := ℤ → ℤ

/-- `normalize_isin`. -/
def normalized (isin : String) : Except MapperError String :=
  (normalizeIsin isin).mapError MapperError.domain

/-- `_decimal`. -/
def decimal (value : Json) : Except MapperError (Option Decimal) :=
  if value.isMissing then .ok none
  else
    match Decimal.ofText value.str with
    | some d => .ok (some d)
    | none => .error (.data ("Invalid decimal value from MOEX: " ++ value.repr))

/-- The first value, or the second where the first is none. -/
def firstDecimal (first second : Json) : Except MapperError (Option Decimal) := do
  match ← decimal first with
  | some d => return some d
  | none => decimal second

/-- `int(d)`. -/
def toInteger (d : Decimal) : Except MapperError ℤ :=
  d.toInt.mapError fun
    | .valueError => .valueError "cannot convert NaN to integer"
    | .overflowError => .overflowError "cannot convert Infinity to integer"

/-- `_integer`. -/
def integer (value : Json) : Except MapperError (Option ℤ) := do
  match ← decimal value with
  | some d => return some (← toInteger d)
  | none => return none

/-- `value in (None, "", "0000-00-00")`. -/
def isNoDate : Json → Bool
  | .null => true
  | .string s => s = "" || s = "0000-00-00"
  | _ => false

/-- `_date`. -/
def date (value : Json) : Except MapperError (Option Date) :=
  if isNoDate value then .ok none
  else
    match Py.fromIsoFormat value.str with
    | some d => .ok (some d)
    | none => .error (.data ("Invalid date value from MOEX: " ++ value.repr))

/-- `_first_date`. -/
def firstDate : List Json → Except MapperError (Option Date)
  | [] => .ok none
  | value :: values => do
      match ← date value with
      | some parsed => return some parsed
      | none => firstDate values

/-- `parsed.astimezone(UTC)` of a local time and its offset. -/
def toUtc (localTime offset : ℤ) : Except MapperError Instant :=
  if Py.days (Py.minOrdinal - Py.epochOrdinal) ≤ localTime - offset ∧
      localTime - offset < Py.days (Py.maxOrdinal + 1 - Py.epochOrdinal) then
    .ok (localTime - offset)
  else .error (.overflowError "date value out of range")

/-- `_market_datetime`. -/
def marketDatetime (library : Library) (timezone : LocalZone) (value : Json) :
    Except MapperError (Option Instant) :=
  if value.isMissing then .ok none
  else
    match library.fromIsoFormat value.str with
    | none => .error (.data ("Invalid timestamp value from MOEX: " ++ value.repr))
    | some (localTime, offset) =>
        (toUtc localTime (offset.getD (timezone localTime))).map some

/-- `_currency`. -/
def currency (value : Json) : String :=
  let raw := Py.Text.upper (value.orElse (.string "RUB")).str
  if raw = "RUB" ∨ raw = "SUR" then "RUB" else raw

/-- `_optional_string`. -/
def optionalString (value : Json) : Option String :=
  if value.isMissing then none else some (Py.Text.strip value.str)

/-- `bool(d)`. -/
def isTrue (d : Decimal) : Bool := d ≠ .finite 0

/-- `first or second` of two optional decimals. -/
def decimalOr (first second : Option Decimal) : Option Decimal :=
  match first.filter isTrue with
  | some d => some d
  | none => second

/-! ## Rows -/

/-- A row with this ISIN. -/
def isMatch (normalizedIsin : String) (row : Row) : Bool :=
  Py.Text.upper (Py.Text.strip ((row.get "isin").orElse (.string "")).str) = normalizedIsin

/-- `find_exact_security`. -/
def findExactSecurity (payload : Payload) (isin : String) : Except MapperError Row := do
  let normalizedIsin ← normalized isin
  let rows ← tableRows payload "securities"
  match rows.filter (isMatch normalizedIsin) with
  | [] => throw (.notFound ("MOEX instrument " ++ normalizedIsin ++ " was not found"))
  | first :: others =>
      return ((first :: others).find? fun row => (row.get "is_traded").isOne).getD first

/-- `_description_values`. -/
def descriptionValues (payload : Payload) : Except MapperError (Dict String Json) := do
  let rows ← tableRows payload "description"
  return Dict.ofList (rows.filterMap fun row =>
    if (row.get "name").truthy then some ((row.get "name").str, row.get "value") else none)

/-- `descriptions.get(name)`. -/
def described (descriptions : Dict String Json) (name : String) : Json :=
  (descriptions.get? name).getD .null

/-- The first value of a block in `_initial_face_value`. -/
def firstInitialFace : List Row → Except MapperError (Option Decimal)
  | [] => .ok none
  | row :: rows => do
      match ← decimal (row.get "initialfacevalue") with
      | some value => return some value
      | none => firstInitialFace rows

/-- `_initial_face_value`. -/
def initialFaceValue (payload : Payload) : Except MapperError (Option Decimal) := do
  match ← firstInitialFace (← tableRows payload "coupons") with
  | some value => return some value
  | none => firstInitialFace (← tableRows payload "amortizations")

/-! ## Actions -/

/-- `_action`. -/
def action (library : Library) (actionType : ActionType) (eventDate : Date) (row : Row)
    (recordDateField : Option String) : Except MapperError (MoexCorporateActionData Decimal) := do
  let amount ← firstDecimal (row.get "value_rub") (row.get "value")
  let recordDate ← match recordDateField with
    | some field => date (row.get field)
    | none => pure none
  let percent ← decimal (row.get "valueprc")
  let sourcePayloadHash ← library.payloadHash row
  return { actionType, eventDate, recordDate, amountRubPerBond := amount, percent,
           sourcePayloadHash }

/-- One loop of `_map_actions`: rows without a date are skipped. -/
def eventActions (library : Library) (dateField : String) (actionType : Row → ActionType)
    (recordDateField : Option String) :
    List Row → Except MapperError (List (MoexCorporateActionData Decimal))
  | [] => .ok []
  | row :: rows => do
      match ← date (row.get dateField) with
      | none => eventActions library dateField actionType recordDateField rows
      | some eventDate =>
          let first ← action library (actionType row) eventDate row recordDateField
          return first :: (← eventActions library dateField actionType recordDateField rows)

/-- The kind of an amortization. -/
def amortizationType (row : Row) : ActionType :=
  if Py.Text.lower ((row.get "data_source").orElse (.string "")).str = "maturity" then .maturity
  else .amortization

/-- `a <= b` on the keys `(event_date, action_type)`. -/
def actionKeyLe (a b : MoexCorporateActionData Decimal) : Bool :=
  a.eventDate < b.eventDate ||
    (a.eventDate = b.eventDate && decide (a.actionType.value ≤ b.actionType.value))

/-- `_map_actions`. -/
def mapActions (library : Library) (payload : Payload) :
    Except MapperError (List (MoexCorporateActionData Decimal)) := do
  let coupons ← eventActions library "coupondate" (fun _ => .coupon) (some "recorddate")
    (← tableRows payload "coupons")
  let amortizations ← eventActions library "amortdate" amortizationType none
    (← tableRows payload "amortizations")
  let offers ← eventActions library "offerdate" (fun _ => .offer) none
    (← tableRows payload "offers")
  return (coupons ++ amortizations ++ offers).mergeSort actionKeyLe

/-! ## The result -/

/-- `first or second or third`. -/
def firstTrue (first second third : Json) : Json := (first.orElse second).orElse third

/-- A quote in roubles, where both it and the face value are known. -/
def quoteInRubles (percent face : Option Decimal) : Except MapperError (Option Decimal) :=
  match percent, face with
  | some percent, some face => (bidToRubles percent face .percentOfFace).map some
  | _, _ => .ok none

/-- `raw_payload`. -/
def rawPayload (payload : Payload) : String :=
  let block := fun name => (name, (payload.get? name).getD (.object []))
  (Json.object [block "securities", block "marketdata", block "dataversion"]).repr

/-- `secid`. -/
def secidOf (searchRow : Row) (descriptions : Dict String Json) : Except MapperError String :=
  let secid := (firstTrue (searchRow.get "secid") (described descriptions "SECID")
    (.string "")).str
  if secid = "" then .error (.data "MOEX search result has no SECID") else .ok secid

/-- `instrument`. -/
def mapInstrument (library : Library) (timezone : LocalZone) (now : Instant) (isin secid : String)
    (searchRow securityRow marketRow : Row) (descriptions : Dict String Json)
    (initialFace currentFace : Option Decimal) :
    Except MapperError (MoexInstrumentData Decimal) := do
  let maturityDate ← date
    ((securityRow.get "MATDATE").orElse (described descriptions "MATDATE"))
  let offerDate ← firstDate [securityRow.get "OFFERDATE", securityRow.get "PUTOPTIONDATE",
    securityRow.get "BUYBACKDATE"]
  let shortName := firstTrue (searchRow.get "shortname") (securityRow.get "SHORTNAME")
    (.string secid)
  let fullNameRaw := firstTrue (searchRow.get "name") (securityRow.get "SECNAME")
    (described descriptions "NAME")
  let bondType := ((securityRow.get "BONDTYPE").orElse (.string "")).str ++ " " ++
    ((securityRow.get "BONDSUBTYPE").orElse (.string "")).str
  let sourceUpdatedAt ← marketDatetime library timezone (marketRow.get "SYSTIME")
  return {
    isin := ← normalized isin
    secid
    shortName := Py.Text.strip shortName.str
    fullName := if fullNameRaw.truthy then some (Py.Text.strip fullNameRaw.str) else none
    primaryBoardId := optionalString
      ((searchRow.get "primary_boardid").orElse (securityRow.get "BOARDID"))
    currency := currency ((securityRow.get "FACEUNIT").orElse (described descriptions "FACEUNIT"))
    initialFaceValue := initialFace
    currentFaceValue := currentFace
    maturityDate
    offerDate
    couponPeriodDays := ← integer (securityRow.get "COUPONPERIOD")
    couponValue := ← decimal (securityRow.get "COUPONVALUE")
    isAmortizing := decide ("Амортиз".toList <:+: bondType.toList)
    isFloatingCoupon := decide ("Флоатер".toList <:+: bondType.toList)
    isActive := (searchRow.get "is_traded").isOne
    sourceUpdatedAt := sourceUpdatedAt.getD now }

/-- `market`. -/
def mapMarket (library : Library) (timezone : LocalZone) (now : Instant)
    (searchRow securityRow marketRow : Row) (currentFace : Option Decimal) (rawPayload : String) :
    Except MapperError (MoexMarketData Decimal) := do
  let bidPercent ← decimal (marketRow.get "BID")
  let bidRub ← quoteInRubles bidPercent currentFace
  let offerPercent ← decimal (marketRow.get "OFFER")
  let offerRub ← quoteInRubles offerPercent currentFace
  let marketTimestamp ← marketDatetime library timezone (marketRow.get "SYSTIME")
  let status :=
    if securityRow.entries.isEmpty ∧ marketRow.entries.isEmpty then "no_market_data"
    else if bidPercent.isSome then "ok"
    else "no_bid"
  return {
    boardId := optionalString
      ((securityRow.get "BOARDID").orElse (searchRow.get "primary_boardid"))
    receivedAt := now
    marketTimestamp
    bidPercent
    bidRubPerBond := bidRub
    bidDepthLots := ← decimal (marketRow.get "BIDDEPTH")
    offerPercent
    offerRubPerBond := offerRub
    offerDepthLots := ← decimal (marketRow.get "OFFERDEPTH")
    lotSize := (decimalOr (← decimal (securityRow.get "LOTSIZE")) none).getD (.finite 1)
    currentFaceValue := currentFace
    accruedInterestRubPerBond := ← decimal (securityRow.get "ACCRUEDINT")
    lastPricePercent := ← decimal (marketRow.get "LAST")
    status
    delayedStatus := "unknown"
    rawPayload }

/-- `map_refresh_result`; `clock` is `datetime.now(UTC)`. -/
def mapRefreshResult (library : Library) (isin : String)
    (searchPayload specificationPayload marketPayload bondizationPayload : Payload)
    (timezone : LocalZone) (receivedAt : Option Instant) (clock : Instant) :
    Except MapperError (MoexRefreshResult Decimal) := do
  let now := receivedAt.getD clock
  let searchRow ← findExactSecurity searchPayload isin
  let securityRow := (← firstRow marketPayload "securities").getD Dict.empty
  let marketRow := (← firstRow marketPayload "marketdata").getD Dict.empty
  let descriptions ← descriptionValues specificationPayload
  let actions ← mapActions library bondizationPayload
  let secid ← secidOf searchRow descriptions
  let currentFace ← firstDecimal (securityRow.get "FACEVALUE") (described descriptions "FACEVALUE")
  let initialFace := decimalOr (← initialFaceValue bondizationPayload) currentFace
  let instrument ← mapInstrument library timezone now isin secid searchRow securityRow marketRow
    descriptions initialFace currentFace
  let market ← mapMarket library timezone now searchRow securityRow marketRow currentFace
    (rawPayload marketPayload)
  return { instrument, actions, market }

theorem normalized_gives (isin : String) :
    Gives (normalized isin) fun found => normalizeIsin isin = .ok found :=
  fun _ hfound => (Py.mapError_eq_ok MapperError.domain).mp hfound

theorem mapInstrument_isin (library : Library) (timezone : LocalZone) (now : Instant)
    (isin secid : String) (searchRow securityRow marketRow : Row)
    (descriptions : Dict String Json) (initialFace currentFace : Option Decimal) :
    Gives (mapInstrument library timezone now isin secid searchRow securityRow marketRow
      descriptions initialFace currentFace) fun instrument =>
        normalizeIsin isin = .ok instrument.isin := by
  unfold mapInstrument
  iterate 3 refine Gives.bind .trivial fun _ _ => ?_
  refine Gives.bind (normalized_gives isin) fun found hfound => ?_
  iterate 2 refine Gives.bind .trivial fun _ _ => ?_
  exact .ok hfound

/-- **An answer carries the ISIN it was asked for.** -/
theorem mapRefreshResult_isin (library : Library) (isin : String)
    (searchPayload specificationPayload marketPayload bondizationPayload : Payload)
    (timezone : LocalZone) (receivedAt : Option Instant) (clock : Instant) :
    Gives (mapRefreshResult library isin searchPayload specificationPayload marketPayload
      bondizationPayload timezone receivedAt clock) fun result =>
        normalizeIsin isin = .ok result.instrument.isin := by
  unfold mapRefreshResult
  iterate 8 refine Gives.bind .trivial fun _ _ => ?_
  refine Gives.bind (mapInstrument_isin _ _ _ isin _ _ _ _ _ _ _) fun instrument hisin => ?_
  refine Gives.bind .trivial fun _ _ => ?_
  exact .ok hisin

end Moex

end BondTrading
