/-
# BondTrading.Sheets.Rows -- what a synchronization writes for a row

The row loop of `SheetSyncService.execute` and its helpers.  Only the call of
`calculate_sheet_current` stands in a `try`; whatever else raises ends the whole run.
-/
import BondTrading.Instruments.Moex
import BondTrading.Sheets.Calculations

namespace BondTrading

open Py (Decimal Dict Instant Zone)

/-- `_RefreshedInstrument`. -/
structure RefreshedInstrument where
  instrument : BondInstrumentModel
  market : MarketSnapshotModel
  cashflows : List (CorporateCashFlow Decimal)
  price : Option Decimal
  marketTime : Instant
  status : String
  deriving DecidableEq, Repr

/-! ## Prices -/

def SheetPriceMode.isOffer : SheetPriceMode → Bool
  | .bestOfferPercent | .bestOfferCleanRub | .bestOfferFullRub => true
  | .bestBidPercent | .bestBidCleanRub | .bestBidFullRub => false

/-- `price + accrued` where both are there. -/
def fullPrice (price accrued : Option ℚ) : Option ℚ := do
  return (← price) + (← accrued)

/-- `_market_price`. -/
def marketPrice (market : MarketSnapshotModel) : SheetPriceMode → Option ℚ
  | .bestBidPercent => market.bidPercent
  | .bestBidFullRub => fullPrice market.bidRubPerBond market.accruedInterestRubPerBond
  | .bestBidCleanRub => market.bidRubPerBond
  | .bestOfferPercent => market.offerPercent
  | .bestOfferFullRub => fullPrice market.offerRubPerBond market.accruedInterestRubPerBond
  | .bestOfferCleanRub => market.offerRubPerBond

/-- `_market_rub_price`. -/
def marketRubPrice (market : MarketSnapshotModel) (mode : SheetPriceMode) : Option ℚ :=
  if mode.isOffer then market.offerRubPerBond else market.bidRubPerBond

/-- `_missing_quote_status`. -/
def missingQuoteStatus (mode : SheetPriceMode) : String :=
  if mode.isOffer then "NO OFFER" else "NO BID"

/-- `_missing_quote_calculation_status`. -/
def missingQuoteCalculationStatus (mode : SheetPriceMode) : String :=
  if mode.isOffer then "НЕТ ЛУЧШЕГО ПРЕДЛОЖЕНИЯ" else "НЕТ ЛУЧШЕЙ ЗАЯВКИ НА ПОКУПКУ"

/-- `market.market_timestamp or market.received_at`. -/
def MarketSnapshotModel.time (market : MarketSnapshotModel) : Instant :=
  market.marketTimestamp.getD market.receivedAt

/-- `_valuation_date`. -/
def valuationDateOf (zone : Zone) (market : MarketSnapshotModel) : Date :=
  Py.localDate zone market.time

/-! ## Cells -/

abbrev RowUpdates := Dict String CellContent

def CellContent.ofDecimal : Option Decimal → CellContent
  | .some d => .decimal d
  | .none => .none

/-- `_money` and `_percent`, which both round to two decimals. -/
def money : Option Decimal → Except PyError CellContent
  | some d => (d.quantize 2).map .decimal
  | none => .ok .none

/-- `_blank_calculation_values`. -/
def blankCalculationValues : List (String × CellContent) :=
  ["AE", "AF", "AG", "AH", "AI", "AJ", "AK"].map fun column => (column, .none)

/-- `row_updates.update(_blank_calculation_values())` and the status in AL. -/
def RowUpdates.blank (updates : RowUpdates) (status : String) : RowUpdates :=
  (updates.update blankCalculationValues).set "AL" (.text status)

/-- Assign to a column the connection may not have. -/
def RowUpdates.setOptional (updates : RowUpdates) (column : Option String) (value : CellContent) :
    RowUpdates :=
  match Py.Text.given column with
  | some column => updates.set column value
  | none => updates

/-- `_cell_updates`. -/
def cellUpdates (rowNumber : ℕ) (values : RowUpdates) : List CellUpdate :=
  values.entries.map fun (column, value) => ⟨rowNumber, column, value⟩

/-- `_failed_row_updates`. -/
def failedRowUpdates (connection : SheetConnectionModel) : RowUpdates :=
  let values : RowUpdates :=
    Dict.ofList ([(connection.priceColumn, .none), ("AD", .none)] ++ blankCalculationValues ++
      [("AL", .text "ОШИБКА ОБНОВЛЕНИЯ MOEX")])
  RowUpdates.setOptional (RowUpdates.setOptional values connection.updatedAtColumn (.text ""))
    connection.statusColumn (.text "ERROR")

/-- The price, AD, the time and the status of a refreshed row. -/
def quoteUpdates (connection : SheetConnectionModel) (zone : Zone) (value : RefreshedInstrument) :
    Except PyError RowUpdates := do
  let accrued ← money (value.market.accruedInterestRubPerBond.map .finite)
  let values : RowUpdates :=
    Dict.ofList [(connection.priceColumn, .ofDecimal value.price), ("AD", accrued)]
  return RowUpdates.setOptional
    (RowUpdates.setOptional values connection.updatedAtColumn
      (.text (Py.isoInstant zone value.marketTime)))
    connection.statusColumn (.text value.status)

/-- `commission_total`: the default where L is empty. -/
def commissionTotal (row : SheetDataRow) : Option Decimal :=
  if (row.get "L").isBlank then some defaultPurchaseCommission else parseDecimal (row.get "L")

/-- The default commission is written where L is empty. -/
def commissionUpdates (row : SheetDataRow) (updates : RowUpdates) : RowUpdates :=
  if (row.get "L").isBlank then updates.set "L" (.decimal defaultPurchaseCommission) else updates

/-! ## The loop -/

/-- What the loop over the rows carries: `updates`, `historical_accrued`, `row_errors`, and
the calls it made. -/
structure RowLoop where
  updates : List CellUpdate
  historicalAccrued : Dict (String × Date) (Option Decimal)
  rowErrors : List SheetRowError
  calls : List ExternalCall

/-- `updates.extend(_cell_updates(row.row_number, ..))`. -/
def RowLoop.emit (acc : RowLoop) (row : SheetDataRow) (values : RowUpdates) : RowLoop :=
  { acc with updates := acc.updates ++ cellUpdates row.rowNumber values }

def RowLoop.addError (acc : RowLoop) (row : SheetDataRow) (isin message : String) : RowLoop :=
  { acc with rowErrors := acc.rowErrors ++ [.row row.rowNumber isin message] }

/-- What MOEX says about the accrued interest of an instrument on a date; an error counts as
no answer. -/
def historicalAccruedOn (moex : MoexClient) (value : RefreshedInstrument) (date : Date) :
    Option Decimal :=
  match moex.accruedInterestOn value.instrument.secid value.instrument.primaryBoardId date with
  | .ok accrued => accrued
  | .error _ => none

/-- The loop after MOEX was asked for an ISIN and a date. -/
def RowLoop.ask (acc : RowLoop) (moex : MoexClient) (value : RefreshedInstrument) (isin : String)
    (date : Date) : RowLoop :=
  { acc with
    historicalAccrued :=
      acc.historicalAccrued.set (isin, date) (historicalAccruedOn moex value date)
    calls := acc.calls ++
      [.accruedInterestOn value.instrument.secid value.instrument.primaryBoardId date] }

/-- The accrued interest of a date, which MOEX is asked for once for each ISIN and date. -/
def RowLoop.lookUp (acc : RowLoop) (moex : MoexClient) (value : RefreshedInstrument)
    (row : SheetDataRow) (isin : String) (date : Date) : RowLoop × Option Decimal :=
  match acc.historicalAccrued.get? (isin, date) with
  | some accrued => (acc, accrued)
  | none =>
      match moex.accruedInterestOn value.instrument.secid value.instrument.primaryBoardId date with
      | .ok accrued => (acc.ask moex value isin date, accrued)
      | .error e =>
          ((acc.ask moex value isin date).addError row isin
            ("Исторический НКД: " ++ Py.Text.take 900 e.str), none)

/-- `purchase_accrued`, and J where it is filled in: the cell, or MOEX for an empty cell of
a row with a purchase date. -/
def RowLoop.purchaseAccrued (acc : RowLoop) (moex : MoexClient) (value : RefreshedInstrument)
    (row : SheetDataRow) (isin : String) (updates : RowUpdates) :
    Except PyError (RowLoop × Option Decimal × RowUpdates) := do
  let purchaseDate ← parseDate (row.get "E")
  match purchaseDate with
  | some date =>
      if (row.get "J").isBlank then
        match acc.lookUp moex value row isin date with
        | (acc, some accrued) =>
            return (acc, some accrued, updates.set "J" (← money (some accrued)))
        | (acc, none) => return (acc, none, updates)
      else return (acc, parseDecimal (row.get "J"), updates)
  | none => return (acc, parseDecimal (row.get "J"), updates)

/-- The columns of a calculation that succeeded. -/
def calculationUpdates (calculation : SheetCurrentCalculation) (updates : RowUpdates) :
    Except PyError RowUpdates := do
  let af ← money (some calculation.paidCouponsTotalRub)
  let ag ← money (some calculation.currentExitTotalRub)
  let ah ← money (some calculation.profitBeforeTaxRub)
  let ai ← money (some calculation.profitAfterTaxRub)
  let aj ← money (some calculation.annualYieldAfterTaxPercent)
  let ak ← money calculation.planDeltaPp
  return updates.update
    [("AE", .decimal (.ofInt calculation.paidCouponCount)), ("AF", af), ("AG", ag), ("AH", ah),
      ("AI", ai), ("AJ", aj), ("AK", ak), ("AL", .text "РАССЧИТАНО")]

variable [Py.Context]

/-- The row from the purchase on: AE to AL, and the error of a calculation that raised. -/
def purchaseUpdates (connection : SheetConnectionModel) (zone : Zone)
    (value : RefreshedInstrument) (purchase : SheetPurchaseInput) (updates : RowUpdates) :
    Except PyError (RowUpdates × Option PyError) := do
  let valuationDate := valuationDateOf zone value.market
  let (couponCount, couponTotal) ←
    summarizePaidCoupons purchase.purchaseDate valuationDate purchase.quantity value.cashflows
  let af ← money (some couponTotal)
  let updates := (updates.set "AE" (.decimal (.ofInt couponCount))).set "AF" af
  match marketRubPrice value.market connection.priceMode, value.market.accruedInterestRubPerBond with
  | none, _ =>
      return (updates.set "AL" (.text (missingQuoteCalculationStatus connection.priceMode)), none)
  | some _, none => return (updates.set "AL" (.text "MOEX НЕ ВЕРНУЛ ТЕКУЩИЙ НКД"), none)
  | some price, some accrued =>
      match calculateSheetCurrent purchase valuationDate (.finite price) (.finite accrued)
          value.cashflows with
      | .ok calculation => return (← calculationUpdates calculation updates, none)
      | .error e =>
          return (updates.set "AL" (.text ("ОШИБКА РАСЧЁТА: " ++ Py.Text.take 160 e.str)), some e)

/-- One round of the loop over the rows. -/
def rowStep (connection : SheetConnectionModel) (zone : Zone) (moex : MoexClient)
    (refreshed : String → Option RefreshedInstrument) (acc : RowLoop)
    (entry : SheetDataRow × String) : Except PyError RowLoop := do
  let (row, isin) := entry
  match refreshed isin with
  | none => return acc.emit row (failedRowUpdates connection)
  | some value =>
      let updates ← quoteUpdates connection zone value
      match commissionTotal row with
      | none => return acc.emit row (updates.blank "НЕКОРРЕКТНАЯ КОМИССИЯ В L")
      | some commission =>
          let updates := commissionUpdates row updates
          let (acc, accrued, updates) ← acc.purchaseAccrued moex value row isin updates
          let (purchase, status) ← parseSheetPurchase row accrued commission
          match purchase with
          | none =>
              return acc.emit row
                (updates.blank ((Py.Text.given status).getD "НЕДОСТАТОЧНО ДАННЫХ"))
          | some purchase =>
              let blank := updates.update blankCalculationValues
              let (updates, error) ← purchaseUpdates connection zone value purchase blank
              match error with
              | some e =>
                  return (acc.addError row isin (Py.Text.take 1000 e.str)).emit row updates
              | none => return acc.emit row updates

end BondTrading
