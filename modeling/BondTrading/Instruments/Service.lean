/-
# BondTrading.Instruments.Service -- refreshing an instrument from MOEX

`InstrumentService.refresh` of `application/services/instruments.py`.  Its database
operations are named, so that any of them may be refused.
-/
import BondTrading.Instruments.Moex

namespace BondTrading

open Py (Decimal Instant Routine)
open Sql (Fault World updateWhere firstBy UniqueOn References)

/-! ## Rows -/

/-- The identifiers and the clock one refresh draws. -/
structure RefreshDraw where
  instrument : InstrumentId
  action : ℕ → ActionId
  market : MarketId
  now : Instant

/-- The fields `refresh` copies; `isin` is not one of them. -/
def BondInstrumentModel.assign (i : BondInstrumentModel) (data : MoexInstrumentData ℚ) :
    BondInstrumentModel :=
  { i with
    secid := data.secid
    shortName := data.shortName
    fullName := data.fullName
    primaryBoardId := data.primaryBoardId
    currency := data.currency
    initialFaceValue := data.initialFaceValue
    currentFaceValue := data.currentFaceValue
    maturityDate := data.maturityDate
    offerDate := data.offerDate
    couponPeriodDays := data.couponPeriodDays
    isAmortizing := data.isAmortizing
    isFloatingCoupon := data.isFloatingCoupon
    isActive := data.isActive
    sourceUpdatedAt := some data.sourceUpdatedAt }

def newAction (instrument : InstrumentId) (draw : RefreshDraw) (k : ℕ)
    (data : MoexCorporateActionData ℚ) : CorporateActionModel where
  id := draw.action k
  instrumentId := instrument
  actionType := data.actionType
  eventDate := data.eventDate
  recordDate := data.recordDate
  amountRubPerBond := data.amountRubPerBond
  percent := data.percent
  source := "MOEX ISS"
  sourcePayloadHash := data.sourcePayloadHash
  sourceUpdatedAt := draw.now

/-- The rows the loop over `result.actions` adds: those whose hash is not stored yet. -/
def newActions (instrument : InstrumentId) (existingHashes : List String) (draw : RefreshDraw)
    (actions : List (MoexCorporateActionData ℚ)) : List CorporateActionModel :=
  (actions.filter fun a => a.sourcePayloadHash ∉ existingHashes).zipIdx.map fun (a, k) =>
    newAction instrument draw k a

def newSnapshot (instrument : InstrumentId) (draw : RefreshDraw) (data : MoexMarketData ℚ) :
    MarketSnapshotModel where
  id := draw.market
  instrumentId := instrument
  boardId := data.boardId
  receivedAt := data.receivedAt
  marketTimestamp := data.marketTimestamp
  bidPercent := data.bidPercent
  bidRubPerBond := data.bidRubPerBond
  bidDepthLots := data.bidDepthLots
  offerPercent := data.offerPercent
  offerRubPerBond := data.offerRubPerBond
  offerDepthLots := data.offerDepthLots
  lotSize := data.lotSize
  currentFaceValue := data.currentFaceValue
  accruedInterestRubPerBond := data.accruedInterestRubPerBond
  lastPricePercent := data.lastPricePercent
  status := data.status
  delayedStatus := data.delayedStatus
  errorMessage := none
  rawPayload := data.rawPayload

/-! ## Tables -/

/-- The instrument of an answer: the stored row with the new fields, or a new row. -/
def refreshedInstrument (existing : Option BondInstrumentModel) (draw : RefreshDraw)
    (data : MoexInstrumentData ℚ) : BondInstrumentModel :=
  (existing.getD (newInstrument draw.instrument data.isin data.secid data.shortName)).assign data

def MarketTables.storeInstrument (t : MarketTables) (existing : Option BondInstrumentModel)
    (instrument : BondInstrumentModel) : MarketTables :=
  match existing with
  | none => { t with instruments := t.instruments ++ [instrument] }
  | some _ => { t with
      instruments := updateWhere (fun i => i.id = instrument.id) (fun _ => instrument)
        t.instruments }

/-- `existing_hashes`. -/
def MarketTables.hashesOf (t : MarketTables) (instrument : InstrumentId) : List String :=
  (t.actions.filter fun a => a.instrumentId = instrument).map
    CorporateActionModel.sourcePayloadHash

/-- The latest snapshot of an instrument. -/
def MarketTables.latestOf (t : MarketTables) (instrument : InstrumentId) :
    Option MarketSnapshotModel :=
  firstBy (fun m : MarketSnapshotModel => -m.receivedAt) (fun m => m.instrumentId = instrument)
    t.markets

/-- The assignments of `_record_refresh_error` to the latest snapshot. -/
def MarketTables.markError (t : MarketTables) (latest : MarketSnapshotModel) (error : PyError) :
    MarketTables :=
  { t with
    markets := updateWhere (fun m => m.id = latest.id)
      (fun m => { m with
        status := "refresh_error"
        errorMessage := some (Py.Text.take 2000 error.str) }) t.markets }

def Tables.editMarket (f : MarketTables → MarketTables) (t : Tables) : Tables :=
  { t with market := f t.market }

/-! ## The service -/

/-- The database operations of one refresh. -/
inductive RefreshOperation where
  | lookup
  | latestSnapshot
  | storeError
  | flush
  | hashes
  | store
  | reloadInstrument
  | reloadSnapshot
  deriving DecidableEq, Repr

/-- The operation reads. -/
def RefreshOperation.isSelect : RefreshOperation → Bool
  | .lookup | .latestSnapshot | .hashes | .reloadInstrument | .reloadSnapshot => true
  | .storeError | .flush | .store => false

/-- `get_by_isin`. -/
def getByIsin (fault : Fault) (isin : String) : Service (Option BondInstrumentModel) := do
  let normalized ← Routine.lift (normalizeIsin isin)
  World.query fault fun t => t.market.instrumentOf normalized

/-- `_record_refresh_error`. -/
def recordRefreshError (faults : RefreshOperation → Fault) (instrument : Option BondInstrumentModel)
    (error : PyError) : Service Unit :=
  match instrument with
  | none => return
  | some instrument => do
      let latest ← World.query (faults .latestSnapshot) fun t => t.market.latestOf instrument.id
      match latest with
      | none => return
      | some latest =>
          World.edit (Tables.editMarket (·.markError latest error))
          World.commit (faults .storeError)

/-- What follows the answer of the client in `refresh`. -/
def storeRefresh (faults : RefreshOperation → Fault) (draw : RefreshDraw)
    (existing : Option BondInstrumentModel) (result : MoexRefreshResult ℚ) :
    Service (BondInstrumentModel × MarketSnapshotModel) := do
  let instrument := refreshedInstrument existing draw result.instrument
  World.edit (Tables.editMarket (·.storeInstrument existing instrument))
  World.flush (faults .flush)
  let existingHashes ← World.query (faults .hashes) fun t => t.market.hashesOf instrument.id
  let snapshot := newSnapshot instrument.id draw result.market
  World.edit (Tables.editMarket fun t => { t with
    actions := t.actions ++ newActions instrument.id existingHashes draw result.actions
    markets := t.markets ++ [snapshot] })
  World.commit (faults .store)
  World.query (faults .reloadInstrument) fun _ => ()
  World.query (faults .reloadSnapshot) fun _ => ()
  return (instrument, snapshot)

/-- `refresh`. -/
def refresh (faults : RefreshOperation → Fault) (client : MoexClient) (draw : RefreshDraw)
    (isin : String) : Service (BondInstrumentModel × MarketSnapshotModel) := do
  let normalizedIsin ← Routine.lift (normalizeIsin isin)
  let instrument ← getByIsin (faults .lookup) normalizedIsin
  let result ← Routine.attempt (World.call (.refresh normalizedIsin) (client.refresh normalizedIsin))
    fun error => do
      recordRefreshError faults instrument error
      Routine.raise error
  storeRefresh faults draw instrument result

end BondTrading
