/-
# BondTrading.Lots.Service -- lots

`LotService` of `application/services/lots.py` without its calculations, and what
`api/v1/routers/lots.py` answers.  Every request is one transaction.
-/
import BondTrading.Domain.Isin
import BondTrading.Lots.Settings

namespace BondTrading

open Py (Decimal Instant orRaise)
open Sql (updateWhere)

/-! ## Reading -/

/-- A lot with the instrument a join loads with it. -/
structure LoadedLot where
  lot : BondLotModel
  instrument : BondInstrumentModel
  deriving DecidableEq, Repr

/-- `joinedload(BondLotModel.instrument)`; the foreign key makes it total. -/
def Tables.loadLot (t : Tables) (lot : BondLotModel) : Option LoadedLot :=
  (t.market.instruments.find? fun i => i.id = lot.instrumentId).map fun i => ⟨lot, i⟩

/-- `ORDER BY purchase_date, created_at`. -/
def BondLotModel.before (a b : BondLotModel) : Prop :=
  a.purchaseDate < b.purchaseDate ∨ (a.purchaseDate = b.purchaseDate ∧ a.createdAt ≤ b.createdAt)

instance : DecidableRel BondLotModel.before := fun _ _ => inferInstanceAs (Decidable (_ ∨ _))

/-- `list_all`. -/
def Tables.listAll (t : Tables) (owner : UserId) : List LoadedLot :=
  ((t.portfolio.lots.filter fun l => l.ownerId = owner).insertionSort
    BondLotModel.before).filterMap t.loadLot

/-- `get`. -/
def Tables.getLot (t : Tables) (owner : UserId) (id : LotId) : Option LoadedLot :=
  (t.portfolio.lots.find? fun l => l.id = id ∧ l.ownerId = owner).bind t.loadLot

/-- `_required`. -/
def Tables.requiredLot (t : Tables) (owner : UserId) (id : LotId) : Except PyError LoadedLot :=
  orRaise (t.getLot owner id) (.domain .domain "Bond lot was not found" (.lot id))

/-- What `get` returns: a stored lot of the owner, with its instrument. -/
theorem getLot_eq_some {t : Tables} {owner : UserId} {id : LotId} {loaded : LoadedLot}
    (h : t.getLot owner id = some loaded) :
    loaded.lot ∈ t.portfolio.lots ∧ loaded.lot.id = id ∧ loaded.lot.ownerId = owner ∧
      loaded.instrument ∈ t.market.instruments ∧
      loaded.instrument.id = loaded.lot.instrumentId := by
  obtain ⟨lot, hlot, hload⟩ := Option.bind_eq_some_iff.mp h
  obtain ⟨instrument, hinstrument, rfl⟩ := Option.map_eq_some_iff.mp hload
  have hkeys := List.find?_some hlot
  rw [decide_eq_true_eq] at hkeys
  have hid := List.find?_some hinstrument
  rw [decide_eq_true_eq] at hid
  exact ⟨List.mem_of_find?_eq_some hlot, hkeys.1, hkeys.2, List.mem_of_find?_eq_some hinstrument,
    hid⟩

/-! ## Creating -/

/-- The fields of `LotCreate`. -/
structure LotCreate where
  isin : String
  sourceName : Option String
  purchaseDate : Date
  quantity : Decimal
  purchaseCleanPriceRubPerBond : Decimal
  purchaseAccruedInterestRubPerBond : Decimal
  purchaseCommissionRubPerBond : Decimal
  targetEventType : String
  targetEventDate : Date
  targetRedemptionPriceRubPerBond : Option Decimal
  targetRedemptionOverrideReason : Option String
  saleCommissionRubPerBond : Decimal
  plannedYieldManualReference : Option Decimal
  sourceRowNumber : Option ℤ
  sourceSheetName : String
  notes : Option String
  deriving DecidableEq, Repr

/-- The identifiers and the clock one request about lots draws. -/
structure LotDraw where
  instrument : InstrumentId
  lot : LotId
  job : JobId
  now : Instant

/-- `BondLotModel(owner_id=.., instrument_id=.., **values)`. -/
def newLot (owner : UserId) (instrument : InstrumentId) (values : LotCreate) (draw : LotDraw) :
    BondLotModel where
  id := draw.lot
  ownerId := owner
  instrumentId := instrument
  purchaseDate := values.purchaseDate
  quantity := values.quantity
  purchaseCleanPriceRubPerBond := values.purchaseCleanPriceRubPerBond
  purchaseAccruedInterestRubPerBond := values.purchaseAccruedInterestRubPerBond
  purchaseCommissionRubPerBond := values.purchaseCommissionRubPerBond
  targetEventType := values.targetEventType
  targetEventDate := values.targetEventDate
  targetRedemptionPriceRubPerBond := values.targetRedemptionPriceRubPerBond
  targetRedemptionOverrideReason := values.targetRedemptionOverrideReason
  targetRedemptionOverrideUpdatedAt :=
    values.targetRedemptionPriceRubPerBond.map fun _ => draw.now
  saleCommissionRubPerBond := values.saleCommissionRubPerBond
  plannedYieldManualReference := values.plannedYieldManualReference
  sourceRowNumber := values.sourceRowNumber
  sourceSheetName := values.sourceSheetName
  notes := values.notes
  importBatchId := none
  createdAt := draw.now
  updatedAt := draw.now

/-- The instrument of an ISIN, and the instruments with the row `create` adds where there
is none. -/
def MarketTables.instrumentFor (t : MarketTables) (isin : String) (sourceName : Option String)
    (id : InstrumentId) : BondInstrumentModel × MarketTables :=
  match t.instrumentOf isin with
  | some instrument => (instrument, t)
  | none =>
      let instrument := newInstrument id isin isin ((Py.Text.given sourceName).getD isin)
      (instrument, { t with instruments := t.instruments ++ [instrument] })

/-- The tables of `create` at its commit. -/
def createdTables (t : Tables) (owner : UserId) (isin : String) (values : LotCreate)
    (draw : LotDraw) : Tables :=
  let (instrument, market) := t.market.instrumentFor isin values.sourceName draw.instrument
  { market
    portfolio := { t.portfolio with
      lots := t.portfolio.lots ++ [newLot owner instrument.id values draw] }
    sheets := (enqueueSheetSync t.sheets owner .lotCreated draw.job draw.now).1 }

/-- `LotService.create`. -/
def createLot (db : Database) (owner : UserId) (values : LotCreate) (draw : LotDraw) :
    Except PyError (Database × LoadedLot) := do
  let isin ← normalizeIsin values.isin
  let committed ← (createdTables db.val owner isin values draw).commit
  let lot ← committed.val.requiredLot owner draw.lot
  return (committed, lot)

/-! ## Updating and deleting -/

structure LotPatch where
  purchaseDate : Patch Date
  quantity : Patch Decimal
  purchaseCleanPriceRubPerBond : Patch Decimal
  purchaseAccruedInterestRubPerBond : Patch Decimal
  purchaseCommissionRubPerBond : Patch Decimal
  targetEventType : Patch String
  targetEventDate : Patch Date
  targetRedemptionPriceRubPerBond : Patch Decimal
  targetRedemptionOverrideReason : Patch String
  saleCommissionRubPerBond : Patch Decimal
  plannedYieldManualReference : Patch Decimal
  notes : Patch String
  deriving DecidableEq, Repr

/-- What `update` assigns to the reason and the time of an override. -/
def LotPatch.override (p : LotPatch) (now : Instant) : Patch String × Patch Instant :=
  match p.targetRedemptionPriceRubPerBond, p.targetRedemptionOverrideReason with
  | some none, _ => (some none, some none)
  | some (some _), reason => (reason, some (some now))
  | none, some reason => (some reason, some (some now))
  | none, none => (none, none)

/-- The loop over the values; the row is written where one of them changes. -/
def BondLotModel.patch (lot : BondLotModel) (p : LotPatch) (now : Instant) :
    Except PyError BondLotModel := do
  let purchaseDate ← p.purchaseDate.applyRequired lot.purchaseDate
  let quantity ← p.quantity.applyRequired lot.quantity
  let cleanPrice ← p.purchaseCleanPriceRubPerBond.applyRequired lot.purchaseCleanPriceRubPerBond
  let accruedInterest ←
    p.purchaseAccruedInterestRubPerBond.applyRequired lot.purchaseAccruedInterestRubPerBond
  let commission ← p.purchaseCommissionRubPerBond.applyRequired lot.purchaseCommissionRubPerBond
  let targetEventType ← p.targetEventType.applyRequired lot.targetEventType
  let targetEventDate ← p.targetEventDate.applyRequired lot.targetEventDate
  let saleCommission ← p.saleCommissionRubPerBond.applyRequired lot.saleCommissionRubPerBond
  let (reason, updatedAt) := p.override now
  let patched : BondLotModel := { lot with
    purchaseDate, quantity, targetEventType, targetEventDate
    purchaseCleanPriceRubPerBond := cleanPrice
    purchaseAccruedInterestRubPerBond := accruedInterest
    purchaseCommissionRubPerBond := commission
    targetRedemptionPriceRubPerBond :=
      p.targetRedemptionPriceRubPerBond.apply lot.targetRedemptionPriceRubPerBond
    targetRedemptionOverrideReason := reason.apply lot.targetRedemptionOverrideReason
    targetRedemptionOverrideUpdatedAt := updatedAt.apply lot.targetRedemptionOverrideUpdatedAt
    saleCommissionRubPerBond := saleCommission
    plannedYieldManualReference :=
      p.plannedYieldManualReference.apply lot.plannedYieldManualReference
    notes := p.notes.apply lot.notes }
  return if patched = lot then lot else { patched with updatedAt := now }

/-- A patch writes neither the keys of a lot nor where it came from. -/
theorem BondLotModel.patch_keys {lot patched : BondLotModel} {p : LotPatch} {now : Instant}
    (h : lot.patch p now = .ok patched) :
    patched.id = lot.id ∧ patched.ownerId = lot.ownerId ∧
      patched.instrumentId = lot.instrumentId ∧ patched.importBatchId = lot.importBatchId ∧
      patched.sourceRowNumber = lot.sourceRowNumber := by
  simp only [BondLotModel.patch, Py.bind_eq_ok] at h
  obtain ⟨_, -, _, -, _, -, _, -, _, -, _, -, _, -, _, -, hreturn⟩ := h
  rw [← Except.ok.inj hreturn]
  split <;> exact ⟨rfl, rfl, rfl, rfl, rfl⟩

/-- The tables of `update` at its commit. -/
def updatedTables (t : Tables) (owner : UserId) (patched : BondLotModel) (draw : LotDraw) : Tables :=
  { t with
    portfolio := { t.portfolio with
      lots := updateWhere (fun l => l.id = patched.id) (fun _ => patched) t.portfolio.lots }
    sheets := (enqueueSheetSync t.sheets owner .lotUpdated draw.job draw.now).1 }

/-- `LotService.update`. -/
def updateLot (db : Database) (owner : UserId) (id : LotId) (p : LotPatch) (draw : LotDraw) :
    Except PyError (Database × LoadedLot) := do
  let found ← db.val.requiredLot owner id
  let patched ← found.lot.patch p draw.now
  let committed ← (updatedTables db.val owner patched draw).commit
  let lot ← committed.val.requiredLot owner id
  return (committed, lot)

/-- The tables of `delete` at its commit; the yields of the lot go with it. -/
def deletedTables (t : Tables) (owner : UserId) (id : LotId) (draw : LotDraw) : Tables :=
  { t with
    portfolio := { t.portfolio with
      lots := t.portfolio.lots.filter fun l => l.id ≠ id
      yields := t.portfolio.yields.filter fun y => y.lotId ≠ id }
    sheets := (enqueueSheetSync t.sheets owner .lotDeleted draw.job draw.now).1 }

/-- `LotService.delete`. -/
def deleteLot (db : Database) (owner : UserId) (id : LotId) (draw : LotDraw) :
    Except PyError Database := do
  let _ ← db.val.requiredLot owner id
  (deletedTables db.val owner id draw).commit

/-! ## What the API answers -/

structure LotOut where
  id : LotId
  instrumentId : InstrumentId
  isin : String
  shortName : String
  purchaseDate : Date
  quantity : Decimal
  purchaseCleanPriceRubPerBond : Decimal
  purchaseAccruedInterestRubPerBond : Decimal
  purchaseCommissionRubPerBond : Decimal
  targetEventType : String
  targetEventDate : Date
  targetRedemptionPriceRubPerBond : Option Decimal
  targetRedemptionOverrideReason : Option String
  targetRedemptionOverrideUpdatedAt : Option Instant
  saleCommissionRubPerBond : Decimal
  plannedYieldManualReference : Option Decimal
  sourceRowNumber : Option ℤ
  sourceSheetName : String
  notes : Option String
  createdAt : Instant
  updatedAt : Instant
  deriving DecidableEq, Repr

/-- `LotOut.from_model`. -/
def LotOut.ofModel (l : LoadedLot) : LotOut where
  id := l.lot.id
  instrumentId := l.lot.instrumentId
  isin := l.instrument.isin
  shortName := l.instrument.shortName
  purchaseDate := l.lot.purchaseDate
  quantity := l.lot.quantity
  purchaseCleanPriceRubPerBond := l.lot.purchaseCleanPriceRubPerBond
  purchaseAccruedInterestRubPerBond := l.lot.purchaseAccruedInterestRubPerBond
  purchaseCommissionRubPerBond := l.lot.purchaseCommissionRubPerBond
  targetEventType := l.lot.targetEventType
  targetEventDate := l.lot.targetEventDate
  targetRedemptionPriceRubPerBond := l.lot.targetRedemptionPriceRubPerBond
  targetRedemptionOverrideReason := l.lot.targetRedemptionOverrideReason
  targetRedemptionOverrideUpdatedAt := l.lot.targetRedemptionOverrideUpdatedAt
  saleCommissionRubPerBond := l.lot.saleCommissionRubPerBond
  plannedYieldManualReference := l.lot.plannedYieldManualReference
  sourceRowNumber := l.lot.sourceRowNumber
  sourceSheetName := l.lot.sourceSheetName
  notes := l.lot.notes
  createdAt := l.lot.createdAt
  updatedAt := l.lot.updatedAt

end BondTrading
