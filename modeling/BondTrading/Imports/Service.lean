/-
# BondTrading.Imports.Service -- committing a parsed spreadsheet

`ImportService.commit` of `application/services/imports.py`.  The call has two parts: it
reads the batch of the same content, and then either answers with that batch or inserts
the batch, its instruments and its lots in one transaction (`finishImport`).
-/
import BondTrading.Db.Tables
import BondTrading.Sheets.Queue

namespace BondTrading

open Py (Decimal Instant)
open Sql (updateWhere)

/-! ## Previews -/

structure ImportRow where
  rowNumber : ℕ
  sourceIsin : String
  normalizedIsin : String
  sourceName : Option String
  targetEventType : String
  purchaseDate : Date
  targetEventDate : Date
  quantity : Decimal
  purchaseCleanPriceRubPerBond : Decimal
  purchaseAccruedInterestRubPerBond : Decimal
  purchaseCommissionRubPerBond : Decimal
  targetRedemptionPriceRubPerBond : Option Decimal
  saleCommissionRubPerBond : Decimal
  plannedYieldManualReference : Option Decimal
  offerSubmissionPeriod : Option String
  deriving DecidableEq, Repr

structure ImportPreview where
  fileName : String
  sheetName : String
  checksum : String
  headerRowNumber : ℕ
  rowsRead : ℕ
  rows : List ImportRow
  errors : List ImportRowError
  uploadId : Option UploadId
  deriving DecidableEq, Repr

/-- The identifiers and the clock one commit draws. -/
structure ImportDraw where
  batch : BatchId
  instrument : String → InstrumentId
  lot : ℕ → LotId
  job : JobId
  now : Instant

/-! ## Rows -/

/-- The lot of a row, with the amounts as their columns hold them. -/
def importedLot (owner : UserId) (batch : BatchId) (sheetName : String) (row : ImportRow)
    (instrument : InstrumentId) (id : LotId) (now : Instant) : BondLotModel where
  id := id
  ownerId := owner
  instrumentId := instrument
  purchaseDate := row.purchaseDate
  quantity := MONEY.stored row.quantity
  purchaseCleanPriceRubPerBond := MONEY.stored row.purchaseCleanPriceRubPerBond
  purchaseAccruedInterestRubPerBond := MONEY.stored row.purchaseAccruedInterestRubPerBond
  purchaseCommissionRubPerBond := MONEY.stored row.purchaseCommissionRubPerBond
  targetEventType := row.targetEventType
  targetEventDate := row.targetEventDate
  targetRedemptionPriceRubPerBond := row.targetRedemptionPriceRubPerBond.map MONEY.stored
  targetRedemptionOverrideReason :=
    row.targetRedemptionPriceRubPerBond.map fun _ => "Imported from source column N"
  targetRedemptionOverrideUpdatedAt := row.targetRedemptionPriceRubPerBond.map fun _ => now
  saleCommissionRubPerBond := MONEY.stored row.saleCommissionRubPerBond
  plannedYieldManualReference := row.plannedYieldManualReference.map PERCENT.stored
  sourceRowNumber := some (row.rowNumber : ℤ)
  sourceSheetName := sheetName
  notes := (Py.Text.given row.offerSubmissionPeriod).map ("Offer submission period: " ++ ·)
  importBatchId := some batch
  createdAt := now
  updatedAt := now

/-- What the loop over the rows carries: the instruments of the transaction, the lots it
added, and `instruments_updated`. -/
structure ImportLoop where
  instruments : List BondInstrumentModel
  lots : List BondLotModel
  updated : ℕ

/-- One round of the loop.  `existing_instruments` holds the stored instruments of the
preview's ISINs and those the loop added, so it is read off the transaction's own
instruments. -/
def importRow (owner : UserId) (sheetName : String) (draw : ImportDraw) (acc : ImportLoop)
    (row : ImportRow) : ImportLoop :=
  let lotOf (instrument : InstrumentId) : BondLotModel :=
    importedLot owner draw.batch sheetName row instrument (draw.lot acc.lots.length) draw.now
  match acc.instruments.find? fun i => i.isin = row.normalizedIsin with
  | none =>
      let instrument :=
        newInstrument (draw.instrument row.normalizedIsin) row.normalizedIsin row.normalizedIsin
          ((Py.Text.given row.sourceName).getD row.normalizedIsin)
      ⟨acc.instruments ++ [instrument], acc.lots ++ [lotOf instrument.id], acc.updated + 1⟩
  | some instrument =>
      match Py.Text.given row.sourceName with
      | some name =>
          if instrument.shortName = instrument.isin then
            -- an instrument that only has its ISIN for a name takes the row's name
            ⟨updateWhere (fun i => i.id = instrument.id) ({ · with shortName := name })
              acc.instruments, acc.lots ++ [lotOf instrument.id], acc.updated + 1⟩
          else { acc with lots := acc.lots ++ [lotOf instrument.id] }
      | none => { acc with lots := acc.lots ++ [lotOf instrument.id] }

def importRows (t : Tables) (owner : UserId) (preview : ImportPreview) (draw : ImportDraw) :
    ImportLoop :=
  preview.rows.foldl (importRow owner preview.sheetName draw) ⟨t.market.instruments, [], 0⟩

/-! ## The call -/

/-- The first select of `commit`. -/
def existingBatch (t : Tables) (owner : UserId) (preview : ImportPreview) :
    Option ImportBatchModel :=
  t.portfolio.batches.find? fun b =>
    b.checksum = preview.checksum ∧ b.sheetName = preview.sheetName ∧ b.ownerId = owner

/-- Assignments to the upload of the preview, if it has one. -/
def updateUpload (preview : ImportPreview) (f : UploadedFileModel → UploadedFileModel)
    (uploads : List UploadedFileModel) : List UploadedFileModel :=
  updateWhere (fun u => some u.id = preview.uploadId) f uploads

/-- The batch as it is committed. -/
def importBatch (owner : UserId) (preview : ImportPreview) (draw : ImportDraw)
    (loop : ImportLoop) : ImportBatchModel where
  id := draw.batch
  ownerId := owner
  uploadedFileId := preview.uploadId
  fileName := preview.fileName
  sheetName := preview.sheetName
  importedAt := draw.now
  rowsRead := preview.rowsRead
  lotsCreated := preview.rows.length
  instrumentsUpdated := loop.updated
  rowErrors := preview.errors
  checksum := preview.checksum

/-- The tables of the inserting branch at its commit. -/
def importedTables (t : Tables) (owner : UserId) (preview : ImportPreview) (draw : ImportDraw) :
    Tables :=
  let loop := importRows t owner preview draw
  { market := { t.market with instruments := loop.instruments }
    portfolio := { t.portfolio with
      uploads := updateUpload preview ({ · with status := "imported" }) t.portfolio.uploads
      batches := t.portfolio.batches ++ [importBatch owner preview draw loop]
      lots := t.portfolio.lots ++ loop.lots }
    sheets := (enqueueSheetSync t.sheets owner .importCommitted draw.job draw.now).1 }

/-- The tables of the replay branch at its commit. -/
def replayedTables (t : Tables) (preview : ImportPreview) (existing : ImportBatchModel) : Tables :=
  { t with portfolio := { t.portfolio with
      uploads := updateUpload preview
        ({ · with
          status := "duplicate"
          parseError := some ("Content already imported in batch " ++ toString existing.id) })
        t.portfolio.uploads } }

/-- What follows the first select, in the same transaction. -/
def finishImport (db : Database) (owner : UserId) (preview : ImportPreview)
    (existing : Option ImportBatchModel) (draw : ImportDraw) :
    Except PyError (Database × ImportBatchModel × Bool) :=
  match existing with
  | some batch => do
      let committed ← (replayedTables db.val preview batch).commit
      return (committed, batch, true)
  | none => do
      let committed ← (importedTables db.val owner preview draw).commit
      return (committed, importBatch owner preview draw (importRows db.val owner preview draw), false)

/-- `ImportService.commit` when no other transaction comes between. -/
def importCommit (db : Database) (owner : UserId) (preview : ImportPreview) (draw : ImportDraw) :
    Except PyError (Database × ImportBatchModel × Bool) :=
  finishImport db owner preview (existingBatch db.val owner preview) draw

/-! ## What the loop does -/

/-- Every instrument is still there, under its identifier and its ISIN. -/
def Keeps (before after : List BondInstrumentModel) : Prop :=
  ∀ i ∈ before, ∃ i' ∈ after, i'.id = i.id ∧ i'.isin = i.isin

theorem Keeps.refl (instruments : List BondInstrumentModel) : Keeps instruments instruments :=
  fun i hi => ⟨i, hi, rfl, rfl⟩

theorem Keeps.trans {a b c : List BondInstrumentModel} (hab : Keeps a b) (hbc : Keeps b c) :
    Keeps a c := by
  intro i hi
  obtain ⟨i', hi', hid, hisin⟩ := hab i hi
  obtain ⟨i'', hi'', hid', hisin'⟩ := hbc i' hi'
  exact ⟨i'', hi'', hid'.trans hid, hisin'.trans hisin⟩

/-- The lot is the one that the loop makes from the row, of an instrument with its ISIN. -/
def MadeFrom (instruments : List BondInstrumentModel) (owner : UserId) (batch : BatchId)
    (sheetName : String) (row : ImportRow) (lot : BondLotModel) : Prop :=
  ∃ instrument ∈ instruments, instrument.isin = row.normalizedIsin ∧
    ∃ id now, lot = importedLot owner batch sheetName row instrument.id id now

theorem MadeFrom.mono {before after : List BondInstrumentModel} {owner : UserId}
    {batch : BatchId} {sheetName : String} {row : ImportRow} {lot : BondLotModel}
    (hkeeps : Keeps before after) (h : MadeFrom before owner batch sheetName row lot) :
    MadeFrom after owner batch sheetName row lot := by
  obtain ⟨instrument, hmem, hisin, id, now, hlot⟩ := h
  obtain ⟨kept, hkept, hid, hisin'⟩ := hkeeps instrument hmem
  exact ⟨kept, hkept, hisin'.trans hisin, id, now, by rw [hid]; exact hlot⟩

/-- **The lot carries the row**: it is the owner's, of the batch and of the instrument with the
row's ISIN, and has the row's dates, its number and its texts; its amounts are those of the row to
the decimals of their columns. -/
structure CarriesRow (instruments : List BondInstrumentModel) (owner : UserId) (batch : BatchId)
    (sheetName : String) (row : ImportRow) (lot : BondLotModel) : Prop where
  instrument : ∃ i ∈ instruments, i.id = lot.instrumentId ∧ i.isin = row.normalizedIsin
  owner : lot.ownerId = owner
  batch : lot.importBatchId = some batch
  rowNumber : lot.sourceRowNumber = some (row.rowNumber : ℤ)
  sheetName : lot.sourceSheetName = sheetName
  purchaseDate : lot.purchaseDate = row.purchaseDate
  targetEventType : lot.targetEventType = row.targetEventType
  targetEventDate : lot.targetEventDate = row.targetEventDate
  quantity : lot.quantity = MONEY.stored row.quantity
  cleanPrice : lot.purchaseCleanPriceRubPerBond = MONEY.stored row.purchaseCleanPriceRubPerBond
  accruedInterest :
    lot.purchaseAccruedInterestRubPerBond = MONEY.stored row.purchaseAccruedInterestRubPerBond
  commission : lot.purchaseCommissionRubPerBond = MONEY.stored row.purchaseCommissionRubPerBond
  targetRedemption :
    lot.targetRedemptionPriceRubPerBond = row.targetRedemptionPriceRubPerBond.map MONEY.stored
  overrideReason : lot.targetRedemptionOverrideReason =
    row.targetRedemptionPriceRubPerBond.map fun _ => "Imported from source column N"
  saleCommission : lot.saleCommissionRubPerBond = MONEY.stored row.saleCommissionRubPerBond
  plannedYield :
    lot.plannedYieldManualReference = row.plannedYieldManualReference.map PERCENT.stored
  notes : lot.notes =
    (Py.Text.given row.offerSubmissionPeriod).map ("Offer submission period: " ++ ·)

theorem MadeFrom.carries {instruments : List BondInstrumentModel} {owner : UserId}
    {batch : BatchId} {sheetName : String} {row : ImportRow} {lot : BondLotModel}
    (h : MadeFrom instruments owner batch sheetName row lot) :
    CarriesRow instruments owner batch sheetName row lot := by
  obtain ⟨instrument, hmem, hisin, id, now, rfl⟩ := h
  constructor
  case instrument => exact ⟨instrument, hmem, rfl, hisin⟩
  all_goals rfl

/-- The instrument of a lot stays under its identifier and its ISIN. -/
theorem CarriesRow.mono {before after : List BondInstrumentModel} {owner : UserId}
    {batch : BatchId} {sheetName : String} {row : ImportRow} {lot : BondLotModel}
    (hkeeps : Keeps before after) (h : CarriesRow before owner batch sheetName row lot) :
    CarriesRow after owner batch sheetName row lot := by
  obtain ⟨instrument, hmem, hid, hisin⟩ := h.instrument
  obtain ⟨kept, hkept, hid', hisin'⟩ := hkeeps instrument hmem
  exact { h with instrument := ⟨kept, hkept, hid'.trans hid, hisin'.trans hisin⟩ }

/-- **One round**: the instruments stay, and one lot is added, made from the row. -/
theorem importRow_step (owner : UserId) (sheetName : String) (draw : ImportDraw)
    (acc : ImportLoop) (row : ImportRow) :
    Keeps acc.instruments (importRow owner sheetName draw acc row).instruments ∧
      ∃ lot, (importRow owner sheetName draw acc row).lots = acc.lots ++ [lot] ∧
        MadeFrom (importRow owner sheetName draw acc row).instruments owner draw.batch sheetName
          row lot := by
  unfold importRow
  split
  · -- a new instrument
    refine ⟨fun i hi => ⟨i, List.mem_append_left _ hi, rfl, rfl⟩, _, rfl, ?_⟩
    exact ⟨_, List.mem_append_right _ (List.mem_singleton.mpr rfl), rfl, _, _, rfl⟩
  · rename_i instrument hfound
    have hmem := List.mem_of_find?_eq_some hfound
    have hisin : instrument.isin = row.normalizedIsin := by simpa using List.find?_some hfound
    have hkept : Keeps acc.instruments acc.instruments := Keeps.refl _
    split
    · rename_i name _
      split
      · -- the instrument is renamed in place
        have hrenamed : Keeps acc.instruments
            (updateWhere (fun i => i.id = instrument.id) ({ · with shortName := name })
              acc.instruments) := by
          intro i hi
          refine ⟨_, Sql.mem_updateWhere.mpr ⟨i, hi, rfl⟩, ?_⟩
          split <;> exact ⟨rfl, rfl⟩
        refine ⟨hrenamed, _, rfl, MadeFrom.mono hrenamed ?_⟩
        exact ⟨instrument, hmem, hisin, _, _, rfl⟩
      · exact ⟨hkept, _, rfl, instrument, hmem, hisin, _, _, rfl⟩
    · exact ⟨hkept, _, rfl, instrument, hmem, hisin, _, _, rfl⟩

/-- The whole loop, by induction on the rows. -/
theorem foldl_importRow (owner : UserId) (sheetName : String) (draw : ImportDraw)
    (rows : List ImportRow) (acc : ImportLoop) :
    Keeps acc.instruments (rows.foldl (importRow owner sheetName draw) acc).instruments ∧
      ∃ lots, (rows.foldl (importRow owner sheetName draw) acc).lots = acc.lots ++ lots ∧
        List.Forall₂
          (MadeFrom (rows.foldl (importRow owner sheetName draw) acc).instruments owner
            draw.batch sheetName) rows lots := by
  induction rows generalizing acc with
  | nil => exact ⟨Keeps.refl _, [], (List.append_nil _).symm, List.Forall₂.nil⟩
  | cons row rows ih =>
      obtain ⟨hstep, lot, hlot, hcarries⟩ := importRow_step owner sheetName draw acc row
      obtain ⟨hrest, lots, hlots, hall⟩ := ih (importRow owner sheetName draw acc row)
      refine ⟨hstep.trans hrest, lot :: lots, ?_, List.Forall₂.cons (hcarries.mono hrest) hall⟩
      rw [List.foldl_cons, hlots, hlot, List.append_assoc]
      rfl

theorem importRows_spec (t : Tables) (owner : UserId) (preview : ImportPreview)
    (draw : ImportDraw) :
    Keeps t.market.instruments (importRows t owner preview draw).instruments ∧
      List.Forall₂
        (MadeFrom (importRows t owner preview draw).instruments owner draw.batch
          preview.sheetName) preview.rows (importRows t owner preview draw).lots := by
  obtain ⟨hkeeps, lots, hlots, hall⟩ :=
    foldl_importRow owner preview.sheetName draw preview.rows ⟨t.market.instruments, [], 0⟩
  refine ⟨hkeeps, ?_⟩
  have heq : (importRows t owner preview draw).lots = lots := hlots
  rw [heq]
  exact hall

/-- Every lot a call adds is made from one of its rows. -/
theorem exists_row_of_lot {instruments : List BondInstrumentModel} {owner : UserId}
    {batch : BatchId} {sheetName : String} {rows : List ImportRow} {lots : List BondLotModel}
    (h : List.Forall₂ (MadeFrom instruments owner batch sheetName) rows lots) :
    ∀ l ∈ lots, ∃ row ∈ rows, MadeFrom instruments owner batch sheetName row l := by
  induction h with
  | nil => exact fun l hl => absurd hl List.not_mem_nil
  | cons hrow _ ih =>
      intro l hl
      rcases List.mem_cons.mp hl with rfl | hl
      · exact ⟨_, List.mem_cons_self, hrow⟩
      · obtain ⟨row, hmem, hcarries⟩ := ih l hl
        exact ⟨row, List.mem_cons_of_mem _ hmem, hcarries⟩

/-- The lots a call adds are its user's, and all point to its batch. -/
theorem keys_of_madeFrom {instruments : List BondInstrumentModel} {owner : UserId}
    {batch : BatchId} {sheetName : String} {rows : List ImportRow} {lots : List BondLotModel}
    (h : List.Forall₂ (MadeFrom instruments owner batch sheetName) rows lots) :
    ∀ l ∈ lots, l.ownerId = owner ∧ l.importBatchId = some batch := by
  intro l hl
  obtain ⟨row, -, instrument, -, -, id, now, rfl⟩ := exists_row_of_lot h l hl
  exact ⟨rfl, rfl⟩

end BondTrading
