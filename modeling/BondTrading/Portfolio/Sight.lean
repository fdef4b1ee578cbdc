/-
# BondTrading.Portfolio.Sight -- what a user sees of the tables

The lots, batches and settings of a user are rows of his own; the instruments his lots are
joined with are shared.  `shownTo` keeps his rows and the instruments of a list of ISINs.
While his lots stay within these ISINs, every select about lots and imports reads the same
through it, and every transaction of his is the same transaction on what he sees.
-/
import BondTrading.Portfolio.Transactions

namespace BondTrading

open Py (Decimal Instant)
open Sql (owned updateWhere UniqueOn)

/-! ## The sight -/

/-- The instruments of the ISINs. -/
def MarketTables.named (t : MarketTables) (isins : List String) : MarketTables :=
  ⟨t.instruments.filter fun i => i.isin ∈ isins, [], []⟩

/-- The lots and batches of a user, and the instruments of the ISINs. -/
def Tables.shownTo (t : Tables) (isins : List String) (user : UserId) : Tables where
  market := t.market.named isins
  portfolio :=
    { uploads := []
      batches := owned ImportBatchModel.ownerId user t.portfolio.batches
      lots := owned BondLotModel.ownerId user t.portfolio.lots
      yields := []
      settings := [] }
  sheets := ⟨[], []⟩

/-- The settings of a user as the API answers them; who has none has the defaults. -/
def Tables.settingsOut (t : Tables) (user : UserId) : SettingsOut :=
  .ofModel (getSettings t user 0).1

/-- The lots of the user are of these ISINs. -/
def Tables.Within (t : Tables) (isins : List String) (user : UserId) : Prop :=
  ∀ l ∈ t.portfolio.lots, l.ownerId = user →
    ∀ i ∈ t.market.instruments, i.id = l.instrumentId → i.isin ∈ isins

/-- A batch has an upload of its own owner, or none. -/
def Tables.BatchesOwned (t : Tables) : Prop :=
  ∀ b ∈ t.portfolio.batches, ∀ u ∈ t.portfolio.uploads,
    b.uploadedFileId = some u.id → u.ownerId = b.ownerId

variable {t t' : Tables} {isins : List String} {user : UserId}

/-! ## Selects -/

section Selects

/-- A new instrument of the ISINs is shown, -/
theorem named_append {instruments : List BondInstrumentModel} {i : BondInstrumentModel}
    (hisin : i.isin ∈ isins) :
    (instruments ++ [i]).filter (fun i => i.isin ∈ isins) =
      (instruments.filter fun i => i.isin ∈ isins) ++ [i] := by
  have hone : [i].filter (fun i => i.isin ∈ isins) = [i] := by simpa using hisin
  rw [List.filter_append, hone]

/-- and any other is not. -/
theorem named_append_other {instruments : List BondInstrumentModel} {i : BondInstrumentModel}
    (hisin : i.isin ∉ isins) :
    (instruments ++ [i]).filter (fun i => i.isin ∈ isins) =
      instruments.filter fun i => i.isin ∈ isins := by
  have hnone : [i].filter (fun i => i.isin ∈ isins) = [] := by simpa using hisin
  rw [List.filter_append, hnone, List.append_nil]

theorem find?_named {instruments : List BondInstrumentModel} {isin : String}
    (hisin : isin ∈ isins) :
    (instruments.filter fun i => i.isin ∈ isins).find? (fun i => i.isin = isin) =
      instruments.find? fun i => i.isin = isin := by
  refine Sql.find?_filter_of_imp fun i _ hi => ?_
  rw [of_decide_eq_true hi]
  exact decide_eq_true hisin

theorem instrumentOf_named {market : MarketTables} {isin : String} (hisin : isin ∈ isins) :
    (market.named isins).instrumentOf isin = market.instrumentOf isin := find?_named hisin

theorem Tables.Within.loadLot (h : t.Within isins user) {lot : BondLotModel}
    (hlot : lot ∈ t.portfolio.lots) (howner : lot.ownerId = user) :
    (t.shownTo isins user).loadLot lot = t.loadLot lot := by
  have hfind : (t.market.instruments.filter fun i => i.isin ∈ isins).find?
      (fun i => i.id = lot.instrumentId) =
        t.market.instruments.find? fun i => i.id = lot.instrumentId := by
    refine Sql.find?_filter_of_imp fun i hi hid => ?_
    exact decide_eq_true (h lot hlot howner i hi (of_decide_eq_true hid))
  show Option.map _ (List.find? _ (List.filter _ _)) = _
  rw [hfind]
  rfl

theorem Tables.Within.listAll (h : t.Within isins user) :
    (t.shownTo isins user).listAll user = t.listAll user := by
  have hsame : (owned BondLotModel.ownerId user t.portfolio.lots).filter
      (fun l => l.ownerId = user) = t.portfolio.lots.filter fun l => l.ownerId = user := by
    rw [owned, List.filter_filter]
    simp
  show List.filterMap _ (List.insertionSort _ (List.filter _ (owned _ _ _))) = _
  rw [hsame]
  refine List.filterMap_congr fun lot hlot => ?_
  obtain ⟨hmem, howner⟩ := List.mem_filter.mp ((List.mem_insertionSort _).mp hlot)
  exact h.loadLot hmem (of_decide_eq_true howner)

theorem Tables.Within.getLot (h : t.Within isins user) (id : LotId) :
    (t.shownTo isins user).getLot user id = t.getLot user id := by
  have hfind : (owned BondLotModel.ownerId user t.portfolio.lots).find?
      (fun l => l.id = id ∧ l.ownerId = user) =
        t.portfolio.lots.find? fun l => l.id = id ∧ l.ownerId = user := by
    refine Sql.find?_filter_of_imp fun l _ hl => ?_
    exact decide_eq_true (of_decide_eq_true hl).2
  unfold Tables.getLot
  rw [show (t.shownTo isins user).portfolio.lots = owned BondLotModel.ownerId user
    t.portfolio.lots from rfl, hfind]
  cases hfound : t.portfolio.lots.find? fun l => l.id = id ∧ l.ownerId = user with
  | none => rfl
  | some lot =>
      have hkeys := List.find?_some hfound
      rw [decide_eq_true_eq] at hkeys
      exact h.loadLot (List.mem_of_find?_eq_some hfound) hkeys.2

theorem Tables.Within.requiredLot (h : t.Within isins user) (id : LotId) :
    (t.shownTo isins user).requiredLot user id = t.requiredLot user id := by
  unfold Tables.requiredLot
  rw [h.getLot]

theorem existingBatch_shownTo (t : Tables) (isins : List String) (preview : ImportPreview) :
    existingBatch (t.shownTo isins user) user preview = existingBatch t user preview := by
  refine Sql.find?_filter_of_imp fun b _ hb => ?_
  exact decide_eq_true (of_decide_eq_true hb).2.2

theorem settingsOf_owned (t : PortfolioTables) (user : UserId) :
    t.settingsOf user =
      (owned AppSettingModel.ownerId user t.settings).find? fun s => s.singletonKey = "default" := by
  rw [owned, List.find?_filter]
  refine List.find?_congr fun s _ => ?_
  simp [and_comm]

theorem settingsOut_congr (h : owned AppSettingModel.ownerId user t'.portfolio.settings =
    owned AppSettingModel.ownerId user t.portfolio.settings) :
    t'.settingsOut user = t.settingsOut user := by
  unfold Tables.settingsOut getSettings
  rw [settingsOf_owned, settingsOf_owned, h]
  split <;> rfl

end Selects

/-! ## Transactions -/

section Transactions

/-- The instrument of a shown ISIN, and the one row that may be new, are shown. -/
theorem instrumentFor_named (market : MarketTables) {isin : String} (hisin : isin ∈ isins)
    (sourceName : Option String) (id : InstrumentId) :
    (market.named isins).instrumentFor isin sourceName id =
      ((market.instrumentFor isin sourceName id).1,
        (market.instrumentFor isin sourceName id).2.named isins) := by
  unfold MarketTables.instrumentFor
  rw [instrumentOf_named hisin]
  cases market.instrumentOf isin with
  | some instrument => rfl
  | none =>
      unfold MarketTables.named
      rw [named_append (by exact hisin)]

theorem shownTo_createdTables {isin : String} (hisin : isin ∈ isins) (values : LotCreate)
    (draw : LotDraw) :
    (createdTables t user isin values draw).shownTo isins user =
      createdTables (t.shownTo isins user) user isin values draw := by
  unfold createdTables
  rw [show (t.shownTo isins user).market = t.market.named isins from rfl,
    instrumentFor_named _ hisin]
  unfold Tables.shownTo
  rw [Sql.owned_append_own (by simp [newLot])]
  rfl

theorem shownTo_updatedTables {patched : BondLotModel}
    (hkeys : ∀ l ∈ t.portfolio.lots, l.id = patched.id → l.ownerId = patched.ownerId)
    (draw : LotDraw) :
    (updatedTables t user patched draw).shownTo isins user =
      updatedTables (t.shownTo isins user) user patched draw := by
  have hlots : owned BondLotModel.ownerId user
      (updateWhere (fun l => l.id = patched.id) (fun _ => patched) t.portfolio.lots) =
        updateWhere (fun l => l.id = patched.id) (fun _ => patched)
          (owned BondLotModel.ownerId user t.portfolio.lots) := by
    refine Sql.filter_updateWhere_comm fun l hl hid => ?_
    rw [hkeys l hl (of_decide_eq_true hid)]
  unfold updatedTables Tables.shownTo
  rw [hlots]
  rfl

theorem shownTo_deletedTables (id : LotId) (draw : LotDraw) :
    (deletedTables t user id draw).shownTo isins user =
      deletedTables (t.shownTo isins user) user id draw := by
  have hlots : owned BondLotModel.ownerId user (t.portfolio.lots.filter fun l => l.id ≠ id) =
      (owned BondLotModel.ownerId user t.portfolio.lots).filter fun l => l.id ≠ id := by
    rw [owned, owned, List.filter_filter, List.filter_filter]
    refine List.filter_congr fun l _ => Bool.and_comm _ _
  unfold deletedTables Tables.shownTo
  rw [hlots]
  rfl

/-- What is shown of the loop over the rows. -/
def ImportLoop.named (acc : ImportLoop) (isins : List String) : ImportLoop :=
  { acc with instruments := acc.instruments.filter fun i => i.isin ∈ isins }

/-- One round about a shown ISIN. -/
theorem importRow_named {row : ImportRow} (hrow : row.normalizedIsin ∈ isins) (sheetName : String)
    (draw : ImportDraw) (acc : ImportLoop) :
    importRow user sheetName draw (acc.named isins) row =
      (importRow user sheetName draw acc row).named isins := by
  have hfind : (acc.named isins).instruments.find? (fun i => i.isin = row.normalizedIsin) =
      acc.instruments.find? fun i => i.isin = row.normalizedIsin := find?_named hrow
  unfold importRow
  rw [hfind]
  split
  · unfold ImportLoop.named
    rw [named_append (by exact hrow)]
  · rename_i instrument _
    split
    · rename_i name _
      split
      · have hrenamed : (updateWhere (fun i => i.id = instrument.id)
            (fun i : BondInstrumentModel => { i with shortName := name }) acc.instruments).filter
              (fun i => i.isin ∈ isins) =
            updateWhere (fun i => i.id = instrument.id) ({ · with shortName := name })
              (acc.instruments.filter fun i => i.isin ∈ isins) :=
          Sql.filter_updateWhere_comm fun _ _ _ => rfl
        unfold ImportLoop.named
        rw [hrenamed]
      · rfl
    · rfl

/-- The loop over rows of shown ISINs. -/
theorem importRows_shownTo {preview : ImportPreview}
    (hrows : ∀ row ∈ preview.rows, row.normalizedIsin ∈ isins) (draw : ImportDraw) :
    importRows (t.shownTo isins user) user preview draw =
      (importRows t user preview draw).named isins := by
  have hloop : ∀ rows : List ImportRow, (∀ row ∈ rows, row.normalizedIsin ∈ isins) →
      ∀ acc : ImportLoop, rows.foldl (importRow user preview.sheetName draw) (acc.named isins) =
        (rows.foldl (importRow user preview.sheetName draw) acc).named isins := by
    intro rows
    induction rows with
    | nil => exact fun _ _ => rfl
    | cons row rows ih =>
        intro hrows acc
        rw [List.foldl_cons, List.foldl_cons, importRow_named (hrows row List.mem_cons_self)]
        exact ih (fun r hr => hrows r (List.mem_cons_of_mem _ hr)) _
  exact hloop preview.rows hrows ⟨t.market.instruments, [], 0⟩

theorem shownTo_importedTables {preview : ImportPreview}
    (hrows : ∀ row ∈ preview.rows, row.normalizedIsin ∈ isins) (draw : ImportDraw) :
    (importedTables t user preview draw).shownTo isins user =
      importedTables (t.shownTo isins user) user preview draw := by
  obtain ⟨-, hall⟩ := importRows_spec t user preview draw
  unfold importedTables
  rw [importRows_shownTo hrows]
  unfold Tables.shownTo
  rw [Sql.owned_append_own fun l hl => (keys_of_madeFrom hall l hl).1,
    Sql.owned_append_own (by simp [importBatch])]
  rfl

/-- Lots of the ISINs stay so when the instruments stay and the new lots are of them. -/
theorem Tables.Within.mono (h : t.Within isins user) (ht : t.Constraints) (ht' : t'.Constraints)
    (hkeeps : Keeps t.market.instruments t'.market.instruments)
    (hlots : ∀ l ∈ t'.portfolio.lots, l.ownerId = user →
      (∃ old ∈ t.portfolio.lots, old.ownerId = user ∧ old.instrumentId = l.instrumentId) ∨
        ∃ i ∈ t'.market.instruments, i.id = l.instrumentId ∧ i.isin ∈ isins) :
    t'.Within isins user := by
  intro l hl howner i hi hid
  rcases hlots l hl howner with ⟨old, hold, howner', hsame⟩ | ⟨new, hnew, hid', hisin⟩
  · obtain ⟨stored, hstored, hid'⟩ := ht.portfolio.lotInstruments old hold _ rfl
    obtain ⟨kept, hkept, hkeptId, hkeptIsin⟩ := hkeeps stored hstored
    have hinstrument : i = kept := by
      apply ht'.market.instrumentIds.eq hi hkept
      rw [hid, hkeptId, hid', hsame]
    rw [hinstrument, hkeptIsin]
    exact h old hold howner' stored hstored hid'
  · rw [ht'.market.instrumentIds.eq hi hnew (hid.trans hid'.symm)]
    exact hisin

/-- Batches of their owners stay so when the uploads stay and the new batches are so. -/
theorem Tables.BatchesOwned.mono (h : t.BatchesOwned) (ht : t.Constraints) (ht' : t'.Constraints)
    (huploads : KeepsUploads t.portfolio.uploads t'.portfolio.uploads)
    (hbatches : ∀ b ∈ t'.portfolio.batches, b ∈ t.portfolio.batches ∨
      ∀ u ∈ t'.portfolio.uploads, b.uploadedFileId = some u.id → u.ownerId = b.ownerId) :
    t'.BatchesOwned := by
  intro b hb u hu hid
  rcases hbatches b hb with hold | hnew
  · obtain ⟨stored, hstored, hstoredId⟩ := ht.portfolio.uploadsExist b hold u.id hid
    obtain ⟨kept, hkept, hkeptId, hkeptOwner⟩ := huploads stored hstored
    have hsame : u = kept := by
      apply ht'.portfolio.uploadIds.eq hu hkept
      rw [hkeptId, hstoredId]
    rw [hsame, hkeptOwner]
    exact h b hold stored hstored (hstoredId.symm ▸ hid)
  · exact hnew u hu hid

end Transactions

end BondTrading
