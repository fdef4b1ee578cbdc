/-
# BondTrading.Portfolio.Transactions -- when the transactions of a portfolio commit

The identifiers of new rows are drawn at random; `Fresh` says that they are new.  Under it
nothing but the rows a transaction writes itself decides whether the database takes it:
the amounts of the lots, and for an import also its row numbers and its upload.
-/
import BondTrading.Portfolio.Possessions

namespace BondTrading

open Py (Decimal Instant)
open Sql (UniqueOn UniqueOnSome References updateWhere)

/-! ## New identifiers -/

structure LotDraw.Fresh (draw : LotDraw) (t : Tables) : Prop where
  instrument : ∀ i ∈ t.market.instruments, i.id ≠ draw.instrument
  lot : ∀ l ∈ t.portfolio.lots, l.id ≠ draw.lot
  job : ∀ j ∈ t.sheets.jobs, j.id ≠ draw.job

structure SettingsDraw.Fresh (draw : SettingsDraw) (t : Tables) : Prop where
  settings : ∀ s ∈ t.portfolio.settings, s.id ≠ draw.settings
  job : ∀ j ∈ t.sheets.jobs, j.id ≠ draw.job

/-- The key of the stored object contains the identifier of the upload. -/
structure UploadDraw.Fresh (draw : UploadDraw) (t : Tables) (owner : UserId) (fileName : String) :
    Prop where
  upload : ∀ u ∈ t.portfolio.uploads, u.id ≠ draw.upload
  objectKey : ∀ u ∈ t.portfolio.uploads,
    u.objectKey ≠ (newUpload (fun _ => "") owner fileName "" [] draw).objectKey

structure ImportDraw.Fresh (draw : ImportDraw) (t : Tables) (rows : List ImportRow) : Prop where
  batch : ∀ b ∈ t.portfolio.batches, b.id ≠ draw.batch
  instruments : ∀ i ∈ t.market.instruments, ∀ row ∈ rows,
    i.id ≠ draw.instrument row.normalizedIsin
  instrumentsApart : ∀ row ∈ rows, ∀ row' ∈ rows,
    draw.instrument row.normalizedIsin = draw.instrument row'.normalizedIsin →
      row.normalizedIsin = row'.normalizedIsin
  lots : ∀ l ∈ t.portfolio.lots, ∀ k ∈ List.range rows.length, l.id ≠ draw.lot k
  lotsApart : ∀ j ∈ List.range rows.length, ∀ k ∈ List.range rows.length,
    draw.lot j = draw.lot k → j = k
  job : ∀ j ∈ t.sheets.jobs, j.id ≠ draw.job

/-! ## Shared parts -/

theorem enqueueSheetSync_constraints {t : SheetTables} (ht : t.Constraints) {id : JobId}
    (hid : ∀ j ∈ t.jobs, j.id ≠ id) (user : UserId) (trigger : SheetSyncTrigger) (now : Instant) :
    (enqueueSheetSync t user trigger id now).1.Constraints := by
  unfold enqueueSheetSync
  split
  · exact ht
  · rename_i connection hfound
    split
    · exact ht
    · obtain ⟨hconnections, howners, hjobs, hforeign⟩ := ht
      refine ⟨hconnections, howners, Sql.uniqueOn_append_singleton.mpr ⟨hjobs, hid⟩, ?_⟩
      intro j hj
      rcases List.mem_append.mp hj with hj | hj
      · exact hforeign j hj
      · obtain rfl := List.mem_singleton.mp hj
        exact ⟨connection, List.mem_of_find?_eq_some hfound, rfl⟩

/-- The constraints of the market tables with other instruments under the same keys. -/
theorem MarketTables.Constraints.withInstruments {t : MarketTables} (ht : t.Constraints)
    {instruments : List BondInstrumentModel}
    (hids : UniqueOn BondInstrumentModel.id instruments)
    (hisins : UniqueOn BondInstrumentModel.isin instruments)
    (hkept : ∀ k ∈ t.instruments.map BondInstrumentModel.id,
      k ∈ instruments.map BondInstrumentModel.id) :
    ({ t with instruments := instruments } : MarketTables).Constraints :=
  { ht with
    instrumentIds := hids
    isins := hisins
    actionInstruments := ht.actionInstruments.mono hkept
    marketInstruments := ht.marketInstruments.mono hkept }

/-- Two transactions that are both taken, or both refused. -/
theorem commit_agrees {t t' : Tables} (h : t.Constraints ↔ t'.Constraints) :
    Py.Agrees (fun d d' : Database => d.val = t ∧ d'.val = t') t.commit t'.commit := by
  unfold Tables.commit Sql.commit
  by_cases ht : t.Constraints
  · rw [dif_pos ht, dif_pos (h.mp ht)]
    exact .ok ⟨rfl, rfl⟩
  · rw [dif_neg ht, dif_neg fun ht' => ht (h.mpr ht')]
    exact .error _

/-- The checks of the row of a lot on its amounts. -/
structure BondLotModel.Storable (l : BondLotModel) : Prop where
  quantity : isPositive l.quantity = true
  amounts : ∀ a ∈ l.amounts, MONEY.takes a = true
  reference : ∀ a ∈ l.plannedYieldManualReference, PERCENT.takes a = true

/-- Every stored lot passed them. -/
theorem PortfolioTables.Constraints.storable {t : PortfolioTables} {market : MarketTables}
    (ht : t.Constraints market) {l : BondLotModel} (hl : l ∈ t.lots) : l.Storable :=
  ⟨ht.quantities l hl, ht.amounts l hl, ht.references l hl⟩

/-- New lots, of known instruments and batches. -/
theorem PortfolioTables.Constraints.addLots {t : PortfolioTables} {market : MarketTables}
    (ht : t.Constraints market) {lots : List BondLotModel}
    (hids : UniqueOn BondLotModel.id (t.lots ++ lots))
    (hrows : UniqueOnSome BondLotModel.importedFrom (t.lots ++ lots))
    (hinstruments : References (some ∘ BondLotModel.instrumentId) BondInstrumentModel.id lots
      market.instruments)
    (hbatches : References BondLotModel.importBatchId ImportBatchModel.id lots t.batches)
    (hstorable : ∀ l ∈ lots, l.Storable) :
    ({ t with lots := t.lots ++ lots } : PortfolioTables).Constraints market :=
  { ht with
    lotIds := hids
    lotRows := hrows
    quantities := List.forall_mem_append.mpr ⟨ht.quantities, fun l hl => (hstorable l hl).quantity⟩
    amounts := List.forall_mem_append.mpr ⟨ht.amounts, fun l hl => (hstorable l hl).amounts⟩
    references := List.forall_mem_append.mpr ⟨ht.references, fun l hl => (hstorable l hl).reference⟩
    lotInstruments := Sql.references_append.mpr ⟨ht.lotInstruments, hinstruments⟩
    lotBatches := Sql.references_append.mpr ⟨ht.lotBatches, hbatches⟩
    yieldLots := ht.yieldLots.mono fun k hk => by
      rw [List.map_append]
      exact List.mem_append_left _ hk }

/-! ## Lots -/

section Lots

/-- The instrument `create` uses is there, and every other one still is. -/
theorem instrumentFor_spec (t : MarketTables) (isin : String) (sourceName : Option String)
    (id : InstrumentId) :
    (t.instrumentFor isin sourceName id).1 ∈ (t.instrumentFor isin sourceName id).2.instruments ∧
      (t.instrumentFor isin sourceName id).1.isin = isin ∧
      (∀ i ∈ t.instruments, i ∈ (t.instrumentFor isin sourceName id).2.instruments) ∧
      (t.instrumentFor isin sourceName id).2.markets = t.markets := by
  unfold MarketTables.instrumentFor
  cases hfound : t.instrumentOf isin with
  | some instrument =>
      have hisin := List.find?_some hfound
      exact ⟨List.mem_of_find?_eq_some hfound, of_decide_eq_true hisin, fun _ hi => hi, rfl⟩
  | none =>
      refine ⟨List.mem_append_right _ (List.mem_singleton.mpr rfl), rfl, fun i hi => ?_, rfl⟩
      exact List.mem_append_left _ hi

theorem instrumentFor_constraints {t : MarketTables} (ht : t.Constraints) {id : InstrumentId}
    (hid : ∀ i ∈ t.instruments, i.id ≠ id) (isin : String) (sourceName : Option String) :
    (t.instrumentFor isin sourceName id).2.Constraints := by
  unfold MarketTables.instrumentFor
  cases hfound : t.instrumentOf isin with
  | some instrument => exact ht
  | none =>
      have hisin : ∀ i ∈ t.instruments, i.isin ≠ isin := by
        intro i hi h
        exact List.find?_eq_none.mp hfound i hi (decide_eq_true h)
      refine ht.withInstruments (Sql.uniqueOn_append_singleton.mpr ⟨ht.instrumentIds, hid⟩)
        (Sql.uniqueOn_append_singleton.mpr ⟨ht.isins, hisin⟩) ?_
      intro k hk
      rw [List.map_append]
      exact List.mem_append_left _ hk

variable {t : Tables}

/-- **A new lot is taken exactly if its amounts are.** -/
theorem createdTables_constraints_iff (ht : t.Constraints) {draw : LotDraw} (hfresh : draw.Fresh t)
    (owner : UserId) (isin : String) (values : LotCreate) :
    (createdTables t owner isin values draw).Constraints ↔
      (newLot owner (t.market.instrumentFor isin values.sourceName draw.instrument).1.id values
        draw).Storable := by
  obtain ⟨hmem, -, hkept, hmarkets⟩ :=
    instrumentFor_spec t.market isin values.sourceName draw.instrument
  set market := (t.market.instrumentFor isin values.sourceName draw.instrument).2 with hmarket
  set lot := newLot owner
    (t.market.instrumentFor isin values.sourceName draw.instrument).1.id values draw with hlot
  constructor
  · intro h
    have hnew : lot ∈ t.portfolio.lots ++ [lot] := List.mem_append_right _ (List.mem_singleton_self _)
    exact h.portfolio.storable hnew
  · intro hstorable
    have hportfolio : t.portfolio.Constraints market := by
      refine ht.portfolio.withMarket (fun k hk => ?_) (fun k hk => hmarkets.symm ▸ hk)
      obtain ⟨i, hi, rfl⟩ := List.mem_map.mp hk
      exact List.mem_map_of_mem (hkept i hi)
    refine ⟨instrumentFor_constraints ht.market hfresh.instrument _ _, ?_,
      enqueueSheetSync_constraints ht.sheets hfresh.job _ _ _⟩
    apply hportfolio.addLots
    · exact Sql.uniqueOn_append_singleton.mpr ⟨hportfolio.lotIds, hfresh.lot⟩
    · -- the lot is of no batch
      have hnone : [lot].filterMap BondLotModel.importedFrom = [] := rfl
      show ((t.portfolio.lots ++ [lot]).filterMap BondLotModel.importedFrom).Nodup
      rw [List.filterMap_append, hnone, List.append_nil]
      exact hportfolio.lotRows
    · intro l hl k hk
      obtain rfl := List.mem_singleton.mp hl
      obtain rfl := Option.some.inj hk
      exact ⟨_, hmem, rfl⟩
    · intro l hl k hk
      obtain rfl := List.mem_singleton.mp hl
      cases hk
    · intro l hl
      obtain rfl := List.mem_singleton.mp hl
      exact hstorable

/-- **An update is taken exactly if its amounts are.** -/
theorem updatedTables_constraints_iff (ht : t.Constraints) {draw : LotDraw}
    (hjob : ∀ j ∈ t.sheets.jobs, j.id ≠ draw.job) (owner : UserId) {lot patched : BondLotModel}
    (hlot : lot ∈ t.portfolio.lots) (hid : patched.id = lot.id)
    (hinstrument : patched.instrumentId = lot.instrumentId)
    (hbatch : patched.importBatchId = lot.importBatchId)
    (hrow : patched.sourceRowNumber = lot.sourceRowNumber) :
    (updatedTables t owner patched draw).Constraints ↔ patched.Storable := by
  have hportfolio := ht.portfolio
  have hwritten : ∀ l, l ∈ updateWhere (fun l => l.id = patched.id) (fun _ => patched)
      t.portfolio.lots ↔ l = patched ∨ (l ∈ t.portfolio.lots ∧ l.id ≠ lot.id) := by
    intro l
    rw [hid]
    exact hportfolio.lotIds.mem_updateWhere hlot fun _ => patched
  have hids : (updateWhere (fun l => l.id = patched.id) (fun _ => patched) t.portfolio.lots).map
      BondLotModel.id = t.portfolio.lots.map BondLotModel.id := Sql.map_updateWhere_key rfl _
  constructor
  · intro h
    have hmem := (hwritten patched).mpr (Or.inl rfl)
    exact h.portfolio.storable hmem
  · intro hstorable
    -- what holds of every old lot and of the new row holds of every lot
    have hevery {P : BondLotModel → Prop} (hold : ∀ l ∈ t.portfolio.lots, P l) (hnew : P patched) :
        ∀ l ∈ updateWhere (fun l => l.id = patched.id) (fun _ => patched) t.portfolio.lots,
          P l := by
      intro l hl
      rcases (hwritten l).mp hl with rfl | ⟨hl, -⟩
      · exact hnew
      · exact hold l hl
    have hrows : UniqueOnSome BondLotModel.importedFrom
        (updateWhere (fun l => l.id = patched.id) (fun _ => patched) t.portfolio.lots) := by
      unfold UniqueOnSome
      rw [Sql.filterMap_updateWhere fun l hl hkey => ?_]
      · exact hportfolio.lotRows
      · obtain rfl := hportfolio.lotIds.eq hl hlot ((of_decide_eq_true hkey).trans hid)
        unfold BondLotModel.importedFrom
        rw [hbatch, hrow]
    refine ⟨ht.market, ?_, enqueueSheetSync_constraints ht.sheets hjob _ _ _⟩
    exact { hportfolio with
      lotIds := by
        unfold UniqueOn
        rw [updatedTables, hids]
        exact hportfolio.lotIds
      lotRows := hrows
      quantities := hevery hportfolio.quantities hstorable.quantity
      amounts := hevery hportfolio.amounts hstorable.amounts
      references := hevery hportfolio.references hstorable.reference
      lotInstruments := hevery hportfolio.lotInstruments fun k hk =>
        hportfolio.lotInstruments lot hlot k ((congrArg some hinstrument).symm.trans hk)
      lotBatches := hevery hportfolio.lotBatches
        fun k hk => hportfolio.lotBatches lot hlot k (hbatch ▸ hk)
      yieldLots := hportfolio.yieldLots.mono fun k hk => by
        rw [updatedTables, hids]
        exact hk }

/-- A delete always is. -/
theorem deletedTables_constraints (ht : t.Constraints) {draw : LotDraw}
    (hjob : ∀ j ∈ t.sheets.jobs, j.id ≠ draw.job) (owner : UserId) (id : LotId) :
    (deletedTables t owner id draw).Constraints := by
  have hportfolio := ht.portfolio
  refine ⟨ht.market, ?_, enqueueSheetSync_constraints ht.sheets hjob _ _ _⟩
  exact { hportfolio with
    lotIds := hportfolio.lotIds.filter _
    lotRows := hportfolio.lotRows.filter _
    quantities := fun l hl => hportfolio.quantities l (List.mem_filter.mp hl).1
    amounts := fun l hl => hportfolio.amounts l (List.mem_filter.mp hl).1
    references := fun l hl => hportfolio.references l (List.mem_filter.mp hl).1
    yieldAmounts := fun y hy => hportfolio.yieldAmounts y (List.mem_filter.mp hy).1
    yieldPercents := fun y hy => hportfolio.yieldPercents y (List.mem_filter.mp hy).1
    lotInstruments := hportfolio.lotInstruments.filter _
    lotBatches := hportfolio.lotBatches.filter _
    yieldIds := hportfolio.yieldIds.filter _
    yieldLots := by
      -- the lot of a yield that stays is another one than the lot that goes
      intro y hy k hk
      obtain ⟨hy, hother⟩ := List.mem_filter.mp hy
      obtain ⟨l, hl, hid⟩ := hportfolio.yieldLots y hy k hk
      obtain rfl := Option.some.inj hk
      refine ⟨l, List.mem_filter.mpr ⟨hl, decide_eq_true fun h => ?_⟩, hid⟩
      exact of_decide_eq_true hother (hid.symm.trans h)
    yieldMarkets := hportfolio.yieldMarkets.filter _ }

end Lots

/-! ## Settings -/

section Settings

variable {t : Tables} {user : UserId}

/-- Other rows in the settings, and another queue. -/
theorem Tables.Constraints.withSettings (ht : t.Constraints) {settings : List AppSettingModel}
    (hids : UniqueOn AppSettingModel.id settings)
    (howners : UniqueOn (fun s : AppSettingModel => (s.ownerId, s.singletonKey)) settings)
    {sheets : SheetTables} (hsheets : sheets.Constraints) :
    (⟨t.market, { t.portfolio with settings := settings }, sheets⟩ : Tables).Constraints :=
  ⟨ht.market, { ht.portfolio with settingIds := hids, settingOwners := howners }, hsheets⟩

/-- Where `SettingsService.get` added the defaults, they can be committed. -/
theorem getSettings_constraints (ht : t.Constraints) {id : SettingsId}
    (hid : ∀ s ∈ t.portfolio.settings, s.id ≠ id) (user : UserId) :
    (getSettings t user id).2.Constraints := by
  obtain ⟨hids, howners⟩ := getSettings_unique ht hid user
  obtain ⟨new, -, htables⟩ := getSettings_tables t user id
  rw [htables] at hids howners ⊢
  exact ht.withSettings hids howners ht.sheets

/-- The tables of `update_app_settings` at its commit. -/
def patchedTables (t : Tables) (user : UserId) (patched : AppSettingModel) (draw : SettingsDraw) :
    Tables :=
  let (settings, tables) := getSettings t user draw.settings
  { tables with
    portfolio := { tables.portfolio with
      settings := updateWhere (fun s => s.id = settings.id) (fun _ => patched)
        tables.portfolio.settings }
    sheets := (enqueueSheetSync tables.sheets user .settingsChanged draw.job draw.now).1 }

/-- **A patch of the settings always is.** -/
theorem patchedTables_constraints (ht : t.Constraints) {draw : SettingsDraw}
    (hfresh : draw.Fresh t) {patch : SettingsPatch} {patched : AppSettingModel}
    (hpatch : (getSettings t user draw.settings).1.patch patch = .ok patched) :
    (patchedTables t user patched draw).Constraints := by
  obtain ⟨hids, howners⟩ := getSettings_unique ht hfresh.settings user
  obtain ⟨hmem, -⟩ := getSettings_spec t user draw.settings
  obtain ⟨new, -, htables⟩ := getSettings_tables t user draw.settings
  obtain ⟨hid, howner, hkey⟩ := AppSettingModel.patch_keys hpatch
  have hconstraints := getSettings_constraints ht hfresh.settings user
  have hsheets : (enqueueSheetSync (getSettings t user draw.settings).2.sheets user
      .settingsChanged draw.job draw.now).1.Constraints := by
    refine enqueueSheetSync_constraints hconstraints.sheets ?_ _ _ _
    rw [htables]
    exact hfresh.job
  -- the patched row stands under the keys of the one it was made from
  set settings := (getSettings t user draw.settings).1
  set tables := (getSettings t user draw.settings).2
  have hids' : UniqueOn AppSettingModel.id
      (updateWhere (fun s => s.id = settings.id) (fun _ => patched)
        tables.portfolio.settings) := by
    rw [UniqueOn, Sql.map_updateWhere_key hid]
    exact hids
  have howners' : UniqueOn (fun s : AppSettingModel => (s.ownerId, s.singletonKey))
      (updateWhere (fun s => s.id = settings.id) (fun _ => patched)
        tables.portfolio.settings) := by
    rw [UniqueOn, Sql.map_updateWhere_of_mem]
    · exact howners
    · intro s hs hsame
      obtain rfl := hids.eq hs hmem (of_decide_eq_true hsame)
      rw [howner, hkey]
  exact hconstraints.withSettings hids' howners' hsheets

end Settings

/-! ## Uploads -/

section Uploads

variable {t : Tables}

/-- Uploads under the keys of the old ones, and new ones. -/
theorem Tables.Constraints.withUploads (ht : t.Constraints) {uploads : List UploadedFileModel}
    (hids : UniqueOn UploadedFileModel.id uploads)
    (hkeys : UniqueOn UploadedFileModel.objectKey uploads)
    (hkept : ∀ k ∈ t.portfolio.uploads.map UploadedFileModel.id,
      k ∈ uploads.map UploadedFileModel.id) :
    ({ t with portfolio := { t.portfolio with uploads := uploads } } : Tables).Constraints :=
  ⟨ht.market, { ht.portfolio with
    uploadIds := hids
    objectKeys := hkeys
    uploadsExist := ht.portfolio.uploadsExist.mono hkept }, ht.sheets⟩

theorem addUpload_constraints (ht : t.Constraints) {upload : UploadedFileModel}
    (hid : ∀ u ∈ t.portfolio.uploads, u.id ≠ upload.id)
    (hkey : ∀ u ∈ t.portfolio.uploads, u.objectKey ≠ upload.objectKey) :
    (t.addUpload upload).Constraints := by
  refine ht.withUploads (Sql.uniqueOn_append_singleton.mpr ⟨ht.portfolio.uploadIds, hid⟩)
    (Sql.uniqueOn_append_singleton.mpr ⟨ht.portfolio.objectKeys, hkey⟩) ?_
  intro k hk
  rw [List.map_append]
  exact List.mem_append_left _ hk

/-- Assignments to uploads that write no key. -/
theorem updateUploads_constraints (ht : t.Constraints) (p : UploadedFileModel → Bool)
    {f : UploadedFileModel → UploadedFileModel}
    (hf : ∀ u ∈ t.portfolio.uploads, p u = true →
      (f u).id = u.id ∧ (f u).objectKey = u.objectKey) :
    ({ t with portfolio := { t.portfolio with
      uploads := updateWhere p f t.portfolio.uploads } } : Tables).Constraints := by
  have hids := Sql.map_updateWhere_of_mem fun u hu hp => (hf u hu hp).1
  have hkeys := Sql.map_updateWhere_of_mem fun u hu hp => (hf u hu hp).2
  refine ht.withUploads ?_ ?_ ?_
  · unfold UniqueOn
    rw [hids]
    exact ht.portfolio.uploadIds
  · unfold UniqueOn
    rw [hkeys]
    exact ht.portfolio.objectKeys
  · intro k hk
    rw [hids]
    exact hk

theorem setUpload_constraints (ht : t.Constraints) {stored upload : UploadedFileModel}
    (hmem : stored ∈ t.portfolio.uploads) (hid : upload.id = stored.id)
    (hkey : upload.objectKey = stored.objectKey) : (t.setUpload upload).Constraints := by
  refine updateUploads_constraints ht _ fun u hu hsame => ?_
  obtain rfl := ht.portfolio.uploadIds.eq hu hmem ((of_decide_eq_true hsame).trans hid)
  exact ⟨hid, hkey⟩

end Uploads

/-! ## Imports -/

section Imports

variable {t : Tables} {preview : ImportPreview} {draw : ImportDraw}

/-- The keys of what the loop over `rows` has so far: the instruments are the stored ones and
one for each new ISIN, the lots have the identifiers drawn for them, in order. -/
structure LoopKeys (t : Tables) (rows : List ImportRow) (draw : ImportDraw) (acc : ImportLoop) :
    Prop where
  ids : UniqueOn BondInstrumentModel.id acc.instruments
  isins : UniqueOn BondInstrumentModel.isin acc.instruments
  drawn : ∀ i ∈ acc.instruments, (∃ stored ∈ t.market.instruments, stored.id = i.id) ∨
    ∃ row ∈ rows, i.isin = row.normalizedIsin ∧ i.id = draw.instrument row.normalizedIsin
  lots : acc.lots.map BondLotModel.id = (List.range acc.lots.length).map draw.lot

theorem LoopKeys.addLot {rows : List ImportRow} {acc : ImportLoop}
    (h : LoopKeys t rows draw acc) {lot : BondLotModel} (hid : lot.id = draw.lot acc.lots.length)
    (updated : ℕ) : LoopKeys t rows draw ⟨acc.instruments, acc.lots ++ [lot], updated⟩ :=
  { h with
    lots := by
      rw [List.map_append, h.lots, List.length_append, List.length_singleton, List.range_succ,
        List.map_append, List.map_singleton, List.map_singleton, hid] }

/-- An instrument for an ISIN that has none. -/
theorem LoopKeys.addInstrument {rows : List ImportRow} {acc : ImportLoop}
    (h : LoopKeys t rows draw acc) (hfresh : draw.Fresh t rows) {row : ImportRow}
    (hrow : row ∈ rows) (hnone : ∀ i ∈ acc.instruments, i.isin ≠ row.normalizedIsin)
    {instrument : BondInstrumentModel} (hid : instrument.id = draw.instrument row.normalizedIsin)
    (hisin : instrument.isin = row.normalizedIsin) :
    LoopKeys t rows draw ⟨acc.instruments ++ [instrument], acc.lots, acc.updated⟩ := by
  have hnew : ∀ i ∈ acc.instruments, i.id ≠ instrument.id := by
    intro i hi hsame
    rw [hid] at hsame
    rcases h.drawn i hi with ⟨stored, hstored, heq⟩ | ⟨other, hother, hisin', hid'⟩
    · exact hfresh.instruments stored hstored row hrow (heq.trans hsame)
    · -- two rows drew one identifier, so they have one ISIN
      have heq := hfresh.instrumentsApart other hother row hrow (hid'.symm.trans hsame)
      exact hnone i hi (hisin'.trans heq)
  exact { h with
    ids := Sql.uniqueOn_append_singleton.mpr ⟨h.ids, hnew⟩
    isins := Sql.uniqueOn_append_singleton.mpr ⟨h.isins, by rw [hisin]; exact hnone⟩
    drawn := List.forall_mem_append.mpr ⟨h.drawn, fun i hi => by
      obtain rfl := List.mem_singleton.mp hi
      exact Or.inr ⟨row, hrow, hisin, hid⟩⟩ }

/-- One round. -/
theorem LoopKeys.step {rows : List ImportRow} {acc : ImportLoop} (h : LoopKeys t rows draw acc)
    (hfresh : draw.Fresh t rows) {row : ImportRow} (hrow : row ∈ rows) (owner : UserId)
    (sheetName : String) : LoopKeys t rows draw (importRow owner sheetName draw acc row) := by
  unfold importRow
  split
  · rename_i hfound
    have hnone : ∀ i ∈ acc.instruments, i.isin ≠ row.normalizedIsin := fun i hi hsame =>
      List.find?_eq_none.mp hfound i hi (decide_eq_true hsame)
    exact (h.addInstrument hfresh hrow hnone rfl rfl).addLot rfl _
  · rename_i instrument hfound
    split
    · rename_i name _
      split
      · -- a new name, under the same keys
        have hids := Sql.map_updateWhere (fun i => i.id = instrument.id)
          (fun i : BondInstrumentModel => { i with shortName := name }) BondInstrumentModel.id
          (fun _ => rfl) acc.instruments
        have hisins := Sql.map_updateWhere (fun i => i.id = instrument.id)
          (fun i : BondInstrumentModel => { i with shortName := name }) BondInstrumentModel.isin
          (fun _ => rfl) acc.instruments
        have hrenamed : LoopKeys t rows draw
            ⟨updateWhere (fun i => i.id = instrument.id) ({ · with shortName := name })
              acc.instruments, acc.lots, acc.updated⟩ :=
          { h with
            ids := by
              unfold UniqueOn
              rw [hids]
              exact h.ids
            isins := by
              unfold UniqueOn
              rw [hisins]
              exact h.isins
            drawn := by
              intro i hi
              obtain ⟨i₀, hi₀, rfl⟩ := Sql.mem_updateWhere.mp hi
              split <;> exact h.drawn i₀ hi₀ }
        exact hrenamed.addLot rfl _
      · exact h.addLot rfl _
    · exact h.addLot rfl _

/-- The whole loop. -/
theorem importRows_keys (ht : t.Constraints) (hfresh : draw.Fresh t preview.rows)
    (owner : UserId) : LoopKeys t preview.rows draw (importRows t owner preview draw) := by
  have hstart : LoopKeys t preview.rows draw ⟨t.market.instruments, [], 0⟩ :=
    ⟨ht.market.instrumentIds, ht.market.isins, fun i hi => Or.inl ⟨i, hi, rfl⟩, rfl⟩
  have hloop : ∀ rows : List ImportRow, (∀ row ∈ rows, row ∈ preview.rows) →
      ∀ acc, LoopKeys t preview.rows draw acc →
        LoopKeys t preview.rows draw (rows.foldl (importRow owner preview.sheetName draw) acc) := by
    intro rows
    induction rows with
    | nil => exact fun _ _ hacc => hacc
    | cons row rows ih =>
        intro hrows acc hacc
        have hnext := hacc.step hfresh (hrows row List.mem_cons_self) owner preview.sheetName
        exact ih (fun r hr => hrows r (List.mem_cons_of_mem _ hr)) _ hnext
  exact hloop preview.rows (fun _ h => h) _ hstart

/-- A batch of a new content, of an upload no batch has. -/
theorem PortfolioTables.Constraints.addBatch {t : PortfolioTables} {market : MarketTables}
    (ht : t.Constraints market) {b : ImportBatchModel}
    (hid : ∀ r ∈ t.batches, r.id ≠ b.id)
    (hidentity : ∀ r ∈ t.batches, r.identity ≠ b.identity)
    (hupload : ∀ u ∈ b.uploadedFileId, ∀ r ∈ t.batches, r.uploadedFileId ≠ some u)
    (hexists : ∀ u ∈ b.uploadedFileId, ∃ r ∈ t.uploads, r.id = u) :
    ({ t with batches := t.batches ++ [b] } : PortfolioTables).Constraints market :=
  { ht with
    batchIds := Sql.uniqueOn_append_singleton.mpr ⟨ht.batchIds, hid⟩
    batchIdentities := Sql.uniqueOn_append_singleton.mpr ⟨ht.batchIdentities, hidentity⟩
    batchUploads := by
      refine Sql.uniqueOnSome_append.mpr ⟨ht.batchUploads, ?_, fun r hr u hru b' hb' hbu => ?_⟩
      · unfold UniqueOnSome
        cases h : b.uploadedFileId with
        | none => rw [List.filterMap_cons_none h]; exact List.nodup_nil
        | some u => rw [List.filterMap_cons_some h]; exact List.nodup_singleton u
      · obtain rfl := List.mem_singleton.mp hb'
        exact hupload u hbu r hr hru
    uploadsExist := Sql.references_append.mpr ⟨ht.uploadsExist, fun r hr u hu => by
      obtain rfl := List.mem_singleton.mp hr
      exact hexists u hu⟩
    lotBatches := ht.lotBatches.mono fun k hk => by
      rw [List.map_append]
      exact List.mem_append_left _ hk }

/-- **An import of a new content is taken exactly if the amounts of its lots are, no two of
them have one row number, and its upload has no batch yet.** -/
theorem importedTables_constraints_iff (ht : t.Constraints) (hfresh : draw.Fresh t preview.rows)
    (owner : UserId) (hnone : existingBatch t owner preview = none)
    (hupload : ∀ u ∈ preview.uploadId, ∃ r ∈ t.portfolio.uploads, r.id = u) :
    (importedTables t owner preview draw).Constraints ↔
      (∀ l ∈ (importRows t owner preview draw).lots, l.Storable) ∧
        UniqueOnSome BondLotModel.importedFrom (importRows t owner preview draw).lots ∧
          ∀ u ∈ preview.uploadId, ∀ b ∈ t.portfolio.batches, b.uploadedFileId ≠ some u := by
  obtain ⟨hkeeps, hall⟩ := importRows_spec t owner preview draw
  have hkeys := importRows_keys ht hfresh owner
  set loop := importRows t owner preview draw with hloop
  constructor
  · intro h
    have hportfolio := h.portfolio
    refine ⟨fun l hl => ?_, ?_, fun u hu b hb hbu => ?_⟩
    · have hmem : l ∈ t.portfolio.lots ++ loop.lots := List.mem_append_right _ hl
      exact hportfolio.storable hmem
    · exact (Sql.uniqueOnSome_append.mp hportfolio.lotRows).2.1
    · exact (Sql.uniqueOnSome_append.mp hportfolio.batchUploads).2.2 b hb u hbu _
        (List.mem_singleton.mpr rfl) hu
  · rintro ⟨hstorable, hrows, hbatches⟩
    -- instruments first, then the upload, the batch and the lots
    have hids : ∀ k ∈ t.market.instruments.map BondInstrumentModel.id,
        k ∈ loop.instruments.map BondInstrumentModel.id := by
      intro k hk
      obtain ⟨i, hi, rfl⟩ := List.mem_map.mp hk
      obtain ⟨i', hi', hid, -⟩ := hkeeps i hi
      exact List.mem_map.mpr ⟨i', hi', hid⟩
    have hmarket := ht.market.withInstruments hkeys.ids hkeys.isins hids
    have hmarked := updateUploads_constraints ht (f := ({ · with status := "imported" }))
      (fun u => some u.id = preview.uploadId) fun _ _ _ => ⟨rfl, rfl⟩
    have huploads : ∀ u ∈ preview.uploadId, ∃ r ∈ updateUpload preview
        ({ · with status := "imported" }) t.portfolio.uploads, r.id = u := by
      intro u hu
      obtain ⟨r, hr, hid⟩ := hupload u hu
      refine ⟨_, Sql.mem_updateWhere.mpr ⟨r, hr, rfl⟩, ?_⟩
      split <;> exact hid
    have hportfolio :
        PortfolioTables.Constraints _ { t.market with instruments := loop.instruments } :=
      hmarked.portfolio.withMarket hids fun _ hk => hk
    have hidentity : ∀ b ∈ t.portfolio.batches,
        b.identity ≠ (importBatch owner preview draw loop).identity := by
      intro b hb hsame
      obtain ⟨howner, hcontent⟩ := Prod.mk.inj hsame
      obtain ⟨hchecksum, hsheet⟩ := Prod.mk.inj hcontent
      exact List.find?_eq_none.mp hnone b hb (decide_eq_true ⟨hchecksum, hsheet, howner⟩)
    have hbatched := hportfolio.addBatch (b := importBatch owner preview draw loop) hfresh.batch
      hidentity hbatches huploads
    have hnew := keys_of_madeFrom hall
    refine ⟨hmarket, ?_, enqueueSheetSync_constraints ht.sheets hfresh.job _ _ _⟩
    apply hbatched.addLots
    · -- the identifiers of the lots are new, and drawn apart
      have hlength : loop.lots.length = preview.rows.length := hall.length_eq.symm
      have hdrawn : ∀ l ∈ loop.lots, ∃ k ∈ List.range preview.rows.length, draw.lot k = l.id := by
        intro l hl
        have hmem := List.mem_map_of_mem (f := BondLotModel.id) hl
        rw [hkeys.lots, hlength] at hmem
        exact List.mem_map.mp hmem
      refine Sql.uniqueOn_append.mpr ⟨ht.portfolio.lotIds, ?_, fun l hl l' hl' hsame => ?_⟩
      · unfold UniqueOn
        rw [hkeys.lots, hlength]
        exact List.Nodup.map_on hfresh.lotsApart List.nodup_range
      · obtain ⟨k, hk, hid⟩ := hdrawn l' hl'
        exact hfresh.lots l hl k hk (hsame.trans hid.symm)
    · refine Sql.uniqueOnSome_append.mpr ⟨ht.portfolio.lotRows, hrows, ?_⟩
      -- no stored lot points to the new batch
      intro l hl key hkey l' hl' hkey'
      have hbatch : ∃ row, key = (draw.batch, row) := by
        unfold BondLotModel.importedFrom at hkey'
        rw [(hnew l' hl').2] at hkey'
        split at hkey'
        · rename_i batch row hbatch _
          obtain rfl := Option.some.inj hbatch
          exact ⟨row, (Option.some.inj hkey').symm⟩
        · cases hkey'
      obtain ⟨row, rfl⟩ := hbatch
      unfold BondLotModel.importedFrom at hkey
      split at hkey
      · rename_i batch row' hold _
        obtain ⟨rfl, rfl⟩ := Prod.mk.inj (Option.some.inj hkey)
        obtain ⟨b, hb, hid⟩ := ht.portfolio.lotBatches l hl _ hold
        exact hfresh.batch b hb hid
      · cases hkey
    · intro l hl k hk
      obtain ⟨row, -, instrument, hmem, -, id, now, rfl⟩ := exists_row_of_lot hall l hl
      obtain rfl := Option.some.inj hk
      exact ⟨instrument, hmem, rfl⟩
    · intro l hl k hk
      obtain rfl : draw.batch = k := Option.some.inj ((hnew l hl).2.symm.trans hk)
      exact ⟨_, List.mem_append_right _ (List.mem_singleton.mpr rfl), rfl⟩
    · exact hstorable

/-- A replay always is. -/
theorem replayedTables_constraints (ht : t.Constraints) (existing : ImportBatchModel) :
    (replayedTables t preview existing).Constraints :=
  updateUploads_constraints ht _ fun _ _ _ => ⟨rfl, rfl⟩

end Imports

end BondTrading
