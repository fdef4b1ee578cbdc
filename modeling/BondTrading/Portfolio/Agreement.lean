/-
# BondTrading.Portfolio.Agreement -- requests answered alike

Two states in which a user sees the same: his lots and batches, the instruments of the ISINs
he uses, his settings and his previews.  If the identifiers a request of his draws are new in
both, both states answer it alike, and he sees the same again.

* `createLot_agrees`, `updateLot_agrees`, `deleteLot_agrees`, `updateAppSettings_agrees`,
  `importCommit_agrees` -- one service call each;
* `handle_agrees` -- every request.
-/
import BondTrading.Portfolio.Writes

namespace BondTrading

open Py (Instant Agrees)
open Sql (owned UniqueOn UniqueOnSome)

/-! ## What is kept -/

/-- What every request keeps, and what keeps the lots of all users but `hidden` within the
ISINs. -/
structure PortfolioState.Kept (s : PortfolioState) (isins : List String) (hidden : UserId) :
    Prop where
  previews : s.PreviewsOwned
  batches : s.db.val.BatchesOwned
  lots : ∀ user, user ≠ hidden → s.db.val.Within isins user

/-- What a user sees of the database. -/
structure SeenAlike (isins : List String) (user : UserId) (t t' : Tables) : Prop where
  tables : t.shownTo isins user = t'.shownTo isins user
  settings : t.settingsOut user = t'.settingsOut user

variable {s s' : PortfolioState} {isins : List String} {user hidden : UserId} {draw : RequestDraw}

theorem shownTo_congr {t t' : Tables}
    (hmarket : t.market.named isins = t'.market.named isins)
    (hbatches : owned ImportBatchModel.ownerId user t.portfolio.batches =
      owned ImportBatchModel.ownerId user t'.portfolio.batches)
    (hlots : owned BondLotModel.ownerId user t.portfolio.lots =
      owned BondLotModel.ownerId user t'.portfolio.lots) :
    t.shownTo isins user = t'.shownTo isins user := by
  unfold Tables.shownTo
  rw [hmarket, hbatches, hlots]

namespace SeenAlike

variable {t t' t'' : Tables}

theorem symm (h : SeenAlike isins user t t') : SeenAlike isins user t' t :=
  ⟨h.tables.symm, h.settings.symm⟩

theorem trans (h : SeenAlike isins user t t') (h' : SeenAlike isins user t' t'') :
    SeenAlike isins user t t'' := ⟨h.tables.trans h'.tables, h.settings.trans h'.settings⟩

/-- What differs is not shown. -/
theorem of_tables (hmarket : t.market = t'.market)
    (hbatches : t.portfolio.batches = t'.portfolio.batches)
    (hlots : t.portfolio.lots = t'.portfolio.lots)
    (hsettings : t.portfolio.settings = t'.portfolio.settings) : SeenAlike isins user t t' where
  tables := shownTo_congr (by rw [hmarket]) (by rw [hbatches]) (by rw [hlots])
  settings := settingsOut_congr (by rw [hsettings])

theorem withUploads (t : Tables) (uploads : List UploadedFileModel) :
    SeenAlike isins user
      { t with portfolio := { t.portfolio with uploads := uploads } } t :=
  .of_tables rfl rfl rfl rfl

/-- Where the rows of the user stayed, only the instruments can differ. -/
theorem of_owned {t₁ t₁' : Tables} (h : SeenAlike isins user t t')
    (hnamed : t₁.market.named isins = t₁'.market.named isins)
    (howned : t₁.portfolio.ownedBy user = t.portfolio.ownedBy user)
    (howned' : t₁'.portfolio.ownedBy user = t'.portfolio.ownedBy user) :
    SeenAlike isins user t₁ t₁' where
  tables := by
    have hbatches := congrArg (fun t : Tables => t.portfolio.batches) h.tables
    have hlots := congrArg (fun t : Tables => t.portfolio.lots) h.tables
    apply shownTo_congr hnamed
    · exact (congrArg PortfolioTables.batches howned).trans
        (hbatches.trans (congrArg PortfolioTables.batches howned').symm)
    · exact (congrArg PortfolioTables.lots howned).trans
        (hlots.trans (congrArg PortfolioTables.lots howned').symm)
  settings := by
    rw [settingsOut_congr (congrArg PortfolioTables.settings howned),
      settingsOut_congr (congrArg PortfolioTables.settings howned')]
    exact h.settings

theorem named (h : SeenAlike isins user t t') : t.market.named isins = t'.market.named isins :=
  congrArg Tables.market h.tables

theorem batches (h : SeenAlike isins user t t') :
    owned ImportBatchModel.ownerId user t.portfolio.batches =
      owned ImportBatchModel.ownerId user t'.portfolio.batches :=
  congrArg (fun t => t.portfolio.batches) h.tables

theorem listAll (h : SeenAlike isins user t t') (hw : t.Within isins user)
    (hw' : t'.Within isins user) : t.listAll user = t'.listAll user := by
  rw [← hw.listAll, ← hw'.listAll, h.tables]

theorem getLot (h : SeenAlike isins user t t') (hw : t.Within isins user)
    (hw' : t'.Within isins user) (id : LotId) : t.getLot user id = t'.getLot user id := by
  rw [← hw.getLot, ← hw'.getLot, h.tables]

theorem requiredLot (h : SeenAlike isins user t t') (hw : t.Within isins user)
    (hw' : t'.Within isins user) (id : LotId) :
    t.requiredLot user id = t'.requiredLot user id := by
  rw [← hw.requiredLot, ← hw'.requiredLot, h.tables]

theorem existingBatch (h : SeenAlike isins user t t') (preview : ImportPreview) :
    BondTrading.existingBatch t user preview = BondTrading.existingBatch t' user preview := by
  rw [← existingBatch_shownTo t isins, ← existingBatch_shownTo t' isins, h.tables]

/-- A transaction that is the same on what is shown, and writes no settings. -/
theorem step (h : SeenAlike isins user t t') {f : Tables → Tables}
    (hf : (f t).shownTo isins user = f (t.shownTo isins user))
    (hf' : (f t').shownTo isins user = f (t'.shownTo isins user))
    (hsettings : (f t).portfolio.settings = t.portfolio.settings)
    (hsettings' : (f t').portfolio.settings = t'.portfolio.settings) :
    SeenAlike isins user (f t) (f t') where
  tables := by rw [hf, hf', h.tables]
  settings := by
    rw [settingsOut_congr (congrArg _ hsettings), settingsOut_congr (congrArg _ hsettings')]
    exact h.settings

end SeenAlike

/-- Two answered calls: the same answer, and the same seen after it. -/
def AnsweredAlike {α : Type} (isins : List String) (user : UserId) (r r' : Database × α) : Prop :=
  r.2 = r'.2 ∧ SeenAlike isins user r.1.val r'.1.val

/-! ## Lots -/

/-- The tables a request committed are within the ISINs again. -/
theorem within_of_commit {request : PortfolioRequest} {t : Tables} {d : Database} (hd : d.val = t)
    (h : s.Wrote user draw request t)
    (hisins : ∀ isin ∈ s.lotIsins user draw request, isin ∈ isins)
    (hw : s.db.val.Within isins user) : d.val.Within isins user := by
  subst hd
  exact h.within d.property (fun _ => hisins) hw

section Lots

open PortfolioState (Wrote)

/-- A lot that is answered after the commit. -/
theorem answered_agrees {d d' : Database} (h : SeenAlike isins user d.val d'.val)
    (hw : d.val.Within isins user) (hw' : d'.val.Within isins user) (id : LotId) :
    Agrees (AnsweredAlike isins user)
      (do let lot ← d.val.requiredLot user id; return (d, lot) : Except PyError _)
      (do let lot ← d'.val.requiredLot user id; return (d', lot)) := by
  rw [h.requiredLot hw hw']
  exact Agrees.bind_same fun lot => .ok ⟨rfl, h⟩

theorem createLot_agrees (h : SeenAlike isins user s.db.val s'.db.val)
    (hw : s.db.val.Within isins user) (hw' : s'.db.val.Within isins user) {payload : LotCreate}
    (hisins : ∀ isin ∈ s.lotIsins user draw (.createLot payload), isin ∈ isins)
    (hfresh : draw.lots.Fresh s.db.val) (hfresh' : draw.lots.Fresh s'.db.val) :
    Agrees (AnsweredAlike isins user) (createLot s.db user payload draw.lots)
      (createLot s'.db user payload draw.lots) := by
  apply Agrees.bind_shared
  intro isin hisin
  rw [PortfolioState.lotIsins_createLot hisin, List.forall_mem_singleton] at hisins
  have hstep : SeenAlike isins user (createdTables s.db.val user isin payload draw.lots)
      (createdTables s'.db.val user isin payload draw.lots) :=
    h.step (f := fun t => createdTables t user isin payload draw.lots)
      (shownTo_createdTables hisins _ _) (shownTo_createdTables hisins _ _) rfl rfl
  have hlotIsins {s : PortfolioState} : ∀ k ∈ s.lotIsins user draw (.createLot payload),
      k ∈ isins := by
    rw [PortfolioState.lotIsins_createLot hisin]
    simpa using hisins
  apply (commit_agrees ?_).bind
  · rintro d d' ⟨hd, hd'⟩
    apply answered_agrees
    · rw [hd, hd']
      exact hstep
    · exact within_of_commit hd (.created hisin) hlotIsins hw
    · exact within_of_commit hd' (.created hisin) hlotIsins hw'
  · -- the instrument is the one that is shown, so both lots are the same row
    have hshown := instrumentFor_named s.db.val.market hisins payload.sourceName
      draw.lots.instrument
    have hshown' := instrumentFor_named s'.db.val.market hisins payload.sourceName
      draw.lots.instrument
    rw [h.named] at hshown
    have hinstrument := (Prod.mk.inj (hshown.symm.trans hshown')).1
    rw [createdTables_constraints_iff s.db.property hfresh,
      createdTables_constraints_iff s'.db.property hfresh', hinstrument]

theorem updateLot_agrees (h : SeenAlike isins user s.db.val s'.db.val)
    (hw : s.db.val.Within isins user) (hw' : s'.db.val.Within isins user) (id : LotId)
    (p : LotPatch) (hfresh : draw.lots.Fresh s.db.val) (hfresh' : draw.lots.Fresh s'.db.val) :
    Agrees (AnsweredAlike isins user) (updateLot s.db user id p draw.lots)
      (updateLot s'.db user id p draw.lots) := by
  have hsame := h.requiredLot hw hw' id
  unfold updateLot
  rw [← hsame]
  apply Agrees.bind_shared
  intro found hfound
  have hfound' := hsame.symm.trans hfound
  apply Agrees.bind_shared
  intro patched hpatch
  obtain ⟨hmem, -, howner, -⟩ := getLot_eq_some (Py.orRaise_eq_ok.mp hfound)
  obtain ⟨hmem', -⟩ := getLot_eq_some (Py.orRaise_eq_ok.mp hfound')
  obtain ⟨hid, howner', hinstrument, hbatch, hrow⟩ := BondLotModel.patch_keys hpatch
  -- in both tables the identifier leads to the lot that was found
  have hkeys {t : Tables} (ht : t.Constraints) (hlot : found.lot ∈ t.portfolio.lots) :
      ∀ l ∈ t.portfolio.lots, l.id = patched.id → l.ownerId = patched.ownerId := by
    intro l hl hsame
    rw [ht.portfolio.lotIds.eq hl hlot (hsame.trans hid), howner']
  have hstep : SeenAlike isins user (updatedTables s.db.val user patched draw.lots)
      (updatedTables s'.db.val user patched draw.lots) :=
    h.step (f := fun t => updatedTables t user patched draw.lots)
      (shownTo_updatedTables (hkeys s.db.property hmem) _)
      (shownTo_updatedTables (hkeys s'.db.property hmem') _) rfl rfl
  have hlotIsins {s : PortfolioState} : ∀ k ∈ s.lotIsins user draw (.updateLot id p), k ∈ isins :=
    fun _ hk => absurd hk List.not_mem_nil
  apply (commit_agrees ?_).bind
  · rintro d d' ⟨hd, hd'⟩
    apply answered_agrees
    · rw [hd, hd']
      exact hstep
    · exact within_of_commit hd (.updated hmem howner hpatch) hlotIsins hw
    · exact within_of_commit hd' (.updated hmem' howner hpatch) hlotIsins hw'
  · rw [updatedTables_constraints_iff s.db.property hfresh.job user hmem hid hinstrument hbatch hrow,
      updatedTables_constraints_iff s'.db.property hfresh'.job user hmem' hid hinstrument hbatch
        hrow]

theorem deleteLot_agrees (h : SeenAlike isins user s.db.val s'.db.val)
    (hw : s.db.val.Within isins user) (hw' : s'.db.val.Within isins user) (id : LotId)
    (hfresh : draw.lots.Fresh s.db.val) (hfresh' : draw.lots.Fresh s'.db.val) :
    Agrees (fun d d' => SeenAlike isins user d.val d'.val) (deleteLot s.db user id draw.lots)
      (deleteLot s'.db user id draw.lots) := by
  have hstep : SeenAlike isins user (deletedTables s.db.val user id draw.lots)
      (deletedTables s'.db.val user id draw.lots) :=
    h.step (f := fun t => deletedTables t user id draw.lots) (shownTo_deletedTables _ _)
      (shownTo_deletedTables _ _) rfl rfl
  unfold deleteLot
  rw [← h.requiredLot hw hw']
  apply Agrees.bind_same
  intro _
  have hcommit := deletedTables_constraints s.db.property hfresh.job user id
  have hcommit' := deletedTables_constraints s'.db.property hfresh'.job user id
  refine (commit_agrees (iff_of_true hcommit hcommit')).mono ?_
  rintro d d' ⟨hd, hd'⟩
  rw [hd, hd']
  exact hstep

end Lots

/-! ## Settings -/

section Settings

/-- Every column of the settings but their keys is in the answer. -/
theorem AppSettingModel.patch_agrees {a b : AppSettingModel}
    (h : SettingsOut.ofModel a = SettingsOut.ofModel b) (p : SettingsPatch) :
    Agrees (fun x y => SettingsOut.ofModel x = SettingsOut.ofModel y) (a.patch p) (b.patch p) := by
  obtain ⟨httl, hmode, hrate, hlegacy, hsale, hzone, hversion⟩ := SettingsOut.mk.inj h
  unfold AppSettingModel.patch
  rw [httl, hmode, hrate, hlegacy, hsale, hzone]
  refine Agrees.bind_same fun _ => Agrees.bind_same fun _ => Agrees.bind_same fun _ => ?_
  refine Agrees.bind_same fun _ => Agrees.bind_same fun _ => Agrees.bind_same fun _ => .ok ?_
  unfold SettingsOut.ofModel
  rw [hversion]

theorem getSettings_out (t : Tables) (user : UserId) (id : SettingsId) :
    SettingsOut.ofModel (getSettings t user id).1 = t.settingsOut user := by
  unfold Tables.settingsOut getSettings
  split <;> rfl

/-- Adding the defaults shows the user what he saw. -/
theorem settingsOut_getSettings (t : Tables) (user : UserId) (id : SettingsId) :
    (getSettings t user id).2.settingsOut user = t.settingsOut user := by
  unfold getSettings
  cases hfound : t.portfolio.settingsOf user with
  | some settings => rfl
  | none =>
      have hadded : PortfolioTables.settingsOf
          { t.portfolio with settings := t.portfolio.settings ++ [defaultSettings id user] } user =
            some (defaultSettings id user) := by
        show List.find? _ (t.portfolio.settings ++ [_]) = _
        rw [List.find?_append, show List.find? _ t.portfolio.settings = none from hfound]
        rw [Option.none_or, List.find?_cons]
        simp [defaultSettings]
      unfold Tables.settingsOut getSettings
      rw [hadded, hfound]
      rfl

/-- The one row of a user. -/
theorem settingsOf_of_mem {t : PortfolioTables}
    (ht : UniqueOn (fun s : AppSettingModel => (s.ownerId, s.singletonKey)) t.settings)
    {settings : AppSettingModel} (hmem : settings ∈ t.settings) (howner : settings.ownerId = user)
    (hkey : settings.singletonKey = "default") : t.settingsOf user = some settings := by
  rw [← ht.find hmem]
  refine List.find?_congr fun s _ => ?_
  rw [howner, hkey, decide_eq_decide, Prod.mk.injEq, and_comm]

variable {t : Tables} {d : SettingsDraw} {patch : SettingsPatch} {patched : AppSettingModel}

theorem shownTo_patchedTables (patched : AppSettingModel) (d : SettingsDraw) :
    (patchedTables t user patched d).shownTo isins user = t.shownTo isins user := by
  obtain ⟨new, -, htables⟩ := getSettings_tables t user d.settings
  unfold patchedTables
  rw [show getSettings t user d.settings =
    ((getSettings t user d.settings).1, (getSettings t user d.settings).2) from rfl, htables]
  rfl

/-- **After a patch the user has the patched settings.** -/
theorem settingsOut_patchedTables (ht : t.Constraints) (hfresh : d.Fresh t)
    (hpatch : (getSettings t user d.settings).1.patch patch = .ok patched) :
    (patchedTables t user patched d).settingsOut user = SettingsOut.ofModel patched := by
  have hconstraints := patchedTables_constraints ht hfresh hpatch
  obtain ⟨hmem, howner, hdefault⟩ := getSettings_spec t user d.settings
  obtain ⟨-, howner', hkey⟩ := AppSettingModel.patch_keys hpatch
  have hwritten : patched ∈ (patchedTables t user patched d).portfolio.settings := by
    refine Sql.mem_updateWhere.mpr ⟨(getSettings t user d.settings).1, hmem, ?_⟩
    exact (if_pos (decide_eq_true rfl)).symm
  have hfound := settingsOf_of_mem hconstraints.portfolio.settingOwners hwritten
    (howner'.trans howner) (hkey.trans hdefault)
  unfold Tables.settingsOut getSettings
  rw [hfound]

theorem updateAppSettings_agrees (h : SeenAlike isins user s.db.val s'.db.val)
    (patch : SettingsPatch) (hfresh : d.Fresh s.db.val) (hfresh' : d.Fresh s'.db.val) :
    Agrees (AnsweredAlike isins user) (updateAppSettings s.db user patch d)
      (updateAppSettings s'.db user patch d) := by
  have hsame : SettingsOut.ofModel (getSettings s.db.val user d.settings).1 =
      SettingsOut.ofModel (getSettings s'.db.val user d.settings).1 := by
    rw [getSettings_out, getSettings_out, h.settings]
  apply (AppSettingModel.patch_agrees hsame patch).and_eq.bind
  rintro patched patched' ⟨hout, hpatch, hpatch'⟩
  have hcommit := patchedTables_constraints s.db.property hfresh hpatch
  have hcommit' := patchedTables_constraints s'.db.property hfresh' hpatch'
  apply (commit_agrees (iff_of_true hcommit hcommit')).bind
  rintro committed committed' ⟨hval, hval'⟩
  refine .ok ⟨hout, ?_, ?_⟩
  · rw [hval, hval']
    exact (shownTo_patchedTables _ _).trans (h.tables.trans (shownTo_patchedTables _ _).symm)
  · rw [hval, hval']
    have hsettings := settingsOut_patchedTables s.db.property hfresh hpatch
    have hsettings' := settingsOut_patchedTables s'.db.property hfresh' hpatch'
    exact hsettings.trans (hout.trans hsettings'.symm)

/-- Reading the settings never fails. -/
theorem getAppSettings_eq {db : Database} (hfresh : d.Fresh db.val) (user : UserId) :
    getAppSettings db user d = .ok (db.val.settingsOut user) := by
  have hcommit := getSettings_constraints db.property hfresh.settings user
  have hcommitted : (getSettings db.val user d.settings).2.commit = .ok ⟨_, hcommit⟩ :=
    Sql.commit_of _ hcommit
  unfold getAppSettings
  rw [show getSettings db.val user d.settings =
    ((getSettings db.val user d.settings).1, (getSettings db.val user d.settings).2) from rfl]
  dsimp only
  rw [hcommitted, ← getSettings_out db.val user d.settings]
  rfl

end Settings

/-! ## Imports -/

section Imports

variable {preview : ImportPreview}

/-- Whether an upload of the user has a batch already, he sees. -/
theorem upload_unused_iff {db : Database} (hbatches : db.val.BatchesOwned) {upload : UploadId}
    (hupload : ∃ r ∈ db.val.portfolio.uploads, r.id = upload ∧ r.ownerId = user) :
    (∀ b ∈ db.val.portfolio.batches, b.uploadedFileId ≠ some upload) ↔
      ∀ b ∈ owned ImportBatchModel.ownerId user db.val.portfolio.batches,
        b.uploadedFileId ≠ some upload := by
  obtain ⟨r, hr, hid, howner⟩ := hupload
  constructor
  · exact fun h b hb => h b (Sql.mem_owned.mp hb).1
  · intro h b hb hbatch
    -- a batch of the upload belongs to the owner of the upload
    have hsame := hbatches b hb r hr (hid.symm ▸ hbatch)
    exact h b (Sql.mem_owned.mpr ⟨hb, hsame.symm.trans howner⟩) hbatch

theorem upload_of_preview (hs : s.Kept isins hidden) {id : PreviewId} {value : CachedPreview}
    (hvalue : s.previews.values.get? id = some value) (howner : value.ownerId = some user) :
    ∀ u ∈ value.preview.uploadId,
      ∃ r ∈ s.db.val.portfolio.uploads, r.id = u ∧ r.ownerId = user := by
  intro u hu
  obtain ⟨r, hr, hid, howner'⟩ := hs.previews id value hvalue u hu
  exact ⟨r, hr, hid, (Option.some.inj (howner.symm.trans howner')).symm⟩

theorem importCommit_agrees (h : SeenAlike isins user s.db.val s'.db.val)
    (hs : s.Kept isins hidden) (hs' : s'.Kept isins hidden) {value : CachedPreview}
    {id : PreviewId} (hvalue : s.previews.values.get? id = some value)
    (hvalue' : s'.previews.values.get? id = some value) (howner : value.ownerId = some user)
    (hisins : existingBatch s.db.val user value.preview = none →
      ∀ row ∈ value.preview.rows, row.normalizedIsin ∈ isins)
    (hfresh : draw.imports.Fresh s.db.val value.preview.rows)
    (hfresh' : draw.imports.Fresh s'.db.val value.preview.rows) :
    Agrees (AnsweredAlike isins user) (importCommit s.db user value.preview draw.imports)
      (importCommit s'.db user value.preview draw.imports) := by
  have hexisting := h.existingBatch value.preview
  unfold importCommit
  rw [← hexisting]
  cases hbatch : existingBatch s.db.val user value.preview with
  | some existing =>
      have hcommit : (replayedTables s.db.val value.preview existing).Constraints :=
        replayedTables_constraints s.db.property existing
      have hcommit' : (replayedTables s'.db.val value.preview existing).Constraints :=
        replayedTables_constraints s'.db.property existing
      apply (commit_agrees (iff_of_true hcommit hcommit')).bind
      rintro d d' ⟨hd, hd'⟩
      refine .ok ⟨rfl, ?_⟩
      rw [hd, hd']
      exact h.step (f := fun t => replayedTables t value.preview existing) rfl rfl rfl rfl
  | none =>
      have hbatch' := hexisting.symm.trans hbatch
      have hrows := hisins hbatch
      have hstep : SeenAlike isins user
          (importedTables s.db.val user value.preview draw.imports)
          (importedTables s'.db.val user value.preview draw.imports) :=
        h.step (f := fun t => importedTables t user value.preview draw.imports)
          (shownTo_importedTables hrows _) (shownTo_importedTables hrows _) rfl rfl
      -- both loops are the loop over what is shown
      have hloop : (importRows s.db.val user value.preview draw.imports).named isins =
          (importRows s'.db.val user value.preview draw.imports).named isins := by
        rw [← importRows_shownTo hrows, ← importRows_shownTo hrows, h.tables]
      obtain ⟨-, hlots, hupdated⟩ := ImportLoop.mk.inj hloop
      apply (commit_agrees ?_).bind
      · rintro d d' ⟨hd, hd'⟩
        refine .ok ⟨?_, ?_⟩
        · show (importBatch _ _ _ _, false) = (importBatch _ _ _ _, false)
          unfold importBatch
          rw [hupdated]
        · rw [hd, hd']
          exact hstep
      · have hupload := upload_of_preview hs hvalue howner
        have hupload' := upload_of_preview hs' hvalue' howner
        rw [importedTables_constraints_iff s.db.property hfresh user hbatch
            fun u hu => (hupload u hu).imp fun _ hr => ⟨hr.1, hr.2.1⟩,
          importedTables_constraints_iff s'.db.property hfresh' user hbatch'
            fun u hu => (hupload' u hu).imp fun _ hr => ⟨hr.1, hr.2.1⟩, hlots]
        refine and_congr_right fun _ => and_congr_right fun _ => forall₂_congr fun u hu => ?_
        rw [upload_unused_iff hs.batches (hupload u hu), h.batches,
          ← upload_unused_iff hs'.batches (hupload' u hu)]

end Imports

/-! ## Every request -/

namespace PortfolioState

/-- A user sees the same in both states. -/
structure Alike (isins : List String) (user : UserId) (s s' : PortfolioState) : Prop where
  db : SeenAlike isins user s.db.val s'.db.val
  previews : s.previews.ownedBy user = s'.previews.ownedBy user
  ttlSeconds : s.previews.ttlSeconds = s'.previews.ttlSeconds

namespace Alike

variable {s'' : PortfolioState}

theorem refl (s : PortfolioState) : Alike isins user s s := ⟨⟨rfl, rfl⟩, rfl, rfl⟩

theorem symm (h : Alike isins user s s') : Alike isins user s' s :=
  ⟨h.db.symm, h.previews.symm, h.ttlSeconds.symm⟩

theorem trans (h : Alike isins user s s') (h' : Alike isins user s' s'') :
    Alike isins user s s'' :=
  ⟨h.db.trans h'.db, h.previews.trans h'.previews, h.ttlSeconds.trans h'.ttlSeconds⟩

end Alike

/-- Two calls that are answered alike. -/
theorem respond_agrees {α : Type} (h : Alike isins user s s') {handler : PyError → ApiAnswer}
    {body : α → ApiAnswer} {x x' : Except PyError (Database × α)}
    (hx : Agrees (AnsweredAlike isins user) x x') :
    Alike isins user (s.respond handler body x).1 (s'.respond handler body x').1 ∧
      (s.respond handler body x).2 = (s'.respond handler body x').2 := by
  cases hx with
  | ok hr => exact ⟨⟨hr.2, h.previews, h.ttlSeconds⟩, congrArg body hr.1⟩
  | error e => exact ⟨h, rfl⟩

/-- A call whose writes the user does not see here. -/
theorem respond_unseen {α : Type} {handler : PyError → ApiAnswer} {body : α → ApiAnswer}
    {x : Except PyError (Database × α)}
    (hx : ∀ db a, x = .ok (db, a) → SeenAlike isins user db.val s.db.val) :
    Alike isins user (s.respond handler body x).1 s := by
  cases x with
  | error e => exact .refl s
  | ok result => exact ⟨hx result.1 result.2 rfl, rfl, rfl⟩

/-- A calculation stores a yield, and the settings if there are none: those it read. -/
theorem calculateLot_unseen (env : PortfolioEnv) (id : LotId) (valuationDate : Option Date)
    (d : CalculationDraw) :
    Alike isins user (s.calculateLot env user id valuationDate d).1 s := by
  refine respond_unseen fun db bundle hx => ?_
  obtain ⟨new, -, htables⟩ := getSettings_tables s.db.val user d.settings
  simp only [calculate, Py.bind_eq_ok] at hx
  obtain ⟨_, -, _, -, _, -, _, -, _, -, committed, hcommit, hreturn⟩ := hx
  obtain ⟨rfl, -⟩ := Prod.mk.inj (Except.ok.inj hreturn)
  have hread : SeenAlike isins user (getSettings s.db.val user d.settings).2 s.db.val := by
    refine ⟨?_, settingsOut_getSettings s.db.val user d.settings⟩
    rw [htables]
    rfl
  rw [Sql.commit_eq_ok.mp hcommit]
  refine SeenAlike.trans ?_ hread
  exact .of_tables rfl rfl rfl rfl

/-- The sheet tables are not shown. -/
theorem sheets_unseen {α : Type} {handler : PyError → ApiAnswer} {body : α → ApiAnswer}
    (x : Except PyError (SheetDatabase × α)) :
    Alike isins user
      (s.respond handler body (x.map fun result => (s.db.withSheets result.1, result.2))).1 s := by
  refine respond_unseen fun db a hx => ?_
  obtain ⟨result, -, heq⟩ := Py.map_eq_ok.mp hx
  obtain ⟨rfl, -⟩ := Prod.mk.inj heq
  exact .of_tables rfl rfl rfl rfl

/-- A preview is cached, whatever else is in the tables. -/
theorem previewImport_agrees (h : Alike isins user s s') (env : PortfolioEnv) {file : UploadFile}
    (hfresh : s.DrawsFresh user draw (.previewImport file))
    (hfresh' : s'.DrawsFresh user draw (.previewImport file)) :
    Alike isins user (s.previewImport env user file draw).1
      (s'.previewImport env user file draw).1 := by
  obtain ⟨uploads, htables⟩ := previewImport_tables env user file draw
  obtain ⟨uploads', htables'⟩ := previewImport_tables env user file draw
  refine ⟨?_, ?_, ?_⟩
  · rw [htables, htables']
    exact (SeenAlike.withUploads _ uploads).trans
      (h.db.trans (SeenAlike.withUploads _ uploads').symm)
  · rw [previewImport_previews hfresh, previewImport_previews hfresh']
    cases previewed env file draw with
    | none => exact h.previews
    | some preview =>
        funext k
        dsimp only
        rw [ImportPreviewCache.ownedBy_put, ImportPreviewCache.ownedBy_put, h.previews,
          h.ttlSeconds]
  · rw [previewImport_previews hfresh, previewImport_previews hfresh']
    cases previewed env file draw with
    | none => exact h.ttlSeconds
    | some preview => exact h.ttlSeconds

theorem commitImport_agrees (h : Alike isins user s s') (hs : s.Kept isins hidden)
    (hs' : s'.Kept isins hidden) {id : PreviewId}
    (hisins : ∀ isin ∈ s.lotIsins user draw (.commitImport id), isin ∈ isins)
    (hfresh : s.DrawsFresh user draw (.commitImport id))
    (hfresh' : s'.DrawsFresh user draw (.commitImport id)) :
    Alike isins user (s.commitImport user id draw).1 (s'.commitImport user id draw).1 ∧
      (s.commitImport user id draw).2 = (s'.commitImport user id draw).2 := by
  have hget := ImportPreviewCache.get_eq s.previews id user draw.monotonic
  have hget' := ImportPreviewCache.get_eq s'.previews id user draw.monotonic
  have hdiscard : (s.previews.discard id).ownedBy user = (s'.previews.discard id).ownedBy user := by
    funext k
    rw [ImportPreviewCache.ownedBy_discard, ImportPreviewCache.ownedBy_discard, h.previews]
  rw [h.previews] at hget
  unfold commitImport
  cases hvalue' : s'.previews.ownedBy user id with
  | none =>
      simp only [hvalue'] at hget hget'
      rw [hget, hget']
      exact ⟨h, rfl⟩
  | some value =>
      simp only [hvalue'] at hget hget'
      by_cases hexpired : value.expiresAt ≤ draw.monotonic
      · rw [if_pos hexpired] at hget hget'
        rw [hget, hget']
        exact ⟨⟨h.db, hdiscard, h.ttlSeconds⟩, rfl⟩
      · rw [if_neg hexpired] at hget hget'
        have hpreview : (s.previews.get id (some user) draw.monotonic).2 = some value.preview := by
          rw [hget]
        have hpreview' : (s'.previews.get id (some user) draw.monotonic).2 = some value.preview := by
          rw [hget']
        have hvalue : s.previews.ownedBy user id = some value := by rw [h.previews, hvalue']
        obtain ⟨hcached, howner⟩ := Option.filter_eq_some_iff.mp hvalue
        obtain ⟨hcached', -⟩ := Option.filter_eq_some_iff.mp hvalue'
        have hagrees := importCommit_agrees h.db hs hs' hcached hcached' (of_decide_eq_true howner)
          (fun hnone row hrow => hisins _ (by
            rw [lotIsins_commitImport hpreview hnone]
            exact List.mem_map_of_mem hrow))
          (hfresh _ hpreview) (hfresh' _ hpreview')
        rw [hget, hget']
        dsimp only
        generalize importCommit s.db user value.preview draw.imports = x at hagrees
        generalize importCommit s'.db user value.preview draw.imports = x' at hagrees
        cases hagrees with
        | error e => exact ⟨h, rfl⟩
        | ok hr =>
            rename_i r r'
            obtain ⟨hanswer, hseen⟩ := hr
            refine ⟨⟨hseen, hdiscard, h.ttlSeconds⟩, ?_⟩
            show ApiAnswer.batch r.2.1 r.2.2 = ApiAnswer.batch r'.2.1 r'.2.2
            rw [hanswer]

end PortfolioState

/-- The operations about lots, settings and import commits. -/
def PortfolioRequest.isPortfolio : PortfolioRequest → Bool
  | .listLots | .createLot _ | .getLot _ | .updateLot _ _ | .getAppSettings
  | .updateAppSettings _ | .commitImport _ => true
  | _ => false

namespace PortfolioState

/-- **A request in two states that look alike to its user**: they look alike afterwards, and
he got the same answer. -/
theorem handle_agrees {user : CurrentUser} (h : Alike isins user.id s s')
    (hs : s.Kept isins hidden) (hs' : s'.Kept isins hidden) (huser : user.id ≠ hidden)
    (env : PortfolioEnv) {request : PortfolioRequest}
    (hisins : ∀ isin ∈ s.lotIsins user.id draw request, isin ∈ isins)
    (hfresh : s.DrawsFresh user.id draw request) (hfresh' : s'.DrawsFresh user.id draw request) :
    Alike isins user.id (s.handle env user draw request).1 (s'.handle env user draw request).1 ∧
      (request.isPortfolio = true →
        (s.handle env user draw request).2 = (s'.handle env user draw request).2) := by
  have hw := hs.lots user.id huser
  have hw' := hs'.lots user.id huser
  cases request with
  | listLots =>
      refine ⟨h, fun _ => ?_⟩
      show s.listLots user.id = s'.listLots user.id
      unfold listLots
      rw [h.db.listAll hw hw']
  | getLot id =>
      refine ⟨h, fun _ => ?_⟩
      show s.getLot user.id id = s'.getLot user.id id
      unfold getLot
      rw [h.db.getLot hw hw']
  | getAppSettings =>
      refine ⟨h, fun _ => ?_⟩
      show s.getAppSettings user.id draw.settings = s'.getAppSettings user.id draw.settings
      unfold getAppSettings
      rw [getAppSettings_eq hfresh, getAppSettings_eq hfresh', h.db.settings]
  | createLot payload =>
      rw [handle_createLot, handle_createLot, createLot, createLot]
      exact (respond_agrees h (createLot_agrees h.db hw hw' hisins hfresh hfresh')).imp_right
        fun hanswer _ => hanswer
  | updateLot id p =>
      rw [handle_updateLot, handle_updateLot, updateLot, updateLot]
      exact (respond_agrees h (updateLot_agrees h.db hw hw' id p hfresh hfresh')).imp_right
        fun hanswer _ => hanswer
  | updateAppSettings patch =>
      rw [handle_updateAppSettings, handle_updateAppSettings, updateAppSettings,
        updateAppSettings]
      exact (respond_agrees h (updateAppSettings_agrees h.db patch hfresh hfresh')).imp_right
        fun hanswer _ => hanswer
  | commitImport id =>
      rw [handle_commitImport, handle_commitImport]
      exact (commitImport_agrees h hs hs' hisins hfresh hfresh').imp_right fun hanswer _ => hanswer
  | deleteLot id =>
      rw [handle_deleteLot, handle_deleteLot, deleteLot, deleteLot]
      refine (respond_agrees h ?_).imp_right fun hanswer _ => hanswer
      exact (deleteLot_agrees h.db hw hw' id hfresh hfresh').map fun _ _ hseen => ⟨rfl, hseen⟩
  | calculateLot id valuationDate =>
      rw [handle_calculateLot, handle_calculateLot]
      refine ⟨?_, fun hportfolio => absurd hportfolio Bool.false_ne_true⟩
      exact (calculateLot_unseen env id valuationDate draw.calculation).trans
        (h.trans (calculateLot_unseen env id valuationDate draw.calculation).symm)
  | previewImport file =>
      rw [handle_previewImport, handle_previewImport]
      refine ⟨previewImport_agrees h env hfresh hfresh', ?_⟩
      exact fun hportfolio => absurd hportfolio Bool.false_ne_true
  | updateConnection values =>
      rw [handle_updateConnection, handle_updateConnection]
      refine ⟨?_, fun hportfolio => absurd hportfolio Bool.false_ne_true⟩
      exact (sheets_unseen _).trans (h.trans (sheets_unseen _).symm)
  | syncNow =>
      rw [handle_syncNow, handle_syncNow]
      refine ⟨?_, fun hportfolio => absurd hportfolio Bool.false_ne_true⟩
      exact (sheets_unseen _).trans (h.trans (sheets_unseen _).symm)
  | yieldHistory | getImportBatch | listUploads | downloadUpload | getConnection
  | testConnection | listJobs | getJob =>
      exact ⟨h, fun hportfolio => absurd hportfolio Bool.false_ne_true⟩

/-- **The invariants survive every request** that keeps to the ISINs, or is of `hidden`. -/
theorem handle_kept {user : CurrentUser} (hs : s.Kept isins hidden) (env : PortfolioEnv)
    (draw : RequestDraw) {request : PortfolioRequest}
    (hisins : user.id ≠ hidden → ∀ isin ∈ s.lotIsins user.id draw request, isin ∈ isins) :
    (s.handle env user draw request).1.Kept isins hidden := by
  have hserves := s.handle_spares hs.previews env user draw request
  have hwrote := handle_wrote (s := s) env user draw request
  have hconstraints := (s.handle env user draw request).1.db.property
  refine ⟨hserves.previews, ?_, fun other hother => ?_⟩
  · exact hwrote.batchesOwned hconstraints hs.previews hserves.spares.uploads hs.batches
  · exact hwrote.within hconstraints (fun heq => hisins (heq ▸ hother)) (hs.lots other hother)

end PortfolioState

end BondTrading
