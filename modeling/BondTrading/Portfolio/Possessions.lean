/-
# BondTrading.Portfolio.Possessions -- what belongs to whom

Lots, settings, batches, uploads and sheet connections carry their owner; a yield belongs to
the owner of its lot, and a synchronization job to the owner of its connection.  `Spares`
says that what belongs to everyone else is as it was, and every operation of a user's
portfolio spares the others.
-/
import BondTrading.Imports.Uploads
import BondTrading.Imports.Service
import BondTrading.Lots.Calculation
import BondTrading.Sql.Owned

namespace BondTrading

open Py (Instant)
open Sql (owned ownedVia updateWhere UniqueOn)

/-! ## The rows of a user -/

def PortfolioTables.ownedBy (t : PortfolioTables) (user : UserId) : PortfolioTables where
  uploads := owned UploadedFileModel.ownerId user t.uploads
  batches := owned ImportBatchModel.ownerId user t.batches
  lots := owned BondLotModel.ownerId user t.lots
  yields := ownedVia YieldSnapshotModel.lotId
    ((owned BondLotModel.ownerId user t.lots).map BondLotModel.id) t.yields
  settings := owned AppSettingModel.ownerId user t.settings

def SheetTables.ownedBy (t : SheetTables) (user : UserId) : SheetTables where
  connections := owned SheetConnectionModel.ownerId user t.connections
  jobs := ownedVia SheetSyncJobModel.connectionId
    ((owned SheetConnectionModel.ownerId user t.connections).map SheetConnectionModel.id) t.jobs

/-- Every upload is still there, and its owner's. -/
def KeepsUploads (before after : List UploadedFileModel) : Prop :=
  ∀ u ∈ before, ∃ u' ∈ after, u'.id = u.id ∧ u'.ownerId = u.ownerId

theorem KeepsUploads.refl (uploads : List UploadedFileModel) : KeepsUploads uploads uploads :=
  fun u hu => ⟨u, hu, rfl, rfl⟩

theorem KeepsUploads.updateWhere {p : UploadedFileModel → Bool}
    {f : UploadedFileModel → UploadedFileModel} {uploads : List UploadedFileModel}
    (h : ∀ u ∈ uploads, p u = true → (f u).id = u.id ∧ (f u).ownerId = u.ownerId) :
    KeepsUploads uploads (updateWhere p f uploads) := by
  intro u hu
  refine ⟨_, Sql.mem_updateWhere.mpr ⟨u, hu, rfl⟩, ?_⟩
  split
  · rename_i hp
    exact h u hu hp
  · exact ⟨rfl, rfl⟩

/-- **Nothing of anyone but `user` has changed**, and no upload is lost. -/
structure Spares (user : UserId) (t t' : Tables) : Prop where
  portfolio : ∀ other, other ≠ user → t'.portfolio.ownedBy other = t.portfolio.ownedBy other
  sheets : ∀ other, other ≠ user → t'.sheets.ownedBy other = t.sheets.ownedBy other
  uploads : KeepsUploads t.portfolio.uploads t'.portfolio.uploads

namespace Spares

variable {user : UserId} {t t' t'' : Tables}

theorem refl (t : Tables) : Spares user t t := ⟨fun _ _ => rfl, fun _ _ => rfl, .refl _⟩

theorem trans (h : Spares user t t') (h' : Spares user t' t'') : Spares user t t'' where
  portfolio other hother := (h'.portfolio other hother).trans (h.portfolio other hother)
  sheets other hother := (h'.sheets other hother).trans (h.sheets other hother)
  uploads u hu := by
    obtain ⟨u', hu', hid, howner⟩ := h.uploads u hu
    obtain ⟨u'', hu'', hid', howner'⟩ := h'.uploads u' hu'
    exact ⟨u'', hu'', hid'.trans hid, howner'.trans howner⟩

end Spares

/-- Table by table; the yields go by the lots the others had before. -/
theorem PortfolioTables.ownedBy_congr {t t' : PortfolioTables} {user : UserId}
    (huploads : owned UploadedFileModel.ownerId user t'.uploads =
      owned UploadedFileModel.ownerId user t.uploads)
    (hbatches : owned ImportBatchModel.ownerId user t'.batches =
      owned ImportBatchModel.ownerId user t.batches)
    (hlots : owned BondLotModel.ownerId user t'.lots = owned BondLotModel.ownerId user t.lots)
    (hyields : ownedVia YieldSnapshotModel.lotId
        ((owned BondLotModel.ownerId user t.lots).map BondLotModel.id) t'.yields =
      ownedVia YieldSnapshotModel.lotId
        ((owned BondLotModel.ownerId user t.lots).map BondLotModel.id) t.yields)
    (hsettings : owned AppSettingModel.ownerId user t'.settings =
      owned AppSettingModel.ownerId user t.settings) :
    t'.ownedBy user = t.ownedBy user := by
  unfold PortfolioTables.ownedBy
  rw [huploads, hbatches, hlots, hyields, hsettings]

theorem SheetTables.ownedBy_congr {t t' : SheetTables} {user : UserId}
    (hconnections : owned SheetConnectionModel.ownerId user t'.connections =
      owned SheetConnectionModel.ownerId user t.connections)
    (hjobs : ownedVia SheetSyncJobModel.connectionId
        ((owned SheetConnectionModel.ownerId user t.connections).map SheetConnectionModel.id)
        t'.jobs =
      ownedVia SheetSyncJobModel.connectionId
        ((owned SheetConnectionModel.ownerId user t.connections).map SheetConnectionModel.id)
        t.jobs) :
    t'.ownedBy user = t.ownedBy user := by
  unfold SheetTables.ownedBy
  rw [hconnections, hjobs]

/-! ## Sheet tables -/

section Sheets

variable {t : SheetTables} {user other : UserId}

theorem connectionOf_eq_some {c : SheetConnectionModel} (h : t.connectionOf user = some c) :
    c ∈ t.connections ∧ c.ownerId = user := by
  have hkeys := List.find?_some h
  rw [decide_eq_true_eq] at hkeys
  exact ⟨List.mem_of_find?_eq_some h, hkeys.1⟩

/-- A job of a connection of `user` is no job of anyone else. -/
theorem ownedBy_addJob (ht : t.Constraints) {c : SheetConnectionModel} (hc : c ∈ t.connections)
    (howner : c.ownerId = user) (hother : other ≠ user) {job : SheetSyncJobModel}
    (hjob : job.connectionId = c.id) :
    SheetTables.ownedBy { t with jobs := t.jobs ++ [job] } other = t.ownedBy other := by
  refine SheetTables.ownedBy_congr rfl (Sql.ownedVia_append_others fun j hj => ?_)
  obtain rfl := List.mem_singleton.mp hj
  rw [hjob]
  exact ht.1.not_mem_owned hc fun h => hother (h.symm.trans howner)

theorem enqueueSheetSync_spares (ht : t.Constraints) (hother : other ≠ user)
    (trigger : SheetSyncTrigger) (id : JobId) (now : Instant) :
    (enqueueSheetSync t user trigger id now).1.ownedBy other = t.ownedBy other := by
  unfold enqueueSheetSync
  split
  · rfl
  · rename_i c hfound
    split
    · rfl
    · have hkeys := List.find?_some hfound
      rw [decide_eq_true_eq] at hkeys
      exact ownedBy_addJob ht (List.mem_of_find?_eq_some hfound) hkeys.1 hother rfl

theorem enqueue_spares {db db' : SheetDatabase} {trigger : SheetSyncTrigger} {id : JobId}
    {now : Instant} {job : SheetSyncJobModel}
    (h : enqueue db user trigger id now = .ok (db', job)) (hother : other ≠ user) :
    db'.val.ownedBy other = db.val.ownedBy other := by
  simp only [enqueue, Py.bind_eq_ok] at h
  obtain ⟨c, hc, _, -, h⟩ := h
  obtain ⟨hmem, howner⟩ := connectionOf_eq_some (Py.orRaise_eq_ok.mp hc)
  split at h
  · obtain ⟨rfl, -⟩ := Prod.mk.inj (Except.ok.inj h)
    rfl
  · obtain ⟨committed, hcommit, hreturn⟩ := Py.bind_eq_ok.mp h
    obtain ⟨rfl, -⟩ := Prod.mk.inj (Except.ok.inj hreturn)
    rw [Sql.commit_eq_ok.mp hcommit]
    exact ownedBy_addJob db.property hmem howner hother rfl

theorem configure_spares {db db' : SheetDatabase} {values : ConnectionValues}
    {id : ConnectionId} {now : Instant} {c : SheetConnectionModel}
    (h : configure db user values id now = .ok (db', c)) (hother : other ≠ user) :
    db'.val.ownedBy other = db.val.ownedBy other := by
  simp only [configure, Py.bind_eq_ok] at h
  obtain ⟨normalized, -, h⟩ := h
  split at h
  · rename_i connection hconnection
    obtain ⟨hmem, howner⟩ := connectionOf_eq_some hconnection
    obtain ⟨committed, hcommit, hreturn⟩ := Py.bind_eq_ok.mp h
    obtain ⟨rfl, -⟩ := Prod.mk.inj (Except.ok.inj hreturn)
    rw [Sql.commit_eq_ok.mp hcommit]
    have hnot : connection.ownerId ≠ other := fun h => hother (h.symm.trans howner)
    exact SheetTables.ownedBy_congr (db.property.1.owned_update hmem hnot hnot) rfl
  · obtain ⟨committed, hcommit, hreturn⟩ := Py.bind_eq_ok.mp h
    obtain ⟨rfl, -⟩ := Prod.mk.inj (Except.ok.inj hreturn)
    rw [Sql.commit_eq_ok.mp hcommit]
    refine SheetTables.ownedBy_congr (Sql.owned_append_others fun c hc => ?_) rfl
    obtain rfl := List.mem_singleton.mp hc
    exact hother.symm

end Sheets

/-! ## Lots -/

section Lots

variable {db db' : Database} {user : UserId} {id : LotId}

theorem createLot_spares {values : LotCreate} {draw : LotDraw} {lot : LoadedLot}
    (h : createLot db user values draw = .ok (db', lot)) : Spares user db.val db'.val := by
  simp only [createLot, Py.bind_eq_ok] at h
  obtain ⟨isin, -, committed, hcommit, _, -, hreturn⟩ := h
  obtain ⟨rfl, -⟩ := Prod.mk.inj (Except.ok.inj hreturn)
  rw [Sql.commit_eq_ok.mp hcommit]
  constructor
  · intro other hother
    refine PortfolioTables.ownedBy_congr rfl rfl (Sql.owned_append_others fun l hl => ?_) rfl rfl
    obtain rfl := List.mem_singleton.mp hl
    exact hother.symm
  · intro other hother
    exact enqueueSheetSync_spares db.property.sheets hother _ _ _
  · exact .refl _

theorem updateLot_spares {p : LotPatch} {draw : LotDraw} {lot : LoadedLot}
    (h : updateLot db user id p draw = .ok (db', lot)) : Spares user db.val db'.val := by
  simp only [updateLot, Py.bind_eq_ok] at h
  obtain ⟨found, hfound, patched, hpatch, committed, hcommit, _, -, hreturn⟩ := h
  obtain ⟨rfl, -⟩ := Prod.mk.inj (Except.ok.inj hreturn)
  obtain ⟨hmem, -, howner, -⟩ := getLot_eq_some (Py.orRaise_eq_ok.mp hfound)
  obtain ⟨hid, howner', -⟩ := BondLotModel.patch_keys hpatch
  rw [Sql.commit_eq_ok.mp hcommit]
  constructor
  · intro other hother
    have hnot : found.lot.ownerId ≠ other := fun h => hother (h.symm.trans howner)
    refine PortfolioTables.ownedBy_congr rfl rfl ?_ rfl rfl
    show owned _ other (updateWhere (fun l => l.id = patched.id) (fun _ => patched) _) = _
    rw [hid]
    exact db.property.portfolio.lotIds.owned_update hmem hnot (howner'.symm ▸ hnot)
  · intro other hother
    exact enqueueSheetSync_spares db.property.sheets hother _ _ _
  · exact .refl _

theorem deleteLot_spares {draw : LotDraw} (h : deleteLot db user id draw = .ok db') :
    Spares user db.val db'.val := by
  simp only [deleteLot, Py.bind_eq_ok] at h
  obtain ⟨found, hfound, hcommit⟩ := h
  obtain ⟨hmem, rfl, howner, -⟩ := getLot_eq_some (Py.orRaise_eq_ok.mp hfound)
  rw [Sql.commit_eq_ok.mp hcommit]
  constructor
  · intro other hother
    have hnot : found.lot.ownerId ≠ other := fun h => hother (h.symm.trans howner)
    have hids := db.property.portfolio.lotIds.not_mem_owned hmem hnot
    refine PortfolioTables.ownedBy_congr rfl rfl (Sql.owned_filter fun l hl hl' => ?_)
      (Sql.ownedVia_filter fun y _ hy => ?_) rfl
    · -- a lot of someone else has another identifier
      refine decide_eq_true fun hid => hids ?_
      rw [← hid]
      exact List.mem_map_of_mem (Sql.mem_owned.mpr ⟨hl, hl'⟩)
    · exact decide_eq_true fun hid => hids (hid ▸ hy)
  · intro other hother
    exact enqueueSheetSync_spares db.property.sheets hother _ _ _
  · exact .refl _

end Lots

/-! ## Settings and calculations -/

section Settings

variable {db db' : Database} {user other : UserId}

theorem updateAppSettings_spares {patch : SettingsPatch} {draw : SettingsDraw} {out : SettingsOut}
    (h : updateAppSettings db user patch draw = .ok (db', out)) : Spares user db.val db'.val := by
  obtain ⟨hmem, howner, -⟩ := getSettings_spec db.val user draw.settings
  obtain ⟨new, hnew, htables⟩ := getSettings_tables db.val user draw.settings
  simp only [updateAppSettings, Py.bind_eq_ok] at h
  obtain ⟨patched, hpatch, committed, hcommit, hreturn⟩ := h
  obtain ⟨rfl, -⟩ := Prod.mk.inj (Except.ok.inj hreturn)
  obtain ⟨hid, howner', -⟩ := AppSettingModel.patch_keys hpatch
  have hval := Sql.commit_eq_ok.mp hcommit
  have hids := committed.property.portfolio.settingIds
  rw [hval] at hids ⊢
  constructor
  · intro other hother
    have hnot : (getSettings db.val user draw.settings).1.ownerId ≠ other :=
      fun h => hother (h.symm.trans howner)
    -- the commit found the identifiers distinct, so only the user's row was written
    have hunique : UniqueOn AppSettingModel.id
        (getSettings db.val user draw.settings).2.portfolio.settings := by
      unfold UniqueOn at hids ⊢
      rwa [Sql.map_updateWhere_key hid] at hids
    have hsettings := hunique.owned_update hmem hnot (f := fun _ => patched) (howner'.symm ▸ hnot)
    refine PortfolioTables.ownedBy_congr (by rw [htables]) (by rw [htables]) (by rw [htables])
      (by rw [htables]) (hsettings.trans ?_)
    rw [htables]
    exact Sql.owned_append_others fun s hs => (hnew s hs).symm ▸ hother.symm
  · intro other hother
    show (enqueueSheetSync _ _ _ _ _).1.ownedBy other = _
    rw [htables]
    exact enqueueSheetSync_spares db.property.sheets hother _ _ _
  · rw [htables]
    exact .refl _

theorem calculate_spares {order : EventOrder} {zone : Py.Zone} {id : LotId}
    {valuationDate : Option Date} {draw : CalculationDraw} {bundle : CalculationBundle}
    (h : calculate order zone db user id valuationDate draw = .ok (db', bundle)) :
    Spares user db.val db'.val := by
  obtain ⟨new, hnew, htables⟩ := getSettings_tables db.val user draw.settings
  simp only [calculate, Py.bind_eq_ok] at h
  obtain ⟨loaded, hloaded, _, -, _, -, _, -, _, -, committed, hcommit, hreturn⟩ := h
  obtain ⟨rfl, -⟩ := Prod.mk.inj (Except.ok.inj hreturn)
  obtain ⟨hmem, -, howner, -⟩ := getLot_eq_some (Py.orRaise_eq_ok.mp hloaded)
  rw [Sql.commit_eq_ok.mp hcommit, htables]
  constructor
  · intro other hother
    have hnot : loaded.lot.ownerId ≠ other := fun h => hother (h.symm.trans howner)
    refine PortfolioTables.ownedBy_congr rfl rfl rfl (Sql.ownedVia_append_others fun y hy => ?_)
      (Sql.owned_append_others fun s hs => (hnew s hs).symm ▸ hother.symm)
    obtain rfl := List.mem_singleton.mp hy
    exact db.property.portfolio.lotIds.not_mem_owned hmem hnot
  · intro _ _
    rfl
  · exact .refl _

end Settings

/-! ## Uploads and imports -/

section Imports

variable {db db' : Database} {user : UserId}

theorem storeUpload_spares {sha256 : Bytes → String} {fileName contentType : String}
    {content : Bytes} {draw : UploadDraw} {upload : UploadedFileModel}
    (h : storeUpload sha256 db user fileName contentType content draw = .ok (db', upload)) :
    Spares user db.val db'.val := by
  simp only [storeUpload, Py.bind_eq_ok] at h
  obtain ⟨_, -, committed, hcommit, hreturn⟩ := h
  obtain ⟨rfl, -⟩ := Prod.mk.inj (Except.ok.inj hreturn)
  rw [Sql.commit_eq_ok.mp hcommit]
  constructor
  · intro other hother
    refine PortfolioTables.ownedBy_congr (Sql.owned_append_others fun u hu => ?_) rfl rfl rfl rfl
    obtain rfl := List.mem_singleton.mp hu
    exact hother.symm
  · intro _ _
    rfl
  · exact fun u hu => ⟨u, List.mem_append_left _ hu, rfl, rfl⟩

theorem setUpload_spares {stored upload : UploadedFileModel}
    (hmem : stored ∈ db.val.portfolio.uploads) (hid : upload.id = stored.id)
    (howner : stored.ownerId = user) (howner' : upload.ownerId = user) :
    Spares user db.val (db.val.setUpload upload) := by
  constructor
  · intro other hother
    refine PortfolioTables.ownedBy_congr ?_ rfl rfl rfl rfl
    show owned _ other (updateWhere (fun u => u.id = upload.id) (fun _ => upload) _) = _
    rw [hid]
    exact db.property.portfolio.uploadIds.owned_update hmem (howner.symm ▸ hother.symm)
      (howner'.symm ▸ hother.symm)
  · intro _ _
    rfl
  · refine .updateWhere fun u hu hkey => ?_
    obtain rfl := db.property.portfolio.uploadIds.eq hu hmem
      ((of_decide_eq_true hkey).trans hid)
    exact ⟨hid, howner'.trans howner.symm⟩

/-- The uploads of the others, when the preview's upload is the user's. -/
theorem updateUpload_others {preview : ImportPreview} {uploads : List UploadedFileModel}
    {f : UploadedFileModel → UploadedFileModel} {other : UserId} (hother : other ≠ user)
    (howned : ∀ u ∈ uploads, some u.id = preview.uploadId → u.ownerId = user)
    (hf : ∀ u, (f u).ownerId = u.ownerId) :
    owned UploadedFileModel.ownerId other (updateUpload preview f uploads) =
      owned UploadedFileModel.ownerId other uploads := by
  refine Sql.owned_updateWhere fun u hu hid => ?_
  have howner := howned u hu (of_decide_eq_true hid)
  rw [hf, howner]
  exact ⟨hother.symm, hother.symm⟩

theorem importCommit_spares {preview : ImportPreview} {draw : ImportDraw}
    {batch : ImportBatchModel} {idempotent : Bool}
    (howned : ∀ u ∈ db.val.portfolio.uploads, some u.id = preview.uploadId → u.ownerId = user)
    (h : importCommit db user preview draw = .ok (db', batch, idempotent)) :
    Spares user db.val db'.val := by
  unfold importCommit finishImport at h
  cases hexisting : existingBatch db.val user preview with
  | some existing =>
      simp only [hexisting, Py.bind_eq_ok] at h
      obtain ⟨committed, hcommit, hreturn⟩ := h
      obtain ⟨rfl, -⟩ := Prod.mk.inj (Except.ok.inj hreturn)
      rw [Sql.commit_eq_ok.mp hcommit]
      constructor
      · intro other hother
        exact PortfolioTables.ownedBy_congr (updateUpload_others hother howned fun _ => rfl) rfl
          rfl rfl rfl
      · intro _ _
        rfl
      · exact .updateWhere fun _ _ _ => ⟨rfl, rfl⟩
  | none =>
      simp only [hexisting, Py.bind_eq_ok] at h
      obtain ⟨committed, hcommit, hreturn⟩ := h
      obtain ⟨rfl, -⟩ := Prod.mk.inj (Except.ok.inj hreturn)
      rw [Sql.commit_eq_ok.mp hcommit]
      constructor
      · intro other hother
        refine PortfolioTables.ownedBy_congr (updateUpload_others hother howned fun _ => rfl)
          (Sql.owned_append_others fun b hb => ?_) (Sql.owned_append_others fun l hl => ?_) rfl rfl
        · obtain rfl := List.mem_singleton.mp hb
          exact hother.symm
        · -- every lot of the loop carries a row of this import
          obtain ⟨-, hlots⟩ := importRows_spec db.val user preview draw
          exact (keys_of_madeFrom hlots l hl).1.symm ▸ hother.symm
      · intro other hother
        exact enqueueSheetSync_spares db.property.sheets hother _ _ _
      · exact .updateWhere fun _ _ _ => ⟨rfl, rfl⟩

end Imports

end BondTrading
