/-
# BondTrading.Portfolio.Integrity -- no user reaches into the portfolio of another

Every route filters by the user of the request, and the cache of previews does too.  What
keeps an import from writing somebody else's upload is an invariant of the cache: the
upload of a cached preview belongs to the user the preview waits for (`PreviewsOwned`).

* `handle_spares` -- a request changes nothing of anyone else, and keeps the invariant;
* `handle_hidden` -- a request that names an object its user does not own is refused;
* `requests_keep_possessions` -- both, over any number of requests of an ordinary user.
-/
import BondTrading.Lots.LatestAmounts
import BondTrading.Portfolio.Possessions
import BondTrading.Portfolio.Requests

namespace BondTrading

open Machines (Machine Entry)
open Sql (UniqueOn)

/-! ## The cache of previews -/

/-- The upload of a cached preview is the upload of the user it waits for. -/
def PortfolioState.PreviewsOwned (s : PortfolioState) : Prop :=
  ∀ id value, s.previews.values.get? id = some value → ∀ upload ∈ value.preview.uploadId,
    ∃ u ∈ s.db.val.portfolio.uploads, u.id = upload ∧ value.ownerId = some u.ownerId

namespace PortfolioState

variable {s s' : PortfolioState}

theorem previewsOwned_started (db : Database) (ttlSeconds : ℕ) :
    (started db ttlSeconds).PreviewsOwned := by
  intro id value h
  cases h

/-- Uploads stay, and the cache only loses previews. -/
theorem PreviewsOwned.mono (h : s.PreviewsOwned)
    (huploads : KeepsUploads s.db.val.portfolio.uploads s'.db.val.portfolio.uploads)
    (hpreviews : ∀ id value, s'.previews.values.get? id = some value →
      s.previews.values.get? id = some value) : s'.PreviewsOwned := by
  intro id value hvalue upload hupload
  obtain ⟨u, hu, hid, howner⟩ := h id value (hpreviews id value hvalue) upload hupload
  obtain ⟨u', hu', hid', howner'⟩ := huploads u hu
  exact ⟨u', hu', hid'.trans hid, howner'.symm ▸ howner⟩

/-- What the cache hands out to a user has an upload of that user, or none. -/
theorem PreviewsOwned.upload_owner (h : s.PreviewsOwned) {id : PreviewId} {user : UserId}
    {value : CachedPreview} (hvalue : s.previews.values.get? id = some value)
    (howner : value.ownerId = some user) :
    ∀ u ∈ s.db.val.portfolio.uploads, some u.id = value.preview.uploadId → u.ownerId = user := by
  intro u hu hid
  obtain ⟨u', hu', hid', howner'⟩ := h id value hvalue u.id hid.symm
  obtain rfl := s.db.property.portfolio.uploadIds.eq hu' hu hid'
  exact (Option.some.inj (howner.symm.trans howner')).symm

/-! ## Requests spare the others -/

/-- A request of `user` may end in `s'`. -/
structure Serves (user : UserId) (s s' : PortfolioState) : Prop where
  spares : Spares user s.db.val s'.db.val
  previews : s'.PreviewsOwned

theorem Serves.refl (h : s.PreviewsOwned) (user : UserId) : Serves user s s := ⟨.refl _, h⟩

/-- A route that commits once. -/
theorem respond_serves {α : Type} {user : UserId} (h : s.PreviewsOwned)
    {handler : PyError → ApiAnswer} {body : α → ApiAnswer} {x : Except PyError (Database × α)}
    (hx : ∀ db a, x = .ok (db, a) → Spares user s.db.val db.val) :
    Serves user s (s.respond handler body x).1 := by
  cases x with
  | error e => exact .refl h user
  | ok result =>
      have hspares := hx result.1 result.2 rfl
      exact ⟨hspares, h.mono hspares.uploads fun _ _ hvalue => hvalue⟩

/-- The sheet tables are committed on their own. -/
theorem spares_withSheets {db : Database} {sheets : SheetDatabase} {user : UserId}
    (h : ∀ other, other ≠ user → sheets.val.ownedBy other = db.val.sheets.ownedBy other) :
    Spares user db.val (db.withSheets sheets).val := ⟨fun _ _ => rfl, h, .refl _⟩

theorem previewUpload_serves (h : s.PreviewsOwned) (env : PortfolioEnv) {user : UserId}
    (fileName : String) (content : Bytes) {upload : UploadedFileModel}
    (hupload : upload ∈ s.db.val.portfolio.uploads) (howner : upload.ownerId = user)
    (draw : RequestDraw) :
    Serves user s (s.previewUpload env user fileName content upload draw).1 := by
  unfold previewUpload
  split
  · exact .refl h user
  · refine respond_serves h fun db _ hx => ?_
    obtain ⟨committed, hcommit, heq⟩ := Py.map_eq_ok.mp hx
    obtain ⟨rfl, -⟩ := Prod.mk.inj heq
    rw [Sql.commit_eq_ok.mp hcommit]
    exact setUpload_spares hupload rfl howner howner
  · rename_i read _
    split
    · exact .refl h user
    · rename_i db hmarked
      have hspares : Spares user s.db.val db.val := by
        rw [Sql.commit_eq_ok.mp hmarked]
        exact setUpload_spares hupload rfl howner howner
      refine ⟨hspares, fun id value hvalue uploadId hid => ?_⟩
      -- the new preview has the upload just marked, the others are old
      have hvalue : (s.previews.values.set draw.preview _).get? id = some value := hvalue
      rw [Py.Dict.get?_set] at hvalue
      split at hvalue
      · obtain rfl := Option.some.inj hvalue
        obtain rfl := Option.some.inj hid
        obtain ⟨u, hu, huid, huowner⟩ := hspares.uploads upload hupload
        exact ⟨u, hu, huid, congrArg some (huowner.trans howner).symm⟩
      · have hold : PreviewsOwned ⟨db, s.previews⟩ := h.mono hspares.uploads fun _ _ hv => hv
        exact hold id value hvalue uploadId hid

theorem previewImport_serves (h : s.PreviewsOwned) (env : PortfolioEnv) (user : UserId)
    (file : UploadFile) (draw : RequestDraw) :
    Serves user s (s.previewImport env user file draw).1 := by
  unfold previewImport
  split
  · exact .refl h user
  · dsimp only
    split
    · exact .refl h user
    · split
      · exact .refl h user
      · rename_i stored upload hstored
        have hspares := storeUpload_spares hstored
        have hnext : PreviewsOwned { s with db := stored } :=
          h.mono hspares.uploads fun _ _ hvalue => hvalue
        -- the upload is the row just added
        have hupload : upload ∈ stored.val.portfolio.uploads ∧ upload.ownerId = user := by
          simp only [storeUpload, Py.bind_eq_ok] at hstored
          obtain ⟨_, -, committed, hcommit, hreturn⟩ := hstored
          obtain ⟨rfl, rfl⟩ := Prod.mk.inj (Except.ok.inj hreturn)
          rw [Sql.commit_eq_ok.mp hcommit]
          exact ⟨List.mem_append_right _ (List.mem_singleton.mpr rfl), rfl⟩
        have hrest := previewUpload_serves hnext env
          ((Py.Text.given file.fileName).getD "spreadsheet")
          (file.content.take (env.maxUploadBytes + 1)) hupload.1 hupload.2 draw
        exact ⟨hspares.trans hrest.spares, hrest.previews⟩

/-- Reading the cache loses no preview but an expired one. -/
theorem get_sub (cache : ImportPreviewCache) (id : PreviewId) (owner : Option UserId) (clock : ℚ)
    {id' : PreviewId} {value : CachedPreview}
    (h : (cache.get id owner clock).1.values.get? id' = some value) :
    cache.values.get? id' = some value := by
  unfold ImportPreviewCache.get at h
  split at h
  · exact h
  · split at h
    · exact h
    · split at h
      · have h : (cache.values.pop id).get? id' = some value := h
        rw [Py.Dict.get?_pop] at h
        split at h
        · cases h
        · exact h
      · exact h

theorem commitImport_serves (h : s.PreviewsOwned) (user : UserId) (id : PreviewId)
    (draw : RequestDraw) : Serves user s (s.commitImport user id draw).1 := by
  have hsub : ∀ id' value, _ → _ := fun id' value =>
    @get_sub s.previews id (some user) draw.monotonic id' value
  unfold commitImport
  split
  · rename_i previews hget
    rw [hget] at hsub
    exact ⟨.refl _, h.mono (.refl _) hsub⟩
  · rename_i previews preview hget
    obtain ⟨rfl, value, hvalue, howner, rfl⟩ := ImportPreviewCache.get_some hget
    split
    · exact .refl h user
    · rename_i db batch idempotent hcommit
      have hspares := importCommit_spares (h.upload_owner hvalue howner) hcommit
      refine ⟨hspares, h.mono hspares.uploads fun id' value' hvalue' => ?_⟩
      have hvalue' : (s.previews.values.pop id).get? id' = some value' := hvalue'
      rw [Py.Dict.get?_pop] at hvalue'
      split at hvalue'
      · cases hvalue'
      · exact hvalue'

/-- **A request changes nothing of anyone but its user**, whatever identifiers it carries. -/
theorem handle_spares (h : s.PreviewsOwned) (env : PortfolioEnv) (user : CurrentUser)
    (draw : RequestDraw) (request : PortfolioRequest) :
    Serves user.id s (s.handle env user draw request).1 := by
  cases request with
  | listLots => exact .refl h _
  | createLot payload =>
      show Serves user.id s (s.createLot user.id payload draw.lots).1
      unfold createLot
      exact respond_serves h fun _ _ hx => createLot_spares hx
  | getLot id => exact .refl h _
  | updateLot id payload =>
      show Serves user.id s (s.updateLot user.id id payload draw.lots).1
      unfold updateLot
      exact respond_serves h fun _ _ hx => updateLot_spares hx
  | deleteLot id =>
      show Serves user.id s (s.deleteLot user.id id draw.lots).1
      unfold deleteLot
      refine respond_serves h fun _ _ hx => ?_
      obtain ⟨db, hdb, heq⟩ := Py.map_eq_ok.mp hx
      obtain ⟨rfl, -⟩ := Prod.mk.inj heq
      exact deleteLot_spares hdb
  | calculateLot id valuationDate =>
      show Serves user.id s (s.calculateLot env user.id id valuationDate draw.calculation).1
      unfold calculateLot
      exact respond_serves h fun _ _ hx => calculate_spares hx
  | yieldHistory id => exact .refl h _
  | getAppSettings => exact .refl h _
  | updateAppSettings payload =>
      show Serves user.id s (s.updateAppSettings user.id payload draw.settings).1
      unfold updateAppSettings
      exact respond_serves h fun _ _ hx => updateAppSettings_spares hx
  | previewImport file => exact previewImport_serves h env user.id file draw
  | commitImport id => exact commitImport_serves h user.id id draw
  | getImportBatch id => exact .refl h _
  | listUploads => exact .refl h _
  | downloadUpload id => exact .refl h _
  | getConnection => exact .refl h _
  | updateConnection payload =>
      show Serves user.id s (s.updateConnection user.id payload draw).1
      unfold updateConnection
      refine respond_serves h fun _ _ hx => ?_
      obtain ⟨result, hresult, heq⟩ := Py.map_eq_ok.mp hx
      obtain ⟨rfl, -⟩ := Prod.mk.inj heq
      exact spares_withSheets fun other hother => configure_spares hresult hother
  | testConnection => exact .refl h _
  | syncNow =>
      show Serves user.id s (s.syncNow user.id draw).1
      unfold syncNow
      refine respond_serves h fun _ _ hx => ?_
      obtain ⟨result, hresult, heq⟩ := Py.map_eq_ok.mp hx
      obtain ⟨rfl, -⟩ := Prod.mk.inj heq
      exact spares_withSheets fun other hother => enqueue_spares hresult hother
  | listJobs => exact .refl h _
  | getJob id => exact .refl h _

end PortfolioState

/-! ## Objects of somebody else -/

/-- What an identifier in a request names. -/
inductive ObjectRef where
  | lot (id : LotId)
  | preview (id : PreviewId)
  | batch (id : BatchId)
  | upload (id : UploadId)
  | job (id : JobId)

namespace ObjectRef

/-- The user has such an object. -/
def OwnedBy (s : PortfolioState) (user : UserId) : ObjectRef → Prop
  | lot id => ∃ l ∈ s.db.val.portfolio.lots, l.id = id ∧ l.ownerId = user
  | preview id => ∃ value, s.previews.values.get? id = some value ∧ value.ownerId = some user
  | batch id => ∃ b ∈ s.db.val.portfolio.batches, b.id = id ∧ b.ownerId = user
  | upload id => ∃ u ∈ s.db.val.portfolio.uploads, u.id = id ∧ u.ownerId = user
  | job id => ∃ j ∈ s.db.val.sheets.jobs, j.id = id ∧
      ∃ c ∈ s.db.val.sheets.connections, c.id = j.connectionId ∧ c.ownerId = user

/-- There is no such object at all. -/
def Absent (s : PortfolioState) : ObjectRef → Prop
  | lot id => ∀ l ∈ s.db.val.portfolio.lots, l.id ≠ id
  | preview id => s.previews.values.get? id = none
  | batch id => ∀ b ∈ s.db.val.portfolio.batches, b.id ≠ id
  | upload id => ∀ u ∈ s.db.val.portfolio.uploads, u.id ≠ id
  | job id => ∀ j ∈ s.db.val.sheets.jobs, j.id ≠ id

variable {s : PortfolioState} {user other : UserId} {ref : ObjectRef}

/-- An identifier leads to one object, and that to one owner. -/
theorem OwnedBy.not_owned (h : ref.OwnedBy s other) (hother : other ≠ user) :
    ¬ ref.OwnedBy s user := by
  intro h'
  cases ref with
  | lot id =>
      obtain ⟨l, hl, hid, howner⟩ := h
      obtain ⟨l', hl', hid', howner'⟩ := h'
      obtain rfl := s.db.property.portfolio.lotIds.eq hl hl' (hid.trans hid'.symm)
      exact hother (howner.symm.trans howner')
  | preview id =>
      obtain ⟨value, hvalue, howner⟩ := h
      obtain ⟨value', hvalue', howner'⟩ := h'
      obtain rfl := Option.some.inj (hvalue.symm.trans hvalue')
      exact hother (Option.some.inj (howner.symm.trans howner'))
  | batch id =>
      obtain ⟨b, hb, hid, howner⟩ := h
      obtain ⟨b', hb', hid', howner'⟩ := h'
      obtain rfl := s.db.property.portfolio.batchIds.eq hb hb' (hid.trans hid'.symm)
      exact hother (howner.symm.trans howner')
  | upload id =>
      obtain ⟨u, hu, hid, howner⟩ := h
      obtain ⟨u', hu', hid', howner'⟩ := h'
      obtain rfl := s.db.property.portfolio.uploadIds.eq hu hu' (hid.trans hid'.symm)
      exact hother (howner.symm.trans howner')
  | job id =>
      obtain ⟨j, hj, hid, c, hc, hcid, howner⟩ := h
      obtain ⟨j', hj', hid', c', hc', hcid', howner'⟩ := h'
      obtain ⟨hconnections, -, hjobs, -⟩ := s.db.property.sheets
      obtain rfl := hjobs.eq hj hj' (hid.trans hid'.symm)
      obtain rfl := hconnections.eq hc hc' (hcid.trans hcid'.symm)
      exact hother (howner.symm.trans howner')

theorem Absent.not_owned (h : ref.Absent s) : ¬ ref.OwnedBy s user := by
  intro h'
  cases ref with
  | lot id =>
      obtain ⟨l, hl, hid, -⟩ := h'
      exact h l hl hid
  | preview id =>
      obtain ⟨value, hvalue, -⟩ := h'
      cases h.symm.trans hvalue
  | batch id =>
      obtain ⟨b, hb, hid, -⟩ := h'
      exact h b hb hid
  | upload id =>
      obtain ⟨u, hu, hid, -⟩ := h'
      exact h u hu hid
  | job id =>
      obtain ⟨j, hj, hid, -⟩ := h'
      exact h j hj hid

end ObjectRef

namespace PortfolioRequest

/-- The object a request names. -/
def target : PortfolioRequest → Option ObjectRef
  | getLot id | updateLot id _ | deleteLot id | calculateLot id _ | yieldHistory id =>
      some (.lot id)
  | commitImport id => some (.preview id)
  | getImportBatch id => some (.batch id)
  | downloadUpload id => some (.upload id)
  | getJob id => some (.job id)
  | listLots | createLot _ | getAppSettings | updateAppSettings _ | previewImport _
  | listUploads | getConnection | updateConnection _ | testConnection | syncNow | listJobs =>
      none

/-- The answer when the object is not there. -/
def notFound : PortfolioRequest → ApiAnswer
  | getLot _ => .http 404 "Bond lot not found"
  | calculateLot _ _ => .http 422 "Bond lot was not found"
  | commitImport _ => .http 404 "Import preview expired or was not found"
  | getImportBatch _ => .http 404 "Import batch not found"
  | downloadUpload _ => .http 404 "Uploaded file not found"
  | getJob _ => .http 404 "Задание синхронизации не найдено"
  | _ => .http 404 "Bond lot was not found"

end PortfolioRequest

namespace PortfolioState

variable {s : PortfolioState} {user : UserId}

theorem getLot_hidden {id : LotId} (h : ¬ (ObjectRef.lot id).OwnedBy s user) :
    s.db.val.getLot user id = none := by
  unfold Tables.getLot
  rw [Option.bind_eq_none_iff]
  intro l hl
  have hkeys := List.find?_some hl
  rw [decide_eq_true_eq] at hkeys
  exact absurd ⟨l, List.mem_of_find?_eq_some hl, hkeys⟩ h

theorem requiredLot_hidden {id : LotId} (h : ¬ (ObjectRef.lot id).OwnedBy s user) :
    s.db.val.requiredLot user id =
      .error (.domain .domain "Bond lot was not found" (.lot id)) := by
  unfold Tables.requiredLot
  rw [getLot_hidden h]
  rfl

/-- **A request that names an object its user does not own is refused**, and nothing
happens. -/
theorem handle_hidden (env : PortfolioEnv) (draw : RequestDraw) {request : PortfolioRequest}
    {ref : ObjectRef} (htarget : request.target = some ref) (h : ¬ ref.OwnedBy s user) :
    s.handle env ⟨user, .user⟩ draw request = (s, request.notFound) := by
  cases request with
  | getLot id =>
      obtain rfl := Option.some.inj htarget
      show (s, s.getLot user id) = _
      unfold getLot
      rw [getLot_hidden h]
      rfl
  | updateLot id payload =>
      obtain rfl := Option.some.inj htarget
      show s.respond _ _ (BondTrading.updateLot s.db user id payload draw.lots) = _
      unfold BondTrading.updateLot
      rw [requiredLot_hidden h]
      rfl
  | deleteLot id =>
      obtain rfl := Option.some.inj htarget
      show s.respond _ _ ((BondTrading.deleteLot s.db user id draw.lots).map _) = _
      unfold BondTrading.deleteLot
      rw [requiredLot_hidden h]
      rfl
  | calculateLot id valuationDate =>
      obtain rfl := Option.some.inj htarget
      show s.respond _ _
        (calculate env.order env.zone s.db user id valuationDate draw.calculation) = _
      unfold calculate
      rw [requiredLot_hidden h]
      rfl
  | yieldHistory id =>
      obtain rfl := Option.some.inj htarget
      show (s, s.yieldHistory user id) = _
      unfold yieldHistory
      rw [requiredLot_hidden h]
      rfl
  | commitImport id =>
      obtain rfl := Option.some.inj htarget
      have hget : s.previews.get id (some user) draw.monotonic = (s.previews, none) :=
        ImportPreviewCache.get_hidden _ fun value hvalue howner => h ⟨value, hvalue, howner⟩
      show s.commitImport user id draw = _
      unfold commitImport
      rw [hget]
      rfl
  | getImportBatch id =>
      obtain rfl := Option.some.inj htarget
      show (s, s.getImportBatch ⟨user, .user⟩ id) = _
      unfold getImportBatch
      split
      · rfl
      · rename_i batch hbatch
        have hid := List.find?_some hbatch
        rw [decide_eq_true_eq] at hid
        have hother : batch.ownerId ≠ user := fun howner =>
          h ⟨batch, List.mem_of_find?_eq_some hbatch, hid, howner⟩
        rw [if_pos ⟨hother, UserRole.noConfusion⟩]
        rfl
  | downloadUpload id =>
      obtain rfl := Option.some.inj htarget
      show (s, s.downloadUpload ⟨user, .user⟩ id draw.storedObject) = _
      unfold downloadUpload
      split
      · rfl
      · rename_i upload hupload
        have hid := List.find?_some hupload
        rw [decide_eq_true_eq] at hid
        have hother : upload.ownerId ≠ user := fun howner =>
          h ⟨upload, List.mem_of_find?_eq_some hupload, hid, howner⟩
        rw [if_pos ⟨hother, UserRole.noConfusion⟩]
        rfl
  | getJob id =>
      obtain rfl := Option.some.inj htarget
      show (s, s.getJob user id) = _
      unfold getJob
      split
      · rfl
      · rename_i connection hconnection
        obtain ⟨hc, howner⟩ := connectionOf_eq_some hconnection
        split
        · rfl
        · rename_i job hjob
          have hkeys := List.find?_some hjob
          rw [decide_eq_true_eq] at hkeys
          exact absurd ⟨job, List.mem_of_find?_eq_some hjob, hkeys.1, connection, hc,
            hkeys.2.symm, howner⟩ h
  | listLots | createLot | getAppSettings | updateAppSettings | previewImport | listUploads
  | getConnection | updateConnection | testConnection | syncNow | listJobs => cases htarget

end PortfolioState

/-! ## Runs -/

section Runs

variable (env : PortfolioEnv)

/-- Whatever happens keeps the cache within its owners. -/
theorem previewsOwned_next (s : PortfolioState) (e : PortfolioEvent) (h : s.PreviewsOwned) :
    ((portfolioMachine env).next s e).PreviewsOwned := by
  cases e with
  | request user request draw => exact (s.handle_spares h env user draw request).previews
  | elsewhere market sheets =>
      show (s.elsewhere market sheets).PreviewsOwned
      unfold PortfolioState.elsewhere
      split
      · rename_i db hcommit
        refine h.mono ?_ fun _ _ hvalue => hvalue
        rw [show db.val.portfolio = s.db.val.portfolio by rw [Sql.commit_eq_ok.mp hcommit]]
        exact .refl _
      · exact h

/-- The state of a process that started with empty memory and has served `past`. -/
abbrev reached (db : Database) (ttlSeconds : ℕ) (past : List PortfolioEvent) : PortfolioState :=
  (portfolioMachine env).run (.started db ttlSeconds) past

theorem previewsOwned_reached (db : Database) (ttlSeconds : ℕ) (past : List PortfolioEvent) :
    (reached env db ttlSeconds past).PreviewsOwned :=
  (portfolioMachine env).invariant_run (previewsOwned_next env)
    (PortfolioState.previewsOwned_started db ttlSeconds) past

/-- Requests of an ordinary user. -/
def asUser (user : UserId) (requests : List (PortfolioRequest × RequestDraw)) :
    List PortfolioEvent :=
  requests.map fun r => .request ⟨user, .user⟩ r.1 r.2

/-- Everything in the database that belongs to a user. -/
def PortfolioState.possessions (s : PortfolioState) (user : UserId) :
    PortfolioTables × SheetTables :=
  (s.db.val.portfolio.ownedBy user, s.db.val.sheets.ownedBy user)

/-- A request that named an object of `other` got the answer it gets wherever there is no
such object, and left everything as it was. -/
def AnsweredAsAbsent (other : UserId)
    (entry : Entry PortfolioState PortfolioEvent (Option ApiAnswer)) : Prop :=
  ∀ user request draw ref, entry.event = .request user request draw →
    request.target = some ref → ref.OwnedBy entry.before other →
      (portfolioMachine env).next entry.before entry.event = entry.before ∧
        ∀ s, ref.Absent s → entry.response = some (s.handle env user draw request).2

theorem answeredAsAbsent_step {user other : UserId} (hother : other ≠ user) (s : PortfolioState)
    (request : PortfolioRequest) (draw : RequestDraw) :
    AnsweredAsAbsent env other
      ((portfolioMachine env).entry s (.request ⟨user, .user⟩ request draw)) := by
  rintro _ _ _ ref heq htarget howned
  obtain ⟨rfl, rfl, rfl⟩ := PortfolioEvent.request.inj heq
  have howned : ref.OwnedBy s other := howned
  have hhidden := PortfolioState.handle_hidden env draw htarget (howned.not_owned hother)
  constructor
  · show (s.handle env ⟨user, .user⟩ draw request).1 = s
    rw [hhidden]
  · intro s' habsent
    have habsent' := PortfolioState.handle_hidden env draw htarget
      (habsent.not_owned : ¬ ref.OwnedBy s' user)
    show some (s.handle env ⟨user, .user⟩ draw request).2 = _
    rw [hhidden, habsent']

/-- **However often an ordinary user tries, and with whatever identifiers**: in every state
the process can have reached, everything of every other user stays as it is, and an object
of another user might as well not exist. -/
theorem requests_keep_possessions (db : Database) (ttlSeconds : ℕ) (past : List PortfolioEvent)
    (user other : UserId) (hother : other ≠ user)
    (requests : List (PortfolioRequest × RequestDraw)) :
    let s := reached env db ttlSeconds past
    ((portfolioMachine env).run s (asUser user requests)).possessions other =
        s.possessions other ∧
      ∀ entry ∈ (portfolioMachine env).history s (asUser user requests),
        AnsweredAsAbsent env other entry := by
  intro s
  have hs : s.PreviewsOwned := previewsOwned_reached env db ttlSeconds past
  clear_value s
  -- by induction on the requests; the cache stays within its owners
  induction requests generalizing s with
  | nil => exact ⟨rfl, fun entry h => absurd h List.not_mem_nil⟩
  | cons r requests ih =>
      have hserves := s.handle_spares hs env ⟨user, .user⟩ r.2 r.1
      obtain ⟨hrun, hanswers⟩ := ih ((portfolioMachine env).next s (.request ⟨user, .user⟩ r.1 r.2))
        hserves.previews
      constructor
      · refine hrun.trans (Prod.ext ?_ ?_)
        · exact hserves.spares.portfolio other hother
        · exact hserves.spares.sheets other hother
      · intro entry hentry
        rcases List.mem_cons.mp hentry with rfl | hentry
        · exact answeredAsAbsent_step env hother s r.1 r.2
        · exact hanswers entry hentry

end Runs

/-- Nothing can be read, stored or reached from here. -/
def bareEnv : PortfolioEnv where
  zone _ := 0
  order := .stable
  maxUploadBytes := 1024
  sha256 _ := ""
  readSpreadsheet _ _ := .error (.external "no reader")

def bareDraw (n : ℕ) : RequestDraw where
  lots := ⟨n, n + 1, n + 2, 0⟩
  calculation := ⟨n, n + 1, 0⟩
  settings := ⟨n, n + 1, 0⟩
  imports := ⟨n, fun _ => n + 1, fun k => n + 2 + k, n + 3, 0⟩
  upload := ⟨n, 0, .ok ()⟩
  preview := n
  connection := n
  job := n + 1
  now := 0
  monotonic := 0
  storedObject _ := .error (.external "no storage")
  checkConnection _ := .error (.external "no gateway")

/-- User 2 tries the lot of user 1 in every way, and changes settings in between. -/
def strangerRequests : List (PortfolioRequest × RequestDraw) :=
  [(.getLot 60, bareDraw 100), (.calculateLot 60 none, bareDraw 110),
    (.updateAppSettings ⟨none, none, some (some 0), none, none, none⟩, bareDraw 120),
    (.yieldHistory 60, bareDraw 130), (.deleteLot 60, bareDraw 140)]

theorem requests_keep_possessions_stranger :
    ((reached bareEnv parLotDatabase 1800 []).possessions 1).1.lots = [parLot] ∧
      ((portfolioMachine bareEnv).run (reached bareEnv parLotDatabase 1800 [])
          (asUser 2 strangerRequests)).possessions 1 =
        (reached bareEnv parLotDatabase 1800 []).possessions 1 ∧
      ∀ entry ∈ (portfolioMachine bareEnv).history (reached bareEnv parLotDatabase 1800 [])
          (asUser 2 strangerRequests), AnsweredAsAbsent bareEnv 1 entry :=
  ⟨by decide +kernel,
    requests_keep_possessions bareEnv parLotDatabase 1800 [] 2 1 (by decide) strangerRequests⟩

end BondTrading
