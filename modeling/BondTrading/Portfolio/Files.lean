/-
# BondTrading.Portfolio.Files -- the routes over the bucket

`PortfolioState.handle` draws the answers of the object storage.  Here the bucket is part of
the state: `preview_import` puts objects into it, `download_upload` reads them, an operation of
the bucket may raise, a commit may be refused, and the process may die on the way.

* `handle_refines` -- the routes without the bucket are those of `PortfolioState.handle`;
* `handle_rows` -- of the requests only `preview_import` adds a row of an upload.
-/
import BondTrading.Imports.Objects
import BondTrading.Portfolio.Writes

namespace BondTrading

open Machines (Machine)

/-! ## The routes -/

/-- A file that passed the checks of `preview_import`, under the values it is stored with. -/
structure AcceptedFile where
  fileName : String
  contentType : String
  content : Bytes
  deriving DecidableEq, Repr

@[irreducible] def acceptFile (env : PortfolioEnv) (file : UploadFile) : Except ApiAnswer AcceptedFile :=
  match validateSpreadsheetUpload (file.fileName.getD "") file.contentType with
  | .error message => .error (.http 422 message)
  | .ok () =>
      let content := file.content.take (env.maxUploadBytes + 1)
      if env.maxUploadBytes < content.length then
        .error (.http 413 "Uploaded spreadsheet is too large")
      else
        .ok
          { fileName := (Py.Text.given file.fileName).getD "spreadsheet"
            contentType := (Py.Text.given file.contentType).getD "application/octet-stream"
            content }

/-- The row and the object of a file. -/
def AcceptedFile.submission (file : AcceptedFile) (env : PortfolioEnv) (owner : UserId)
    (draw : UploadDraw) : Submission :=
  ⟨newUpload env.sha256 owner file.fileName file.contentType file.content draw, file.content⟩

/-- `storage.get`. -/
def ObjectStorage.fetch (s : ObjectStorage) (fault : StorageFault) (objectKey : String) :
    Except PyError Bytes :=
  if fault = .none then s.get objectKey else .error (.external "S3Error")

structure FilesState where
  portfolio : PortfolioState
  storage : ObjectStorage

namespace FilesState

variable (s : FilesState)

def stores : FileStore := ⟨s.portfolio.db, s.storage⟩

/-- The state with other stores. -/
def withStores (stores : FileStore) : FilesState :=
  ⟨{ s.portfolio with db := stores.db }, stores.storage⟩

/-- `UploadService(session, storage, user.id).store(..)`. -/
def store (env : PortfolioEnv) (user : UserId) (file : AcceptedFile) (draw : UploadDraw)
    (storage : StorageDraw) : Except PyError UploadedFileModel × FilesState :=
  let (result, stores) := FileStore.store env.sha256 user file.fileName file.contentType
    file.content draw storage s.stores
  (result, s.withStores stores)

/-- A portfolio beside the same bucket. -/
def withPortfolio (x : PortfolioState × ApiAnswer) : FilesState × ApiAnswer :=
  ({ s with portfolio := x.1 }, x.2)

/-- What `preview_import` does after `store`. -/
def previewStored (env : PortfolioEnv) (user : UserId) (file : AcceptedFile) (draw : RequestDraw) :
    Except PyError UploadedFileModel → FilesState × ApiAnswer
  | .error _ => (s, .http 503 "Object storage is temporarily unavailable")
  | .ok upload =>
      s.withPortfolio (s.portfolio.previewUpload env user file.fileName file.content upload draw)

def previewImport (env : PortfolioEnv) (user : UserId) (file : UploadFile) (draw : RequestDraw)
    (storage : StorageDraw) : FilesState × ApiAnswer :=
  match acceptFile env file with
  | .error answer => (s, answer)
  | .ok file =>
      let (result, s) := s.store env user file draw.upload storage
      s.previewStored env user file draw result

def downloadUpload (user : CurrentUser) (id : UploadId) (fault : StorageFault) : ApiAnswer :=
  s.portfolio.downloadUpload user id (s.storage.fetch fault)

/-- One request of a user; only two routes look into the bucket. -/
def handle (env : PortfolioEnv) (user : CurrentUser) (draw : RequestDraw)
    (storage : StorageDraw) : PortfolioRequest → FilesState × ApiAnswer
  | .previewImport file => s.previewImport env user.id file draw storage
  | .downloadUpload id => (s, s.downloadUpload user id storage.get)
  | request => s.withPortfolio (s.portfolio.handle env user draw request)

/-- A new process: the stores are what they were, no preview is cached. -/
def restarted : FilesState :=
  { s with portfolio := .started s.portfolio.db s.portfolio.previews.ttlSeconds }

end FilesState

/-! ## The machine -/

inductive FilesEvent where
  | request (user : CurrentUser) (request : PortfolioRequest) (draw : RequestDraw)
      (storage : StorageDraw)
  | elsewhere (market : MarketTables) (sheets : SheetTables)
  /-- The process dies between two requests. -/
  | died
  /-- The process dies in `store`: the object is put, and the row is committed or not. -/
  | diedStoring (user : UserId) (file : UploadFile) (draw : UploadDraw) (committed : Bool)

/-- How far `store` came in a process that died. -/
def cutAt (committed : Bool) : StorageDraw :=
  ⟨if committed then .none else .after, .none, .none, false⟩

def FilesState.diedStoring (s : FilesState) (env : PortfolioEnv) (user : UserId)
    (file : UploadFile) (draw : UploadDraw) (committed : Bool) : FilesState :=
  match acceptFile env file with
  | .error _ => s.restarted
  | .ok file => (s.store env user file draw (cutAt committed)).2.restarted

def filesMachine (env : PortfolioEnv) : Machine FilesState FilesEvent (Option ApiAnswer) where
  step s
    | .request user request draw storage =>
        let (s', answer) := s.handle env user draw storage request
        (s', some answer)
    | .elsewhere market sheets =>
        ({ s with portfolio := s.portfolio.elsewhere market sheets }, none)
    | .died => (s.restarted, none)
    | .diedStoring user file draw committed =>
        (s.diedStoring env user file draw committed, none)

/-- What becomes of a file that a user sends. -/
def submissionOf (env : PortfolioEnv) (owner : UserId) (file : UploadFile) (draw : UploadDraw)
    (storage : StorageDraw) : Option (Submission × Fate) :=
  match acceptFile env file with
  | .error _ => none
  | .ok file => storage.fate.map (file.submission env owner draw, ·)

namespace FilesEvent

variable (env : PortfolioEnv)

/-- The file an event hands to both stores, and what becomes of it. -/
def submitted : FilesEvent → Option (Submission × Fate)
  | .request user (.previewImport file) draw storage =>
      submissionOf env user.id file draw.upload storage
  | .diedStoring user file draw committed => submissionOf env user file draw (cutAt committed)
  | _ => none

/-- The file an event stores. -/
def filed (e : FilesEvent) : Option Submission :=
  (e.submitted env).bind fun (submission, fate) => if fate = .kept then some submission else none

/-- The key of an object that an event leaves without a row. -/
def Leaves (e : FilesEvent) (key : String) : Prop :=
  ∃ submission, e.submitted env = some (submission, .left) ∧ submission.upload.objectKey = key

end FilesEvent

/-! ## The routes without the bucket -/

/-- A file is accepted whole. -/
theorem acceptFile_content {env : PortfolioEnv} {file : UploadFile} {accepted : AcceptedFile}
    (h : acceptFile env file = .ok accepted) : accepted.content = file.content := by
  unfold acceptFile at h
  split at h
  · cases h
  · dsimp only at h
    split at h
    · cases h
    · rename_i hlength
      obtain rfl := Except.ok.inj h
      rw [List.length_take] at hlength
      exact List.take_of_length_le (by omega)

theorem acceptFile_error {env : PortfolioEnv} {file : UploadFile} {answer : ApiAnswer}
    (h : acceptFile env file = .error answer) : ∃ status message, answer = .http status message := by
  unfold acceptFile at h
  split at h
  · exact ⟨_, _, (Except.error.inj h).symm⟩
  · dsimp only at h
    split at h
    · exact ⟨_, _, (Except.error.inj h).symm⟩
    · cases h

/-- The draw of a request whose bucket answers as `storage` and the objects say. -/
def RequestDraw.over (draw : RequestDraw) (s : FilesState) (storage : StorageDraw) : RequestDraw :=
  { draw with
    upload :=
      { draw.upload with
        put := if storage.fate = some .kept then .ok () else .error (.external "S3Error") }
    storedObject := s.storage.fetch storage.get }

namespace FilesState

variable {s : FilesState} {env : PortfolioEnv}

/-- What a request leaves in the portfolio, and its answer. -/
def portfolioPart (x : FilesState × ApiAnswer) : PortfolioState × ApiAnswer :=
  (x.1.portfolio, x.2)

theorem withPortfolio_storage (s : FilesState) (x : PortfolioState × ApiAnswer) :
    (s.withPortfolio x).1.storage = s.storage := rfl

theorem portfolioPart_withPortfolio (s : FilesState) (x : PortfolioState × ApiAnswer) :
    portfolioPart (s.withPortfolio x) = x := rfl

theorem store_of_refused {user : UserId} {file : AcceptedFile} {draw : UploadDraw}
    (h : ¬ (s.portfolio.db.val.addUpload (file.submission env user draw).upload).Constraints)
    (storage : StorageDraw) :
    ∃ e s', s.store env user file draw storage = (.error e, s') ∧ s'.portfolio = s.portfolio := by
  obtain ⟨e, s', hstore, hdb⟩ := FileStore.store_of_refused (s := s.stores) h storage
  refine ⟨e, s.withStores s', ?_, ?_⟩
  · rw [store, hstore]
  · show { s.portfolio with db := s'.db } = s.portfolio
    rw [hdb]
    rfl

/-- `store` when they do. -/
theorem store_of_taken {user : UserId} {file : AcceptedFile} {draw : UploadDraw}
    (h : (s.portfolio.db.val.addUpload (file.submission env user draw).upload).Constraints)
    (storage : StorageDraw) :
    ∃ result, s.store env user file draw storage =
        (result, s.withStores (s.stores.received (file.submission env user draw) h storage.fate)) ∧
      if storage.fate = some .kept then result = .ok (file.submission env user draw).upload
      else ∃ e, result = .error e := by
  obtain ⟨result, hstore, hresult⟩ := FileStore.store_eq env.sha256 user file.fileName
    file.contentType file.content draw storage s.stores h
  refine ⟨result, ?_, hresult⟩
  rw [store, hstore]
  rfl

/-- `store` when nothing is put. -/
theorem store_of_fate_none {storage : StorageDraw} (h : storage.fate = none) (env : PortfolioEnv)
    (user : UserId) (file : AcceptedFile) (draw : UploadDraw) (s : FilesState) :
    ∃ e, s.store env user file draw storage = (.error e, s) := by
  obtain ⟨e, hstore⟩ := FileStore.store_of_fate_none h env.sha256 user file.fileName
    file.contentType file.content draw s.stores
  refine ⟨e, ?_⟩
  rw [store, hstore]
  rfl

/-- The route over drawn answers, by the file it accepts. -/
theorem portfolio_previewImport_eq (p : PortfolioState) (env : PortfolioEnv) (user : UserId)
    (file : UploadFile) (draw : RequestDraw) :
    p.previewImport env user file draw =
      match acceptFile env file with
      | .error answer => (p, answer)
      | .ok file =>
          match storeUpload env.sha256 p.db user file.fileName file.contentType file.content
              draw.upload with
          | .error _ => (p, .http 503 "Object storage is temporarily unavailable")
          | .ok (stored, upload) =>
              { p with db := stored }.previewUpload env user file.fileName file.content upload
                draw := by
  unfold PortfolioState.previewImport acceptFile
  cases validateSpreadsheetUpload (file.fileName.getD "") file.contentType with
  | error message => rfl
  | ok _ =>
      dsimp only
      split <;> rfl

/-- The row alone is stored when the bucket and the commit let it. -/
theorem storeUpload_over {env : PortfolioEnv} {s : FilesState} {user : UserId} {file : AcceptedFile}
    {draw : RequestDraw} {storage : StorageDraw} (hkept : storage.fate = some .kept) :
    storeUpload env.sha256 s.portfolio.db user file.fileName file.contentType file.content
        (draw.over s storage).upload =
      (s.portfolio.db.val.addUpload (file.submission env user draw.upload).upload).commit.map
        (·, (file.submission env user draw.upload).upload) := by
  have hput : (draw.over s storage).upload.put = .ok () := if_pos hkept
  have hupload : newUpload env.sha256 user file.fileName file.contentType file.content
      (draw.over s storage).upload = (file.submission env user draw.upload).upload := rfl
  unfold storeUpload
  rw [hput, hupload]
  show ((s.portfolio.db.val.addUpload (file.submission env user draw.upload).upload).commit >>=
    fun committed => .ok (committed, (file.submission env user draw.upload).upload)) = _
  cases (s.portfolio.db.val.addUpload (file.submission env user draw.upload).upload).commit with
  | error e => rfl
  | ok committed => rfl

theorem storeUpload_over_fails (env : PortfolioEnv) (s : FilesState) (user : UserId)
    (file : AcceptedFile) (draw : RequestDraw) (storage : StorageDraw)
    (h : storage.fate ≠ some .kept ∨
      ¬ (s.portfolio.db.val.addUpload (file.submission env user draw.upload).upload).Constraints) :
    ∃ e, storeUpload env.sha256 s.portfolio.db user file.fileName file.contentType file.content
      (draw.over s storage).upload = .error e := by
  by_cases hkept : storage.fate = some .kept
  · rw [storeUpload_over hkept, Tables.commit]
    have hrefused := h.resolve_left (not_not_intro hkept)
    exact ⟨_, by rw [Sql.commit, dif_neg hrefused]; rfl⟩
  · have hput : (draw.over s storage).upload.put = .error (.external "S3Error") := if_neg hkept
    exact ⟨_, by unfold storeUpload; rw [hput]; rfl⟩

/-- Only a kept row changes the database. -/
theorem withStores_received_portfolio {submission : Submission}
    (h : (s.portfolio.db.val.addUpload submission.upload).Constraints) {fate : Option Fate}
    (hkept : fate ≠ some .kept) :
    (s.withStores (s.stores.received submission h fate)).portfolio = s.portfolio := by
  rcases fate with _ | _ | _ | _
  · rfl
  · exact absurd rfl hkept
  · rfl
  · rfl

theorem previewImport_refines (s : FilesState) (env : PortfolioEnv) (user : UserId)
    (file : UploadFile) (draw : RequestDraw) (storage : StorageDraw) :
    portfolioPart (s.previewImport env user file draw storage) =
      s.portfolio.previewImport env user file (draw.over s storage) := by
  rw [portfolio_previewImport_eq]
  unfold previewImport
  cases acceptFile env file with
  | error answer => rfl
  | ok file =>
      dsimp only
      by_cases h : (s.portfolio.db.val.addUpload
          (file.submission env user draw.upload).upload).Constraints
      · obtain ⟨result, hstore, hresult⟩ := store_of_taken h storage
        rw [hstore]
        by_cases hkept : storage.fate = some .kept
        · rw [if_pos hkept] at hresult
          rw [storeUpload_over hkept, hkept, Tables.commit, Sql.commit_of _ h, hresult]
          rfl
        · rw [if_neg hkept] at hresult
          obtain ⟨e, rfl⟩ := hresult
          obtain ⟨e', hrow⟩ := storeUpload_over_fails env s user file draw storage
            (Or.inl hkept)
          rw [hrow]
          exact Prod.ext (withStores_received_portfolio h hkept) rfl
      · obtain ⟨e, s', hstore, hportfolio⟩ := store_of_refused h storage
        obtain ⟨e', hrow⟩ := storeUpload_over_fails env s user file draw storage (Or.inr h)
        rw [hstore, hrow]
        exact Prod.ext hportfolio rfl

/-- **Without the bucket, the routes are those of the portfolio**, whose storage answers what
the bucket answers. -/
theorem handle_refines (s : FilesState) (env : PortfolioEnv) (user : CurrentUser)
    (draw : RequestDraw) (storage : StorageDraw) (request : PortfolioRequest) :
    portfolioPart (s.handle env user draw storage request) =
      s.portfolio.handle env user (draw.over s storage) request := by
  cases request with
  | previewImport file => exact previewImport_refines s env user.id file draw storage
  | downloadUpload id => rfl
  | commitImport id =>
      refine (portfolioPart_withPortfolio s (s.portfolio.commitImport user.id id draw)).trans ?_
      rw [PortfolioState.handle_commitImport, PortfolioState.commitImport,
        PortfolioState.commitImport]
      rfl
  | updateConnection values =>
      refine (portfolioPart_withPortfolio s (s.portfolio.updateConnection user.id values draw)).trans ?_
      rw [PortfolioState.handle_updateConnection, PortfolioState.updateConnection,
        PortfolioState.updateConnection]
      rfl
  | syncNow =>
      refine (portfolioPart_withPortfolio s (s.portfolio.syncNow user.id draw)).trans ?_
      rw [PortfolioState.handle_syncNow, PortfolioState.syncNow, PortfolioState.syncNow]
      rfl
  | createLot payload => exact portfolioPart_withPortfolio s (s.portfolio.createLot user.id payload draw.lots)
  | updateLot id payload => exact portfolioPart_withPortfolio s (s.portfolio.updateLot user.id id payload draw.lots)
  | deleteLot id => exact portfolioPart_withPortfolio s (s.portfolio.deleteLot user.id id draw.lots)
  | calculateLot id valuationDate =>
      exact portfolioPart_withPortfolio s (s.portfolio.calculateLot env user.id id valuationDate draw.calculation)
  | updateAppSettings payload =>
      exact portfolioPart_withPortfolio s (s.portfolio.updateAppSettings user.id payload draw.settings)
  | listLots | getLot | yieldHistory | getAppSettings | getImportBatch | listUploads
  | getConnection | testConnection | listJobs | getJob => rfl

end FilesState

/-! ## Rows -/

/-- The row as `store` wrote it: the status comes later. -/
def UploadedFileModel.asStored (u : UploadedFileModel) : UploadedFileModel :=
  { u with status := "uploaded", parseError := none }

def Tables.rows (t : Tables) : List UploadedFileModel :=
  t.portfolio.uploads.map UploadedFileModel.asStored

theorem Tables.rows_addUpload (t : Tables) (upload : UploadedFileModel) :
    (t.addUpload upload).rows = t.rows ++ [upload.asStored] := List.map_append

/-- Marking a stored upload leaves its row as it was stored. -/
theorem Tables.rows_setUpload {t : Tables} (ht : t.Constraints) {upload marked : UploadedFileModel}
    (hmem : upload ∈ t.portfolio.uploads) (hmarked : marked.asStored = upload.asStored) :
    (t.setUpload marked).rows = t.rows := by
  refine Sql.map_updateWhere_of_mem fun u hu hid => ?_
  have hsame : marked.id = upload.id := by
    show marked.asStored.id = upload.asStored.id
    rw [hmarked]
  obtain rfl := ht.portfolio.uploadIds.eq hu hmem ((of_decide_eq_true hid).trans hsame)
  exact hmarked

namespace PortfolioState

variable {s : PortfolioState} {env : PortfolioEnv} {user : CurrentUser} {draw : RequestDraw}

theorem respond_rows {α : Type} {handler : PyError → ApiAnswer} {body : α → ApiAnswer}
    {x : Except PyError (Database × α)}
    (hx : ∀ db a, x = .ok (db, a) → db.val.rows = s.db.val.rows) :
    (s.respond handler body x).1.db.val.rows = s.db.val.rows := by
  cases x with
  | error e => rfl
  | ok result => exact hx result.1 result.2 rfl

theorem commitImport_rows (id : PreviewId) (user : UserId) :
    (s.commitImport user id draw).1.db.val.rows = s.db.val.rows := by
  unfold commitImport
  split
  · rfl
  · split
    · rfl
    · rename_i db batch idempotent hcommit
      unfold importCommit finishImport at hcommit
      split at hcommit
      · obtain ⟨committed, hval, hreturn⟩ := Py.bind_eq_ok.mp hcommit
        obtain ⟨rfl, -⟩ := Prod.mk.inj (Except.ok.inj hreturn)
        show committed.val.rows = _
        rw [Sql.commit_eq_ok.mp hval]
        refine Sql.map_updateWhere _ _ _ ?_ s.db.val.portfolio.uploads
        exact fun _ => rfl
      · obtain ⟨committed, hval, hreturn⟩ := Py.bind_eq_ok.mp hcommit
        obtain ⟨rfl, -⟩ := Prod.mk.inj (Except.ok.inj hreturn)
        show committed.val.rows = _
        rw [Sql.commit_eq_ok.mp hval]
        refine Sql.map_updateWhere _ _ _ ?_ s.db.val.portfolio.uploads
        exact fun _ => rfl

/-- **Only `preview_import` adds a row**, and no other request changes one but for its
status. -/
theorem handle_rows {request : PortfolioRequest}
    (hrequest : ∀ file, request ≠ .previewImport file) :
    (s.handle env user draw request).1.db.val.rows = s.db.val.rows := by
  cases request with
  | previewImport file => exact absurd rfl (hrequest file)
  | commitImport id => exact commitImport_rows id user.id
  | createLot payload =>
      rw [handle_createLot, createLot]
      refine respond_rows fun db lot hx => ?_
      simp only [BondTrading.createLot, Py.bind_eq_ok] at hx
      obtain ⟨isin, -, committed, hcommit, _, -, hreturn⟩ := hx
      obtain ⟨rfl, -⟩ := Prod.mk.inj (Except.ok.inj hreturn)
      rw [Sql.commit_eq_ok.mp hcommit]
      rfl
  | updateLot id payload =>
      rw [handle_updateLot, updateLot]
      refine respond_rows fun db lot hx => ?_
      simp only [BondTrading.updateLot, Py.bind_eq_ok] at hx
      obtain ⟨found, -, patched, -, committed, hcommit, _, -, hreturn⟩ := hx
      obtain ⟨rfl, -⟩ := Prod.mk.inj (Except.ok.inj hreturn)
      rw [Sql.commit_eq_ok.mp hcommit]
      rfl
  | deleteLot id =>
      rw [handle_deleteLot, deleteLot]
      refine respond_rows fun db _ hx => ?_
      obtain ⟨committed, hdelete, heq⟩ := Py.map_eq_ok.mp hx
      obtain ⟨rfl, -⟩ := Prod.mk.inj heq
      simp only [BondTrading.deleteLot, Py.bind_eq_ok] at hdelete
      obtain ⟨_, -, hcommit⟩ := hdelete
      rw [Sql.commit_eq_ok.mp hcommit]
      rfl
  | calculateLot id valuationDate =>
      rw [handle_calculateLot, calculateLot]
      refine respond_rows fun db bundle hx => ?_
      obtain ⟨new, -, htables⟩ := getSettings_tables s.db.val user.id draw.calculation.settings
      simp only [calculate, Py.bind_eq_ok] at hx
      obtain ⟨_, -, _, -, _, -, _, -, _, -, committed, hcommit, hreturn⟩ := hx
      obtain ⟨rfl, -⟩ := Prod.mk.inj (Except.ok.inj hreturn)
      rw [Sql.commit_eq_ok.mp hcommit, htables]
      rfl
  | updateAppSettings payload =>
      rw [handle_updateAppSettings, updateAppSettings]
      refine respond_rows fun db out hx => ?_
      obtain ⟨new, -, htables⟩ := getSettings_tables s.db.val user.id draw.settings.settings
      simp only [BondTrading.updateAppSettings, Py.bind_eq_ok] at hx
      obtain ⟨_, -, committed, hcommit, hreturn⟩ := hx
      obtain ⟨rfl, -⟩ := Prod.mk.inj (Except.ok.inj hreturn)
      rw [Sql.commit_eq_ok.mp hcommit, htables]
      rfl
  | updateConnection payload =>
      rw [handle_updateConnection, updateConnection]
      refine respond_rows fun db _ hx => ?_
      obtain ⟨result, -, heq⟩ := Py.map_eq_ok.mp hx
      obtain ⟨rfl, -⟩ := Prod.mk.inj heq
      rfl
  | syncNow =>
      rw [handle_syncNow, syncNow]
      refine respond_rows fun db _ hx => ?_
      obtain ⟨result, -, heq⟩ := Py.map_eq_ok.mp hx
      obtain ⟨rfl, -⟩ := Prod.mk.inj heq
      rfl
  | listLots | getLot | yieldHistory | getAppSettings | getImportBatch | listUploads
  | downloadUpload | getConnection | testConnection | listJobs | getJob => rfl

/-- What `preview_import` does after `store` changes no row. -/
theorem previewUpload_rows {upload : UploadedFileModel} (hmem : upload ∈ s.db.val.portfolio.uploads)
    (user : UserId) (fileName : String) (content : Bytes) :
    (s.previewUpload env user fileName content upload draw).1.db.val.rows = s.db.val.rows := by
  unfold previewUpload
  split
  · rfl
  · refine respond_rows fun db _ hx => ?_
    obtain ⟨marked, hmark, heq⟩ := Py.map_eq_ok.mp hx
    obtain ⟨rfl, -⟩ := Prod.mk.inj heq
    rw [Sql.commit_eq_ok.mp hmark]
    exact Tables.rows_setUpload s.db.property hmem rfl
  · dsimp only
    split
    · rfl
    · rename_i db hmarked
      show db.val.rows = _
      rw [Sql.commit_eq_ok.mp hmarked]
      exact Tables.rows_setUpload s.db.property hmem rfl

end PortfolioState

end BondTrading
