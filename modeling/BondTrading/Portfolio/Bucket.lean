/-
# BondTrading.Portfolio.Bucket -- rows and objects over whole runs

`next_receives` says what an event does to the files: it adds the row and the object of what it
submits, as far as its fate goes.  Read off it, for every run with failures and deaths:

* `uploads_kept` -- what a user uploaded is what he downloads;
* `bucket_contents` -- the objects are those of the rows, and what failures left behind.
-/
import BondTrading.Portfolio.Files

namespace BondTrading

open Py (Dict)
open Machines (Machine)

/-! ## Keys -/

/-- The key of the object names the owner and the upload. -/
def UploadedFileModel.HasKey (u : UploadedFileModel) : Prop :=
  ∃ name : String, u.objectKey.toList =
    "users/".toList ++ (Nat.toDigits 10 u.ownerId ++ ("/uploads/".toList ++
      (Nat.toDigits 10 u.id ++ '/' :: name.toList)))

/-- **A key is the key of one upload**: the digits of the identifiers end at the slashes. -/
theorem UploadedFileModel.HasKey.id_eq {u v : UploadedFileModel} (hu : u.HasKey) (hv : v.HasKey)
    (h : u.objectKey = v.objectKey) : u.id = v.id := by
  obtain ⟨name, hname⟩ := hu
  obtain ⟨name', hname'⟩ := hv
  rw [h, hname'] at hname
  have hdigits : ∀ n : ℕ, ∀ c ∈ Nat.toDigits 10 n, c.isDigit = true := fun n c hc =>
    Nat.isDigit_of_mem_toDigits (by decide) (by decide) hc
  have hslash : ∀ cs : List Char, ∀ c ∈ ('/' :: cs).head?, c.isDigit = false := by
    rintro cs c ⟨⟩
    rfl
  have huploads : ∀ cs : List Char, ∀ c ∈ ("/uploads/".toList ++ cs).head?, c.isDigit = false := by
    intro cs c hc
    exact hslash ("uploads/".toList ++ cs) c (by simpa using hc)
  obtain ⟨-, hrest⟩ := Codes.span_append_inj Char.isDigit (hdigits _) (hdigits _)
    (huploads _) (huploads _) (List.append_cancel_left hname)
  obtain ⟨hid, -⟩ := Codes.span_append_inj Char.isDigit (hdigits _) (hdigits _)
    (hslash _) (hslash _) (List.append_cancel_left hrest)
  exact (toDigits_injective hid).symm

theorem AcceptedFile.submission_hasKey (file : AcceptedFile) (env : PortfolioEnv) (owner : UserId)
    (draw : UploadDraw) : (file.submission env owner draw).upload.HasKey :=
  ⟨_, objectKey_toList _ _ _ _ _ _⟩

namespace FilesState

variable {s : FilesState} {env : PortfolioEnv}

def rows (s : FilesState) : List UploadedFileModel := s.portfolio.db.val.rows

/-- Every stored key is of the form that `store` gives it. -/
def Keyed (s : FilesState) : Prop := ∀ u ∈ s.rows, u.HasKey

/-- The identifier that an event draws for a file is of no stored upload. -/
def FreshId (env : PortfolioEnv) (s : FilesState) (e : FilesEvent) : Prop :=
  ∀ x ∈ e.submitted env, ∀ u ∈ s.rows, u.id ≠ x.1.upload.id

instance (env : PortfolioEnv) (s : FilesState) (e : FilesEvent) : Decidable (FreshId env s e) :=
  inferInstanceAs (Decidable (∀ x ∈ e.submitted env, ∀ u ∈ s.rows, u.id ≠ x.1.upload.id))

/-- A row with a new identifier is taken. -/
theorem Keyed.taken (h : s.Keyed) {submission : Submission} (hkey : submission.upload.HasKey)
    (hfresh : ∀ u ∈ s.rows, u.id ≠ submission.upload.id) :
    (s.portfolio.db.val.addUpload submission.upload).Constraints := by
  refine addUpload_constraints s.portfolio.db.property
    (fun u hu => hfresh u.asStored (List.mem_map_of_mem hu)) fun u hu hsame => ?_
  have hrow : u.asStored ∈ s.rows := List.mem_map_of_mem hu
  exact hfresh _ hrow ((h _ hrow).id_eq hkey hsame)

/-! ## What an event does to the files -/

/-- The bucket after what an event submits. -/
def after (s : FilesState) : Option (Submission × Fate) → ObjectStorage
  | none => s.storage
  | some (submission, fate) => s.storage.receive submission fate

/-- The row that is kept. -/
def keptRows : Option (Submission × Fate) → List UploadedFileModel
  | some (submission, .kept) => [submission.upload.asStored]
  | _ => []

/-- A state whose files are those of `s` and of what was submitted. -/
structure Receives (s : FilesState) (x : Option (Submission × Fate)) (s' : FilesState) : Prop where
  rows : s'.rows = s.rows ++ keptRows x
  storage : s'.storage = s.after x

theorem Receives.refl (s : FilesState) : s.Receives none s :=
  ⟨(List.append_nil _).symm, rfl⟩

theorem withStores_receives {submission : Submission}
    (h : (s.portfolio.db.val.addUpload submission.upload).Constraints) (fate : Option Fate) :
    s.Receives (fate.map (submission, ·)) (s.withStores (s.stores.received submission h fate)) := by
  rcases fate with _ | _ | _ | _
  · exact .refl s
  · exact ⟨Tables.rows_addUpload _ _, rfl⟩
  · exact ⟨(List.append_nil _).symm, rfl⟩
  · exact ⟨(List.append_nil _).symm, rfl⟩

theorem previewStored_receives {x : Option (Submission × Fate)} {s' : FilesState}
    (h : s.Receives x s') {user : UserId} {file : AcceptedFile} {draw : RequestDraw}
    {result : Except PyError UploadedFileModel}
    (hresult : ∀ upload, result = .ok upload → upload ∈ s'.portfolio.db.val.portfolio.uploads) :
    s.Receives x (s'.previewStored env user file draw result).1 := by
  cases result with
  | error e => exact h
  | ok upload =>
      refine ⟨?_, h.storage⟩
      rw [← h.rows]
      exact PortfolioState.previewUpload_rows (hresult upload rfl) _ _ _

theorem previewImport_receives (hkeyed : s.Keyed) {user : UserId} {file : UploadFile}
    {draw : RequestDraw} {storage : StorageDraw}
    (hfresh : ∀ x ∈ submissionOf env user file draw.upload storage,
      ∀ u ∈ s.rows, u.id ≠ x.1.upload.id) :
    s.Receives (submissionOf env user file draw.upload storage)
      (s.previewImport env user file draw storage).1 := by
  unfold submissionOf at hfresh ⊢
  unfold previewImport
  cases haccept : acceptFile env file with
  | error answer => exact .refl s
  | ok file =>
      rw [haccept] at hfresh
      dsimp only at hfresh ⊢
      cases hfate : storage.fate with
      | none =>
          obtain ⟨e, hstore⟩ := store_of_fate_none hfate env user file draw.upload s
          rw [hstore]
          exact .refl s
      | some fate =>
          rw [hfate] at hfresh
          have h := hkeyed.taken (file.submission_hasKey env user draw.upload) (hfresh _ rfl)
          obtain ⟨result, hstore, hresult⟩ := store_of_taken h storage
          rw [hstore, hfate]
          refine previewStored_receives (withStores_receives h (some fate)) fun upload hok => ?_
          -- the row that was returned is the kept one
          split at hresult
          · rename_i hkept
            obtain rfl := Option.some.inj (hfate.symm.trans hkept)
            obtain rfl := Except.ok.inj (hok.symm.trans hresult)
            exact List.mem_append_right _ (List.mem_singleton.mpr rfl)
          · obtain ⟨e, rfl⟩ := hresult
            cases hok

theorem diedStoring_receives (hkeyed : s.Keyed) {user : UserId} {file : UploadFile}
    {draw : UploadDraw} {committed : Bool}
    (hfresh : ∀ x ∈ submissionOf env user file draw (cutAt committed),
      ∀ u ∈ s.rows, u.id ≠ x.1.upload.id) :
    s.Receives (submissionOf env user file draw (cutAt committed))
      (s.diedStoring env user file draw committed) := by
  unfold submissionOf at hfresh ⊢
  unfold diedStoring
  cases haccept : acceptFile env file with
  | error answer => exact ⟨(List.append_nil _).symm, rfl⟩
  | ok file =>
      rw [haccept] at hfresh
      have hfate : ∃ fate, (cutAt committed).fate = some fate := by
        cases committed <;> exact ⟨_, rfl⟩
      obtain ⟨fate, hfate⟩ := hfate
      dsimp only at hfresh ⊢
      rw [hfate] at hfresh
      have h := hkeyed.taken (file.submission_hasKey env user draw) (hfresh _ rfl)
      obtain ⟨result, hstore, -⟩ := store_of_taken h (cutAt committed)
      rw [hstore]
      exact ⟨(withStores_receives h _).rows, (withStores_receives h _).storage⟩

/-- Only `preview_import` writes to the bucket. -/
theorem handle_storage (s : FilesState) {user : CurrentUser} {draw : RequestDraw}
    {storage : StorageDraw} {request : PortfolioRequest}
    (hrequest : ∀ file, request ≠ .previewImport file) :
    (s.handle env user draw storage request).1.storage = s.storage := by
  cases request with
  | previewImport file => exact absurd rfl (hrequest file)
  | downloadUpload id => rfl
  | _ => exact withPortfolio_storage s _

theorem next_request (s : FilesState) (env : PortfolioEnv) (user : CurrentUser)
    (request : PortfolioRequest) (draw : RequestDraw) (storage : StorageDraw) :
    (filesMachine env).next s (.request user request draw storage) =
      (s.handle env user draw storage request).1 := rfl

theorem next_diedStoring (s : FilesState) (env : PortfolioEnv) (user : UserId) (file : UploadFile)
    (draw : UploadDraw) (committed : Bool) :
    (filesMachine env).next s (.diedStoring user file draw committed) =
      s.diedStoring env user file draw committed := rfl

theorem handle_previewImport (s : FilesState) (env : PortfolioEnv) (user : CurrentUser)
    (draw : RequestDraw) (storage : StorageDraw) (file : UploadFile) :
    s.handle env user draw storage (.previewImport file) =
      s.previewImport env user.id file draw storage := rfl

/-- A request of another route adds no row. -/
theorem handle_rows (s : FilesState) {user : CurrentUser} {draw : RequestDraw}
    {storage : StorageDraw} {request : PortfolioRequest}
    (hrequest : ∀ file, request ≠ .previewImport file) :
    (s.handle env user draw storage request).1.rows = s.rows := by
  have hportfolio := congrArg Prod.fst (handle_refines s env user draw storage request)
  exact (congrArg (fun p : PortfolioState => p.db.val.rows) hportfolio).trans
    (PortfolioState.handle_rows hrequest)

theorem submitted_previewImport (env : PortfolioEnv) (user : CurrentUser) (file : UploadFile)
    (draw : RequestDraw) (storage : StorageDraw) :
    (FilesEvent.request user (.previewImport file) draw storage).submitted env =
      submissionOf env user.id file draw.upload storage := rfl

theorem submitted_diedStoring (env : PortfolioEnv) (user : UserId) (file : UploadFile)
    (draw : UploadDraw) (committed : Bool) :
    (FilesEvent.diedStoring user file draw committed).submitted env =
      submissionOf env user file draw (cutAt committed) := rfl

theorem submitted_none {user : CurrentUser} {draw : RequestDraw} {storage : StorageDraw}
    {request : PortfolioRequest} (hrequest : ∀ file, request ≠ .previewImport file) :
    (FilesEvent.request user request draw storage).submitted env = none := by
  cases request with
  | previewImport file => exact absurd rfl (hrequest file)
  | _ => rfl

/-- **What an event does to the files**: it adds what it submits, and nothing else. -/
theorem next_receives (hkeyed : s.Keyed) {e : FilesEvent} (hfresh : FreshId env s e) :
    s.Receives (e.submitted env) ((filesMachine env).next s e) := by
  cases e with
  | request user request draw storage =>
      rw [next_request]
      by_cases hpreview : ∃ file, request = .previewImport file
      · obtain ⟨file, rfl⟩ := hpreview
        unfold FreshId at hfresh
        rw [submitted_previewImport] at hfresh ⊢
        rw [handle_previewImport]
        exact previewImport_receives hkeyed hfresh
      · have hrequest : ∀ file, request ≠ .previewImport file :=
          fun file hfile => hpreview ⟨file, hfile⟩
        rw [submitted_none hrequest]
        refine ⟨?_, handle_storage s hrequest⟩
        rw [handle_rows s hrequest]
        exact (List.append_nil _).symm
  | elsewhere market sheets =>
      refine ⟨?_, rfl⟩
      show (s.portfolio.elsewhere market sheets).db.val.rows = s.rows ++ []
      rw [List.append_nil, PortfolioState.elsewhere]
      split
      · rename_i db hcommit
        show db.val.rows = _
        rw [Sql.commit_eq_ok.mp hcommit]
        rfl
      · rfl
  | died => exact ⟨(List.append_nil _).symm, rfl⟩
  | diedStoring user file draw committed =>
      unfold FreshId at hfresh
      rw [submitted_diedStoring] at hfresh ⊢
      rw [next_diedStoring]
      exact diedStoring_receives hkeyed hfresh

/-! ## Whole runs -/

theorem submissionOf_spec {owner : UserId} {file : UploadFile} {draw : UploadDraw}
    {storage : StorageDraw} {x : Submission × Fate}
    (h : submissionOf env owner file draw storage = some x) :
    ∃ accepted, acceptFile env file = .ok accepted ∧ storage.fate = some x.2 ∧
      x.1 = accepted.submission env owner draw := by
  unfold submissionOf at h
  split at h
  · cases h
  · rename_i accepted haccept
    obtain ⟨fate, hfate, rfl⟩ := Option.map_eq_some_iff.mp h
    exact ⟨accepted, haccept, hfate, rfl⟩

/-- What is submitted is a new row, under a key of its own. -/
theorem submitted_spec {e : FilesEvent} {x : Submission × Fate} (h : e.submitted env = some x) :
    ∃ (accepted : AcceptedFile) (owner : UserId) (draw : UploadDraw),
      x.1 = accepted.submission env owner draw := by
  unfold FilesEvent.submitted at h
  split at h
  · obtain ⟨accepted, -, -, hx⟩ := submissionOf_spec h
    exact ⟨accepted, _, _, hx⟩
  · obtain ⟨accepted, -, -, hx⟩ := submissionOf_spec h
    exact ⟨accepted, _, _, hx⟩
  · cases h

theorem submitted_hasKey {e : FilesEvent} {x : Submission × Fate}
    (h : e.submitted env = some x) : x.1.upload.HasKey := by
  obtain ⟨accepted, owner, draw, hx⟩ := submitted_spec h
  rw [hx]
  exact accepted.submission_hasKey env owner draw

theorem submitted_asStored {e : FilesEvent} {x : Submission × Fate}
    (h : e.submitted env = some x) : x.1.upload.asStored = x.1.upload := by
  obtain ⟨accepted, owner, draw, hx⟩ := submitted_spec h
  rw [hx]
  rfl

theorem mem_keptRows {x : Option (Submission × Fate)} {u : UploadedFileModel} :
    u ∈ keptRows x ↔ ∃ submission, x = some (submission, .kept) ∧ u = submission.upload.asStored := by
  rcases x with _ | ⟨submission, _ | _ | _⟩
  · simp [keptRows]
  · simp [keptRows]
  · simp [keptRows]
  · simp [keptRows]

theorem Keyed.next (hkeyed : s.Keyed) {e : FilesEvent} (hfresh : FreshId env s e) :
    ((filesMachine env).next s e).Keyed := by
  intro u hu
  rw [(next_receives hkeyed hfresh).rows] at hu
  rcases List.mem_append.mp hu with hu | hu
  · exact hkeyed u hu
  · obtain ⟨submission, hsubmitted, rfl⟩ := mem_keptRows.mp hu
    rw [submitted_asStored hsubmitted]
    exact submitted_hasKey hsubmitted

/-- What a key of the bucket holds after a submission. -/
theorem get?_receive (storage : ObjectStorage) (submission : Submission) (fate : Fate)
    (key : String) :
    (storage.receive submission fate).objects.get? key =
      if key = submission.upload.objectKey then
        if fate = .withdrawn then none
        else some (submission.content, submission.upload.contentType)
      else storage.objects.get? key := by
  unfold ObjectStorage.receive
  cases fate with
  | withdrawn =>
      show ((storage.objects.set _ _).pop _).get? key = _
      rw [Dict.get?_pop, Dict.get?_set, if_pos rfl]
      split <;> rfl
  | kept | left =>
      show (storage.objects.set _ _).get? key = _
      rw [Dict.get?_set]
      rfl

/-- The row and the object of the submission are stored. -/
structure Filed (s : FilesState) (submission : Submission) : Prop where
  row : submission.upload ∈ s.rows
  object : s.storage.objects.get? submission.upload.objectKey =
    some (submission.content, submission.upload.contentType)

/-- What is filed stays. -/
theorem Filed.next {submission : Submission} (h : s.Filed submission) (hkeyed : s.Keyed)
    {e : FilesEvent} (hfresh : FreshId env s e) :
    ((filesMachine env).next s e).Filed submission := by
  have hreceives := next_receives hkeyed hfresh
  refine ⟨?_, ?_⟩
  · rw [hreceives.rows]
    exact List.mem_append_left _ h.row
  · rw [hreceives.storage]
    cases hsubmitted : e.submitted env with
    | none => exact h.object
    | some x =>
        -- another upload has another key
        have hkey : submission.upload.objectKey ≠ x.1.upload.objectKey := fun hsame =>
          hfresh x hsubmitted _ h.row
            ((hkeyed _ h.row).id_eq (submitted_hasKey hsubmitted) hsame)
        show (s.storage.receive x.1 x.2).objects.get? _ = _
        rw [get?_receive, if_neg hkey]
        exact h.object

theorem filed_eq_some {e : FilesEvent} {submission : Submission} :
    e.filed env = some submission ↔ e.submitted env = some (submission, .kept) := by
  unfold FilesEvent.filed
  rcases e.submitted env with _ | ⟨submission', _ | _ | _⟩ <;> simp

/-- The event that files a submission. -/
theorem filed_next (hkeyed : s.Keyed) {e : FilesEvent} (hfresh : FreshId env s e)
    {submission : Submission} (h : e.filed env = some submission) :
    ((filesMachine env).next s e).Filed submission := by
  have hsubmitted := filed_eq_some.mp h
  have hreceives := next_receives hkeyed hfresh
  refine ⟨?_, ?_⟩
  · rw [hreceives.rows]
    refine List.mem_append_right _ (mem_keptRows.mpr ⟨submission, hsubmitted, ?_⟩)
    exact (submitted_asStored hsubmitted).symm
  · rw [hreceives.storage, hsubmitted]
    show (s.storage.receive submission .kept).objects.get? _ = _
    rw [get?_receive, if_pos rfl, if_neg (by decide)]

/-! ## What a user uploaded is what he downloads -/

/-- What a download of the submission answers. -/
def served (submission : Submission) (viewer : CurrentUser) (fault : StorageFault) : ApiAnswer :=
  if submission.upload.ownerId ≠ viewer.id ∧ viewer.role ≠ .admin then
    .http 404 "Uploaded file not found"
  else if fault = .none then .file (.ofModel submission.upload submission.content)
  else .http 503 "Object storage is temporarily unavailable"

theorem Filed.downloadUpload {submission : Submission} (h : s.Filed submission)
    (viewer : CurrentUser) (fault : StorageFault) :
    s.downloadUpload viewer submission.upload.id fault = served submission viewer fault := by
  obtain ⟨u, hu, hrow⟩ := List.mem_map.mp h.row
  have hfind : s.portfolio.db.val.upload? submission.upload.id = some u := by
    rw [← hrow]
    exact s.portfolio.db.property.portfolio.uploadIds.find hu
  have hfetch : s.storage.fetch fault u.objectKey =
      if fault = .none then .ok submission.content else .error (.external "S3Error") := by
    have hobject := h.object
    rw [← hrow] at hobject
    have hget : s.storage.get u.objectKey = .ok submission.content := by
      show Py.orRaise ((s.storage.objects.get? u.asStored.objectKey).map Prod.fst) _ = _
      rw [hobject]
      rfl
    rw [ObjectStorage.fetch, hget]
  unfold FilesState.downloadUpload PortfolioState.downloadUpload served
  rw [hfind]
  dsimp only
  rw [hfetch, ← hrow]
  show (if u.ownerId ≠ viewer.id ∧ viewer.role ≠ .admin then _ else _) =
    if u.ownerId ≠ viewer.id ∧ viewer.role ≠ .admin then _ else _
  split
  · rfl
  · by_cases hfault : fault = .none
    · rw [if_pos hfault, if_pos hfault]
      rfl
    · rw [if_neg hfault, if_neg hfault]

theorem unhandled_ne_preview (e : PyError) (body : ImportPreviewOut) :
    ApiAnswer.unhandled e ≠ .preview body := by
  intro h
  cases e <;> cases h

/-- A preview is answered for the upload that was stored. -/
theorem previewUpload_preview {p : PortfolioState} {user : UserId} {fileName : String}
    {content : Bytes} {upload : UploadedFileModel} {draw : RequestDraw} {body : ImportPreviewOut}
    (h : (p.previewUpload env user fileName content upload draw).2 = .preview body) :
    upload.id = body.uploadId := by
  unfold PortfolioState.previewUpload at h
  split at h
  · exact absurd h (unhandled_ne_preview _ _)
  · unfold PortfolioState.respond at h
    split at h
    · cases h
    · exact absurd h (unhandled_ne_preview _ _)
  · dsimp only at h
    split at h
    · exact absurd h (unhandled_ne_preview _ _)
    · cases h
      rfl

/-- An answered preview was filed, whole. -/
theorem filed_of_preview (hkeyed : s.Keyed) {user : CurrentUser} {file : UploadFile}
    {draw : RequestDraw} {storage : StorageDraw}
    (hfresh : FreshId env s (.request user (.previewImport file) draw storage))
    {body : ImportPreviewOut}
    (h : ((filesMachine env).step s (.request user (.previewImport file) draw storage)).2 =
      some (.preview body)) :
    ∃ submission,
      (FilesEvent.request user (.previewImport file) draw storage).filed env = some submission ∧
        submission.upload.id = body.uploadId ∧ submission.upload.ownerId = user.id ∧
          submission.content = file.content := by
  have hanswer : (s.previewImport env user.id file draw storage).2 = .preview body :=
    Option.some.inj h
  unfold FreshId at hfresh
  rw [submitted_previewImport] at hfresh
  unfold submissionOf at hfresh
  unfold previewImport at hanswer
  cases haccept : acceptFile env file with
  | error answer =>
      -- the checks answer no preview
      obtain ⟨status, message, rfl⟩ := acceptFile_error haccept
      rw [haccept] at hanswer
      cases hanswer
  | ok accepted =>
      rw [haccept] at hfresh hanswer
      dsimp only at hfresh hanswer
      have hsubmission : ∀ fate, storage.fate = some fate →
          submissionOf env user.id file draw.upload storage =
            some (accepted.submission env user.id draw.upload, fate) := by
        intro fate hfate
        unfold submissionOf
        rw [haccept, hfate]
        rfl
      cases hfate : storage.fate with
      | none =>
          obtain ⟨e, hstore⟩ := store_of_fate_none hfate env user.id accepted draw.upload s
          rw [hstore] at hanswer
          cases hanswer
      | some fate =>
          rw [hfate] at hfresh
          have htaken := hkeyed.taken (accepted.submission_hasKey env user.id draw.upload)
            (hfresh _ rfl)
          obtain ⟨result, hstore, hresult⟩ := store_of_taken htaken storage
          rw [hstore] at hanswer
          dsimp only at hanswer
          by_cases hkept : storage.fate = some .kept
          · rw [if_pos hkept] at hresult
            rw [hresult] at hanswer
            refine ⟨_, filed_eq_some.mpr ((submitted_previewImport _ _ _ _ _).trans
              (hsubmission _ hkept)), previewUpload_preview hanswer, rfl,
              acceptFile_content haccept⟩
          · rw [if_neg hkept] at hresult
            obtain ⟨e, rfl⟩ := hresult
            cases hanswer

/-- **No upload is lost.**  In every run of requests of any users, refused commits, failing
storage operations and dying processes: a preview that was answered had its file stored whole;
and a file that was stored is from then on what its owner and the administrators download under
its identifier, while the others are told that there is none. -/
theorem uploads_kept (env : PortfolioEnv) {s : FilesState} (hkeyed : s.Keyed)
    {es fs : List FilesEvent} {e : FilesEvent}
    (hfresh : (filesMachine env).Along (FreshId env) s (es ++ e :: fs)) :
    (∀ user file draw storage body, e = .request user (.previewImport file) draw storage →
      ((filesMachine env).step ((filesMachine env).run s es) e).2 = some (.preview body) →
        ∃ submission, e.filed env = some submission ∧ submission.upload.id = body.uploadId ∧
          submission.upload.ownerId = user.id ∧ submission.content = file.content) ∧
      ∀ submission, e.filed env = some submission → ∀ viewer fault,
        ((filesMachine env).run s (es ++ e :: fs)).downloadUpload viewer submission.upload.id fault =
          served submission viewer fault := by
  have hfirst := (filesMachine env).along_append.mp hfresh
  obtain ⟨hbefore, hstep, hafter⟩ := hfirst
  have hreached : ((filesMachine env).run s es).Keyed :=
    (filesMachine env).invariant_along (I := Keyed) (G := FreshId env)
      (fun t e ht hG => Keyed.next ht hG) hkeyed hbefore
  refine ⟨?_, fun submission hfiled viewer fault => ?_⟩
  · rintro user file draw storage body rfl hanswer
    exact filed_of_preview hreached hstep hanswer
  · -- filed by the event, and kept by the rest of the run
    have hnext := And.intro (Keyed.next hreached hstep) (filed_next hreached hstep hfiled)
    have hend : ((filesMachine env).run s (es ++ e :: fs)).Keyed ∧
        ((filesMachine env).run s (es ++ e :: fs)).Filed submission := by
      rw [(filesMachine env).run_append]
      exact (filesMachine env).invariant_along
        (I := fun t => t.Keyed ∧ t.Filed submission)
        (fun t e ht hG => ⟨Keyed.next ht.1 hG, Filed.next ht.2 ht.1 hG⟩) hnext hafter
    exact hend.2.downloadUpload viewer fault

/-- Every spreadsheet is read, as one without rows. -/
def readingEnv : PortfolioEnv :=
  { bareEnv with
    readSpreadsheet := fun _ fileName => .ok (.ok ⟨fileName, "Sheet1", "", 1, 0, [], [], none⟩) }

/-- `POST /imports/preview` with the upload identifier `n`. -/
def sends (user : UserId) (content : Bytes) (n : ℕ) (storage : StorageDraw) : FilesEvent :=
  .request ⟨user, .user⟩ (.previewImport ⟨some "a.xlsx", none, content⟩) (bareDraw n) storage

/-- User 1 sends a file; one of user 2 is left behind, the process dies twice. -/
theorem uploads_kept_past_deaths :
    let s : FilesState := ⟨.started Database.empty 1800, .empty⟩
    let rest := [sends 2 [9] 8 ⟨.after, .none, .none, false⟩, .died,
      .diedStoring 2 ⟨some "b.xls", none, [8]⟩ (bareDraw 9).upload true]
    let sent := sends 1 [1, 2, 3] 7 ⟨.none, .none, .none, false⟩
    ((filesMachine readingEnv).run s (sent :: rest)).downloadUpload ⟨1, .user⟩ 7 .none =
        .file ⟨[1, 2, 3], "application/octet-stream", "attachment; filename*=UTF-8''a.xlsx"⟩ ∧
      ((filesMachine readingEnv).run s (sent :: rest)).downloadUpload ⟨2, .user⟩ 7 .none =
        .http 404 "Uploaded file not found" := by
  intro s rest sent
  have hfresh : (filesMachine readingEnv).Along (FreshId readingEnv) s ([] ++ sent :: rest) := by
    decide +kernel
  have hkept := uploads_kept readingEnv (s := s) (fun u hu => absurd hu List.not_mem_nil) hfresh
  have hfiled : ∃ submission, sent.filed readingEnv = some submission ∧
      submission.upload.id = 7 ∧
        served submission ⟨1, .user⟩ .none = .file ⟨[1, 2, 3], "application/octet-stream",
          "attachment; filename*=UTF-8''a.xlsx"⟩ ∧
        served submission ⟨2, .user⟩ .none = .http 404 "Uploaded file not found" := by
    refine ⟨⟨newUpload readingEnv.sha256 1 "a.xlsx" "application/octet-stream" [1, 2, 3]
      (bareDraw 7).upload, [1, 2, 3]⟩, ?_, ?_, ?_, ?_⟩
    · decide +kernel
    · rfl
    · decide +kernel
    · decide +kernel
  obtain ⟨submission, hsubmission, hid, hmine, htheirs⟩ := hfiled
  have hserved := hkept.2 submission hsubmission
  rw [hid] at hserved
  exact ⟨(hserved _ _).trans hmine, (hserved _ _).trans htheirs⟩

/-! ## What lies in the bucket -/

/-- The identifier is new, and no object is under its key. -/
def FreshKey (env : PortfolioEnv) (s : FilesState) (e : FilesEvent) : Prop :=
  FreshId env s e ∧
    ∀ x ∈ e.submitted env, s.storage.objects.get? x.1.upload.objectKey = none

/-- The key of a row. -/
def HasRow (s : FilesState) (key : String) : Prop := ∃ u ∈ s.rows, u.objectKey = key

/-- The bucket holds the objects of the rows, and those under `others`. -/
def Holds (s : FilesState) (others : String → Prop) : Prop :=
  ∀ key, s.storage.objects.get? key ≠ none ↔ s.HasRow key ∨ others key

theorem HasRow.receives {x : Option (Submission × Fate)} {s' : FilesState}
    (h : s.Receives x s') (key : String) :
    s'.HasRow key ↔ s.HasRow key ∨
      ∃ submission, x = some (submission, .kept) ∧ submission.upload.objectKey = key := by
  unfold HasRow
  rw [h.rows]
  constructor
  · rintro ⟨u, hu, rfl⟩
    rcases List.mem_append.mp hu with hu | hu
    · exact Or.inl ⟨u, hu, rfl⟩
    · obtain ⟨submission, hx, rfl⟩ := mem_keptRows.mp hu
      exact Or.inr ⟨submission, hx, rfl⟩
  · rintro (⟨u, hu, rfl⟩ | ⟨submission, hx, rfl⟩)
    · exact ⟨u, List.mem_append_left _ hu, rfl⟩
    · exact ⟨_, List.mem_append_right _ (mem_keptRows.mpr ⟨submission, hx, rfl⟩), rfl⟩

/-- One event more: it brings its row and its object, or leaves an object behind. -/
theorem Holds.next {others : String → Prop} (h : s.Holds others) (hkeyed : s.Keyed)
    {e : FilesEvent} (hfresh : FreshKey env s e) :
    ((filesMachine env).next s e).Holds fun key => others key ∨ e.Leaves env key := by
  have hreceives := next_receives hkeyed hfresh.1
  intro key
  rw [HasRow.receives hreceives, hreceives.storage]
  unfold FilesEvent.Leaves
  cases hsubmitted : e.submitted env with
  | none => simpa [after] using h key
  | some x =>
      obtain ⟨submission, fate⟩ := x
      have hthis : ∀ fate', (∃ other, some (submission, fate) = some (other, fate') ∧
          other.upload.objectKey = key) ↔ fate = fate' ∧ submission.upload.objectKey = key := by
        intro fate'
        constructor
        · rintro ⟨other, hsame, hkey⟩
          obtain ⟨rfl, rfl⟩ := Prod.mk.inj (Option.some.inj hsame)
          exact ⟨rfl, hkey⟩
        · rintro ⟨rfl, hkey⟩
          exact ⟨_, rfl, hkey⟩
      have hnew := hfresh.2 _ hsubmitted
      have hold := h key
      show (s.storage.receive submission fate).objects.get? key ≠ none ↔ (_ ∨ _) ∨ _ ∨ _
      rw [get?_receive, hthis, hthis]
      by_cases hkey : submission.upload.objectKey = key
      · -- no row and no other object has the key
        subst hkey
        obtain ⟨hrow, hother⟩ := not_or.mp fun hor => hold.mpr hor hnew
        cases fate <;> simp [hrow, hother]
      · simpa [hkey, Ne.symm hkey] using hold

/-- **The bucket after a run**: one object for each row, and the objects of the uploads whose
`put` raised after it was done, whose refused commit could not be undone, or in which the process
died.  Nothing else is lost or left. -/
theorem bucket_contents (env : PortfolioEnv) {s : FilesState} (hkeyed : s.Keyed)
    (htidy : s.Holds fun _ => False) {es : List FilesEvent}
    (hfresh : (filesMachine env).Along (FreshKey env) s es) :
    ((filesMachine env).run s es).Holds fun key => ∃ e ∈ es, e.Leaves env key := by
  suffices hgeneral : ∀ (es : List FilesEvent) (s : FilesState) (others : String → Prop),
      s.Keyed → s.Holds others → (filesMachine env).Along (FreshKey env) s es →
        ((filesMachine env).run s es).Holds fun key =>
          others key ∨ ∃ e ∈ es, e.Leaves env key by
    have hend := hgeneral es s _ hkeyed htidy hfresh
    simpa using hend
  intro es
  induction es with
  | nil => exact fun s others _ hholds _ => by simpa using hholds
  | cons e es ih =>
      intro s others hkeyed hholds halong
      have hend := ih _ _ (Keyed.next hkeyed halong.1.1) (hholds.next hkeyed halong.1) halong.2
      simpa [or_assoc] using hend

instance (env : PortfolioEnv) (s : FilesState) (e : FilesEvent) : Decidable (FreshKey env s e) :=
  inferInstanceAs (Decidable (FreshId env s e ∧
    ∀ x ∈ e.submitted env, s.storage.objects.get? x.1.upload.objectKey = none))

/-- The object of a `put` that raised late lies in the bucket without a row. -/
theorem bucket_contents_left :
    let s : FilesState := ⟨.started Database.empty 1800, .empty⟩
    let es := [sends 1 [1, 2, 3] 7 ⟨.none, .none, .none, false⟩,
      sends 2 [9] 8 ⟨.after, .none, .none, false⟩, .died]
    ((filesMachine readingEnv).run s es).storage.objects.get? "users/2/uploads/8/a.xlsx" ≠ none ∧
      ((filesMachine readingEnv).run s es).rows.map UploadedFileModel.objectKey =
        ["users/1/uploads/7/a.xlsx"] := by
  intro s es
  have hfresh : (filesMachine readingEnv).Along (FreshKey readingEnv) s es := by decide +kernel
  have htidy : s.Holds fun _ => False := by
    intro key
    refine iff_of_false (fun hget => hget rfl) ?_
    rintro (⟨u, hu, -⟩ | hfalse)
    · exact absurd hu List.not_mem_nil
    · exact hfalse
  have hholds := bucket_contents readingEnv (s := s) (fun u hu => absurd hu List.not_mem_nil)
    htidy hfresh
  have hleft : (sends 2 [9] 8 ⟨.after, .none, .none, false⟩).Leaves readingEnv
      "users/2/uploads/8/a.xlsx" :=
    ⟨⟨newUpload readingEnv.sha256 2 "a.xlsx" "application/octet-stream" [9]
      (bareDraw 8).upload, [9]⟩, by decide +kernel, by decide +kernel⟩
  exact ⟨(hholds _).mpr (Or.inr ⟨_, by simp [es], hleft⟩), by decide +kernel⟩

end FilesState

end BondTrading
