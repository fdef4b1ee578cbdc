/-
# BondTrading.Imports.Objects -- the files behind the uploads

`infrastructure/storage/minio.py`, and `UploadService.store` over both of its stores: the
object is put into the bucket, the row is committed, and when the commit fails the object is
deleted again.  The two are no transaction.  An operation of the storage may raise before it
was done or after it, and the database may refuse a commit that its constraints allow.
-/
import BondTrading.Imports.Uploads
import BondTrading.Py.Dict
import BondTrading.Sheets.Addresses

namespace BondTrading

open Py (Dict Routine orRaise)

/-! ## The bucket -/

/-- When an operation of the storage raises. -/
inductive StorageFault where
  | none
  | before
  | after
  deriving DecidableEq, Repr

/-- `MemoryObjectStorage`, and what a bucket holds: the body and the content type of each
object. -/
structure ObjectStorage where
  objects : Dict String (Bytes × String)

namespace ObjectStorage

def empty : ObjectStorage := ⟨Dict.empty⟩

def put (s : ObjectStorage) (objectKey : String) (content : Bytes) (contentType : String) :
    ObjectStorage := ⟨s.objects.set objectKey (content, contentType)⟩

def delete (s : ObjectStorage) (objectKey : String) : ObjectStorage := ⟨s.objects.pop objectKey⟩

def get (s : ObjectStorage) (objectKey : String) : Except PyError Bytes :=
  orRaise ((s.objects.get? objectKey).map Prod.fst) (.external "NoSuchKey")

end ObjectStorage

/-- What becomes of the storage and the commit of one request. -/
structure StorageDraw where
  put : StorageFault
  delete : StorageFault
  get : StorageFault
  /-- The commit is refused, whatever the tables are. -/
  refused : Bool
  deriving DecidableEq, Repr

/-- What becomes of a file on its way into both stores. -/
inductive Fate where
  | kept
  /-- The object was put and deleted again. -/
  | withdrawn
  /-- The object was put and stays, without a row. -/
  | left
  deriving DecidableEq, Repr

/-- `none` when nothing was put. -/
def StorageDraw.fate (d : StorageDraw) : Option Fate :=
  match d.put with
  | .before => none
  | .after => some .left
  | .none =>
      if d.refused then (if d.delete = .before then some .left else some .withdrawn)
      else some .kept

/-- A row and the body of its object. -/
structure Submission where
  upload : UploadedFileModel
  content : Bytes
  deriving DecidableEq

/-- The bucket after a submission. -/
def ObjectStorage.receive (s : ObjectStorage) (submission : Submission) (fate : Fate) :
    ObjectStorage :=
  let received := s.put submission.upload.objectKey submission.content submission.upload.contentType
  if fate = .withdrawn then received.delete submission.upload.objectKey else received

/-! ## Two stores -/

structure FileStore where
  db : Database
  storage : ObjectStorage

namespace FileStore

/-- An operation of the storage. -/
def access (fault : StorageFault) (f : ObjectStorage → ObjectStorage) :
    Routine FileStore PyError Unit := fun s =>
  match fault with
  | .none => (.ok (), { s with storage := f s.storage })
  | .before => (.error (.external "S3Error"), s)
  | .after => (.error (.external "S3Error"), { s with storage := f s.storage })

/-- `session.add(upload)` and `session.commit()`, with the rollback of a failure. -/
def insertUpload (refused : Bool) (upload : UploadedFileModel) : Routine FileStore PyError Unit :=
  fun s =>
    if refused then (.error (.database "OperationalError"), s)
    else
      match (s.db.val.addUpload upload).commit with
      | .ok db => (.ok (), { s with db })
      | .error e => (.error e, s)

/-- `UploadService.store`. -/
def store (sha256 : Bytes → String) (owner : UserId) (fileName contentType : String)
    (content : Bytes) (draw : UploadDraw) (storage : StorageDraw) :
    Routine FileStore PyError UploadedFileModel := do
  let upload := newUpload sha256 owner fileName contentType content draw
  access storage.put (·.put upload.objectKey content contentType)
  Routine.attempt (insertUpload storage.refused upload) fun e => do
    access storage.delete (·.delete upload.objectKey)
    Routine.raise e
  return upload

/-! ## What `store` does -/

/-- The two stores after a submission that the tables take. -/
def received (s : FileStore) (submission : Submission)
    (h : (s.db.val.addUpload submission.upload).Constraints) : Option Fate → FileStore
  | none => s
  | some fate =>
      ⟨if fate = .kept then ⟨_, h⟩ else s.db, s.storage.receive submission fate⟩

/-- **What `store` does**: the submission meets its fate, and the row is returned exactly when
it is kept. -/
theorem store_eq (sha256 : Bytes → String) (owner : UserId) (fileName contentType : String)
    (content : Bytes) (draw : UploadDraw) (storage : StorageDraw) (s : FileStore)
    (h : (s.db.val.addUpload
      (newUpload sha256 owner fileName contentType content draw)).Constraints) :
    ∃ result, store sha256 owner fileName contentType content draw storage s =
        (result, s.received ⟨newUpload sha256 owner fileName contentType content draw, content⟩ h
          storage.fate) ∧
      if storage.fate = some .kept then
        result = .ok (newUpload sha256 owner fileName contentType content draw)
      else ∃ e, result = .error e := by
  unfold store StorageDraw.fate
  cases hput : storage.put with
  | before => exact ⟨_, rfl, _, rfl⟩
  | after => exact ⟨_, rfl, _, rfl⟩
  | none =>
      -- the object is in the bucket
      rw [Routine.bind_of_ok (by rw [access])]
      cases hrefused : storage.refused with
      | false =>
          rw [Routine.bind_of_ok (Routine.attempt_of_ok (by
            rw [insertUpload, if_neg Bool.false_ne_true, Tables.commit, Sql.commit_of _ h]))]
          exact ⟨_, rfl, rfl⟩
      | true =>
          have hinsert : ∀ s' : FileStore, insertUpload true
              (newUpload sha256 owner fileName contentType content draw) s' =
                (.error (.database "OperationalError"), s') := fun _ => rfl
          rw [Routine.attempt_bind_of_error (hinsert _)]
          cases storage.delete <;> exact ⟨_, rfl, _, rfl⟩

/-- Nothing was put. -/
theorem store_of_fate_none {storage : StorageDraw} (h : storage.fate = none)
    (sha256 : Bytes → String) (owner : UserId) (fileName contentType : String) (content : Bytes)
    (draw : UploadDraw) (s : FileStore) :
    ∃ e, store sha256 owner fileName contentType content draw storage s = (.error e, s) := by
  unfold StorageDraw.fate at h
  unfold store
  cases hput : storage.put with
  | before => exact ⟨_, rfl⟩
  | after =>
      rw [hput] at h
      cases h
  | none =>
      rw [hput] at h
      dsimp only at h
      split at h
      · split at h <;> cases h
      · cases h

/-- A row that the tables do not take, because its identifier is stored already. -/
theorem store_of_refused {sha256 : Bytes → String} {owner : UserId} {fileName contentType : String}
    {content : Bytes} {draw : UploadDraw} {s : FileStore}
    (h : ¬ (s.db.val.addUpload
      (newUpload sha256 owner fileName contentType content draw)).Constraints)
    (storage : StorageDraw) :
    ∃ e s', store sha256 owner fileName contentType content draw storage s = (.error e, s') ∧
      s'.db = s.db := by
  unfold store
  cases hput : storage.put with
  | before => exact ⟨_, _, rfl, rfl⟩
  | after => exact ⟨_, _, rfl, rfl⟩
  | none =>
      rw [Routine.bind_of_ok (by rw [access])]
      set s' : FileStore := ⟨s.db, s.storage.put
        (newUpload sha256 owner fileName contentType content draw).objectKey content contentType⟩
      have hinsert : ∃ e, insertUpload storage.refused
          (newUpload sha256 owner fileName contentType content draw) s' = (.error e, s') := by
        unfold insertUpload
        split
        · exact ⟨_, rfl⟩
        · split
          · rename_i db hcommit
            exact absurd (Sql.commit_eq_ok.mp hcommit ▸ db.property) h
          · exact ⟨_, rfl⟩
      obtain ⟨e, hinsert⟩ := hinsert
      rw [Routine.attempt_bind_of_error hinsert]
      cases storage.delete <;> exact ⟨_, _, rfl, rfl⟩

end FileStore

/-! ## Keys -/

theorem objectKey_toList (sha256 : Bytes → String) (owner : UserId)
    (fileName contentType : String) (content : Bytes) (draw : UploadDraw) :
    (newUpload sha256 owner fileName contentType content draw).objectKey.toList =
      "users/".toList ++ (Nat.toDigits 10 owner ++ ("/uploads/".toList ++
        (Nat.toDigits 10 draw.upload ++ '/' :: (safeName fileName).toList))) := by
  simp [newUpload]

end BondTrading
