/-
# BondTrading.Imports.Replays -- what the status of an upload says

An upload is `imported` when a batch came from it, and `duplicate` when its content had come
from another one.  A commit that finds its content imported marks the upload of its preview
without asking whether the batch it found came from that very upload: a preview that is
committed twice ends as the duplicate of itself.
-/
import BondTrading.Imports.Commits
import BondTrading.Portfolio.Transactions

namespace BondTrading

open Sql (updateWhere mem_updateWhere)

/-- **The statuses are true**: `imported` stands at the uploads that a batch references, and
`duplicate` at none of them. -/
@[mk_iff] structure PortfolioTables.StatusesTrue (t : PortfolioTables) : Prop where
  imported : ∀ u ∈ t.uploads,
    u.status = "imported" ↔ ∃ b ∈ t.batches, b.uploadedFileId = some u.id
  duplicate : ∀ u ∈ t.uploads, u.status = "duplicate" →
    ∀ b ∈ t.batches, b.uploadedFileId ≠ some u.id

instance : DecidablePred PortfolioTables.StatusesTrue := fun t =>
  decidable_of_iff _ (PortfolioTables.statusesTrue_iff t).symm

/-- The upload of a preview came into no batch. -/
def ImportPreview.Unused (preview : ImportPreview) (t : PortfolioTables) : Prop :=
  ∀ id ∈ preview.uploadId, ∀ b ∈ t.batches, b.uploadedFileId ≠ some id

instance (preview : ImportPreview) : DecidablePred preview.Unused := fun t => by
  unfold ImportPreview.Unused
  infer_instance

section Branches

variable {t : Tables} {owner : UserId} {preview : ImportPreview} {draw : ImportDraw}
  {existing : ImportBatchModel}

/-! ## The two branches -/

/-- The inserting branch marks the upload that its batch references. -/
theorem importedTables_statusesTrue (h : t.portfolio.StatusesTrue) :
    (importedTables t owner preview draw).portfolio.StatusesTrue := by
  have hbatches : ∀ id, (∃ b ∈ (importedTables t owner preview draw).portfolio.batches,
      b.uploadedFileId = some id) ↔
        (∃ b ∈ t.portfolio.batches, b.uploadedFileId = some id) ∨ preview.uploadId = some id := by
    intro id
    show (∃ b ∈ t.portfolio.batches ++ [_], _) ↔ _
    simp only [List.mem_append, List.mem_singleton, or_and_right, exists_or, exists_eq_left]
    rfl
  constructor
  · intro u' hu'
    obtain ⟨u, hu, rfl⟩ := mem_updateWhere.mp hu'
    rw [hbatches]
    split
    · rename_i hmatch
      exact iff_of_true rfl (Or.inr (of_decide_eq_true hmatch).symm)
    · rename_i hmatch
      rw [h.imported u hu]
      refine (or_iff_left ?_).symm
      intro hupload
      exact hmatch (decide_eq_true hupload.symm)
  · intro u' hu'
    obtain ⟨u, hu, rfl⟩ := mem_updateWhere.mp hu'
    split
    · intro (hstatus : "imported" = "duplicate")
      exact absurd hstatus (by decide)
    · rename_i hmatch
      intro hstatus b hb hreferences
      rcases (hbatches u.id).mp ⟨b, hb, hreferences⟩ with ⟨b', hb', hold⟩ | hupload
      · exact h.duplicate u hu hstatus b' hb' hold
      · exact hmatch (decide_eq_true hupload.symm)

/-- **The replay branch** keeps the statuses true exactly if no batch came from the upload it
marks. -/
theorem replayedTables_statusesTrue_iff (ht : t.Constraints) (h : t.portfolio.StatusesTrue) :
    (replayedTables t preview existing).portfolio.StatusesTrue ↔ preview.Unused t.portfolio := by
  constructor
  · intro hafter id hid b hb hreferences
    -- the upload exists, is marked, and the batch is still there
    obtain ⟨u, hu, rfl⟩ := ht.portfolio.uploadsExist b hb id hreferences
    have hmarked : { u with
        status := "duplicate"
        parseError := some ("Content already imported in batch " ++ toString existing.id) } ∈
          (replayedTables t preview existing).portfolio.uploads :=
      mem_updateWhere.mpr ⟨u, hu, (if_pos (decide_eq_true hid.symm)).symm⟩
    exact hafter.duplicate _ hmarked rfl b hb hreferences
  · intro hunused
    constructor
    · intro u' hu'
      obtain ⟨u, hu, rfl⟩ := mem_updateWhere.mp hu'
      split
      · rename_i hmatch
        have hid : preview.uploadId = some u.id := (of_decide_eq_true hmatch).symm
        have hduplicate : ¬ "duplicate" = "imported" := by decide
        refine iff_of_false hduplicate ?_
        rintro ⟨b, hb, hreferences⟩
        exact hunused u.id hid b hb hreferences
      · exact h.imported u hu
    · intro u' hu'
      obtain ⟨u, hu, rfl⟩ := mem_updateWhere.mp hu'
      split
      · rename_i hmatch
        have hid : preview.uploadId = some u.id := (of_decide_eq_true hmatch).symm
        exact fun _ => hunused u.id hid
      · exact h.duplicate u hu

end Branches

/-! ## A step and a run -/

section Finishing

variable {db committed : Database} {owner : UserId} {preview : ImportPreview} {draw : ImportDraw}
  {existing : ImportBatchModel} {error : PyError}

theorem finishImport_none_ok
    (h : (importedTables db.val owner preview draw).commit = .ok committed) :
    finishImport db owner preview none draw = .ok (committed,
      importBatch owner preview draw (importRows db.val owner preview draw), false) := by
  unfold finishImport
  rw [h]
  rfl

theorem finishImport_none_error
    (h : (importedTables db.val owner preview draw).commit = .error error) :
    finishImport db owner preview none draw = .error error := by
  unfold finishImport
  rw [h]
  rfl

theorem finishImport_some (h : (replayedTables db.val preview existing).commit = .ok committed) :
    finishImport db owner preview (some existing) draw = .ok (committed, existing, true) :=
  Py.bind_eq_ok.mpr ⟨committed, h, rfl⟩

end Finishing

/-- A call that replays has the upload of a preview that came into no batch. -/
def ReplaysUnused (s : ImportState) : ImportEvent → Prop
  | .read _ _ => True
  | .finish call _ refused => ∀ c ∈ s.pending[call]?, c.existing.isSome → refused = false →
      c.preview.Unused s.db.val.portfolio

instance (s : ImportState) : DecidablePred (ReplaysUnused s)
  | .read _ _ => inferInstanceAs (Decidable True)
  | .finish call _ refused => inferInstanceAs (Decidable (∀ c ∈ s.pending[call]?,
      c.existing.isSome → refused = false → c.preview.Unused s.db.val.portfolio))

/-- **One step**: the statuses stay true exactly if a replay marks an upload of no batch. -/
theorem statusesTrue_next_iff {s : ImportState} (h : s.db.val.portfolio.StatusesTrue)
    (e : ImportEvent) :
    (importMachine.next s e).db.val.portfolio.StatusesTrue ↔ ReplaysUnused s e := by
  cases e with
  | read owner preview => exact iff_of_true h trivial
  | finish call draw refused =>
      unfold Machines.Machine.next
      cases hcall : s.pending[call]? with
      | none =>
          rw [step_finish_none hcall]
          refine iff_of_true h ?_
          intro c hc
          cases hcall.symm.trans hc
      | some c =>
          have hguard : ReplaysUnused s (.finish call draw refused) ↔
              (c.existing.isSome → refused = false → c.preview.Unused s.db.val.portfolio) := by
            show (∀ c' ∈ s.pending[call]?, _) ↔ _
            rw [hcall]
            simp
          rw [step_finish_some hcall, hguard]
          cases refused with
          | true => exact iff_of_true h (by simp)
          | false =>
              have htransaction : c.transaction s.db draw false =
                  finishImport s.db c.owner c.preview c.existing draw := rfl
              rw [htransaction]
              cases c.existing with
              | none =>
                  refine iff_of_true ?_ (by simp)
                  cases hcommit : (importedTables s.db.val c.owner c.preview draw).commit with
                  | error error =>
                      rw [finishImport_none_error hcommit]
                      exact h
                  | ok db =>
                      rw [finishImport_none_ok hcommit]
                      show db.val.portfolio.StatusesTrue
                      rw [Sql.commit_eq_ok.mp hcommit]
                      exact importedTables_statusesTrue h
              | some existing =>
                  have hkept : (replayedTables s.db.val c.preview existing).Constraints :=
                    replayedTables_constraints s.db.property existing
                  have hcommit := Sql.commit_of (.database "IntegrityError" : PyError) hkept
                  rw [finishImport_some hcommit]
                  show (replayedTables s.db.val c.preview existing).portfolio.StatusesTrue ↔ _
                  rw [replayedTables_statusesTrue_iff s.db.property h]
                  simp

/-- **When the statuses are true in every state** that any commits lead to, whatever comes
between the two steps of a call. -/
theorem always_statusesTrue_iff {s : ImportState} (hs : s.db.val.portfolio.StatusesTrue)
    (events : List ImportEvent) :
    importMachine.Always (fun s => s.db.val.portfolio.StatusesTrue) s events ↔
      importMachine.Along ReplaysUnused s events :=
  importMachine.always_iff_along (W := fun _ => True)
    (I := fun s => s.db.val.portfolio.StatusesTrue) (G := ReplaysUnused) (fun _ _ _ => trivial)
    (fun _ e _ h => statusesTrue_next_iff h e) trivial hs events

/-! ## One content, uploaded twice and committed twice -/

def parsedUpload (id : UploadId) : UploadedFileModel where
  id := id
  ownerId := 1
  originalFileName := "bonds.xlsx"
  objectKey := "users/1/uploads/" ++ toString id ++ "/bonds.xlsx"
  contentType := "application/vnd.openxmlformats-officedocument.spreadsheetml.sheet"
  fileFormat := "xlsx"
  sizeBytes := 4096
  checksum := "c0ffee"
  status := "parsed"
  parseError := none
  createdAt := 0

/-- Two uploads of one file are parsed. -/
def parsedUploads : Database :=
  ⟨⟨⟨[], [], []⟩, ⟨[parsedUpload 5, parsedUpload 6], [], [], [], []⟩, ⟨[], []⟩⟩, by decide +kernel⟩

def previewOf (upload : UploadId) : ImportPreview := { racePreview with uploadId := some upload }

theorem always_statusesTrue_of_second_upload :
    importMachine.Always (fun s => s.db.val.portfolio.StatusesTrue) ⟨parsedUploads, [], []⟩
      [.read 1 (previewOf 5), .finish 0 (raceDraw 1) false,
        .read 1 (previewOf 6), .finish 0 (raceDraw 2) false] :=
  (always_statusesTrue_iff (by decide +kernel) _).mpr (by decide +kernel)

/-- The second request read the preview from the cache before the first one discarded it. -/
theorem committed_twice_duplicate_of_itself :
    ¬ (importMachine.run ⟨parsedUploads, [], []⟩
      [.read 1 (previewOf 5), .finish 0 (raceDraw 1) false,
        .read 1 (previewOf 5), .finish 0 (raceDraw 2) false]).db.val.portfolio.StatusesTrue := by
  decide +kernel

end BondTrading
