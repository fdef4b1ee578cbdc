/-
# BondTrading.Worker.Process -- one round of the worker

`process_one_job` of `workers/sheet_sync.py`: put due jobs into the queue, claim one,
execute it, and record a failure -- all in one session.  The recorder runs in the session
that failed, so the round settles its job exactly when that session is still usable.
-/
import BondTrading.Sheets.Attempts
import BondTrading.Sheets.Placement

namespace BondTrading

open Py (Instant Routine)
open Sql (Fault World updateWhere UniqueOn)

/-! ## The code -/

/-- The identifiers and the clock one round draws, and the rows other transactions hold. -/
structure WorkerDraw where
  dueIds : ConnectionId → JobId
  dueAt : Instant
  locked : List JobId
  claimedAt : Instant
  failedAt : Instant

/-- `process_one_job` up to the claim: the job, and the database as it was left. -/
def claimJob (draw : WorkerDraw) (db : Database) :
    Except PyError (Option SheetSyncJobModel) × Database :=
  match enqueueDueSheetSyncs db.sheets draw.dueIds draw.dueAt with
  | .error e => (.error e, db)
  | .ok (due, _) =>
      match claimNextSheetSyncJob due draw.locked draw.claimedAt with
      | .error e => (.error e, db.withSheets due)
      | .ok (claimed, none) => (.ok none, db.withSheets claimed)
      | .ok (claimed, some id) =>
          -- `session.refresh(job)`
          match claimed.val.job? id with
          | none => (.error (.database "InvalidRequestError"), db.withSheets claimed)
          | some job => (.ok (some job), db.withSheets claimed)

/-- The job as the session holds it. -/
def SheetTables.heldJob (t : SheetTables) (job : SheetSyncJobModel) : SheetSyncJobModel :=
  (t.job? job.id).getD job

/-- `record_sheet_sync_failure`, in the session of the attempt. -/
def recordFailure (job : SheetSyncJobModel) (error : PyError) (now : Instant) : Service Unit := do
  let _ ← World.query .none fun t => t.sheets.connection? job.connectionId
  World.edit (Tables.editSheets fun t => t.recordFailure (t.heldJob job) error.str now)
  World.commit .none

/-- The `try` of `process_one_job`. -/
def attemptJob [Py.Context] (env : SyncEnvironment) (job : SheetSyncJobModel) (now : Instant) :
    Service Unit :=
  Routine.attempt (execute env job) fun error => recordFailure job error now

/-- `process_one_job`: whether a job was processed, and the database afterwards. -/
def processOneJob [Py.Context] (env : SyncEnvironment) (draw : WorkerDraw) (db : Database) :
    Except PyError Bool × Database :=
  match claimJob draw db with
  | (.error e, db) => (.error e, db)
  | (.ok none, db) => (.ok false, db)
  | (.ok (some job), db) =>
      let (outcome, w) := attemptJob env job draw.failedAt (World.opened db)
      (outcome.map fun _ => true, w.committed)

/-! ## Settled jobs -/

/-- The job succeeded, may be tried again, or has failed for good. -/
def SheetSyncJobModel.IsSettled (j : SheetSyncJobModel) : Prop :=
  match j.status with
  | .succeeded => True
  | .queued => j.attemptCount < maxAttempts
  | .failed => maxAttempts ≤ j.attemptCount
  | .running => False

instance : DecidablePred SheetSyncJobModel.IsSettled := fun j => by
  unfold SheetSyncJobModel.IsSettled
  cases j.status <;> infer_instance

/-- The persisted row of the job is settled. -/
def JobSettled (job : JobId) (t : SheetTables) : Prop :=
  ∃ row, t.job? job = some row ∧ row.IsSettled

/-- The job is claimed. -/
def Claimed (job : JobId) (t : SheetTables) : Prop :=
  ∃ row, t.job? job = some row ∧ row.status = .running

theorem Claimed.not_settled {job : JobId} {t : SheetTables} (h : Claimed job t) :
    ¬ JobSettled job t := by
  obtain ⟨row, hrow, hrunning⟩ := h
  rintro ⟨row', hrow', hsettled⟩
  obtain rfl := Option.some.inj (hrow.symm.trans hrow')
  unfold SheetSyncJobModel.IsSettled at hsettled
  rw [hrunning] at hsettled
  exact hsettled

/-! ## The claim -/

/-- Updating by the identifier of the job that is there. -/
theorem Claimed.updateWhere {job : JobId} {t : SheetTables} (h : Claimed job t)
    (connections : List SheetConnectionModel) (q : SheetSyncJobModel → Bool)
    {f : SheetSyncJobModel → SheetSyncJobModel} (hf : ∀ j, (f j).id = j.id)
    (hstatus : ∀ j, (f j).status = j.status) :
    Claimed job ⟨connections, Sql.updateWhere q f t.jobs⟩ := by
  obtain ⟨row, hrow, hrunning⟩ := h
  refine ⟨_, job?_updateWhere hf hrow, ?_⟩
  split
  · rw [hstatus, hrunning]
  · exact hrunning

/-- The job stays claimed, in the committed tables and in the open transaction. -/
def KeepsClaim (job : JobId) (w w' : ServiceWorld) : Prop :=
  Claimed job w.committed.val.sheets ∧ Claimed job w.work.sheets →
    Claimed job w'.committed.val.sheets ∧ Claimed job w'.work.sheets

/-- **Before it is settled an attempt keeps the claim.** -/
theorem KeepsClaim.allows (job : JobId) :
    World.Allows (KeepsClaim job) IsAttemptEdit (fun _ => True) True where
  refl _ h := h
  trans h₁ h₂ h := h₂ (h₁ h)
  aborted _ _ h := h
  rolledBack _ h := h
  committed _ _ h := ⟨h.2, h.2⟩
  edited w f hf h := by
    refine ⟨h.1, ?_⟩
    cases hf with
    | market g => exact h.2
    | started connection now =>
        have hkept : Claimed job ⟨_, Sql.updateWhere (fun _ => false) id w.work.sheets.jobs⟩ :=
          h.2.updateWhere (w.work.sheets.startAttempt connection now).connections _ (fun _ => rfl)
            fun _ => rfl
        rw [updateWhere_none] at hkept
        exact hkept
    | read job' rowsRead =>
        exact h.2.updateWhere w.work.sheets.connections (fun j => j.id = job')
          (f := fun j => { j with rowsRead }) (fun _ => rfl) fun _ => rfl
  called _ _ _ h := h

/-- A claimed job is in the tables as `RUNNING`. -/
theorem claimJob_claimed {draw : WorkerDraw} {db claimed : Database} {job : SheetSyncJobModel}
    (h : claimJob draw db = (.ok (some job), claimed)) : Claimed job.id claimed.val.sheets := by
  unfold claimJob at h
  split at h
  · cases (Prod.mk.inj h).1
  · split at h
    · cases (Prod.mk.inj h).1
    · cases (Prod.mk.inj h).1
    · rename_i due _ _ after id hclaim
      split at h
      · cases (Prod.mk.inj h).1
      · rename_i row hrow
        obtain ⟨hjob, rfl⟩ := Prod.mk.inj h
        obtain rfl := Option.some.inj (Except.ok.inj hjob)
        obtain ⟨hmem, hid⟩ := job?_eq_some hrow
        refine ⟨row, hid ▸ hrow, ?_⟩
        -- the committed table is the update of the claim
        unfold claimNextSheetSyncJob at hclaim
        split at hclaim
        · cases (Prod.mk.inj (Except.ok.inj hclaim)).2
        · rename_i candidate hcandidate
          obtain ⟨committed, hcommit, hpair⟩ := Py.map_eq_ok.mp hclaim
          obtain ⟨rfl, hsame⟩ := Prod.mk.inj hpair
          obtain rfl := Option.some.inj hsame
          rw [Sql.commit_eq_ok.mp hcommit] at hmem
          obtain ⟨before, hbefore, rfl⟩ := Sql.mem_updateWhere.mp hmem
          split
          · rfl
          · rename_i hother
            rw [if_neg hother] at hid
            exact absurd (decide_eq_true hid) hother

/-! ## The recorder -/

section Recorder

variable {job : SheetSyncJobModel} {w : ServiceWorld} {error : PyError} {now : Instant}

/-- A failed attempt leaves a settled row. -/
theorem recordFailure_isSettled (message : String) (j : SheetSyncJobModel) :
    (j.recordFailure message now).IsSettled := by
  unfold SheetSyncJobModel.recordFailure
  by_cases hattempts : j.attemptCount < maxAttempts
  · rw [if_pos hattempts]
    exact hattempts
  · rw [if_neg hattempts]
    exact not_lt.mp hattempts

/-- **In a session that works the recorder settles the job.** -/
theorem recordFailure_settles (hw : w.broken = false) (hC : w.work.Constraints)
    (hrow : ∃ row, w.work.sheets.job? job.id = some row) :
    JobSettled job.id (recordFailure job error now w).2.committed.val.sheets := by
  obtain ⟨row, hrow⟩ := hrow
  have hheld : w.work.sheets.heldJob job = row := by
    unfold SheetTables.heldJob
    rw [hrow]
    rfl
  obtain ⟨-, hid⟩ := job?_eq_some hrow
  let record : SheetSyncJobModel → SheetSyncJobModel := fun j =>
    { j with rowsRead := row.rowsRead }.recordFailure (Py.Text.take 2000 error.str) now
  have hrecord : ∀ j, ((record j).id, (record j).connectionId) = (j.id, j.connectionId) :=
    fun j => Prod.ext (recordFailure_id _ _ _) (recordFailure_connectionId _ _ _)
  have hprogress : SheetProgress w.work
      (Tables.editSheets (·.recordFailure row error.str now) w.work) :=
    SheetProgress.of_updates hC (fun c => c.id = row.connectionId)
      (·.recordFailure (Py.Text.take 2000 error.str) now) (fun _ => rfl) (fun j => j.id = row.id)
      record hrecord
  have hstep : recordFailure job error now w = (.ok (), { w with
      work := Tables.editSheets (·.recordFailure row error.str now) w.work
      committed := ⟨_, hprogress.constraints⟩ }) := by
    unfold recordFailure
    rw [Routine.bind_of_ok (World.query_none hw _), Routine.bind_of_ok (World.edit_apply _ _)]
    simp only [Tables.editSheets, hheld]
    exact World.commit_none (by exact hw) hprogress.constraints
  rw [hstep]
  refine ⟨_, job?_updateWhere (fun j => recordFailure_id _ _ _) hrow, ?_⟩
  rw [if_pos (decide_eq_true rfl)]
  exact recordFailure_isSettled _ _

/-- In a broken session the recorder raises before it writes. -/
theorem recordFailure_broken (hw : w.broken = true) :
    (recordFailure job error now w).2 = w := by
  unfold recordFailure
  rw [Routine.bind_of_error (World.query_broken hw _ _)]

end Recorder

/-! ## One round settles its job, or does not -/

section Round

variable {env : SyncEnvironment} {job : SheetSyncJobModel} {w : ServiceWorld}

/-- **A session that broke before the job was settled**: the attempt raised, and the job
is still claimed. -/
theorem storeSheet_broken [Py.Context] (hclaimed : Claimed job.id w.committed.val.sheets ∧
      Claimed job.id w.work.sheets) (hbroken : (storeSheet env job w).2.broken = true) :
    (∃ e, (storeSheet env job w).1 = .error e) ∧
      Claimed job.id (storeSheet env job w).2.committed.val.sheets := by
  have hallows := KeepsClaim.allows job.id
  have hreads : Routine.Within (KeepsClaim job.id) (readSheet env job) :=
    readSheet_within (hallows.mono (fun _ h => h) fun _ _ => trivial) job
  have hreadKeeps := hreads w hclaimed
  unfold storeSheet at hbroken ⊢
  rcases hread : readSheet env job w with ⟨e | ⟨connection, rows⟩, w₁⟩
  · rw [hread] at hreadKeeps
    rw [Routine.bind_of_error hread]
    exact ⟨⟨e, rfl⟩, hreadKeeps.1⟩
  · rw [hread] at hreadKeeps
    rw [Routine.bind_of_ok hread] at hbroken ⊢
    have hwrites : Routine.Within (KeepsClaim job.id) (writeSheet env connection rows) :=
      writeSheet_within hallows connection rows
    have hwriteKeeps := hwrites w₁ hreadKeeps
    dsimp only at hbroken ⊢
    rcases hwrite : writeSheet env connection rows w₁ with ⟨e | report, w₂⟩
    · rw [hwrite] at hwriteKeeps
      rw [Routine.bind_of_error hwrite]
      exact ⟨⟨e, rfl⟩, hwriteKeeps.1⟩
    · rw [hwrite] at hwriteKeeps
      rw [Routine.bind_of_ok hwrite] at hbroken ⊢
      rw [Routine.bind_of_ok (World.edit_apply _ _)] at hbroken ⊢
      -- only a commit that failed leaves the session broken
      unfold World.commit at hbroken ⊢
      split
      · exact ⟨⟨_, rfl⟩, hwriteKeeps.1⟩
      · rename_i hw₂
        split
        · rename_i hcommit
          rw [if_neg hw₂, dif_pos hcommit] at hbroken
          exact absurd hbroken hw₂
        · exact ⟨⟨_, rfl⟩, hwriteKeeps.1⟩

/-- **The attempt and its recorder**: the job is settled exactly when the attempt leaves
the session usable up to its final commit. -/
theorem attemptJob_settles_iff [Py.Context] {now : Instant} (hw : w.broken = false)
    (hC : w.work.Constraints)
    (hclaimed : Claimed job.id w.committed.val.sheets ∧ Claimed job.id w.work.sheets)
    (hfresh : ∀ connection rows, sheetRead env w.work.sheets job = some (connection, rows) →
      env.draw.Fresh (isinsOf connection rows) w.work.market) :
    JobSettled job.id (attemptJob env job now w).2.committed.val.sheets ↔
      AttemptKept env w.work job := by
  have hjob : ∃ row, w.work.sheets.job? job.id = some row := by
    obtain ⟨row, hrow, -⟩ := hclaimed.2
    exact ⟨row, hrow⟩
  have hruns := storeSheet_runs hw hC hjob hfresh
  rw [← hruns.usable]
  unfold attemptJob
  rcases hstore : storeSheet env job w with ⟨r, w'⟩
  cases hbroken : w'.broken with
  | true =>
      -- the recorder meets the broken session
      obtain ⟨⟨e, he⟩, hstill⟩ := storeSheet_broken hclaimed (by rw [hstore]; exact hbroken)
      rw [hstore] at he hstill
      obtain rfl : r = .error e := he
      have hexecute : execute env job w = (.error e, w') := by
        rw [execute_of_storeSheet, Routine.bind_of_error hstore]
      rw [Routine.attempt_of_error hexecute, recordFailure_broken hbroken]
      exact iff_of_false hstill.not_settled Bool.noConfusion
  | false =>
      refine iff_of_true ?_ rfl
      have hpost := hruns.outcome (by rw [hstore]; exact hbroken)
      rw [hstore] at hpost
      cases r with
      | error e =>
          have hexecute : execute env job w = (.error e, w') := by
            rw [execute_of_storeSheet, Routine.bind_of_error hstore]
          rw [Routine.attempt_of_error hexecute]
          exact recordFailure_settles hbroken hpost.constraints hpost.present
      | ok _ =>
          obtain ⟨row, hrow⟩ := hpost.present
          have hsucceeded : JobSettled job.id w'.committed.val.sheets := by
            rw [hpost.committed rfl]
            refine ⟨row, hrow, ?_⟩
            unfold SheetSyncJobModel.IsSettled
            rw [hpost.succeeded rfl row hrow]
            trivial
          have hexecute : execute env job w =
              (World.query (env.faults .reloadJob) fun _ => () : Service Unit) w' := by
            rw [execute_of_storeSheet, Routine.bind_of_ok hstore]
          cases hreload : env.faults .reloadJob with
          | none =>
              rw [hreload, World.query_none hbroken] at hexecute
              rw [Routine.attempt_of_ok hexecute]
              exact hsucceeded
          | raised =>
              rw [hreload, World.query_raised hbroken] at hexecute
              rw [Routine.attempt_of_error hexecute]
              exact recordFailure_settles hbroken hpost.constraints hpost.present
          | aborted =>
              rw [hreload, World.query_aborted hbroken] at hexecute
              rw [Routine.attempt_of_error hexecute, recordFailure_broken rfl]
              exact hsucceeded

end Round

/-- **`process_one_job` settles the job it claimed exactly when the attempt leaves the
session usable**: then its persisted status is `SUCCEEDED`, or `QUEUED` with attempts left,
or `FAILED` without; otherwise the job stays `RUNNING`. -/
theorem processOneJob_settles_iff [Py.Context] {env : SyncEnvironment} {draw : WorkerDraw}
    {db claimed : Database} {job : SheetSyncJobModel}
    (hclaim : claimJob draw db = (.ok (some job), claimed))
    (hfresh : ∀ connection rows,
      sheetRead env claimed.val.sheets job = some (connection, rows) →
        env.draw.Fresh (isinsOf connection rows) claimed.val.market) :
    JobSettled job.id (processOneJob env draw db).2.val.sheets ↔
      AttemptKept env claimed.val job := by
  have hclaimed := claimJob_claimed hclaim
  have hprocess : (processOneJob env draw db).2 =
      (attemptJob env job draw.failedAt (World.opened claimed)).2.committed := by
    unfold processOneJob
    rw [hclaim]
  rw [hprocess]
  exact attemptJob_settles_iff (w := World.opened claimed) rfl claimed.property
    ⟨hclaimed, hclaimed⟩ hfresh

/-! ## Two rounds -/

/-- The job of the connection, in the queue. -/
def parQueuedJob : SheetSyncJobModel := queuedJob 20 10 .manual 0

def parQueue : Database :=
  ⟨⟨⟨[], [], []⟩, ⟨[], [], [], [], []⟩, ⟨[parConnection], [parQueuedJob]⟩⟩, by decide +kernel⟩

/-- A round at the hour the job was created. -/
def parDraw : WorkerDraw := ⟨fun _ => 21, 0, [], 0, 1720000003000000⟩

/-- The database once the job is claimed. -/
def parClaimed : Database :=
  ⟨⟨⟨[], [], []⟩, ⟨[], [], [], [], []⟩, ⟨[parConnection], [parQueuedJob.claim 0]⟩⟩,
    by decide +kernel⟩

/-- MOEX that lists every coupon twice. -/
def twiceClient (coupon : ℚ × String) : MoexClient where
  refresh isin := (normalizeIsin isin).map fun isin =>
    { parBond coupon isin with actions := (parBond coupon isin).actions ++
        (parBond coupon isin).actions }
  accruedInterestOn _ _ _ := .ok (some (.finite 10))
  answersIsin isin result h := by
    obtain ⟨normalized, hnormalized, rfl⟩ := Py.map_eq_ok.mp h
    exact hnormalized

theorem processOneJob_settles_parQueue :
    JobSettled 20 (processOneJob (parEnvironment parRows fun _ => .none) parDraw parQueue).2.val.sheets ↔
      AttemptKept (parEnvironment parRows fun _ => .none) parClaimed.val (parQueuedJob.claim 0) := by
  have hclaim : claimJob parDraw parQueue = (.ok (some (parQueuedJob.claim 0)), parClaimed) := by
    decide +kernel
  refine processOneJob_settles_iff hclaim ?_
  intro connection rows hread
  have hsheet : (sheetRead (parEnvironment parRows fun _ => .none) parClaimed.val.sheets
      (parQueuedJob.claim 0)).map (fun p => isinsOf p.1 p.2) = some ["RU000A107SX3"] := by
    decide +kernel
  rw [hread] at hsheet
  have hisins : isinsOf connection rows = ["RU000A107SX3"] := Option.some.inj hsheet
  rw [hisins]
  refine ⟨?_, List.pairwise_singleton _ _⟩
  intro isin _
  refine ⟨List.not_mem_nil, fun _ => List.not_mem_nil, ?_, List.not_mem_nil⟩
  intro m n hsame
  have hsame : 40 + m = 40 + n := hsame
  omega

/-- **No refusal of the database is needed**: a coupon that MOEX lists twice breaks the
unique constraint of the actions, and the job stays claimed. -/
theorem repeated_action_leaves_job_running :
    claimJob parDraw parQueue = (.ok (some (parQueuedJob.claim 0)), parClaimed) ∧
      ¬ JobSettled 20 (processOneJob
        { parEnvironment parRows fun _ => .none with moex := twiceClient (40, "coupon-40") }
        parDraw parQueue).2.val.sheets := by
  refine ⟨by decide +kernel, Claimed.not_settled ⟨_, rfl, ?_⟩⟩
  decide +kernel

end BondTrading
