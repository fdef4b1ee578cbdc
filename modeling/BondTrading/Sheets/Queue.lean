/-
# BondTrading.Sheets.Queue -- the queue of synchronization jobs

The operations of `application/services/sheets.py` that create, claim and settle jobs,
each as one transaction over `SheetTables`.  A worker that claimed a job executes it
until it settles it or is killed; `queueMachine` runs these operations in any order, for
any number of workers.
-/
import BondTrading.Machines.Runs
import BondTrading.Sheets.Connection

namespace BondTrading

open Py (Instant raiseIf orRaise)
open Sql (UniqueOn updateWhere firstBy)
open Machines (Machine)

/-! ## Creating jobs -/

/-- `SheetSyncJobModel(connection_id=.., trigger=.., status=QUEUED, next_attempt_at=now)`. -/
def queuedJob (id : JobId) (connection : ConnectionId) (trigger : SheetSyncTrigger)
    (now : Instant) : SheetSyncJobModel where
  id := id
  connectionId := connection
  trigger := trigger
  status := .queued
  attemptCount := 0
  nextAttemptAt := some now
  startedAt := none
  completedAt := none
  rowsRead := 0
  rowsUpdated := 0
  instrumentsRefreshed := 0
  rowErrors := []
  errorMessage := none
  createdAt := now

/-- The filter every enqueue applies before it creates a job. -/
def isQueuedFor (connection : ConnectionId) (job : SheetSyncJobModel) : Bool :=
  job.connectionId = connection ∧ job.status = .queued

/-- `SheetSyncService.enqueue`. -/
def enqueue (db : SheetDatabase) (owner : UserId) (trigger : SheetSyncTrigger) (id : JobId)
    (now : Instant) : Except PyError (SheetDatabase × SheetSyncJobModel) := do
  let connection ← orRaise (db.val.connectionOf owner)
    (.valueError "Google Таблица ещё не подключена")
  raiseIf (connection.enabled = false ∧ trigger ≠ .manual)
    (.valueError "Автоматическая синхронизация Google Таблицы выключена")
  match firstBy SheetSyncJobModel.createdAt (isQueuedFor connection.id) db.val.jobs with
  | some existing => return (db, existing)
  | none =>
      let job := queuedJob id connection.id trigger now
      let committed ← SheetTables.commit { db.val with jobs := db.val.jobs ++ [job] }
      return (committed, job)

/-- `enqueue_sheet_sync`, on the tables of the caller's open transaction. -/
def enqueueSheetSync (t : SheetTables) (owner : UserId) (trigger : SheetSyncTrigger) (id : JobId)
    (now : Instant) : SheetTables × Option SheetSyncJobModel :=
  match t.connections.find? fun c =>
      c.ownerId = owner ∧ c.provider = "google_sheets" ∧ c.enabled = true with
  | none => (t, none)
  | some connection =>
      match t.jobs.find? (isQueuedFor connection.id) with
      | some existing => (t, some existing)
      | none =>
          let job := queuedJob id connection.id trigger now
          ({ t with jobs := t.jobs ++ [job] }, some job)

/-- `reference + timedelta(seconds=sync_interval_seconds)`. -/
def SheetConnectionModel.dueAt (c : SheetConnectionModel) : Instant :=
  c.lastAttemptAt.getD c.createdAt + Py.seconds c.syncIntervalSeconds

/-- The loop body of `enqueue_due_sheet_syncs` creates a job for the connection: its
interval has passed and it has no job in the queue and none running. -/
def needsJob (t : SheetTables) (now : Instant) (c : SheetConnectionModel) : Bool :=
  c.enabled = true ∧ c.dueAt ≤ now ∧
    ¬ t.jobs.any fun j => j.connectionId = c.id ∧ (j.status = .queued ∨ j.status = .running)

/-- The jobs the loop of `enqueue_due_sheet_syncs` adds; `ids` draws the identifier of
each connection's job.  The session does not flush before a query, so no round sees the
job of another. -/
def dueJobs (t : SheetTables) (ids : ConnectionId → JobId) (now : Instant) :
    List SheetSyncJobModel :=
  (t.connections.filter (needsJob t now)).map fun c => queuedJob (ids c.id) c.id .scheduled now

/-- `enqueue_due_sheet_syncs`. -/
def enqueueDueSheetSyncs (db : SheetDatabase) (ids : ConnectionId → JobId) (now : Instant) :
    Except PyError (SheetDatabase × ℕ) :=
  if dueJobs db.val ids now = [] then .ok (db, 0)
  else
    (SheetTables.commit { db.val with jobs := db.val.jobs ++ dueJobs db.val ids now }).map
      fun committed => (committed, (dueJobs db.val ids now).length)

/-! ## Claiming and settling -/

/-- A job a worker may take now; rows another transaction holds are skipped. -/
def isClaimable (locked : List JobId) (now : Instant) (job : SheetSyncJobModel) : Bool :=
  job.status = .queued ∧ (job.nextAttemptAt.all fun next => next ≤ now) ∧ job.id ∉ locked

def SheetSyncJobModel.claim (now : Instant) (j : SheetSyncJobModel) : SheetSyncJobModel :=
  { j with
    status := .running
    startedAt := some now
    attemptCount := j.attemptCount + 1 }

/-- `claim_next_sheet_sync_job`. -/
def claimNextSheetSyncJob (db : SheetDatabase) (locked : List JobId) (now : Instant) :
    Except PyError (SheetDatabase × Option JobId) :=
  match firstBy SheetSyncJobModel.createdAt (isClaimable locked now) db.val.jobs with
  | none => .ok (db, none)
  | some job =>
      (SheetTables.commit { db.val with
        jobs := updateWhere (fun j => j.id = job.id) (·.claim now) db.val.jobs }).map
        fun committed => (committed, some job.id)

/-- What a successful `execute` writes about itself. -/
structure SyncReport where
  attemptedAt : Instant
  rowsRead : ℕ
  rowsUpdated : ℕ
  instrumentsRefreshed : ℕ
  rowErrors : List SheetRowError
  payloadHash : String
  completedAt : Instant
  deriving DecidableEq, Repr

def SheetSyncJobModel.succeed (report : SyncReport) (j : SheetSyncJobModel) : SheetSyncJobModel :=
  { j with
    status := .succeeded
    completedAt := some report.completedAt
    rowsRead := report.rowsRead
    rowsUpdated := report.rowsUpdated
    instrumentsRefreshed := report.instrumentsRefreshed
    rowErrors := report.rowErrors
    errorMessage := none }

def SheetConnectionModel.succeed (report : SyncReport) (c : SheetConnectionModel) :
    SheetConnectionModel :=
  { c with
    lastAttemptAt := some report.attemptedAt
    lastSuccessAt := some report.completedAt
    lastError := none
    lastPayloadHash := some report.payloadHash }

/-- The end of a successful `execute`: both rows, one commit. -/
def completeSheetSync (db : SheetDatabase) (job : SheetSyncJobModel) (report : SyncReport) :
    Except PyError SheetDatabase :=
  SheetTables.commit
    { connections :=
        updateWhere (fun c => c.id = job.connectionId) (·.succeed report) db.val.connections
      jobs := updateWhere (fun j => j.id = job.id) (·.succeed report) db.val.jobs }

/-- `max_attempts`. -/
def maxAttempts : ℕ := 3

/-- The job after a failed attempt: back in the queue after `2 ** attempt_count` seconds,
or failed for good. -/
def SheetSyncJobModel.recordFailure (message : String) (now : Instant) (j : SheetSyncJobModel) :
    SheetSyncJobModel :=
  if j.attemptCount < maxAttempts then
    { j with
      status := .queued
      nextAttemptAt := some (now + Py.seconds (2 ^ j.attemptCount))
      errorMessage := some message }
  else
    { j with
      status := .failed
      completedAt := some now
      errorMessage := some message }

def SheetConnectionModel.recordFailure (message : String) (now : Instant)
    (c : SheetConnectionModel) : SheetConnectionModel :=
  { c with
    lastAttemptAt := some now
    lastError := some message }

/-- What `record_sheet_sync_failure` writes; `job` is the row as the session holds it, with
the number of rows the attempt had read. -/
def SheetTables.recordFailure (t : SheetTables) (job : SheetSyncJobModel) (error : String)
    (now : Instant) : SheetTables :=
  let message := Py.Text.take 2000 error
  { connections := updateWhere (fun c => c.id = job.connectionId) (·.recordFailure message now)
      t.connections
    jobs := updateWhere (fun j => j.id = job.id)
      (fun j => { j with rowsRead := job.rowsRead }.recordFailure message now) t.jobs }

/-- `record_sheet_sync_failure`, in a session that works. -/
def recordSheetSyncFailure (db : SheetDatabase) (job : SheetSyncJobModel) (error : String)
    (now : Instant) : Except PyError SheetDatabase :=
  (db.val.recordFailure job error now).commit

/-! ## The machine -/

/-- The committed tables, the jobs live workers are executing, and those whose worker
was killed. -/
structure QueueState where
  db : SheetDatabase
  executing : List JobId
  abandoned : List JobId

inductive QueueEvent where
  | configure (owner : UserId) (values : ConnectionValues) (id : ConnectionId) (now : Instant)
  | enqueue (owner : UserId) (trigger : SheetSyncTrigger) (id : JobId) (now : Instant)
  /-- `enqueue_sheet_sync` and the commit of its caller. -/
  | enqueueSheetSync (owner : UserId) (trigger : SheetSyncTrigger) (id : JobId) (now : Instant)
  | enqueueDueSheetSyncs (ids : ConnectionId → JobId) (now : Instant)
  | claim (locked : List JobId) (now : Instant)
  | succeed (job : JobId) (report : SyncReport)
  /-- The attempt raised after it had read `rowsRead` rows, if it came that far. -/
  | fail (job : JobId) (rowsRead : Option ℕ) (error : String) (now : Instant)
  /-- The worker of the job dies; a commit inside the attempt may have stored its start
  and the number of rows it had read. -/
  | kill (job : JobId) (progress : Option (Instant × ℕ))

/-- The row of a job in execution. -/
def QueueState.executingJob (s : QueueState) (job : JobId) : Option SheetSyncJobModel :=
  if job ∈ s.executing then s.db.val.jobs.find? fun j => j.id = job else none

def QueueState.store (s : QueueState) : Except PyError SheetDatabase → QueueState × Option PyError
  | .ok db => ({ s with db }, none)
  | .error e => (s, some e)

/-- A worker starts on the job it claimed. -/
def QueueState.take (s : QueueState) :
    Except PyError (SheetDatabase × Option JobId) → QueueState × Option PyError
  | .ok (db, job) => ({ s with db, executing := job.toList ++ s.executing }, none)
  | .error e => (s, some e)

/-- Settle a job in execution: the worker is done with it if the commit went through. -/
def QueueState.settle (s : QueueState) (job : JobId) :
    Except PyError SheetDatabase → QueueState × Option PyError
  | .ok db => ({ s with db, executing := s.executing.filter (· ≠ job) }, none)
  | .error e => (s, some e)

/-- What a killed attempt had committed of itself. -/
def SheetTables.storeProgress (t : SheetTables) (job : SheetSyncJobModel) :
    Option (Instant × ℕ) → SheetTables
  | none => t
  | some (attemptedAt, rowsRead) =>
      { connections := updateWhere (fun c => c.id = job.connectionId)
          (fun c => { c with lastAttemptAt := some attemptedAt }) t.connections
        jobs := updateWhere (fun j => j.id = job.id)
          (fun j => { j with rowsRead }) t.jobs }

/-- Leave a job to nobody. -/
def QueueState.abandon (s : QueueState) (job : JobId) :
    Except PyError SheetDatabase → QueueState × Option PyError
  | .ok db =>
      ({ db
         executing := s.executing.filter (· ≠ job)
         abandoned := job :: s.abandoned }, none)
  | .error e => (s, some e)

def queueMachine : Machine QueueState QueueEvent (Option PyError) where
  step s
    | .configure owner values id now =>
        s.store ((configure s.db owner values id now).map Prod.fst)
    | .enqueue owner trigger id now =>
        s.store ((enqueue s.db owner trigger id now).map Prod.fst)
    | .enqueueSheetSync owner trigger id now =>
        s.store (enqueueSheetSync s.db.val owner trigger id now).1.commit
    | .enqueueDueSheetSyncs ids now =>
        s.store ((enqueueDueSheetSyncs s.db ids now).map Prod.fst)
    | .claim locked now => s.take (claimNextSheetSyncJob s.db locked now)
    | .succeed job report =>
        match s.executingJob job with
        | some row => s.settle job (completeSheetSync s.db row report)
        | none => (s, none)
    | .fail job rowsRead error now =>
        match s.executingJob job with
        | some row =>
            s.settle job (recordSheetSyncFailure s.db
              { row with rowsRead := rowsRead.getD row.rowsRead } error now)
        | none => (s, none)
    | .kill job progress =>
        match s.executingJob job with
        | some row => s.abandon job (s.db.val.storeProgress row progress).commit
        | none => (s, none)

end BondTrading
