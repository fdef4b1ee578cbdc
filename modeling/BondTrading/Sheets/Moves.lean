/-
# BondTrading.Sheets.Moves -- what one step does to the queue

Every invariant of the queue is read off `queueMachine_moves`: a step keeps the jobs,
adds queued jobs for connections that have none, or rewrites one row, which is then
claimed, finished, put back into the queue, or left to nobody.
-/
import BondTrading.Sheets.Queue
import Mathlib.Data.List.Count

namespace BondTrading

open Py (Instant)
open Sql (UniqueOn updateWhere)
open Machines (Machine)

/-! ## Constraints -/

/-- The constraints read the keys of the two tables only. -/
theorem SheetTables.Constraints.of_same_keys {t t' : SheetTables} (h : t.Constraints)
    (hconnections : t'.connections.map (fun c => (c.id, c.ownerId, c.provider)) =
      t.connections.map fun c => (c.id, c.ownerId, c.provider))
    (hjobs : t'.jobs.map (fun j => (j.id, j.connectionId)) =
      t.jobs.map fun j => (j.id, j.connectionId)) : t'.Constraints := by
  obtain ⟨hid, howner, hjob, hforeign⟩ := h
  have hids : t'.connections.map SheetConnectionModel.id =
      t.connections.map SheetConnectionModel.id := by
    simpa only [List.map_map, Function.comp_def] using congrArg (List.map Prod.fst) hconnections
  have howners : t'.connections.map (fun c => (c.ownerId, c.provider)) =
      t.connections.map fun c => (c.ownerId, c.provider) := by
    simpa only [List.map_map, Function.comp_def] using congrArg (List.map Prod.snd) hconnections
  have hjobIds : t'.jobs.map SheetSyncJobModel.id = t.jobs.map SheetSyncJobModel.id := by
    simpa only [List.map_map, Function.comp_def] using congrArg (List.map Prod.fst) hjobs
  unfold SheetTables.Constraints UniqueOn
  rw [hids, howners, hjobIds]
  refine ⟨hid, howner, hjob, ?_⟩
  intro j' hj'
  -- the row behind `j'` and the connection behind its connection
  have hmem : (j'.id, j'.connectionId) ∈ t.jobs.map fun j => (j.id, j.connectionId) := by
    rw [← hjobs]
    exact List.mem_map_of_mem hj'
  obtain ⟨j, hj, hkeys⟩ := List.mem_map.mp hmem
  obtain ⟨c, hc, hcid⟩ := hforeign j hj
  have hcmem : c.id ∈ t'.connections.map SheetConnectionModel.id := by
    rw [hids]
    exact List.mem_map_of_mem hc
  obtain ⟨c', hc', hc'id⟩ := List.mem_map.mp hcmem
  exact ⟨c', hc', hc'id.trans (hcid.trans (Prod.mk.inj hkeys).2)⟩

/-- An update of both tables that keeps the keys commits. -/
theorem SheetDatabase.commit_of_same_keys (db : SheetDatabase) (t : SheetTables)
    (hconnections : t.connections.map (fun c => (c.id, c.ownerId, c.provider)) =
      db.val.connections.map fun c => (c.id, c.ownerId, c.provider))
    (hjobs : t.jobs.map (fun j => (j.id, j.connectionId)) =
      db.val.jobs.map fun j => (j.id, j.connectionId)) :
    ∃ db' : SheetDatabase, t.commit = .ok db' ∧ db'.val = t :=
  ⟨⟨t, db.property.of_same_keys hconnections hjobs⟩, Sql.commit_of _ _, rfl⟩

/-- Two `UPDATE`s that write no key. -/
theorem SheetDatabase.commit_updates (db : SheetDatabase) (p : SheetConnectionModel → Bool)
    (f : SheetConnectionModel → SheetConnectionModel)
    (hf : ∀ c, ((f c).id, (f c).ownerId, (f c).provider) = (c.id, c.ownerId, c.provider))
    (q : SheetSyncJobModel → Bool) (g : SheetSyncJobModel → SheetSyncJobModel)
    (hg : ∀ j, ((g j).id, (g j).connectionId) = (j.id, j.connectionId)) :
    ∃ db' : SheetDatabase, SheetTables.commit
        ⟨updateWhere p f db.val.connections, updateWhere q g db.val.jobs⟩ = .ok db' ∧
      db'.val = ⟨updateWhere p f db.val.connections, updateWhere q g db.val.jobs⟩ :=
  db.commit_of_same_keys _ (Sql.map_updateWhere p f (fun c => (c.id, c.ownerId, c.provider)) hf _)
    (Sql.map_updateWhere q g (fun j => (j.id, j.connectionId)) hg _)

/-! ## Counting queued jobs -/

/-- How many jobs of the connection are in the queue. -/
def queuedCount (t : SheetTables) (connection : ConnectionId) : ℕ :=
  t.jobs.countP (isQueuedFor connection)

theorem queuedCount_eq_zero {t : SheetTables} {connection : ConnectionId} :
    queuedCount t connection = 0 ↔ ∀ j ∈ t.jobs, isQueuedFor connection j = false := by
  rw [queuedCount, List.countP_eq_zero]
  exact forall₂_congr fun j _ => by rw [Bool.not_eq_true]

/-! ## The ways a step can go -/

/-- One row of the job table is rewritten in place. -/
structure Rewrites (t t' : SheetTables) (r r' : SheetSyncJobModel) : Prop where
  split : ∃ pre post, t.jobs = pre ++ r :: post ∧ t'.jobs = pre ++ r' :: post
  same_id : r'.id = r.id
  same_connection : r'.connectionId = r.connectionId

/-- What a step does to the jobs and to the workers; `retry` is the row a failed attempt
puts back into the queue. -/
inductive Moves (s s' : QueueState) : Option SheetSyncJobModel → Prop
  | kept (hjobs : s'.db.val.jobs = s.db.val.jobs) (hexecuting : s'.executing = s.executing)
      (habandoned : s'.abandoned = s.abandoned) : Moves s s' none
  | created (new : List SheetSyncJobModel) (hjobs : s'.db.val.jobs = s.db.val.jobs ++ new)
      (hqueued : ∀ j ∈ new, j.status = .queued)
      (hdistinct : (new.map SheetSyncJobModel.connectionId).Nodup)
      (hnone : ∀ j ∈ new, queuedCount s.db.val j.connectionId = 0)
      (hexecuting : s'.executing = s.executing) (habandoned : s'.abandoned = s.abandoned) :
      Moves s s' none
  | claimed (r r' : SheetSyncJobModel) (hrow : Rewrites s.db.val s'.db.val r r')
      (hqueued : r.status = .queued) (hrunning : r'.status = .running)
      (hexecuting : s'.executing = r.id :: s.executing) (habandoned : s'.abandoned = s.abandoned) :
      Moves s s' none
  | finished (r r' : SheetSyncJobModel) (hrow : Rewrites s.db.val s'.db.val r r')
      (hmine : r.id ∈ s.executing) (hdone : r'.status = .succeeded ∨ r'.status = .failed)
      (hexecuting : s'.executing = s.executing.filter (· ≠ r.id))
      (habandoned : s'.abandoned = s.abandoned) : Moves s s' none
  | retried (r r' : SheetSyncJobModel) (hrow : Rewrites s.db.val s'.db.val r r')
      (hmine : r.id ∈ s.executing) (hqueued : r'.status = .queued)
      (hexecuting : s'.executing = s.executing.filter (· ≠ r.id))
      (habandoned : s'.abandoned = s.abandoned) : Moves s s' (some r)
  | abandoned (r r' : SheetSyncJobModel) (hrow : Rewrites s.db.val s'.db.val r r')
      (hmine : r.id ∈ s.executing) (hsame : r'.status = r.status)
      (hexecuting : s'.executing = s.executing.filter (· ≠ r.id))
      (habandoned : s'.abandoned = r.id :: s.abandoned) : Moves s s' none

/-- The row a failed attempt puts back into the queue. -/
def retryOf (s : QueueState) : QueueEvent → Option SheetSyncJobModel
  | .fail job _ _ _ => (s.executingJob job).filter fun row => row.attemptCount < maxAttempts
  | _ => none

/-- Nothing happened. -/
theorem Moves.refl (s : QueueState) : Moves s s none := .kept rfl rfl rfl

/-- A stored state differs in its tables only. -/
theorem moves_store {s : QueueState} {x : Except PyError SheetDatabase}
    (h : ∀ db, x = .ok db → Moves s { s with db } none) : Moves s (s.store x).1 none := by
  cases x with
  | ok db => exact h db rfl
  | error e => exact .refl s

theorem executingJob_eq_some {s : QueueState} {job : JobId} {row : SheetSyncJobModel}
    (h : s.executingJob job = some row) :
    row ∈ s.db.val.jobs ∧ row.id = job ∧ job ∈ s.executing := by
  unfold QueueState.executingJob at h
  split at h
  · rename_i hmine
    exact ⟨List.mem_of_find?_eq_some h, by simpa using List.find?_some h, hmine⟩
  · exact absurd h (by simp)

/-- An update of the jobs by primary key. -/
theorem Rewrites.of_update {db : SheetDatabase} {t' : SheetTables} {r : SheetSyncJobModel}
    (hr : r ∈ db.val.jobs) (f : SheetSyncJobModel → SheetSyncJobModel)
    (hid : ∀ j, (f j).id = j.id) (hconnection : ∀ j, (f j).connectionId = j.connectionId)
    (h : t'.jobs = updateWhere (fun j => j.id = r.id) f db.val.jobs) :
    Rewrites db.val t' r (f r) := by
  obtain ⟨pre, post, hsplit, hupdate⟩ := db.property.2.2.1.updateWhere_split hr f
  exact ⟨⟨pre, post, hsplit, h.trans hupdate⟩, hid r, hconnection r⟩

/-! ## Creating jobs -/

/-- One new job for a connection without one. -/
theorem Moves.of_one {s s' : QueueState} (job : SheetSyncJobModel)
    (hjobs : s'.db.val.jobs = s.db.val.jobs ++ [job]) (hqueued : job.status = .queued)
    (hnone : queuedCount s.db.val job.connectionId = 0) (hexecuting : s'.executing = s.executing)
    (habandoned : s'.abandoned = s.abandoned) : Moves s s' none := by
  refine .created [job] hjobs ?_ (List.nodup_singleton _) ?_ hexecuting habandoned
  · intro j hj
    rw [List.mem_singleton.mp hj]
    exact hqueued
  · intro j hj
    rw [List.mem_singleton.mp hj]
    exact hnone

theorem moves_enqueue (s : QueueState) (owner : UserId) (trigger : SheetSyncTrigger) (id : JobId)
    (now : Instant) {db : SheetDatabase}
    (h : (enqueue s.db owner trigger id now).map Prod.fst = .ok db) :
    Moves s { s with db } none := by
  cases hrun : enqueue s.db owner trigger id now with
  | error e =>
      rw [hrun] at h
      exact absurd h (by simp [Except.map])
  | ok r =>
      rw [hrun] at h
      obtain rfl : r.1 = db := Except.ok.inj h
      simp only [enqueue, Py.bind_eq_ok] at hrun
      obtain ⟨connection, -, -, -, hrun⟩ := hrun
      split at hrun
      · obtain rfl := Except.ok.inj hrun
        exact .kept rfl rfl rfl
      · rename_i hnone
        obtain ⟨committed, hcommit, hreturn⟩ := Py.bind_eq_ok.mp hrun
        obtain rfl := Except.ok.inj hreturn
        refine Moves.of_one (queuedJob id connection.id trigger now) ?_ rfl ?_ rfl rfl
        · show committed.val.jobs = _
          rw [Sql.commit_eq_ok.mp hcommit]
        · exact queuedCount_eq_zero.mpr (Sql.firstBy_eq_none.mp hnone)

theorem moves_enqueueSheetSync (s : QueueState) (owner : UserId) (trigger : SheetSyncTrigger)
    (id : JobId) (now : Instant) {db : SheetDatabase}
    (h : (enqueueSheetSync s.db.val owner trigger id now).1.commit = .ok db) :
    Moves s { s with db } none := by
  have hval := Sql.commit_eq_ok.mp h
  unfold enqueueSheetSync at hval
  split at hval
  · exact .kept (congrArg SheetTables.jobs hval) rfl rfl
  · rename_i connection hconnection
    split at hval
    · exact .kept (congrArg SheetTables.jobs hval) rfl rfl
    · rename_i hnone
      refine Moves.of_one (queuedJob id connection.id trigger now)
        (congrArg SheetTables.jobs hval) rfl ?_ rfl rfl
      refine queuedCount_eq_zero.mpr fun j hj => ?_
      have hnot := List.find?_eq_none.mp hnone j hj
      exact Bool.eq_false_of_not_eq_true hnot

theorem needsJob_iff {t : SheetTables} {now : Instant} {c : SheetConnectionModel} :
    needsJob t now c = true ↔ c.enabled = true ∧ c.dueAt ≤ now ∧
      ∀ j ∈ t.jobs, j.connectionId = c.id → j.status ≠ .queued ∧ j.status ≠ .running := by
  simp only [needsJob, decide_eq_true_eq, List.any_eq_true, not_exists, not_and, not_or]

theorem mem_dueJobs {t : SheetTables} {ids : ConnectionId → JobId} {now : Instant}
    {j : SheetSyncJobModel} :
    j ∈ dueJobs t ids now ↔ ∃ c ∈ t.connections, needsJob t now c = true ∧
      queuedJob (ids c.id) c.id .scheduled now = j := by
  simp only [dueJobs, List.mem_map, List.mem_filter, and_assoc]

/-- One job for each connection, and a connection is listed once. -/
theorem dueJobs_distinct (db : SheetDatabase) (ids : ConnectionId → JobId) (now : Instant) :
    ((dueJobs db.val ids now).map SheetSyncJobModel.connectionId).Nodup := by
  have hids : (dueJobs db.val ids now).map SheetSyncJobModel.connectionId =
      (db.val.connections.filter (needsJob db.val now)).map SheetConnectionModel.id := by
    rw [dueJobs, List.map_map]
    rfl
  rw [hids]
  exact (List.Sublist.map _ List.filter_sublist).nodup db.property.1

theorem moves_enqueueDueSheetSyncs (s : QueueState) (ids : ConnectionId → JobId) (now : Instant)
    {db : SheetDatabase} (h : (enqueueDueSheetSyncs s.db ids now).map Prod.fst = .ok db) :
    Moves s { s with db } none := by
  unfold enqueueDueSheetSyncs at h
  split at h
  · obtain rfl := Except.ok.inj h
    exact .kept rfl rfl rfl
  · cases hcommit : SheetTables.commit
        { s.db.val with jobs := s.db.val.jobs ++ dueJobs s.db.val ids now } with
    | error e =>
        rw [hcommit] at h
        exact absurd h (by simp [Except.map])
    | ok committed =>
        rw [hcommit] at h
        obtain rfl : committed = db := Except.ok.inj h
        have hval := Sql.commit_eq_ok.mp hcommit
        refine .created (dueJobs s.db.val ids now) (congrArg SheetTables.jobs hval) ?_
          (dueJobs_distinct s.db ids now) ?_ rfl rfl
        · intro j hj
          exact (mem_dueJobs.mp hj).choose_spec.2.2 ▸ rfl
        · intro j hj
          obtain ⟨c, -, hneeds, rfl⟩ := mem_dueJobs.mp hj
          refine queuedCount_eq_zero.mpr ?_
          intro j hj
          simp only [isQueuedFor, decide_eq_false_iff_not, not_and]
          exact fun hconnection => ((needsJob_iff.mp hneeds).2.2 j hj hconnection).1

/-! ## Claiming and settling -/

theorem moves_claim (s : QueueState) (locked : List JobId) (now : Instant) :
    Moves s (s.take (claimNextSheetSyncJob s.db locked now)).1 none := by
  unfold claimNextSheetSyncJob
  cases hfirst : Sql.firstBy SheetSyncJobModel.createdAt (isClaimable locked now) s.db.val.jobs with
  | none => exact .kept rfl rfl rfl
  | some job =>
      obtain ⟨hjob, hclaimable⟩ := Sql.mem_of_firstBy hfirst
      have hqueued : job.status = .queued := by
        simp only [isClaimable, decide_eq_true_eq] at hclaimable
        exact hclaimable.1
      obtain ⟨db', hcommit, hval⟩ := s.db.commit_of_same_keys
        { s.db.val with jobs := updateWhere (fun j => j.id = job.id) (·.claim now) s.db.val.jobs }
        rfl (Sql.map_updateWhere (fun j => j.id = job.id) (·.claim now)
          (fun j => (j.id, j.connectionId)) (fun _ => rfl) s.db.val.jobs)
      show Moves s (s.take (Except.map _ (SheetTables.commit _))).1 none
      rw [hcommit]
      refine .claimed job (job.claim now) ?_ hqueued rfl rfl rfl
      exact Rewrites.of_update hjob (·.claim now) (fun _ => rfl) (fun _ => rfl)
        (congrArg SheetTables.jobs hval)

theorem recordFailure_id (message : String) (now : Instant) (j : SheetSyncJobModel) :
    (j.recordFailure message now).id = j.id := by
  unfold SheetSyncJobModel.recordFailure
  split <;> rfl

theorem recordFailure_connectionId (message : String) (now : Instant) (j : SheetSyncJobModel) :
    (j.recordFailure message now).connectionId = j.connectionId := by
  unfold SheetSyncJobModel.recordFailure
  split <;> rfl

theorem recordFailure_status (message : String) (now : Instant) (j : SheetSyncJobModel) :
    (j.recordFailure message now).status =
      if j.attemptCount < maxAttempts then .queued else .failed := by
  unfold SheetSyncJobModel.recordFailure
  split <;> rfl

theorem moves_succeed (s : QueueState) (job : JobId) (report : SyncReport)
    {row : SheetSyncJobModel} (hrow : s.executingJob job = some row) :
    Moves s (s.settle job (completeSheetSync s.db row report)).1 none := by
  obtain ⟨hmem, rfl, hmine⟩ := executingJob_eq_some hrow
  obtain ⟨db', hcommit, hval⟩ := s.db.commit_updates (fun c => c.id = row.connectionId)
    (·.succeed report) (fun _ => rfl) (fun j => j.id = row.id) (·.succeed report)
    fun _ => rfl
  show Moves s (s.settle row.id (SheetTables.commit _)).1 none
  rw [hcommit]
  refine .finished row (row.succeed report) ?_ hmine (Or.inl rfl) rfl rfl
  exact Rewrites.of_update hmem (·.succeed report) (fun _ => rfl) (fun _ => rfl)
    (congrArg SheetTables.jobs hval)

theorem moves_fail (s : QueueState) (job : JobId) (rowsRead : Option ℕ) (error : String)
    (now : Instant) {row : SheetSyncJobModel} (hrow : s.executingJob job = some row) :
    Moves s (s.settle job (recordSheetSyncFailure s.db
      { row with rowsRead := rowsRead.getD row.rowsRead } error now)).1
      (retryOf s (.fail job rowsRead error now)) := by
  obtain ⟨hmem, rfl, hmine⟩ := executingJob_eq_some hrow
  set message := Py.Text.take 2000 error
  let record : SheetSyncJobModel → SheetSyncJobModel := fun j =>
    { j with rowsRead := rowsRead.getD row.rowsRead }.recordFailure message now
  have hid : ∀ j, (record j).id = j.id := fun j => recordFailure_id _ _ _
  have hconnection : ∀ j, (record j).connectionId = j.connectionId := fun j =>
    recordFailure_connectionId _ _ _
  obtain ⟨db', hcommit, hval⟩ := s.db.commit_updates (fun c => c.id = row.connectionId)
    (·.recordFailure message now) (fun _ => rfl) (fun j => j.id = row.id) record
    fun j => Prod.ext (hid j) (hconnection j)
  have hrewrites : Rewrites s.db.val db'.val row (record row) :=
    Rewrites.of_update hmem record hid hconnection (congrArg SheetTables.jobs hval)
  have hstatus : (record row).status = if row.attemptCount < maxAttempts then .queued else .failed :=
    recordFailure_status _ _ _
  have hrecorded : recordSheetSyncFailure s.db
      { row with rowsRead := rowsRead.getD row.rowsRead } error now = .ok db' := hcommit
  rw [hrecorded]
  by_cases hattempts : row.attemptCount < maxAttempts
  · -- another attempt: the row goes back into the queue
    have hretry : retryOf s (.fail row.id rowsRead error now) = some row := by
      simp [retryOf, hrow, hattempts]
    rw [hretry]
    rw [if_pos hattempts] at hstatus
    exact .retried row (record row) hrewrites hmine hstatus rfl rfl
  · have hretry : retryOf s (.fail row.id rowsRead error now) = none := by
      simp [retryOf, hrow, not_lt.mp hattempts]
    rw [hretry]
    rw [if_neg hattempts] at hstatus
    exact .finished row (record row) hrewrites hmine (Or.inr hstatus) rfl rfl

theorem moves_kill (s : QueueState) (job : JobId) (progress : Option (Instant × ℕ))
    {row : SheetSyncJobModel} (hrow : s.executingJob job = some row) :
    Moves s (s.abandon job (s.db.val.storeProgress row progress).commit).1 none := by
  obtain ⟨hmem, rfl, hmine⟩ := executingJob_eq_some hrow
  cases progress with
  | none =>
      show Moves s (s.abandon row.id (SheetTables.commit s.db.val)).1 none
      rw [show SheetTables.commit s.db.val = .ok s.db from Sql.commit_of _ s.db.property]
      obtain ⟨pre, post, hsplit, -⟩ := s.db.property.2.2.1.updateWhere_split hmem id
      exact .abandoned row row ⟨⟨pre, post, hsplit, hsplit⟩, rfl, rfl⟩ hmine rfl rfl rfl
  | some p =>
      obtain ⟨attemptedAt, rowsRead⟩ := p
      obtain ⟨db', hcommit, hval⟩ := s.db.commit_updates (fun c => c.id = row.connectionId)
        (fun c => { c with lastAttemptAt := some attemptedAt }) (fun _ => rfl)
        (fun j => j.id = row.id) (fun j => { j with rowsRead }) fun _ => rfl
      have hstored : (s.db.val.storeProgress row (some (attemptedAt, rowsRead))).commit =
          .ok db' := hcommit
      rw [hstored]
      refine .abandoned row { row with rowsRead } ?_ hmine rfl rfl rfl
      exact Rewrites.of_update hmem (fun j => { j with rowsRead }) (fun _ => rfl) (fun _ => rfl)
        (congrArg SheetTables.jobs hval)

/-! ## One step -/

theorem moves_configure (s : QueueState) (owner : UserId) (values : ConnectionValues)
    (id : ConnectionId) (now : Instant) {db : SheetDatabase}
    (h : (configure s.db owner values id now).map Prod.fst = .ok db) :
    Moves s { s with db } none := by
  cases hrun : configure s.db owner values id now with
  | error e =>
      rw [hrun] at h
      exact absurd h (by simp [Except.map])
  | ok r =>
      rw [hrun] at h
      obtain rfl : r.1 = db := Except.ok.inj h
      refine .kept ?_ rfl rfl
      -- both branches write the connections only
      simp only [configure, Py.bind_eq_ok] at hrun
      obtain ⟨normalized, -, hrun⟩ := hrun
      split at hrun
      · obtain ⟨committed, hcommit, hreturn⟩ := Py.bind_eq_ok.mp hrun
        obtain rfl := Except.ok.inj hreturn
        show committed.val.jobs = _
        rw [Sql.commit_eq_ok.mp hcommit]
      · obtain ⟨committed, hcommit, hreturn⟩ := Py.bind_eq_ok.mp hrun
        obtain rfl := Except.ok.inj hreturn
        show committed.val.jobs = _
        rw [Sql.commit_eq_ok.mp hcommit]

/-- **What a step of the queue can do.** -/
theorem queueMachine_moves (s : QueueState) (e : QueueEvent) :
    Moves s (queueMachine.next s e) (retryOf s e) := by
  cases e with
  | configure owner values id now =>
      simp only [Machine.next, queueMachine]
      exact moves_store fun db h => moves_configure s owner values id now h
  | enqueue owner trigger id now =>
      exact moves_store fun db h => moves_enqueue s owner trigger id now h
  | enqueueSheetSync owner trigger id now =>
      exact moves_store fun db h => moves_enqueueSheetSync s owner trigger id now h
  | enqueueDueSheetSyncs ids now =>
      exact moves_store fun db h => moves_enqueueDueSheetSyncs s ids now h
  | claim locked now => exact moves_claim s locked now
  | succeed job report =>
      unfold Machine.next queueMachine
      cases hrow : s.executingJob job with
      | none => simpa [hrow, retryOf] using Moves.refl s
      | some row => simpa [hrow, retryOf] using moves_succeed s job report hrow
  | fail job rowsRead error now =>
      unfold Machine.next queueMachine
      cases hrow : s.executingJob job with
      | none => simpa [hrow, retryOf] using Moves.refl s
      | some row => simpa [hrow] using moves_fail s job rowsRead error now hrow
  | kill job progress =>
      unfold Machine.next queueMachine
      cases hrow : s.executingJob job with
      | none => simpa [hrow, retryOf] using Moves.refl s
      | some row => simpa [hrow, retryOf] using moves_kill s job progress hrow

end BondTrading
