/-
# BondTrading.Sheets.Starvation -- which due connections a pass of the scheduler serves

The scheduler takes a RUNNING row for live work.  While the workers settle what they
claim, a pass leaves every due connection with a waiting job; the row of a killed worker
stays RUNNING, and hides its connection from every later pass.
-/
import BondTrading.Sheets.Coalescing

namespace BondTrading

open Py (Instant)
open Sql (UniqueOn)
open Machines (Machine)

/-- The identifiers drawn by a pass are new. -/
structure FreshJobIds (t : SheetTables) (ids : ConnectionId → JobId) : Prop where
  injective : ∀ c ∈ t.connections, ∀ c' ∈ t.connections, ids c.id = ids c'.id → c.id = c'.id
  unused : ∀ c ∈ t.connections, ∀ j ∈ t.jobs, j.id ≠ ids c.id

/-- A pass with new identifiers commits. -/
theorem dueJobs_commit (db : SheetDatabase) {ids : ConnectionId → JobId} (now : Instant)
    (hfresh : FreshJobIds db.val ids) :
    SheetTables.Constraints
      { db.val with jobs := db.val.jobs ++ dueJobs db.val ids now } := by
  obtain ⟨hid, howner, hjob, hforeign⟩ := db.property
  refine ⟨hid, howner, ?_, ?_⟩
  · unfold UniqueOn
    rw [List.map_append, List.nodup_append]
    refine ⟨hjob, ?_, ?_⟩
    · -- distinct connections draw distinct identifiers
      have hids : (dueJobs db.val ids now).map SheetSyncJobModel.id =
          ((db.val.connections.filter (needsJob db.val now)).map SheetConnectionModel.id).map ids := by
        rw [dueJobs, List.map_map, List.map_map]
        rfl
      rw [hids]
      refine List.Nodup.map_on ?_ ((List.Sublist.map _ List.filter_sublist).nodup hid)
      intro x hx y hy hxy
      obtain ⟨c, hc, rfl⟩ := List.mem_map.mp hx
      obtain ⟨c', hc', rfl⟩ := List.mem_map.mp hy
      exact hfresh.injective c (List.mem_filter.mp hc).1 c' (List.mem_filter.mp hc').1 hxy
    · intro x hx y hy
      obtain ⟨j, hj, rfl⟩ := List.mem_map.mp hx
      obtain ⟨k, hk, rfl⟩ := List.mem_map.mp hy
      obtain ⟨c, hc, -, rfl⟩ := mem_dueJobs.mp hk
      exact hfresh.unused c hc j hj
  · intro j hj
    rcases List.mem_append.mp hj with hj | hj
    · exact hforeign j hj
    · obtain ⟨c, hc, -, rfl⟩ := mem_dueJobs.mp hj
      exact ⟨c, hc, rfl⟩

/-- What a pass leaves behind: every enabled connection whose time has come has a job
that waits or runs. -/
theorem enqueueDueSheetSyncs_serves (db : SheetDatabase) {ids : ConnectionId → JobId}
    {now : Instant} (hfresh : FreshJobIds db.val ids) :
    ∃ db' created, enqueueDueSheetSyncs db ids now = .ok (db', created) ∧
      ∀ c ∈ db.val.connections, c.enabled = true → c.dueAt ≤ now →
        ∃ j ∈ db'.val.jobs, j.connectionId = c.id ∧
          (j.status = .queued ∨ j.status = .running ∧ j ∈ db.val.jobs) := by
  have hserved : ∀ jobs : List SheetSyncJobModel, (∀ j ∈ db.val.jobs, j ∈ jobs) →
      (∀ j ∈ dueJobs db.val ids now, j ∈ jobs) →
      ∀ c ∈ db.val.connections, c.enabled = true → c.dueAt ≤ now →
        ∃ j ∈ jobs, j.connectionId = c.id ∧
          (j.status = .queued ∨ j.status = .running ∧ j ∈ db.val.jobs) := by
    intro jobs hold hnew c hc henabled hdue
    by_cases hneeds : needsJob db.val now c = true
    · exact ⟨_, hnew _ (mem_dueJobs.mpr ⟨c, hc, hneeds, rfl⟩), rfl, Or.inl rfl⟩
    · -- a job of the connection waits or runs already
      rw [needsJob_iff] at hneeds
      push Not at hneeds
      obtain ⟨j, hj, hconnection, hstatus⟩ := hneeds henabled hdue
      refine ⟨j, hold j hj, hconnection, ?_⟩
      by_cases hqueued : j.status = .queued
      · exact Or.inl hqueued
      · exact Or.inr ⟨hstatus hqueued, hj⟩
  unfold enqueueDueSheetSyncs
  by_cases hnone : dueJobs db.val ids now = []
  · refine ⟨db, 0, if_pos hnone, hserved _ (fun _ h => h) ?_⟩
    rw [hnone]
    exact fun _ h => absurd h List.not_mem_nil
  · have hcommit : SheetTables.commit { db.val with jobs := db.val.jobs ++ dueJobs db.val ids now } =
        .ok ⟨_, dueJobs_commit db now hfresh⟩ := Sql.commit_of _ (dueJobs_commit db now hfresh)
    refine ⟨⟨_, dueJobs_commit db now hfresh⟩, (dueJobs db.val ids now).length, ?_, ?_⟩
    · rw [if_neg hnone, hcommit]
      rfl
    · exact hserved _ (fun _ => List.mem_append_left _) fun _ => List.mem_append_right _

/-- **No due connection is left without a job, except behind a killed worker.**  In every
reachable state in which no worker is executing, a pass leaves every enabled connection
whose time has come with a QUEUED job, unless a job abandoned by a killed worker is
still RUNNING for it. -/
theorem due_connection_queued (db : SheetDatabase) (hempty : db.val.jobs = [])
    (es : List QueueEvent) (ids : ConnectionId → JobId) (now : Instant)
    (hidle : (queueMachine.run (QueueState.initial db) es).executing = [])
    (hfresh : FreshJobIds (queueMachine.run (QueueState.initial db) es).db.val ids) :
    ∃ db' created,
      enqueueDueSheetSyncs (queueMachine.run (QueueState.initial db) es).db ids now =
        .ok (db', created) ∧
      ∀ c ∈ (queueMachine.run (QueueState.initial db) es).db.val.connections,
        c.enabled = true → c.dueAt ≤ now →
        (∀ j ∈ (queueMachine.run (QueueState.initial db) es).db.val.jobs,
          j.connectionId = c.id → j.status = .running →
          j.id ∉ (queueMachine.run (QueueState.initial db) es).abandoned) →
        ∃ j ∈ db'.val.jobs, j.connectionId = c.id ∧ j.status = .queued := by
  have hwf : (queueMachine.run (QueueState.initial db) es).WellFormed :=
    queueMachine.invariant_run wellFormed_next (wellFormed_initial hempty) es
  generalize queueMachine.run (QueueState.initial db) es = s at *
  obtain ⟨db', created, hpass, hserves⟩ := enqueueDueSheetSyncs_serves s.db hfresh
  refine ⟨db', created, hpass, ?_⟩
  intro c hc henabled hdue halive
  obtain ⟨j, hj, hconnection, hqueued | ⟨hrunning, hold⟩⟩ := hserves c hc henabled hdue
  · exact ⟨j, hj, hconnection, hqueued⟩
  · -- a RUNNING row that nobody executes was abandoned
    rcases hwf.known_of_running j hold hrunning with hexec | haband
    · rw [hidle] at hexec
      exact absurd hexec List.not_mem_nil
    · exact absurd haband (halive j hold hconnection hrunning)

/-- The worker of the first scheduled job is killed. -/
def killedRun : List QueueEvent :=
  [.enqueueDueSheetSyncs (fun _ => 20) 300000000, .claim [] 300000001, .kill 20 none]

/-- An hour after the kill the connection is due and the pass adds nothing for it. -/
theorem killedRun_starves :
    ¬ ∀ (ids : ConnectionId → JobId) (now : Instant),
      (queueMachine.run (QueueState.initial customerDatabase) killedRun).executing = [] →
      ∃ db' created,
        enqueueDueSheetSyncs
          (queueMachine.run (QueueState.initial customerDatabase) killedRun).db ids now =
            .ok (db', created) ∧
        ∀ c ∈ (queueMachine.run (QueueState.initial customerDatabase) killedRun).db.val.connections,
          c.enabled = true → c.dueAt < now →
          ∃ j ∈ db'.val.jobs, j.connectionId = c.id ∧ j.status = .queued := by
  intro h
  obtain ⟨db', created, hpass, hserves⟩ := h (fun _ => 21) 3900000000 (by decide +kernel)
  have hdb : db' = (queueMachine.run (QueueState.initial customerDatabase) killedRun).db := by
    have hnone : enqueueDueSheetSyncs
        (queueMachine.run (QueueState.initial customerDatabase) killedRun).db (fun _ => 21)
        3900000000 = .ok ((queueMachine.run (QueueState.initial customerDatabase) killedRun).db, 0) :=
      if_pos (by decide +kernel)
    exact (Prod.mk.inj (Except.ok.inj (hpass.symm.trans hnone))).1
  obtain ⟨j, hj, -, hqueued⟩ := hserves customerConnection (by decide +kernel)
    (by decide) (by decide)
  rw [hdb] at hj
  have hrunning : ∀ j ∈ (queueMachine.run (QueueState.initial customerDatabase) killedRun).db.val.jobs,
      j.status = .running := by decide +kernel
  exact absurd ((hrunning j hj).symm.trans hqueued) (by decide)

/-- A scheduled job runs and succeeds. -/
def succeededRun : List QueueEvent :=
  [.enqueueDueSheetSyncs (fun _ => 20) 300000000, .claim [] 300000001,
    .succeed 20 ⟨300000001, 1, 1, 1, [], "hash", 300000002⟩]

theorem due_connection_queued_succeededRun :
    ∃ db' created,
      enqueueDueSheetSyncs
          (queueMachine.run (QueueState.initial customerDatabase) succeededRun).db (fun _ => 21)
          900000000 = .ok (db', created) ∧
        ∃ j ∈ db'.val.jobs, j.connectionId = 10 ∧ j.status = .queued := by
  obtain ⟨db', created, hpass, hserves⟩ := due_connection_queued customerDatabase rfl succeededRun
    (fun _ => 21) 900000000 (by decide +kernel) ⟨by decide +kernel, by decide +kernel⟩
  refine ⟨db', created, hpass, ?_⟩
  exact hserves (customerConnection.succeed ⟨300000001, 1, 1, 1, [], "hash", 300000002⟩)
    (by decide +kernel) (by decide +kernel) (by decide +kernel) (by decide +kernel)

end BondTrading
