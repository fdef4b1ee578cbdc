/-
# BondTrading.Sheets.Effects -- what one step writes

`Moves` follows the status of the jobs.  The attempt counters, the triggers, the times and
the connections need more: `Effect` says for every event which rows it writes and with
which values, so an invariant of the queue is one case analysis.
-/
import BondTrading.Sheets.Coalescing

namespace BondTrading

open Py (Instant)
open Sql (UniqueOn updateWhere)
open Machines (Machine Entry)

/-! ## The claim of a step -/

/-- The job a step claims. -/
def claimOf (s : QueueState) : QueueEvent → Option JobId
  | .claim locked now => (claimNextSheetSyncJob s.db locked now).toOption.bind Prod.snd
  | _ => none

/-- The row a claim takes. -/
theorem claimNextSheetSyncJob_cases (db : SheetDatabase) (locked : List JobId) (now : Instant) :
    claimNextSheetSyncJob db locked now = .ok (db, none) ∨
      ∃ r ∈ db.val.jobs, isClaimable locked now r = true ∧ ∃ db' : SheetDatabase,
        claimNextSheetSyncJob db locked now = .ok (db', some r.id) ∧
          db'.val = { db.val with
            jobs := updateWhere (fun j => j.id = r.id) (·.claim now) db.val.jobs } := by
  unfold claimNextSheetSyncJob
  cases hfirst : Sql.firstBy SheetSyncJobModel.createdAt (isClaimable locked now) db.val.jobs with
  | none => exact Or.inl rfl
  | some r =>
      obtain ⟨hr, hclaimable⟩ := Sql.mem_of_firstBy hfirst
      obtain ⟨db', hcommit, hval⟩ := db.commit_of_same_keys
        { db.val with jobs := updateWhere (fun j => j.id = r.id) (·.claim now) db.val.jobs }
        rfl (Sql.map_updateWhere (fun j => j.id = r.id) (·.claim now)
          (fun j => (j.id, j.connectionId)) (fun _ => rfl) db.val.jobs)
      refine Or.inr ⟨r, hr, hclaimable, db', ?_, hval⟩
      show Except.map _ (SheetTables.commit _) = _
      rw [hcommit]
      rfl

theorem isClaimable_iff {locked : List JobId} {now : Instant} {j : SheetSyncJobModel} :
    isClaimable locked now j = true ↔
      j.status = .queued ∧ (∀ next ∈ j.nextAttemptAt, next ≤ now) ∧ j.id ∉ locked := by
  simp only [isClaimable, decide_eq_true_eq, Option.all_eq_true]
  exact Iff.rfl

/-! ## The effect of a step -/

/-- A job is created for a connection that has none in the queue; only a manual one while
the connection is disabled. -/
structure Enqueues (t : SheetTables) (trigger : SheetSyncTrigger) (id : JobId) (now : Instant)
    (t' : SheetTables) : Prop where
  created : ∃ c ∈ t.connections, (c.enabled = true ∨ trigger = .manual) ∧
    t' = { t with jobs := t.jobs ++ [queuedJob id c.id trigger now] }

/-- **The effect of a step**: nothing, or what the operation writes. -/
inductive Effect (s : QueueState) : QueueEvent → QueueState → Prop
  | idle (e : QueueEvent) (hclaim : claimOf s e = none)
      (hrefused : ∀ owner values id now, e = .configure owner values id now →
        ∀ c ∈ s.db.val.connectionOf owner, ∀ normalized, values.normalize ≠ .ok normalized) :
      Effect s e s
  | reconfigured (owner : UserId) (values normalized : ConnectionValues) (id : ConnectionId)
      (now : Instant) (c : SheetConnectionModel) (db : SheetDatabase)
      (hnormalized : values.normalize = .ok normalized)
      (hconnection : s.db.val.connectionOf owner = some c)
      (hval : db.val = { s.db.val with
        connections := updateWhere (fun k => k.id = c.id) (·.assign normalized)
          s.db.val.connections }) :
      Effect s (.configure owner values id now) { s with db }
  | connected (owner : UserId) (values normalized : ConnectionValues) (id : ConnectionId)
      (now : Instant) (db : SheetDatabase)
      (hconnection : s.db.val.connectionOf owner = none)
      (hval : db.val = { s.db.val with
        connections := s.db.val.connections ++ [(newConnection id owner now).assign normalized] }) :
      Effect s (.configure owner values id now) { s with db }
  | enqueued (owner : UserId) (trigger : SheetSyncTrigger) (id : JobId) (now : Instant)
      (db : SheetDatabase) (hval : Enqueues s.db.val trigger id now db.val) :
      Effect s (.enqueue owner trigger id now) { s with db }
  | followed (owner : UserId) (trigger : SheetSyncTrigger) (id : JobId) (now : Instant)
      (db : SheetDatabase) (hval : Enqueues s.db.val trigger id now db.val) :
      Effect s (.enqueueSheetSync owner trigger id now) { s with db }
  | scheduled (ids : ConnectionId → JobId) (now : Instant) (db : SheetDatabase)
      (hval : db.val = { s.db.val with jobs := s.db.val.jobs ++ dueJobs s.db.val ids now }) :
      Effect s (.enqueueDueSheetSyncs ids now) { s with db }
  | claimed (locked : List JobId) (now : Instant) (r : SheetSyncJobModel) (db : SheetDatabase)
      (hr : r ∈ s.db.val.jobs) (hclaimable : isClaimable locked now r = true)
      (hclaim : claimOf s (.claim locked now) = some r.id)
      (hval : db.val = { s.db.val with
        jobs := updateWhere (fun j => j.id = r.id) (·.claim now) s.db.val.jobs }) :
      Effect s (.claim locked now) { s with db, executing := r.id :: s.executing }
  | succeeded (report : SyncReport) (r : SheetSyncJobModel) (db : SheetDatabase)
      (hr : r ∈ s.db.val.jobs) (hmine : r.id ∈ s.executing)
      (hval : db.val =
        { connections := updateWhere (fun c => c.id = r.connectionId) (·.succeed report)
            s.db.val.connections
          jobs := updateWhere (fun j => j.id = r.id) (·.succeed report) s.db.val.jobs }) :
      Effect s (.succeed r.id report)
        { s with db, executing := s.executing.filter (· ≠ r.id) }
  | failed (rowsRead : Option ℕ) (error : String) (now : Instant) (r : SheetSyncJobModel)
      (db : SheetDatabase) (hr : r ∈ s.db.val.jobs) (hmine : r.id ∈ s.executing)
      (hval : db.val = s.db.val.recordFailure
        { r with rowsRead := rowsRead.getD r.rowsRead } error now) :
      Effect s (.fail r.id rowsRead error now)
        { s with db, executing := s.executing.filter (· ≠ r.id) }
  | killed (progress : Option (Instant × ℕ)) (r : SheetSyncJobModel) (db : SheetDatabase)
      (hr : r ∈ s.db.val.jobs) (hmine : r.id ∈ s.executing)
      (hval : db.val = s.db.val.storeProgress r progress) :
      Effect s (.kill r.id progress)
        { db
          executing := s.executing.filter (· ≠ r.id)
          abandoned := r.id :: s.abandoned }

/-- The event that writes the settings of a connection. -/
def QueueEvent.isConfigure : QueueEvent → Bool
  | .configure .. => true
  | _ => false

/-- An event that left everything as it was. -/
theorem Effect.nothing {s : QueueState} {e : QueueEvent} (hclaim : claimOf s e = none)
    (he : e.isConfigure = false) : Effect s e s := by
  refine .idle e hclaim ?_
  rintro owner values id now rfl
  cases he

/-- A stored state differs in its tables only. -/
theorem effect_store {s : QueueState} {e : QueueEvent} (hclaim : claimOf s e = none)
    (he : e.isConfigure = false) {x : Except PyError SheetDatabase}
    (h : ∀ db, x = .ok db → Effect s e { s with db }) : Effect s e (s.store x).1 := by
  cases x with
  | ok db => exact h db rfl
  | error error => exact .nothing hclaim he

/-- The tables are what they were. -/
theorem effect_same {s : QueueState} {e : QueueEvent} (hclaim : claimOf s e = none)
    (he : e.isConfigure = false) {db : SheetDatabase} (h : db.val = s.db.val) :
    Effect s e { s with db } := by
  obtain rfl : db = s.db := Subtype.ext h
  exact .nothing hclaim he

/-! ## One lemma for each operation -/

section Operations

variable (s : QueueState)

theorem effect_configure (owner : UserId) (values : ConnectionValues) (id : ConnectionId)
    (now : Instant) :
    Effect s (.configure owner values id now)
      (s.store ((configure s.db owner values id now).map Prod.fst)).1 := by
  -- a refused `configure` met no connection it could have updated
  have hrefuse : (∀ c ∈ s.db.val.connectionOf owner, ∀ n, values.normalize ≠ .ok n) →
      Effect s (.configure owner values id now) s := by
    intro hnone
    refine .idle _ rfl ?_
    rintro owner' values' id' now' heq
    obtain ⟨rfl, rfl, -, -⟩ := QueueEvent.configure.inj heq
    exact hnone
  unfold configure
  cases hnormalized : values.normalize with
  | error e =>
      refine hrefuse ?_
      intro c _ n hn
      cases hnormalized.symm.trans hn
  | ok normalized =>
      cases hconnection : s.db.val.connectionOf owner with
      | none =>
          cases hcommit : SheetTables.commit { s.db.val with
              connections :=
                s.db.val.connections ++ [(newConnection id owner now).assign normalized] } with
          | error e =>
              simp only [Py.ok_bind, hcommit, Py.error_bind]
              refine hrefuse ?_
              intro c hc
              rw [hconnection] at hc
              cases hc
          | ok committed =>
              simp only [Py.ok_bind, hcommit]
              exact .connected owner values normalized id now _ hconnection
                (Sql.commit_eq_ok.mp hcommit)
      | some c =>
          obtain ⟨db, hcommit, hval⟩ := s.db.commit_of_same_keys
            { s.db.val with
              connections := updateWhere (fun k => k.id = c.id) (·.assign normalized)
                s.db.val.connections }
            (Sql.map_updateWhere (fun k => k.id = c.id) (·.assign normalized)
              (fun c => (c.id, c.ownerId, c.provider)) (fun _ => rfl) s.db.val.connections) rfl
          simp only [Py.ok_bind, hcommit]
          exact .reconfigured owner values normalized id now c db hnormalized hconnection hval

theorem effect_enqueue (owner : UserId) (trigger : SheetSyncTrigger) (id : JobId) (now : Instant)
    {db : SheetDatabase} (h : (enqueue s.db owner trigger id now).map Prod.fst = .ok db) :
    Effect s (.enqueue owner trigger id now) { s with db } := by
  obtain ⟨⟨committed, job⟩, hrun, rfl⟩ := Py.map_eq_ok.mp h
  simp only [enqueue, Py.bind_eq_ok, Py.raiseIf_eq_ok] at hrun
  obtain ⟨c, hconnection, -, hallowed, hrun⟩ := hrun
  split at hrun
  · obtain ⟨rfl, -⟩ := Prod.mk.inj (Except.ok.inj hrun)
    exact .nothing rfl rfl
  · obtain ⟨committed', hcommit, hreturn⟩ := Py.bind_eq_ok.mp hrun
    obtain ⟨rfl, -⟩ := Prod.mk.inj (Except.ok.inj hreturn)
    refine .enqueued owner trigger id now _ ⟨c, ?_, ?_, Sql.commit_eq_ok.mp hcommit⟩
    · exact List.mem_of_find?_eq_some (Py.orRaise_eq_ok.mp hconnection)
    · cases henabled : c.enabled with
      | true => exact Or.inl rfl
      | false => exact Or.inr (not_not.mp fun hmanual => hallowed ⟨henabled, hmanual⟩)

theorem effect_enqueueSheetSync (owner : UserId) (trigger : SheetSyncTrigger) (id : JobId)
    (now : Instant) {db : SheetDatabase}
    (h : (enqueueSheetSync s.db.val owner trigger id now).1.commit = .ok db) :
    Effect s (.enqueueSheetSync owner trigger id now) { s with db } := by
  have hval := Sql.commit_eq_ok.mp h
  unfold enqueueSheetSync at hval
  split at hval
  · exact effect_same rfl rfl hval
  · rename_i c hconnection
    split at hval
    · exact effect_same rfl rfl hval
    · have henabled : c.enabled = true := by
        have hfound := List.find?_some hconnection
        simp only [decide_eq_true_eq] at hfound
        exact hfound.2.2
      exact .followed owner trigger id now _
        ⟨c, List.mem_of_find?_eq_some hconnection, Or.inl henabled, hval⟩

theorem effect_enqueueDueSheetSyncs (ids : ConnectionId → JobId) (now : Instant)
    {db : SheetDatabase} (h : (enqueueDueSheetSyncs s.db ids now).map Prod.fst = .ok db) :
    Effect s (.enqueueDueSheetSyncs ids now) { s with db } := by
  obtain ⟨⟨committed, created⟩, hrun, rfl⟩ := Py.map_eq_ok.mp h
  unfold enqueueDueSheetSyncs at hrun
  split at hrun
  · obtain ⟨rfl, -⟩ := Prod.mk.inj (Except.ok.inj hrun)
    exact .nothing rfl rfl
  · obtain ⟨committed', hcommit, hpair⟩ := Py.map_eq_ok.mp hrun
    obtain ⟨rfl, -⟩ := Prod.mk.inj hpair
    exact .scheduled ids now _ (Sql.commit_eq_ok.mp hcommit)

theorem effect_claim (locked : List JobId) (now : Instant) :
    Effect s (.claim locked now) (s.take (claimNextSheetSyncJob s.db locked now)).1 := by
  rcases claimNextSheetSyncJob_cases s.db locked now with
    hnone | ⟨r, hr, hclaimable, db, hclaim, hval⟩
  · rw [hnone]
    refine .nothing ?_ rfl
    show (claimNextSheetSyncJob s.db locked now).toOption.bind Prod.snd = none
    rw [hnone]
    rfl
  · rw [hclaim]
    refine .claimed locked now r db hr hclaimable ?_ hval
    show (claimNextSheetSyncJob s.db locked now).toOption.bind Prod.snd = some r.id
    rw [hclaim]
    rfl

end Operations

/-- **What a step of the queue writes.** -/
theorem queueMachine_effect (s : QueueState) (e : QueueEvent) :
    Effect s e (queueMachine.next s e) := by
  cases e with
  | configure owner values id now =>
      exact effect_configure s owner values id now
  | enqueue owner trigger id now =>
      exact effect_store rfl rfl fun db h => effect_enqueue s owner trigger id now h
  | enqueueSheetSync owner trigger id now =>
      exact effect_store rfl rfl fun db h => effect_enqueueSheetSync s owner trigger id now h
  | enqueueDueSheetSyncs ids now =>
      exact effect_store rfl rfl fun db h => effect_enqueueDueSheetSyncs s ids now h
  | claim locked now => exact effect_claim s locked now
  | succeed job report =>
      unfold Machine.next queueMachine
      cases hrow : s.executingJob job with
      | none =>
          simp only [hrow]
          exact .nothing rfl rfl
      | some r =>
          obtain ⟨hr, rfl, hmine⟩ := executingJob_eq_some hrow
          obtain ⟨db, hcommit, hval⟩ := s.db.commit_updates (fun c => c.id = r.connectionId)
            (·.succeed report) (fun _ => rfl) (fun j => j.id = r.id) (·.succeed report)
            fun _ => rfl
          have hdone : completeSheetSync s.db r report = .ok db := hcommit
          simp only [hrow, hdone]
          exact .succeeded report r db hr hmine hval
  | fail job rowsRead error now =>
      unfold Machine.next queueMachine
      cases hrow : s.executingJob job with
      | none =>
          simp only [hrow]
          exact .nothing rfl rfl
      | some r =>
          obtain ⟨hr, rfl, hmine⟩ := executingJob_eq_some hrow
          let record : SheetSyncJobModel → SheetSyncJobModel := fun j =>
            { j with rowsRead := rowsRead.getD r.rowsRead }.recordFailure
              (Py.Text.take 2000 error) now
          obtain ⟨db, hcommit, hval⟩ := s.db.commit_updates (fun c => c.id = r.connectionId)
            (·.recordFailure (Py.Text.take 2000 error) now) (fun _ => rfl)
            (fun j => j.id = r.id) record
            fun j => Prod.ext (recordFailure_id _ _ _) (recordFailure_connectionId _ _ _)
          have hdone : recordSheetSyncFailure s.db
              { r with rowsRead := rowsRead.getD r.rowsRead } error now = .ok db := hcommit
          simp only [hrow, hdone]
          exact .failed rowsRead error now r db hr hmine hval
  | kill job progress =>
      unfold Machine.next queueMachine
      cases hrow : s.executingJob job with
      | none =>
          simp only [hrow]
          exact .nothing rfl rfl
      | some r =>
          obtain ⟨hr, rfl, hmine⟩ := executingJob_eq_some hrow
          have hstored : ∃ db, (s.db.val.storeProgress r progress).commit = .ok db ∧
              db.val = s.db.val.storeProgress r progress := by
            cases progress with
            | none => exact ⟨s.db, Sql.commit_of _ s.db.property, rfl⟩
            | some p =>
                exact s.db.commit_updates (fun c => c.id = r.connectionId)
                  (fun c => { c with lastAttemptAt := some p.1 }) (fun _ => rfl)
                  (fun j => j.id = r.id) (fun j => { j with rowsRead := p.2 }) fun _ => rfl
          obtain ⟨db, hdone, hval⟩ := hstored
          simp only [hrow, hdone]
          exact .killed progress r db hr hmine hval

/-- The row behind a claim, and the jobs after it. -/
theorem Effect.claimed_row {s s' : QueueState} {e : QueueEvent} (h : Effect s e s') {id : JobId}
    (hclaim : claimOf s e = some id) :
    ∃ locked now, e = .claim locked now ∧ ∃ r ∈ s.db.val.jobs, r.id = id ∧ r.status = .queued ∧
      ∀ j, j ∈ s'.db.val.jobs ↔ j = r.claim now ∨ (j ∈ s.db.val.jobs ∧ j.id ≠ r.id) := by
  cases h with
  | idle _ hnone => cases hnone.symm.trans hclaim
  | claimed locked now r db hr hclaimable hclaimed hval =>
      have hid : r.id = id := Option.some.inj (hclaimed.symm.trans hclaim)
      refine ⟨locked, now, rfl, r, hr, hid, (isClaimable_iff.mp hclaimable).1, ?_⟩
      intro j
      rw [hval]
      exact UniqueOn.mem_updateWhere s.db.property.2.2.1 hr (·.claim now)
  | _ => cases hclaim

end BondTrading
