/-
# BondTrading.Sheets.RateLimit -- how often the scheduler queues a job

The scheduler reads `last_attempt_at` only.  That bounds its rate because a scheduled job
cannot end without an attempt: whoever settles a job of the connection, or dies over one,
leaves a time there that is not before the job was created.
-/
import BondTrading.Sheets.Overlaps

namespace BondTrading

open Py (Instant)
open Sql (UniqueOn updateWhere)
open Machines (Machine)

/-! ## Clocked runs -/

/-- When the event happens; a killed worker leaves no date. -/
def QueueEvent.time : QueueEvent → Option Instant
  | .configure _ _ _ now => some now
  | .enqueue _ _ _ now => some now
  | .enqueueSheetSync _ _ _ now => some now
  | .enqueueDueSheetSyncs _ now => some now
  | .claim _ now => some now
  | .succeed _ report => some report.completedAt
  | .fail _ _ _ now => some now
  | .kill _ _ => none

/-- The trigger an event enqueues with. -/
def QueueEvent.trigger : QueueEvent → Option SheetSyncTrigger
  | .enqueue _ trigger _ _ => some trigger
  | .enqueueSheetSync _ trigger _ _ => some trigger
  | _ => none

/-- The attempt whose start the event stores, and that start. -/
def attemptOf (s : QueueState) : QueueEvent → Option (SheetSyncJobModel × Instant)
  | .succeed job report => (s.executingJob job).map fun row => (row, report.attemptedAt)
  | .kill job (some (attemptedAt, _)) => (s.executingJob job).map fun row => (row, attemptedAt)
  | _ => none

/-- The clock does not run backwards, an attempt starts after its claim, and only the
scheduler enqueues SCHEDULED jobs. -/
def OnTime (s : QueueState × Instant) (e : QueueEvent) : Prop :=
  (∀ now ∈ e.time, s.2 ≤ now) ∧
    (∀ p ∈ attemptOf s.1 e, ∀ claimedAt ∈ p.1.startedAt, claimedAt ≤ p.2) ∧
    e.trigger ≠ some .scheduled

instance (s : QueueState × Instant) (e : QueueEvent) : Decidable (OnTime s e) :=
  inferInstanceAs (Decidable (_ ∧ _ ∧ _))

/-! ## What a step does to times -/

/-- The job waits or is RUNNING. -/
def SheetSyncJobModel.IsLive (j : SheetSyncJobModel) : Prop :=
  j.status = .queued ∨ j.status = .running

/-- `a` is the start of the attempt the event stores for the connection, or its own date. -/
def Attempts (s : QueueState) (e : QueueEvent) (connection : ConnectionId) (a : Instant) : Prop :=
  ∃ r ∈ s.db.val.jobs, r.id ∈ s.executing ∧ r.connectionId = connection ∧
    (attemptOf s e = some (r, a) ∨ e.time = some a)

theorem executingJob_of_mem {s : QueueState} {r : SheetSyncJobModel} (hr : r ∈ s.db.val.jobs)
    (hmine : r.id ∈ s.executing) : s.executingJob r.id = some r := by
  unfold QueueState.executingJob
  rw [if_pos hmine]
  exact UniqueOn.find s.db.property.2.2.1 hr

variable {s s' : QueueState} {e : QueueEvent}

/-- The last attempt of a connection is the one it had, or one the step wrote. -/
theorem attempt_before (h : Effect s e s') {c : SheetConnectionModel}
    (hc : c ∈ s'.db.val.connections) (hstored : ∃ k ∈ s.db.val.connections, k.id = c.id) :
    (∃ k ∈ s.db.val.connections, k.id = c.id ∧ k.lastAttemptAt = c.lastAttemptAt) ∨
      ∃ a ∈ c.lastAttemptAt, Attempts s e c.id a := by
  have hsame : ∀ t, s'.db.val = t → t.connections = s.db.val.connections →
      ∃ k ∈ s.db.val.connections, k.id = c.id ∧ k.lastAttemptAt = c.lastAttemptAt := by
    intro t hval hconnections
    rw [hval, hconnections] at hc
    exact ⟨c, hc, rfl, rfl⟩
  -- the connection of an executed row is written, the others are not
  have hwritten : ∀ r ∈ s.db.val.jobs, r.id ∈ s.executing →
      ∀ (f : SheetConnectionModel → SheetConnectionModel) (a : Instant),
        (∀ k, (f k).id = k.id) → (∀ k, (f k).lastAttemptAt = some a) →
        (attemptOf s e = some (r, a) ∨ e.time = some a) →
        c ∈ updateWhere (fun k => k.id = r.connectionId) f s.db.val.connections →
        (∃ k ∈ s.db.val.connections, k.id = c.id ∧ k.lastAttemptAt = c.lastAttemptAt) ∨
          ∃ a ∈ c.lastAttemptAt, Attempts s e c.id a := by
    intro r hr hmine f a hid hlast hwhen hc
    obtain ⟨k, hk, rfl⟩ := Sql.mem_updateWhere.mp hc
    by_cases hk' : k.id = r.connectionId
    · rw [if_pos (decide_eq_true hk')]
      exact Or.inr ⟨a, hlast k, r, hr, hmine, (hk'.symm.trans (hid k).symm), hwhen⟩
    · rw [if_neg (by simpa using hk')]
      exact Or.inl ⟨k, hk, rfl, rfl⟩
  cases h with
  | idle => exact Or.inl (hsame _ rfl rfl)
  | reconfigured owner values normalized id now k db hnormalized hconnection hval =>
      left
      rw [hval] at hc
      obtain ⟨k, hk, rfl⟩ := Sql.mem_updateWhere.mp hc
      refine ⟨k, hk, ?_⟩
      split <;> exact ⟨rfl, rfl⟩
  | connected owner values normalized id now db hconnection hval =>
      left
      -- a new connection has an identifier of its own
      obtain ⟨k, hk, hid⟩ := hstored
      have hk' : k ∈ db.val.connections := by
        rw [hval]
        exact List.mem_append_left _ hk
      obtain rfl := db.property.1.eq hk' hc hid
      exact ⟨k, hk, rfl, rfl⟩
  | enqueued owner trigger id now db hval =>
      obtain ⟨c, -, -, hval⟩ := hval
      exact Or.inl (hsame _ hval rfl)
  | followed owner trigger id now db hval =>
      obtain ⟨c, -, -, hval⟩ := hval
      exact Or.inl (hsame _ hval rfl)
  | scheduled ids now db hval => exact Or.inl (hsame _ hval rfl)
  | claimed locked now r db hr hclaimable hclaim hval => exact Or.inl (hsame _ hval rfl)
  | succeeded report r db hr hmine hval =>
      rw [hval] at hc
      refine hwritten r hr hmine (·.succeed report) report.attemptedAt (fun _ => rfl)
        (fun _ => rfl) (Or.inl ?_) hc
      show (s.executingJob r.id).map _ = _
      rw [executingJob_of_mem hr hmine]
      rfl
  | failed rowsRead error now r db hr hmine hval =>
      rw [hval] at hc
      exact hwritten r hr hmine (·.recordFailure (Py.Text.take 2000 error) now) now
        (fun _ => rfl) (fun _ => rfl) (Or.inr rfl) hc
  | killed progress r db hr hmine hval =>
      cases progress with
      | none => exact Or.inl (hsame _ hval rfl)
      | some p =>
          rw [hval] at hc
          refine hwritten r hr hmine (fun c => { c with lastAttemptAt := some p.1 }) p.1
            (fun _ => rfl) (fun _ => rfl) (Or.inl ?_) hc
          show (s.executingJob r.id).map _ = _
          rw [executingJob_of_mem hr hmine]
          rfl

/-- The step wrote an attempt into the connection. -/
def Attempted (s : QueueState) (e : QueueEvent) (s' : QueueState) (connection : ConnectionId) :
    Prop :=
  ∀ c ∈ s'.db.val.connections, c.id = connection → ∃ a ∈ c.lastAttemptAt, Attempts s e c.id a

/-- The update of a connection reaches every row with its identifier. -/
theorem attempted_of_update {r : SheetSyncJobModel} (hr : r ∈ s.db.val.jobs)
    (hmine : r.id ∈ s.executing) (f : SheetConnectionModel → SheetConnectionModel) {a : Instant}
    (hid : ∀ k, (f k).id = k.id) (hlast : ∀ k, (f k).lastAttemptAt = some a)
    (hwhen : attemptOf s e = some (r, a) ∨ e.time = some a)
    (hconnections : s'.db.val.connections =
      updateWhere (fun k => k.id = r.connectionId) f s.db.val.connections) :
    Attempted s e s' r.connectionId := by
  intro c hc hconnection
  rw [hconnections] at hc
  obtain ⟨k, hk, rfl⟩ := Sql.mem_updateWhere.mp hc
  have hk' : k.id = r.connectionId := by
    split at hconnection
    · exact (hid k).symm.trans hconnection
    · exact hconnection
  rw [if_pos (decide_eq_true hk')]
  exact ⟨a, hlast k, r, hr, hmine, hk'.symm.trans (hid k).symm, hwhen⟩

/-- A job was there before, and is still live unless the step attempted its connection;
or the step created it. -/
theorem job_before (h : Effect s e s') {j : SheetSyncJobModel} (hj : j ∈ s'.db.val.jobs) :
    (∃ r ∈ s.db.val.jobs, r.id = j.id ∧ r.connectionId = j.connectionId ∧
        r.trigger = j.trigger ∧ r.createdAt = j.createdAt ∧
        (r.IsLive → j.IsLive ∨ Attempted s e s' r.connectionId)) ∨
      (j.status = .queued ∧ e.time = some j.createdAt ∧ claimOf s e = none ∧
        (e.trigger = some j.trigger ∨ j.trigger = .scheduled ∧
          ∃ c ∈ s.db.val.connections, c.id = j.connectionId ∧
            needsJob s.db.val j.createdAt c = true)) := by
  have hsame : j ∈ s.db.val.jobs →
      ∃ r ∈ s.db.val.jobs, r.id = j.id ∧ r.connectionId = j.connectionId ∧
        r.trigger = j.trigger ∧ r.createdAt = j.createdAt ∧
        (r.IsLive → j.IsLive ∨ Attempted s e s' r.connectionId) :=
    fun hj => ⟨j, hj, rfl, rfl, rfl, rfl, Or.inl⟩
  have hupdate : ∀ r ∈ s.db.val.jobs, ∀ f : SheetSyncJobModel → SheetSyncJobModel,
      (f r).id = r.id → (f r).connectionId = r.connectionId → (f r).trigger = r.trigger →
      (f r).createdAt = r.createdAt →
      (r.IsLive → (f r).IsLive ∨ Attempted s e s' r.connectionId) →
      j ∈ updateWhere (fun k => k.id = r.id) f s.db.val.jobs →
      ∃ r ∈ s.db.val.jobs, r.id = j.id ∧ r.connectionId = j.connectionId ∧
        r.trigger = j.trigger ∧ r.createdAt = j.createdAt ∧
        (r.IsLive → j.IsLive ∨ Attempted s e s' r.connectionId) := by
    intro r hr f hid hconnection htrigger hcreated hlive hj
    rcases (UniqueOn.mem_updateWhere s.db.property.2.2.1 hr f).mp hj with rfl | ⟨hj, -⟩
    · exact ⟨r, hr, hid.symm, hconnection.symm, htrigger.symm, hcreated.symm, hlive⟩
    · exact hsame hj
  cases h with
  | idle => exact Or.inl (hsame hj)
  | reconfigured owner values normalized id now c db hnormalized hconnection hval =>
      rw [hval] at hj
      exact Or.inl (hsame hj)
  | connected owner values normalized id now db hconnection hval =>
      rw [hval] at hj
      exact Or.inl (hsame hj)
  | enqueued owner trigger id now db hval =>
      obtain ⟨c, -, -, hval⟩ := hval
      rw [hval] at hj
      rcases List.mem_append.mp hj with hj | hj
      · exact Or.inl (hsame hj)
      · obtain rfl := List.mem_singleton.mp hj
        exact Or.inr ⟨rfl, rfl, rfl, Or.inl rfl⟩
  | followed owner trigger id now db hval =>
      obtain ⟨c, -, -, hval⟩ := hval
      rw [hval] at hj
      rcases List.mem_append.mp hj with hj | hj
      · exact Or.inl (hsame hj)
      · obtain rfl := List.mem_singleton.mp hj
        exact Or.inr ⟨rfl, rfl, rfl, Or.inl rfl⟩
  | scheduled ids now db hval =>
      rw [hval] at hj
      rcases List.mem_append.mp hj with hj | hj
      · exact Or.inl (hsame hj)
      · obtain ⟨c, hc, hneeds, rfl⟩ := mem_dueJobs.mp hj
        exact Or.inr ⟨rfl, rfl, rfl, Or.inr ⟨rfl, c, hc, rfl, hneeds⟩⟩
  | claimed locked now r db hr hclaimable hclaim hval =>
      rw [hval] at hj
      exact Or.inl (hupdate r hr (·.claim now) rfl rfl rfl rfl (fun _ => Or.inl (Or.inr rfl)) hj)
  | succeeded report r db hr hmine hval =>
      rw [hval] at hj
      refine Or.inl (hupdate r hr (·.succeed report) rfl rfl rfl rfl (fun _ => Or.inr ?_) hj)
      refine attempted_of_update hr hmine (·.succeed report) (fun _ => rfl) (fun _ => rfl)
        (Or.inl ?_) (congrArg SheetTables.connections hval)
      show (s.executingJob r.id).map _ = _
      rw [executingJob_of_mem hr hmine]
      rfl
  | failed rowsRead error now r db hr hmine hval =>
      rw [hval] at hj
      let record : SheetSyncJobModel → SheetSyncJobModel := fun j =>
        { j with rowsRead := rowsRead.getD r.rowsRead }.recordFailure
          (Py.Text.take 2000 error) now
      have hkept : (record r).trigger = r.trigger ∧ (record r).createdAt = r.createdAt := by
        show SheetSyncJobModel.trigger (SheetSyncJobModel.recordFailure _ _ _) = _ ∧
          SheetSyncJobModel.createdAt (SheetSyncJobModel.recordFailure _ _ _) = _
        unfold SheetSyncJobModel.recordFailure
        split <;> exact ⟨rfl, rfl⟩
      refine Or.inl (hupdate r hr record (recordFailure_id _ _ _)
        (recordFailure_connectionId _ _ _) hkept.1 hkept.2 (fun _ => Or.inr ?_) hj)
      exact attempted_of_update hr hmine (·.recordFailure (Py.Text.take 2000 error) now)
        (fun _ => rfl) (fun _ => rfl) (Or.inr rfl) (congrArg SheetTables.connections hval)
  | killed progress r db hr hmine hval =>
      rw [hval] at hj
      cases progress with
      | none => exact Or.inl (hsame hj)
      | some p =>
          exact Or.inl (hupdate r hr (fun j => { j with rowsRead := p.2 }) rfl rfl rfl rfl
            Or.inl hj)

/-! ## The pace of a connection -/

/-- Every attempt under way started after `u`. -/
def RunningSince (t : SheetTables) (connection : ConnectionId) (u : Instant) : Prop :=
  ∀ k ∈ t.jobs, k.connectionId = connection → k.status = .running →
    ∃ claimedAt ∈ k.startedAt, u ≤ claimedAt

/-- The connection was attempted after `u`. -/
def AttemptedSince (t : SheetTables) (connection : ConnectionId) (u : Instant) : Prop :=
  ∀ c ∈ t.connections, c.id = connection → ∃ a ∈ c.lastAttemptAt, u ≤ a

/-- A scheduled job keeps its connection waiting: while it is live by itself, and then by
the attempt it left behind. -/
structure Paced (t : SheetTables) (now : Instant) (j : SheetSyncJobModel) : Prop where
  past : j.createdAt ≤ now
  running : RunningSince t j.connectionId j.createdAt
  held : j.IsLive ∨ AttemptedSince t j.connectionId j.createdAt

theorem runningSince_next (h : Effect s e s') {connection : ConnectionId} {u : Instant}
    (hclock : ∀ now ∈ e.time, u ≤ now) (hrun : RunningSince s.db.val connection u) :
    RunningSince s'.db.val connection u := by
  intro k hk hconnection hrunning
  cases hclaim : claimOf s e with
  | none =>
      obtain ⟨r, hr, hrrunning, -, hrconnection, hstarted⟩ := running_before h hclaim hk hrunning
      rw [← hstarted]
      exact hrun r hr (hrconnection.trans hconnection) hrrunning
  | some id =>
      obtain ⟨locked, now, rfl, r, hr, -, hqueued, hmem⟩ := h.claimed_row hclaim
      rcases (hmem k).mp hk with rfl | ⟨hk, -⟩
      · exact ⟨now, rfl, hclock now rfl⟩
      · exact hrun k hk hconnection hrunning

/-- What a step on time writes for a connection is not before `u`. -/
theorem attempts_since {now : Instant} (hs : s.WellFormed) (hon : OnTime (s, now) e)
    {connection : ConnectionId} {u a : Instant} (hu : u ≤ now)
    (hrun : RunningSince s.db.val connection u) (h : Attempts s e connection a) : u ≤ a := by
  obtain ⟨hforward, hstarted, -⟩ := hon
  obtain ⟨r, hr, hmine, hconnection, hattempt | htime⟩ := h
  · -- the attempt started after its claim, and the claim came after `u`
    obtain ⟨k, hk, hid, hrunning⟩ := hs.running_of_executing r.id hmine
    obtain rfl := s.db.property.2.2.1.eq hk hr hid
    obtain ⟨claimedAt, hclaimed, hle⟩ := hrun k hk hconnection hrunning
    exact le_trans hle (hstarted (k, a) hattempt claimedAt hclaimed)
  · exact le_trans hu (hforward a htime)

/-- **One step keeps the pace of every scheduled job.** -/
theorem paced_next {now : Instant} (hs : s.WellFormed) (hon : OnTime (s, now) e)
    (hpaced : ∀ j ∈ s.db.val.jobs, j.trigger = .scheduled → Paced s.db.val now j)
    {j : SheetSyncJobModel} (hj : j ∈ (queueMachine.next s e).db.val.jobs)
    (hscheduled : j.trigger = .scheduled) :
    Paced (queueMachine.next s e).db.val (e.time.getD now) j := by
  have heffect := queueMachine_effect s e
  generalize queueMachine.next s e = s' at heffect hj ⊢
  obtain ⟨hforward, -, htrigger⟩ := id hon
  have hclock : now ≤ e.time.getD now := by
    cases htime : e.time with
    | none => exact le_refl now
    | some later => exact hforward later htime
  rcases job_before heffect hj with
    ⟨r, hr, -, hconnection, hrtrigger, hcreated, hlive⟩ | ⟨hqueued, htime, hnoclaim, hwhy⟩
  · have hr' := hpaced r hr (hrtrigger.trans hscheduled)
    have hrun := hr'.running
    have hpast := hr'.past
    rw [hcreated, hconnection] at hrun
    rw [hcreated] at hpast
    refine ⟨le_trans hpast hclock, ?_, ?_⟩
    · exact runningSince_next heffect (fun later hl => le_trans hpast (hforward later hl)) hrun
    · rcases hr'.held with hrlive | hattempted
      · rcases hlive hrlive with hjlive | hwritten
        · exact Or.inl hjlive
        · right
          intro c hc hid
          obtain ⟨a, ha, hattempts⟩ := hwritten c hc (hid.trans hconnection.symm)
          rw [hid] at hattempts
          exact ⟨a, ha, attempts_since hs hon hpast hrun hattempts⟩
      · right
        intro c hc hid
        obtain ⟨k₀, hk₀, hk₀id⟩ := s.db.property.2.2.2 r hr
        have hstored : ∃ k ∈ s.db.val.connections, k.id = c.id :=
          ⟨k₀, hk₀, hk₀id.trans (hconnection.trans hid.symm)⟩
        rcases attempt_before heffect hc hstored with ⟨k, hk, hkid, hlast⟩ | ⟨a, ha, hattempts⟩
        · rw [← hlast, ← hcreated]
          exact hattempted k hk (hkid.trans (hid.trans hconnection.symm))
        · rw [hid] at hattempts
          exact ⟨a, ha, attempts_since hs hon hpast hrun hattempts⟩
  · refine ⟨?_, ?_, Or.inl (Or.inl hqueued)⟩
    · rw [htime]
      exact le_refl _
    · -- the scheduler met no RUNNING job, and its own jobs wait
      rcases hwhy with hmine | ⟨-, c, hc, hcid, hneeds⟩
      · rw [hscheduled] at hmine
        exact absurd hmine htrigger
      · intro k hk hkconnection hrunning
        obtain ⟨r, hr, hrrunning, -, hrconnection, -⟩ :=
          running_before heffect hnoclaim hk hrunning
        have hfree := (needsJob_iff.mp hneeds).2.2 r hr
          (hrconnection.trans (hkconnection.trans hcid.symm))
        exact absurd hrrunning hfree.2

/-- **The rate limit of the scheduler.**  In every clocked run from an empty queue, when a
step creates a SCHEDULED job `k` of a connection `c`: every SCHEDULED job created for `c`
before is older by at least the interval that `c` has at that step; and no job of `c` is
QUEUED or RUNNING. -/
theorem scheduled_jobs_apart (db : SheetDatabase) (hempty : db.val.jobs = []) (start : Instant)
    (es : List QueueEvent) (e : QueueEvent)
    (hclock : (queueMachine.timed QueueEvent.time).Along OnTime (QueueState.initial db, start)
      (es ++ [e])) :
    ∀ k ∈ (queueMachine.run (QueueState.initial db) (es ++ [e])).db.val.jobs,
      (∀ j ∈ (queueMachine.run (QueueState.initial db) es).db.val.jobs, j.id ≠ k.id) →
      k.trigger = .scheduled →
      ∀ c ∈ (queueMachine.run (QueueState.initial db) es).db.val.connections,
        c.id = k.connectionId →
        ∀ j ∈ (queueMachine.run (QueueState.initial db) es).db.val.jobs, j.connectionId = c.id →
          (j.trigger = .scheduled →
            Py.seconds c.syncIntervalSeconds ≤ k.createdAt - j.createdAt) ∧
          j.status ≠ .queued ∧ j.status ≠ .running := by
  obtain ⟨hpre, hstep⟩ := ((queueMachine.timed QueueEvent.time).along_append).mp hclock
  -- the state before the step, with its clock
  have hpaced : ((queueMachine.timed QueueEvent.time).run (QueueState.initial db, start) es).1.WellFormed ∧
      ∀ j ∈ ((queueMachine.timed QueueEvent.time).run (QueueState.initial db, start) es).1.db.val.jobs,
        j.trigger = .scheduled →
        Paced ((queueMachine.timed QueueEvent.time).run (QueueState.initial db, start) es).1.db.val
          ((queueMachine.timed QueueEvent.time).run (QueueState.initial db, start) es).2 j := by
    refine (queueMachine.timed QueueEvent.time).invariant_along
      (I := fun s => s.1.WellFormed ∧
        ∀ j ∈ s.1.db.val.jobs, j.trigger = .scheduled → Paced s.1.db.val s.2 j) ?_ ?_ hpre
    · rintro ⟨s, now⟩ e ⟨hs, hpaced⟩ hon
      exact ⟨wellFormed_next s e hs, fun j hj => paced_next hs hon hpaced hj⟩
    · refine ⟨wellFormed_initial hempty, ?_⟩
      intro j hj
      rw [show (QueueState.initial db).db.val.jobs = [] from hempty] at hj
      exact absurd hj List.not_mem_nil
  rw [queueMachine.run_append]
  have hon : OnTime ((queueMachine.timed QueueEvent.time).run (QueueState.initial db, start) es) e :=
    hstep.1
  rw [← queueMachine.timed_run_fst QueueEvent.time (QueueState.initial db, start) es]
  generalize (queueMachine.timed QueueEvent.time).run (QueueState.initial db, start) es = s at *
  intro k hk hnew hscheduled c hc hcid j hj hconnection
  rcases job_before (queueMachine_effect s.1 e) hk with
    ⟨r, hr, hid, -, -, -, -⟩ | ⟨-, htime, -, hmine | ⟨-, c', hc', hcid', hneeds⟩⟩
  · exact absurd hid (hnew r hr)
  · rw [hscheduled] at hmine
    exact absurd hmine hon.2.2
  · obtain rfl : c' = c := s.1.db.property.1.eq hc' hc (hcid'.trans hcid.symm)
    obtain ⟨-, hdue, hfree⟩ := needsJob_iff.mp hneeds
    obtain ⟨hqueued, hrunning⟩ := hfree j hj hconnection
    refine ⟨?_, hqueued, hrunning⟩
    intro hjscheduled
    -- the earlier job is over, so it left an attempt behind
    rcases (hpaced.2 j hj hjscheduled).held with hlive | hattempted
    · exact absurd hlive (not_or.mpr ⟨hqueued, hrunning⟩)
    · obtain ⟨a, ha, hle⟩ := hattempted c' hc hconnection.symm
      unfold SheetConnectionModel.dueAt at hdue
      rw [Option.mem_def.mp ha, Option.getD_some] at hdue
      refine le_sub_left_of_add_le ?_
      calc j.createdAt + Py.seconds c'.syncIntervalSeconds
          ≤ a + Py.seconds c'.syncIntervalSeconds := add_le_add_left hle _
        _ ≤ k.createdAt := hdue

/-- Two passes of the scheduler, five minutes and a half apart. -/
def scheduledRun : List QueueEvent :=
  [.enqueueDueSheetSyncs (fun _ => 20) 300000000, .claim [] 300000001,
    .succeed 20 ⟨300000002, 1, 1, 1, [], "hash", 300000003⟩,
    .enqueueDueSheetSyncs (fun _ => 21) 500000000]

theorem scheduled_jobs_apart_scheduledRun :
    ∃ k ∈ (queueMachine.run (QueueState.initial customerDatabase)
        (scheduledRun ++ [.enqueueDueSheetSyncs (fun _ => 22) 630000000])).db.val.jobs,
      k.id = 22 ∧ ∃ j ∈ (queueMachine.run (QueueState.initial customerDatabase)
        scheduledRun).db.val.jobs, Py.seconds 300 ≤ k.createdAt - j.createdAt := by
  have hnew : ∃ k ∈ (queueMachine.run (QueueState.initial customerDatabase)
      (scheduledRun ++ [.enqueueDueSheetSyncs (fun _ => 22) 630000000])).db.val.jobs,
      k.id = 22 ∧ k.trigger = .scheduled ∧ k.connectionId = 10 := by decide +kernel
  have hold : ∀ j ∈ (queueMachine.run (QueueState.initial customerDatabase)
      scheduledRun).db.val.jobs, j.id ≠ 22 := by decide +kernel
  have hbefore : ∃ j ∈ (queueMachine.run (QueueState.initial customerDatabase)
      scheduledRun).db.val.jobs, j.trigger = .scheduled ∧ j.connectionId = 10 := by
    decide +kernel
  obtain ⟨k, hk, hid, hscheduled, hconnection⟩ := hnew
  obtain ⟨j, hj, hjscheduled, hjconnection⟩ := hbefore
  refine ⟨k, hk, hid, j, hj, ?_⟩
  have hapart := scheduled_jobs_apart customerDatabase rfl 0 scheduledRun
    (.enqueueDueSheetSyncs (fun _ => 22) 630000000) (by decide +kernel) k hk
    (fun j hj => by rw [hid]; exact hold j hj) hscheduled
    (customerConnection.succeed ⟨300000002, 1, 1, 1, [], "hash", 300000003⟩) (by decide +kernel)
    hconnection.symm j hj hjconnection
  exact hapart.1 hjscheduled

end BondTrading
