/-
# BondTrading.Sheets.Retries -- how often a job is attempted

A claim raises `attempt_count`, a failure compares it with `max_attempts`.  `Tracks` is
what one row has to say about its counter, given how often the job was claimed and how
many workers hold it; each operation keeps it, so every reachable row has it.
-/
import BondTrading.Sheets.Effects

namespace BondTrading

open Py (Instant)
open Sql (UniqueOn updateWhere)
open Machines (Machine Entry)

/-- What the queue did. -/
abbrev QueueHistory := List (Entry QueueState QueueEvent (Option PyError))

/-- How often the job was claimed. -/
def claims (job : JobId) (hist : QueueHistory) : ℕ :=
  hist.countP fun entry => claimOf entry.before entry.event = some job

/-- The jobs of workers that have not settled them: of the live ones and of the killed. -/
def QueueState.holders (s : QueueState) : List JobId := s.executing ++ s.abandoned

theorem claims_snoc (job : JobId) (hist : QueueHistory) (s : QueueState) (e : QueueEvent) :
    claims job (hist ++ [queueMachine.entry s e]) =
      claims job hist + if claimOf s e = some job then 1 else 0 := by
  simp [claims, List.countP_append, List.countP_cons, Machine.entry]

/-! ## One row -/

/-- A row whose job was claimed `claimed` times and is held by `held` workers. -/
structure SheetSyncJobModel.Tracks (j : SheetSyncJobModel) (claimed held : ℕ) : Prop where
  counted : j.attemptCount = claimed
  bounded : j.attemptCount ≤ maxAttempts
  waiting : j.status = .queued → j.attemptCount < maxAttempts
  failed : j.status = .failed → j.attemptCount = maxAttempts ∧ j.completedAt.isSome = true
  held : held = if j.status = .running then 1 else 0

namespace SheetSyncJobModel.Tracks

variable {j : SheetSyncJobModel} {claimed held : ℕ}

theorem of_queuedJob (id : JobId) (connection : ConnectionId) (trigger : SheetSyncTrigger)
    (now : Instant) : (queuedJob id connection trigger now).Tracks 0 0 where
  counted := rfl
  bounded := Nat.zero_le _
  waiting _ := show 0 < maxAttempts by decide
  failed h := nomatch h
  held := rfl

/-- A claim takes a waiting row, so the counter stays within the bound. -/
theorem claim (h : j.Tracks claimed held) (hqueued : j.status = .queued) (now : Instant) :
    (j.claim now).Tracks (claimed + 1) 1 where
  counted := congrArg (· + 1) h.counted
  bounded := h.waiting hqueued
  waiting h := nomatch h
  failed h := nomatch h
  held := rfl

theorem succeed (h : j.Tracks claimed held) (report : SyncReport) :
    (j.succeed report).Tracks claimed 0 where
  counted := h.counted
  bounded := h.bounded
  waiting h := nomatch h
  failed h := nomatch h
  held := rfl

/-- A failed row has used up its attempts. -/
theorem recordFailure (h : j.Tracks claimed held) (rowsRead : ℕ) (message : String)
    (now : Instant) :
    ({ j with rowsRead }.recordFailure message now).Tracks claimed 0 := by
  unfold SheetSyncJobModel.recordFailure
  split
  · rename_i hless
    exact ⟨h.counted, h.bounded, fun _ => hless, fun h => (nomatch h), rfl⟩
  · rename_i hless
    have hall : j.attemptCount = maxAttempts := Nat.le_antisymm h.bounded (not_lt.mp hless)
    exact ⟨h.counted, h.bounded, fun h => (nomatch h), fun _ => ⟨hall, rfl⟩, rfl⟩

theorem setRowsRead (h : j.Tracks claimed held) (rowsRead : ℕ) :
    { j with rowsRead }.Tracks claimed held :=
  ⟨h.counted, h.bounded, h.waiting, h.failed, h.held⟩

end SheetSyncJobModel.Tracks

/-! ## The queue -/

/-- Every row tracks its job, and only stored jobs were claimed or are held. -/
structure Retrying (s : QueueState) (hist : QueueHistory) : Prop where
  tracks : ∀ j ∈ s.db.val.jobs, j.Tracks (claims j.id hist) (s.holders.count j.id)
  stored : ∀ id, claims id hist ≠ 0 ∨ id ∈ s.holders → ∃ j ∈ s.db.val.jobs, j.id = id

namespace Retrying

variable {s s' : QueueState} {hist hist' : QueueHistory}

/-- Nothing the rows track has changed. -/
theorem kept (h : Retrying s hist) (hjobs : s'.db.val.jobs = s.db.val.jobs)
    (hclaims : ∀ id, claims id hist' = claims id hist)
    (hholders : ∀ id, s'.holders.count id = s.holders.count id) : Retrying s' hist' := by
  constructor
  · intro j hj
    rw [hclaims, hholders]
    exact h.tracks j (hjobs ▸ hj)
  · intro id hid
    rw [hclaims, ← List.count_pos_iff, hholders, List.count_pos_iff] at hid
    rw [hjobs]
    exact h.stored id hid

/-- New jobs were never claimed: their identifiers are new. -/
theorem created (h : Retrying s hist) {new : List SheetSyncJobModel}
    (hjobs : s'.db.val.jobs = s.db.val.jobs ++ new) (hnew : ∀ j ∈ new, j.Tracks 0 0)
    (hclaims : ∀ id, claims id hist' = claims id hist) (hholders : s'.holders = s.holders) :
    Retrying s' hist' := by
  have hunique : UniqueOn SheetSyncJobModel.id (s.db.val.jobs ++ new) := by
    rw [← hjobs]
    exact s'.db.property.2.2.1
  constructor
  · intro j hj
    rw [hclaims, hholders]
    rw [hjobs] at hj
    rcases List.mem_append.mp hj with hold | hj
    · exact h.tracks j hold
    · -- a stored row with the identifier would be a second one
      have hunstored : ¬ ∃ k ∈ s.db.val.jobs, k.id = j.id := by
        rintro ⟨k, hk, hid⟩
        unfold UniqueOn at hunique
        rw [List.map_append, List.nodup_append] at hunique
        exact hunique.2.2 k.id (List.mem_map_of_mem hk) j.id (List.mem_map_of_mem hj) hid
      have hfree := not_or.mp (mt (h.stored j.id) hunstored)
      rw [not_not.mp hfree.1, List.count_eq_zero.mpr hfree.2]
      exact hnew j hj
  · intro id hid
    rw [hclaims, hholders] at hid
    obtain ⟨j, hj, hjid⟩ := h.stored id hid
    rw [hjobs]
    exact ⟨j, List.mem_append_left _ hj, hjid⟩

/-- One row is rewritten, and what it tracks moves with it. -/
theorem rewritten (h : Retrying s hist) {r : SheetSyncJobModel} (hr : r ∈ s.db.val.jobs)
    (f : SheetSyncJobModel → SheetSyncJobModel) (hid : (f r).id = r.id)
    (hjobs : s'.db.val.jobs = updateWhere (fun j => j.id = r.id) f s.db.val.jobs)
    (hclaims : ∀ id, id ≠ r.id → claims id hist' = claims id hist)
    (hholders : ∀ id, id ≠ r.id → s'.holders.count id = s.holders.count id)
    (hrow : (f r).Tracks (claims r.id hist') (s'.holders.count r.id)) : Retrying s' hist' := by
  have hmem : ∀ j, j ∈ s'.db.val.jobs ↔ j = f r ∨ (j ∈ s.db.val.jobs ∧ j.id ≠ r.id) := by
    intro j
    rw [hjobs]
    exact UniqueOn.mem_updateWhere s.db.property.2.2.1 hr f
  constructor
  · intro j hj
    rcases (hmem j).mp hj with rfl | ⟨hj, hne⟩
    · rw [hid]
      exact hrow
    · rw [hclaims _ hne, hholders _ hne]
      exact h.tracks j hj
  · intro id hown
    by_cases hne : id = r.id
    · exact ⟨f r, (hmem _).mpr (Or.inl rfl), hid.trans hne.symm⟩
    · rw [hclaims id hne, ← List.count_pos_iff, hholders id hne, List.count_pos_iff] at hown
      obtain ⟨j, hj, rfl⟩ := h.stored id hown
      exact ⟨j, (hmem j).mpr (Or.inr ⟨hj, hne⟩), rfl⟩

/-- The holder of a job in execution is the only one. -/
theorem held_once (h : Retrying s hist) {r : SheetSyncJobModel} (hr : r ∈ s.db.val.jobs)
    (hmine : r.id ∈ s.executing) : r.status = .running ∧ s.abandoned.count r.id = 0 := by
  have hheld := (h.tracks r hr).held
  have hpos : 0 < s.executing.count r.id := List.count_pos_iff.mpr hmine
  unfold QueueState.holders at hheld
  rw [List.count_append] at hheld
  split at hheld
  · rename_i hrunning
    exact ⟨hrunning, by omega⟩
  · omega

end Retrying

/-- A worker that lets a job go keeps the others. -/
theorem count_release {job : JobId} {executing : List JobId} {id : JobId} :
    (executing.filter (· ≠ job)).count id = if id = job then 0 else executing.count id := by
  split
  · rename_i hid
    rw [List.count_eq_zero, List.mem_filter, hid]
    simp
  · rename_i hid
    exact List.count_filter (decide_eq_true hid)

theorem QueueState.count_released (s : QueueState) {job id : JobId} (hne : id ≠ job) :
    (s.executing.filter (· ≠ job) ++ s.abandoned).count id = s.holders.count id := by
  rw [List.count_append, count_release, if_neg hne, ← List.count_append]
  rfl

/-- **One step keeps every row in track.** -/
theorem retrying_next (s : QueueState) (hist : QueueHistory) (e : QueueEvent)
    (h : Retrying s hist) :
    Retrying (queueMachine.next s e) (hist ++ [queueMachine.entry s e]) := by
  have heffect := queueMachine_effect s e
  have hsnoc := fun id => claims_snoc id hist s e
  generalize hist ++ [queueMachine.entry s e] = hist' at hsnoc ⊢
  generalize queueMachine.next s e = s' at heffect ⊢
  -- a step without a claim
  have hnoclaim : claimOf s e = none → ∀ id, claims id hist' = claims id hist := by
    intro hnone id
    rw [hsnoc, hnone, if_neg (nomatch ·), Nat.add_zero]
  cases heffect with
  | idle _ hclaim => exact h.kept rfl (hnoclaim hclaim) fun _ => rfl
  | reconfigured owner values normalized id now c db hnormalized hconnection hval =>
      have hjobs : db.val.jobs = s.db.val.jobs := by rw [hval]
      exact h.kept hjobs (hnoclaim rfl) fun _ => rfl
  | connected owner values normalized id now db hconnection hval =>
      have hjobs : db.val.jobs = s.db.val.jobs := by rw [hval]
      exact h.kept hjobs (hnoclaim rfl) fun _ => rfl
  | enqueued owner trigger id now db hval =>
      obtain ⟨c, -, -, hval⟩ := hval
      refine h.created (congrArg SheetTables.jobs hval) ?_ (hnoclaim rfl) rfl
      intro j hj
      rw [List.mem_singleton.mp hj]
      exact .of_queuedJob id c.id trigger now
  | followed owner trigger id now db hval =>
      obtain ⟨c, -, -, hval⟩ := hval
      refine h.created (congrArg SheetTables.jobs hval) ?_ (hnoclaim rfl) rfl
      intro j hj
      rw [List.mem_singleton.mp hj]
      exact .of_queuedJob id c.id trigger now
  | scheduled ids now db hval =>
      refine h.created (congrArg SheetTables.jobs hval) ?_ (hnoclaim rfl) rfl
      intro j hj
      obtain ⟨c, -, -, rfl⟩ := mem_dueJobs.mp hj
      exact .of_queuedJob (ids c.id) c.id .scheduled now
  | claimed locked now r db hr hclaimable hclaim hval =>
      have htracks := h.tracks r hr
      have hqueued := (isClaimable_iff.mp hclaimable).1
      have hfree : s.holders.count r.id = 0 := by
        rw [htracks.held, hqueued]
        rfl
      have hcount : ∀ id, (r.id :: s.executing ++ s.abandoned).count id =
          s.holders.count id + if r.id = id then 1 else 0 := by
        intro id
        rw [List.cons_append, List.count_cons]
        simp only [beq_iff_eq]
        rfl
      refine h.rewritten hr (·.claim now) rfl (congrArg SheetTables.jobs hval) ?_ ?_ ?_
      · intro id hne
        rw [hsnoc, hclaim, if_neg (fun heq => hne (Option.some.inj heq).symm), Nat.add_zero]
      · intro id hne
        show (r.id :: s.executing ++ s.abandoned).count id = _
        rw [hcount, if_neg (Ne.symm hne), Nat.add_zero]
      · show (r.claim now).Tracks _ ((r.id :: s.executing ++ s.abandoned).count r.id)
        rw [hsnoc, hclaim, if_pos rfl, hcount, if_pos rfl, hfree]
        exact htracks.claim hqueued now
  | succeeded report r db hr hmine hval =>
      have hfree := (h.held_once hr hmine).2
      refine h.rewritten hr (·.succeed report) rfl (congrArg SheetTables.jobs hval)
        (fun id _ => hnoclaim rfl id) ?_ ?_
      · intro id hne
        exact s.count_released hne
      · show (r.succeed report).Tracks _
          ((s.executing.filter (· ≠ r.id) ++ s.abandoned).count r.id)
        rw [hnoclaim rfl, List.count_append, count_release, if_pos rfl, hfree]
        exact (h.tracks r hr).succeed report
  | failed rowsRead error now r db hr hmine hval =>
      have hfree := (h.held_once hr hmine).2
      let record : SheetSyncJobModel → SheetSyncJobModel := fun j =>
        { j with rowsRead := rowsRead.getD r.rowsRead }.recordFailure
          (Py.Text.take 2000 error) now
      refine h.rewritten hr record (recordFailure_id _ _ _) (congrArg SheetTables.jobs hval)
        (fun id _ => hnoclaim rfl id) ?_ ?_
      · intro id hne
        exact s.count_released hne
      · show (record r).Tracks _ ((s.executing.filter (· ≠ r.id) ++ s.abandoned).count r.id)
        rw [hnoclaim rfl, List.count_append, count_release, if_pos rfl, hfree]
        exact (h.tracks r hr).recordFailure _ _ _
  | killed progress r db hr hmine hval =>
      obtain ⟨hrunning, hfree⟩ := h.held_once hr hmine
      have htracks := h.tracks r hr
      have hheld : s.holders.count r.id = 1 := by
        rw [htracks.held, hrunning]
        rfl
      -- the job passes from the living to the dead
      have hcount : ∀ id, (s.executing.filter (· ≠ r.id) ++ r.id :: s.abandoned).count id =
          s.holders.count id := by
        intro id
        rw [List.count_append, count_release, List.count_cons]
        simp only [beq_iff_eq]
        by_cases hid : id = r.id
        · rw [if_pos hid, if_pos hid.symm, hid, hfree, hheld]
        · rw [if_neg hid, if_neg (Ne.symm hid), Nat.add_zero, ← List.count_append]
          rfl
      cases progress with
      | none =>
          have hjobs : db.val.jobs = s.db.val.jobs := by rw [show db.val = s.db.val from hval]
          exact h.kept hjobs (hnoclaim rfl) hcount
      | some p =>
          refine h.rewritten hr (fun j => { j with rowsRead := p.2 }) rfl
            (congrArg SheetTables.jobs hval) (fun id _ => hnoclaim rfl id) ?_ ?_
          · intro id _
            exact hcount id
          · show SheetSyncJobModel.Tracks _ _
              ((s.executing.filter (· ≠ r.id) ++ r.id :: s.abandoned).count r.id)
            rw [hnoclaim rfl, hcount]
            exact htracks.setRowsRead p.2

theorem retrying_initial {db : SheetDatabase} (h : db.val.jobs = []) :
    Retrying (QueueState.initial db) [] where
  tracks j hj := by
    rw [show (QueueState.initial db).db.val.jobs = [] from h] at hj
    exact absurd hj List.not_mem_nil
  stored id hid := by
    rcases hid with hclaimed | hheld
    · exact absurd rfl hclaimed
    · exact absurd hheld List.not_mem_nil

/-! ## Settled rows -/

/-- The job is over. -/
def SheetSyncJobModel.IsOver (j : SheetSyncJobModel) : Prop :=
  j.status = .succeeded ∨ j.status = .failed

theorem SheetSyncJobModel.IsOver.ne {j r : SheetSyncJobModel} (h : j.IsOver)
    (hr : r.status = .queued ∨ r.status = .running) : j ≠ r := by
  rintro rfl
  rcases h with h | h <;> rcases hr with hr | hr <;> exact absurd (h.symm.trans hr) (by decide)

/-- **No step touches a row that is over.** -/
theorem over_next (s : QueueState) (e : QueueEvent) (hs : s.WellFormed) {j : SheetSyncJobModel}
    (hj : j ∈ s.db.val.jobs) (hover : j.IsOver) : j ∈ (queueMachine.next s e).db.val.jobs := by
  have heffect := queueMachine_effect s e
  generalize queueMachine.next s e = s' at heffect ⊢
  -- an update of a live row leaves `j` where it is
  have hlive : ∀ r ∈ s.db.val.jobs, r.status = .queued ∨ r.status = .running →
      ∀ f, j ∈ updateWhere (fun j => j.id = r.id) f s.db.val.jobs := by
    intro r hr hstatus f
    refine (UniqueOn.mem_updateWhere s.db.property.2.2.1 hr f).mpr (Or.inr ⟨hj, ?_⟩)
    intro hid
    exact hover.ne hstatus (s.db.property.2.2.1.eq hj hr hid)
  have hrunning : ∀ r ∈ s.db.val.jobs, r.id ∈ s.executing →
      r.status = .queued ∨ r.status = .running := by
    intro r hr hmine
    obtain ⟨k, hk, hid, hstatus⟩ := hs.running_of_executing r.id hmine
    rw [← s.db.property.2.2.1.eq hk hr hid]
    exact Or.inr hstatus
  cases heffect with
  | idle => exact hj
  | reconfigured owner values normalized id now c db hnormalized hconnection hval =>
      show j ∈ db.val.jobs
      rw [hval]
      exact hj
  | connected owner values normalized id now db hconnection hval =>
      show j ∈ db.val.jobs
      rw [hval]
      exact hj
  | enqueued owner trigger id now db hval =>
      obtain ⟨c, -, -, hval⟩ := hval
      show j ∈ db.val.jobs
      rw [hval]
      exact List.mem_append_left _ hj
  | followed owner trigger id now db hval =>
      obtain ⟨c, -, -, hval⟩ := hval
      show j ∈ db.val.jobs
      rw [hval]
      exact List.mem_append_left _ hj
  | scheduled ids now db hval =>
      show j ∈ db.val.jobs
      rw [hval]
      exact List.mem_append_left _ hj
  | claimed locked now r db hr hclaimable hclaim hval =>
      show j ∈ db.val.jobs
      rw [hval]
      exact hlive r hr (Or.inl (isClaimable_iff.mp hclaimable).1) _
  | succeeded report r db hr hmine hval =>
      show j ∈ db.val.jobs
      rw [hval]
      exact hlive r hr (hrunning r hr hmine) _
  | failed rowsRead error now r db hr hmine hval =>
      show j ∈ db.val.jobs
      rw [hval]
      exact hlive r hr (hrunning r hr hmine) _
  | killed progress r db hr hmine hval =>
      show j ∈ db.val.jobs
      rw [hval]
      cases progress with
      | none => exact hj
      | some p => exact hlive r hr (hrunning r hr hmine) _

theorem over_run {s : QueueState} (hs : s.WellFormed) {j : SheetSyncJobModel}
    (hj : j ∈ s.db.val.jobs) (hover : j.IsOver) (es : List QueueEvent) :
    j ∈ (queueMachine.run s es).db.val.jobs := by
  have hboth : (queueMachine.run s es).WellFormed ∧ j ∈ (queueMachine.run s es).db.val.jobs := by
    refine queueMachine.invariant_run (I := fun s => s.WellFormed ∧ j ∈ s.db.val.jobs) ?_
      ⟨hs, hj⟩ es
    rintro s e ⟨hs, hj⟩
    exact ⟨wellFormed_next s e hs, over_next s e hs hj hover⟩
  exact hboth.2

/-- **The retry protocol.**  After every run from an empty queue, whatever the workers and
the enqueues do and whichever workers die: a job's counter is the number of its claims and
at most three; a QUEUED job has an attempt left; a FAILED one has used all three and is
dated; a RUNNING one is held by exactly one worker; and a row that is over stays as it is
in every continuation of the run. -/
theorem retry_protocol (db : SheetDatabase) (hempty : db.val.jobs = []) (es : List QueueEvent) :
    ∀ j ∈ (queueMachine.run (QueueState.initial db) es).db.val.jobs,
      j.attemptCount = claims j.id (queueMachine.history (QueueState.initial db) es) ∧
      j.attemptCount ≤ 3 ∧
      (j.status = .queued → j.attemptCount ≤ 2) ∧
      (j.status = .failed → j.attemptCount = 3 ∧ j.completedAt.isSome = true) ∧
      (j.status = .running →
        (queueMachine.run (QueueState.initial db) es).holders.count j.id = 1) ∧
      (j.status = .succeeded ∨ j.status = .failed → ∀ fs : List QueueEvent,
        j ∈ (queueMachine.run (QueueState.initial db) (es ++ fs)).db.val.jobs) := by
  have hretrying : Retrying (queueMachine.run (QueueState.initial db) es)
      (queueMachine.history (QueueState.initial db) es) :=
    queueMachine.history_induction retrying_next (retrying_initial hempty) es
  have hwf : (queueMachine.run (QueueState.initial db) es).WellFormed :=
    queueMachine.invariant_run wellFormed_next (wellFormed_initial hempty) es
  intro j hj
  have htracks := hretrying.tracks j hj
  refine ⟨htracks.counted, htracks.bounded, ?_, htracks.failed, ?_, ?_⟩
  · intro hqueued
    exact Nat.le_of_lt_succ (htracks.waiting hqueued)
  · intro hrunning
    rw [htracks.held, if_pos hrunning]
  · intro hover fs
    rw [queueMachine.run_append]
    exact over_run hwf hj hover fs

/-- A run in which the first attempt fails, the second worker dies. -/
def retriedRun : List QueueEvent :=
  [.enqueueSheetSync 1 .lotCreated 20 1, .claim [] 2, .fail 20 none "timeout" 4,
    .claim [] 9000000, .kill 20 none]

theorem retry_protocol_retriedRun :
    ∃ j ∈ (queueMachine.run (QueueState.initial customerDatabase) retriedRun).db.val.jobs,
      j.attemptCount = 2 ∧ j.status = .running := by
  have hjob : ∃ j ∈ (queueMachine.run (QueueState.initial customerDatabase) retriedRun).db.val.jobs,
      j.id = 20 ∧ j.status = .running := by decide +kernel
  obtain ⟨j, hj, hid, hrunning⟩ := hjob
  refine ⟨j, hj, ?_, hrunning⟩
  have hcounted := (retry_protocol customerDatabase rfl retriedRun j hj).1
  rw [hcounted, hid]
  decide +kernel

end BondTrading
