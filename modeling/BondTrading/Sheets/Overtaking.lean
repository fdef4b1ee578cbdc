/-
# BondTrading.Sheets.Overtaking -- how long a job can wait for the workers

A claim takes the oldest job that is due.  A job that is due itself can therefore be passed
over for older ones only, and each of those is attempted three times at most: what is left of
their attempts bounds the number of claims before the job's own.
-/
import BondTrading.Machines.Budgets
import BondTrading.Sheets.Retries

namespace BondTrading

open Py (Instant)
open Sql (UniqueOn updateWhere)
open Machines (Machine)

/-! ## Attempts ahead of a job -/

/-- The attempts that `r` may still take before `j`: it is older, and not over. -/
def SheetSyncJobModel.attemptsAhead (j r : SheetSyncJobModel) : ℕ :=
  if r.id ≠ j.id ∧ r.createdAt ≤ j.createdAt ∧ (r.status = .queued ∨ r.status = .running) then
    maxAttempts - r.attemptCount
  else 0

/-- All attempts ahead of `j`. -/
def SheetTables.attemptsAhead (t : SheetTables) (j : SheetSyncJobModel) : ℕ :=
  (t.jobs.map j.attemptsAhead).sum

/-- Nothing keeps the job from being claimed: a job that the event creates is younger, and a
claim comes when the job is due and no other transaction holds its row. -/
def Unhindered (j : SheetSyncJobModel) (_ : QueueState) : QueueEvent → Prop
  | .enqueue _ _ _ now => j.createdAt < now
  | .enqueueSheetSync _ _ _ now => j.createdAt < now
  | .enqueueDueSheetSyncs _ now => j.createdAt < now
  | .claim locked now => isClaimable locked now j = true
  | _ => True

instance (j : SheetSyncJobModel) (s : QueueState) (e : QueueEvent) :
    Decidable (Unhindered j s e) := by
  unfold Unhindered
  split <;> infer_instance

/-- A worker asks for a job. -/
def QueueEvent.isClaim : QueueEvent → Bool
  | .claim _ _ => true
  | _ => false

/-! ## One row -/

section Rows

variable {j r : SheetSyncJobModel}

theorem attemptsAhead_of_younger (h : j.createdAt < r.createdAt) : j.attemptsAhead r = 0 := by
  refine if_neg ?_
  rintro ⟨-, hle, -⟩
  exact absurd hle (not_le.mpr h)

theorem attemptsAhead_claim (hother : r.id ≠ j.id) (holder : r.createdAt ≤ j.createdAt)
    (hqueued : r.status = .queued) (hwaiting : r.attemptCount < maxAttempts) (now : Instant) :
    j.attemptsAhead (r.claim now) + 1 = j.attemptsAhead r := by
  have hbefore : j.attemptsAhead r = maxAttempts - r.attemptCount :=
    if_pos ⟨hother, holder, Or.inl hqueued⟩
  have hafter : j.attemptsAhead (r.claim now) = maxAttempts - (r.attemptCount + 1) :=
    if_pos ⟨hother, holder, Or.inr rfl⟩
  rw [hbefore, hafter]
  omega

theorem attemptsAhead_succeed (report : SyncReport) : j.attemptsAhead (r.succeed report) = 0 := by
  refine if_neg ?_
  rintro ⟨-, -, hqueued | hrunning⟩
  · cases hqueued
  · cases hrunning

/-- A failure of an attempt takes no attempt away. -/
theorem attemptsAhead_recordFailure (hrunning : r.status = .running) (rowsRead : ℕ)
    (message : String) (now : Instant) :
    j.attemptsAhead ({ r with rowsRead }.recordFailure message now) ≤ j.attemptsAhead r := by
  unfold SheetSyncJobModel.recordFailure
  split
  · show (if r.id ≠ j.id ∧ r.createdAt ≤ j.createdAt ∧ _ then maxAttempts - r.attemptCount else 0) ≤
      j.attemptsAhead r
    split
    · rename_i hahead
      exact (if_pos ⟨hahead.1, hahead.2.1, Or.inr hrunning⟩ : j.attemptsAhead r = _).ge
    · exact Nat.zero_le _
  · refine (if_neg ?_ : SheetSyncJobModel.attemptsAhead j _ = 0).trans_le (Nat.zero_le _)
    rintro ⟨-, -, hqueued | hrunning⟩
    · cases hqueued
    · cases hrunning

end Rows

/-! ## The sum over a table -/

/-- An update by primary key changes one summand. -/
theorem sum_updateWhere {t : List SheetSyncJobModel} (h : UniqueOn SheetSyncJobModel.id t)
    {r : SheetSyncJobModel} (hr : r ∈ t) (f : SheetSyncJobModel → SheetSyncJobModel)
    (weight : SheetSyncJobModel → ℕ) :
    ((updateWhere (fun s => s.id = r.id) f t).map weight).sum + weight r =
      (t.map weight).sum + weight (f r) := by
  obtain ⟨pre, post, hsplit, hupdate⟩ := h.updateWhere_split hr f
  rw [hupdate, hsplit]
  simp only [List.map_append, List.map_cons, List.sum_append, List.sum_cons]
  omega

/-! ## One step -/

/-- A claim takes the oldest job that is due. -/
theorem claimOf_claim (s : QueueState) (locked : List JobId) (now : Instant) :
    claimOf s (.claim locked now) =
      (Sql.firstBy SheetSyncJobModel.createdAt (isClaimable locked now) s.db.val.jobs).map
        SheetSyncJobModel.id := by
  show (claimNextSheetSyncJob s.db locked now).toOption.bind Prod.snd = _
  unfold claimNextSheetSyncJob
  cases Sql.firstBy SheetSyncJobModel.createdAt (isClaimable locked now) s.db.val.jobs with
  | none => rfl
  | some r =>
      obtain ⟨db, hcommit, -⟩ := s.db.commit_of_same_keys
        { s.db.val with jobs := updateWhere (fun j => j.id = r.id) (·.claim now) s.db.val.jobs }
        rfl (Sql.map_updateWhere (fun j => j.id = r.id) (·.claim now)
          (fun j => (j.id, j.connectionId)) (fun _ => rfl) s.db.val.jobs)
      dsimp only
      rw [hcommit]
      rfl

/-- What holds while `j` waits. -/
structure Waits (j : SheetSyncJobModel) (s : QueueState) : Prop where
  wellFormed : s.WellFormed
  attempts : ∀ r ∈ s.db.val.jobs, r.status = .queued → r.attemptCount < maxAttempts
  stored : j ∈ s.db.val.jobs
  queued : j.status = .queued

section Step

variable {j r : SheetSyncJobModel} {s s' : QueueState} {e : QueueEvent}

/-- A job that waits is in no worker's hands. -/
theorem Waits.ne_executing (h : Waits j s) (hr : r ∈ s.db.val.jobs) (hmine : r.id ∈ s.executing) :
    j.id ≠ r.id ∧ r.status = .running := by
  obtain ⟨k, hk, hid, hrunning⟩ := h.wellFormed.running_of_executing r.id hmine
  obtain rfl := s.db.property.2.2.1.eq hk hr hid
  refine ⟨?_, hrunning⟩
  intro hsame
  obtain rfl := s.db.property.2.2.1.eq h.stored hk hsame
  cases h.queued.symm.trans hrunning

/-- The jobs are those of before and new ones that are younger than `j`. -/
structure Grows (j : SheetSyncJobModel) (t t' : SheetTables) : Prop where
  jobs : ∃ new : List SheetSyncJobModel, t'.jobs = t.jobs ++ new ∧
    ∀ k ∈ new, j.createdAt < k.createdAt ∧ k.attemptCount = 0

/-- One row of another job is rewritten; where it waits it has attempts left. -/
structure Touches (j : SheetSyncJobModel) (t t' : SheetTables) (cost : ℕ) : Prop where
  row : ∃ r ∈ t.jobs, r.id ≠ j.id ∧ ∃ f : SheetSyncJobModel → SheetSyncJobModel,
    t'.jobs = updateWhere (fun k => k.id = r.id) f t.jobs ∧
      ((f r).status = .queued → (f r).attemptCount < maxAttempts) ∧
      j.attemptsAhead (f r) + cost ≤ j.attemptsAhead r

theorem Grows.refl (j : SheetSyncJobModel) {t t' : SheetTables} (h : t'.jobs = t.jobs) :
    Grows j t t' :=
  ⟨[], by rw [h, List.append_nil], fun _ hk => absurd hk List.not_mem_nil⟩

theorem Grows.of_enqueues {t t' : SheetTables} {trigger : SheetSyncTrigger} {id : JobId}
    {now : Instant} (h : Enqueues t trigger id now t') (hnow : j.createdAt < now) :
    Grows j t t' := by
  obtain ⟨c, -, -, rfl⟩ := h
  refine ⟨[queuedJob id c.id trigger now], rfl, ?_⟩
  intro k hk
  rw [List.mem_singleton.mp hk]
  exact ⟨hnow, rfl⟩

theorem Grows.of_dueJobs (t : SheetTables) (ids : ConnectionId → JobId) {now : Instant}
    (hnow : j.createdAt < now) : Grows j t { t with jobs := t.jobs ++ dueJobs t ids now } := by
  refine ⟨dueJobs t ids now, rfl, ?_⟩
  intro k hk
  obtain ⟨c, -, -, rfl⟩ := mem_dueJobs.mp hk
  exact ⟨hnow, rfl⟩

/-- **One step while `j` waits**: the table grows behind `j`, or another row is rewritten, and
a claim costs that row an attempt. -/
theorem Waits.step (h : Waits j s) (hfree : Unhindered j s e) (hmissed : claimOf s e ≠ some j.id) :
    (e.isClaim = false ∧ Grows j s.db.val (queueMachine.next s e).db.val) ∨
      Touches j s.db.val (queueMachine.next s e).db.val (if e.isClaim then 1 else 0) := by
  have heffect := queueMachine_effect s e
  generalize queueMachine.next s e = s' at heffect ⊢
  cases heffect with
  | idle _ hnone =>
      cases e with
      | claim locked now =>
          -- `j` is due, so the claim took a job
          rw [claimOf_claim, Option.map_eq_none_iff, Sql.firstBy_eq_none] at hnone
          cases (hnone j h.stored).symm.trans hfree
      | _ => exact Or.inl ⟨rfl, .refl j rfl⟩
  | reconfigured owner values normalized id now c db hnormalized hconnection hval =>
      have hjobs : db.val.jobs = s.db.val.jobs := by rw [hval]
      exact Or.inl ⟨rfl, .refl j hjobs⟩
  | connected owner values normalized id now db hconnection hval =>
      have hjobs : db.val.jobs = s.db.val.jobs := by rw [hval]
      exact Or.inl ⟨rfl, .refl j hjobs⟩
  | enqueued owner trigger id now db hval => exact Or.inl ⟨rfl, .of_enqueues hval hfree⟩
  | followed owner trigger id now db hval => exact Or.inl ⟨rfl, .of_enqueues hval hfree⟩
  | scheduled ids now db hval =>
      refine Or.inl ⟨rfl, ?_⟩
      show Grows j s.db.val db.val
      rw [hval]
      exact .of_dueJobs s.db.val ids hfree
  | claimed locked now r db hr hclaimable hclaim hval =>
      rw [hclaim] at hmissed
      have hother : r.id ≠ j.id := fun hsame => hmissed (congrArg some hsame)
      -- the oldest job that is due is not younger than `j`
      have holder : r.createdAt ≤ j.createdAt := by
        rw [claimOf_claim, Option.map_eq_some_iff] at hclaim
        obtain ⟨k, hfirst, hid⟩ := hclaim
        obtain rfl := s.db.property.2.2.1.eq (Sql.mem_of_firstBy hfirst).1 hr hid
        exact Sql.le_of_firstBy hfirst h.stored hfree
      have hqueued : r.status = .queued := (isClaimable_iff.mp hclaimable).1
      refine Or.inr ⟨r, hr, hother, (·.claim now), congrArg SheetTables.jobs hval, ?_, ?_⟩
      · intro hclaimed
        cases hclaimed
      · exact (attemptsAhead_claim hother holder hqueued (h.attempts r hr hqueued) now).le
  | succeeded report r db hr hmine hval =>
      refine Or.inr ⟨r, hr, (h.ne_executing hr hmine).1.symm, (·.succeed report),
        congrArg SheetTables.jobs hval, ?_, ?_⟩
      · intro hqueued
        cases hqueued
      · rw [attemptsAhead_succeed]
        exact Nat.zero_le _
  | failed rowsRead error now r db hr hmine hval =>
      obtain ⟨hother, hrunning⟩ := h.ne_executing hr hmine
      refine Or.inr ⟨r, hr, hother.symm, _, congrArg SheetTables.jobs hval, ?_, ?_⟩
      · dsimp only
        rw [recordFailure_status]
        intro hqueued
        unfold SheetSyncJobModel.recordFailure
        split
        · rename_i hless
          exact hless
        · rename_i hless
          rw [if_neg hless] at hqueued
          cases hqueued
      · exact attemptsAhead_recordFailure hrunning _ _ _
  | killed progress r db hr hmine hval =>
      obtain ⟨hother, hrunning⟩ := h.ne_executing hr hmine
      cases progress with
      | none => exact Or.inl ⟨rfl, .refl j (congrArg SheetTables.jobs hval)⟩
      | some p =>
          refine Or.inr ⟨r, hr, hother.symm, _, congrArg SheetTables.jobs hval, ?_, ?_⟩
          · intro hqueued
            cases hrunning.symm.trans hqueued
          · exact le_refl _

theorem Waits.next (h : Waits j s) (hfree : Unhindered j s e) (hmissed : claimOf s e ≠ some j.id) :
    Waits j (queueMachine.next s e) := by
  have hstep := h.step hfree hmissed
  have hwf := wellFormed_next s e h.wellFormed
  generalize queueMachine.next s e = s' at hstep hwf ⊢
  rcases hstep with ⟨-, new, hjobs, hnew⟩ | ⟨r, hr, hother, f, hjobs, hattempts, -⟩
  · refine ⟨hwf, ?_, ?_, h.queued⟩
    · intro k hk hqueued
      rw [hjobs] at hk
      rcases List.mem_append.mp hk with hk | hk
      · exact h.attempts k hk hqueued
      · rw [(hnew k hk).2]
        decide
    · rw [hjobs]
      exact List.mem_append_left _ h.stored
  · refine ⟨hwf, ?_, ?_, h.queued⟩
    · intro k hk hqueued
      rw [hjobs, UniqueOn.mem_updateWhere s.db.property.2.2.1 hr] at hk
      rcases hk with rfl | ⟨hk, -⟩
      · exact hattempts hqueued
      · exact h.attempts k hk hqueued
    · rw [hjobs, UniqueOn.mem_updateWhere s.db.property.2.2.1 hr]
      exact Or.inr ⟨h.stored, hother.symm⟩

theorem Waits.pays (h : Waits j s) (hfree : Unhindered j s e) (hmissed : claimOf s e ≠ some j.id) :
    (queueMachine.next s e).db.val.attemptsAhead j + (if e.isClaim then 1 else 0) ≤
      s.db.val.attemptsAhead j := by
  have hstep := h.step hfree hmissed
  generalize queueMachine.next s e = s' at hstep ⊢
  unfold SheetTables.attemptsAhead
  rcases hstep with ⟨hnoclaim, new, hjobs, hnew⟩ | ⟨r, hr, -, f, hjobs, -, hcost⟩
  · have hbehind : (new.map j.attemptsAhead).sum = 0 := by
      rw [List.sum_eq_zero_iff_forall_eq_nat]
      intro n hn
      obtain ⟨k, hk, rfl⟩ := List.mem_map.mp hn
      exact attemptsAhead_of_younger (hnew k hk).1
    rw [hjobs, hnoclaim, List.map_append, List.sum_append, hbehind]
    exact le_refl _
  · have hsum := sum_updateWhere s.db.property.2.2.1 hr f j.attemptsAhead
    rw [hjobs]
    omega

end Step

/-- **Claims of other jobs are paid for** by the attempts ahead of `j`. -/
theorem waits_budget (j : SheetSyncJobModel) :
    queueMachine.Budget (fun s e => Unhindered j s e ∧ ¬ claimOf s e = some j.id) (Waits j)
      QueueEvent.isClaim (fun _ => 0) (fun s => s.db.val.attemptsAhead j) where
  keeps _ _ h hguard := h.next hguard.1 hguard.2
  pays _ _ h hguard := h.pays hguard.1 hguard.2

/-! ## A run -/

/-- The jobs that can be claimed before `j`. -/
def SheetTables.olderJobs (t : SheetTables) (j : SheetSyncJobModel) : List SheetSyncJobModel :=
  t.jobs.filter fun r =>
    r.id ≠ j.id ∧ r.createdAt ≤ j.createdAt ∧ (r.status = .queued ∨ r.status = .running)

/-- Three attempts at most for each older job. -/
theorem attemptsAhead_le (t : SheetTables) (j : SheetSyncJobModel) :
    t.attemptsAhead j ≤ 3 * (t.olderJobs j).length := by
  unfold SheetTables.attemptsAhead SheetTables.olderJobs
  induction t.jobs with
  | nil => exact Nat.zero_le _
  | cons r rest ih =>
      rw [List.map_cons, List.sum_cons, List.filter_cons]
      by_cases hahead : r.id ≠ j.id ∧ r.createdAt ≤ j.createdAt ∧
          (r.status = .queued ∨ r.status = .running)
      · have hshare : j.attemptsAhead r = maxAttempts - r.attemptCount := if_pos hahead
        have hthree : maxAttempts - r.attemptCount ≤ 3 := Nat.sub_le _ _
        rw [hshare, if_pos (decide_eq_true hahead), List.length_cons]
        omega
      · have hshare : j.attemptsAhead r = 0 := if_neg hahead
        rw [hshare, if_neg (by rwa [decide_eq_true_eq])]
        omega

theorem waits_reached (db : SheetDatabase) (hempty : db.val.jobs = []) (past : List QueueEvent)
    {j : SheetSyncJobModel} (hj : j ∈ (queueMachine.run (QueueState.initial db) past).db.val.jobs)
    (hqueued : j.status = .queued) : Waits j (queueMachine.run (QueueState.initial db) past) where
  wellFormed := queueMachine.invariant_run wellFormed_next (wellFormed_initial hempty) past
  attempts r hr hwaiting :=
    ((queueMachine.history_induction retrying_next (retrying_initial hempty) past).tracks r hr).waiting
      hwaiting
  stored := hj
  queued := hqueued

/-- **No job starves.**  After every run from an empty queue, let `j` be in the queue; and let
the run go on in any way in which younger jobs only are created and every claim comes when `j`
is due and its row is free.  Then `j` is claimed by the time the workers have claimed more often
than there are attempts left ahead of it, which is three times for each older job at most. -/
theorem overtaking_bounded (db : SheetDatabase) (hempty : db.val.jobs = [])
    (past future : List QueueEvent) {j : SheetSyncJobModel}
    (hj : j ∈ (queueMachine.run (QueueState.initial db) past).db.val.jobs)
    (hqueued : j.status = .queued)
    (hfree : queueMachine.Along (Unhindered j) (queueMachine.run (QueueState.initial db) past)
      future) :
    (queueMachine.run (QueueState.initial db) past).db.val.attemptsAhead j ≤
        3 * ((queueMachine.run (QueueState.initial db) past).db.val.olderJobs j).length ∧
      ((queueMachine.run (QueueState.initial db) past).db.val.attemptsAhead j <
          future.countP QueueEvent.isClaim →
        ∃ x ∈ queueMachine.history (queueMachine.run (QueueState.initial db) past) future,
          claimOf x.before x.event = some j.id) := by
  refine ⟨attemptsAhead_le _ j, ?_⟩
  intro hmany
  refine (waits_budget j).exists_hit (waits_reached db hempty past hj hqueued) hfree ?_
  have hincome : (future.map fun _ => 0).sum = 0 := by simp
  omega

/-- Job 21 is queued while job 20 runs; then job 20 fails for the first time. -/
def overtakenPast : List QueueEvent :=
  [.enqueueSheetSync 1 .lotCreated 20 1, .claim [] 2, .enqueueSheetSync 1 .lotUpdated 21 3,
    .fail 20 none "timeout" 4]

/-- Job 20 comes first twice more. -/
def overtakenFuture : List QueueEvent :=
  [.claim [] 9000000, .fail 20 none "timeout" 9000001, .claim [] 90000000,
    .fail 20 none "timeout" 90000001, .claim [] 90000002]

theorem overtaking_bounded_twice :
    ∃ x ∈ queueMachine.history
        (queueMachine.run (QueueState.initial customerDatabase) overtakenPast) overtakenFuture,
      claimOf x.before x.event = some 21 := by
  have hj : queuedJob 21 10 .lotUpdated 3 ∈
      (queueMachine.run (QueueState.initial customerDatabase) overtakenPast).db.val.jobs := by
    decide +kernel
  have hfree : queueMachine.Along (Unhindered (queuedJob 21 10 .lotUpdated 3))
      (queueMachine.run (QueueState.initial customerDatabase) overtakenPast) overtakenFuture := by
    decide +kernel
  exact (overtaking_bounded customerDatabase rfl overtakenPast overtakenFuture hj rfl hfree).2
    (by decide +kernel)

end BondTrading
