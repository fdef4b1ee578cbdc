/-
# BondTrading.Sheets.Overlaps -- two executions of one connection

The lock of a claim is on the row of the job, and an event that arrives during an
execution queues a follow-up.  So two executions of a connection overlap exactly when the
follow-up is claimed before the first one is settled.
-/
import BondTrading.Sheets.Effects

namespace BondTrading

open Py (Instant)
open Sql (UniqueOn updateWhere)
open Machines (Machine)

/-- No two RUNNING jobs of one connection. -/
def OneRunning (t : SheetTables) : Prop :=
  ∀ j ∈ t.jobs, ∀ k ∈ t.jobs, j.status = .running → k.status = .running →
    j.connectionId = k.connectionId → j = k

instance : DecidablePred OneRunning := fun t => by
  unfold OneRunning
  infer_instance

/-- The job a step claims meets no RUNNING job of its connection. -/
def ClaimAlone (s : QueueState) (e : QueueEvent) : Prop :=
  ∀ id ∈ claimOf s e, ∀ r ∈ s.db.val.jobs, r.id = id →
    ∀ j ∈ s.db.val.jobs, j.status = .running → j.connectionId ≠ r.connectionId

instance (s : QueueState) (e : QueueEvent) : Decidable (ClaimAlone s e) :=
  inferInstanceAs (Decidable (∀ id ∈ claimOf s e, _))

/-- A claim made by the only worker: it has settled what it claimed before, and it is the
first worker. -/
def OneWorker (s : QueueState) (e : QueueEvent) : Prop :=
  (claimOf s e).isSome = true → s.executing = [] ∧ s.abandoned = []

instance (s : QueueState) (e : QueueEvent) : Decidable (OneWorker s e) :=
  inferInstanceAs (Decidable (_ → _))

/-- Only a claim makes a row RUNNING. -/
theorem running_before {s s' : QueueState} {e : QueueEvent} (h : Effect s e s')
    (hclaim : claimOf s e = none) {j : SheetSyncJobModel} (hj : j ∈ s'.db.val.jobs)
    (hrunning : j.status = .running) :
    ∃ r ∈ s.db.val.jobs, r.status = .running ∧ r.id = j.id ∧
      r.connectionId = j.connectionId ∧ r.startedAt = j.startedAt := by
  -- an update that does not set RUNNING
  have hupdate : ∀ r ∈ s.db.val.jobs, ∀ f : SheetSyncJobModel → SheetSyncJobModel,
      ((f r).status = .running → r.status = .running ∧ r.id = (f r).id ∧
        r.connectionId = (f r).connectionId ∧ r.startedAt = (f r).startedAt) →
      j ∈ updateWhere (fun k => k.id = r.id) f s.db.val.jobs →
      ∃ r ∈ s.db.val.jobs, r.status = .running ∧ r.id = j.id ∧
        r.connectionId = j.connectionId ∧ r.startedAt = j.startedAt := by
    intro r hr f hf hj
    rcases (UniqueOn.mem_updateWhere s.db.property.2.2.1 hr f).mp hj with rfl | ⟨hold, -⟩
    · exact ⟨r, hr, hf hrunning⟩
    · exact ⟨j, hold, hrunning, rfl, rfl, rfl⟩
  -- a new job waits
  have hcreated : ∀ new : List SheetSyncJobModel, (∀ k ∈ new, k.status = .queued) →
      j ∈ s.db.val.jobs ++ new →
      ∃ r ∈ s.db.val.jobs, r.status = .running ∧ r.id = j.id ∧
        r.connectionId = j.connectionId ∧ r.startedAt = j.startedAt := by
    intro new hnew hj
    rcases List.mem_append.mp hj with hold | hj
    · exact ⟨j, hold, hrunning, rfl, rfl, rfl⟩
    · exact absurd ((hnew j hj).symm.trans hrunning) (by decide)
  have hone : ∀ id connection trigger now, ∀ k ∈ [queuedJob id connection trigger now],
      k.status = .queued := by
    intro id connection trigger now k hk
    rw [List.mem_singleton.mp hk]
    rfl
  cases h with
  | idle => exact ⟨j, hj, hrunning, rfl, rfl, rfl⟩
  | reconfigured owner values normalized id now c db hnormalized hconnection hval =>
      rw [hval] at hj
      exact ⟨j, hj, hrunning, rfl, rfl, rfl⟩
  | connected owner values normalized id now db hconnection hval =>
      rw [hval] at hj
      exact ⟨j, hj, hrunning, rfl, rfl, rfl⟩
  | enqueued owner trigger id now db hval =>
      obtain ⟨c, -, -, hval⟩ := hval
      rw [hval] at hj
      exact hcreated _ (hone _ _ _ _) hj
  | followed owner trigger id now db hval =>
      obtain ⟨c, -, -, hval⟩ := hval
      rw [hval] at hj
      exact hcreated _ (hone _ _ _ _) hj
  | scheduled ids now db hval =>
      rw [hval] at hj
      refine hcreated _ ?_ hj
      intro k hk
      obtain ⟨c, -, -, rfl⟩ := mem_dueJobs.mp hk
      rfl
  | claimed locked now r db hr hclaimable hclaimed hval =>
      cases hclaim.symm.trans hclaimed
  | succeeded report r db hr hmine hval =>
      rw [hval] at hj
      exact hupdate r hr (·.succeed report) (fun h => nomatch h) hj
  | failed rowsRead error now r db hr hmine hval =>
      rw [hval] at hj
      refine hupdate r hr _ ?_ hj
      intro hstatus
      rw [recordFailure_status] at hstatus
      split at hstatus <;> cases hstatus
  | killed progress r db hr hmine hval =>
      rw [hval] at hj
      cases progress with
      | none => exact ⟨j, hj, hrunning, rfl, rfl, rfl⟩
      | some p =>
          refine hupdate r hr _ ?_ hj
          intro hstatus
          exact ⟨hstatus, rfl, rfl, rfl⟩

/-- **One step makes no overlap exactly if its claim, when it is one, is alone.** -/
theorem oneRunning_next_iff (s : QueueState) (e : QueueEvent) (_ : s.WellFormed)
    (h : OneRunning s.db.val) :
    OneRunning (queueMachine.next s e).db.val ↔ ClaimAlone s e := by
  have heffect := queueMachine_effect s e
  generalize queueMachine.next s e = s' at heffect ⊢
  cases hclaim : claimOf s e with
  | none =>
      refine iff_of_true ?_ ?_
      · intro j hj k hk hjrun hkrun hsame
        obtain ⟨j₀, hj₀, hj₀run, hjid, hjconnection, -⟩ := running_before heffect hclaim hj hjrun
        obtain ⟨k₀, hk₀, hk₀run, hkid, hkconnection, -⟩ := running_before heffect hclaim hk hkrun
        have hrows : j₀ = k₀ := h j₀ hj₀ k₀ hk₀ hj₀run hk₀run
          (hjconnection.trans (hsame.trans hkconnection.symm))
        refine s'.db.property.2.2.1.eq hj hk ?_
        rw [← hjid, ← hkid, hrows]
      · intro id hid
        rw [hclaim] at hid
        cases hid
  | some claimed =>
      obtain ⟨_, now, -, r, hr, rfl, hqueued, hmem⟩ := heffect.claimed_row hclaim
      have hnotme : ∀ j ∈ s.db.val.jobs, j.status = .running → j.id ≠ r.id := by
        intro j hj hrunning hid
        rw [s.db.property.2.2.1.eq hj hr hid, hqueued] at hrunning
        cases hrunning
      constructor
      · -- the claimed row and another RUNNING row would be two
        intro hnext id hid row hrow hrowid j hj hrunning hconnection
        rw [hclaim] at hid
        obtain rfl := Option.some.inj hid
        obtain rfl := s.db.property.2.2.1.eq hrow hr hrowid
        have hne := hnotme j hj hrunning
        have hsame := hnext j ((hmem j).mpr (Or.inr ⟨hj, hne⟩)) (row.claim now)
          ((hmem _).mpr (Or.inl rfl)) hrunning rfl hconnection
        exact hne (hsame ▸ rfl)
      · intro halone j hj k hk hjrun hkrun hsame
        have hfree := halone r.id hclaim r hr rfl
        rcases (hmem j).mp hj with rfl | ⟨hj, -⟩ <;> rcases (hmem k).mp hk with rfl | ⟨hk, -⟩
        · rfl
        · exact absurd hsame.symm (hfree k hk hkrun)
        · exact absurd hsame (hfree j hj hjrun)
        · exact h j hj k hk hjrun hkrun hsame

theorem claimAlone_of_oneWorker {s : QueueState} {e : QueueEvent} (hs : s.WellFormed)
    (h : OneWorker s e) : ClaimAlone s e := by
  intro id hid r _ _ j hj hrunning _
  obtain ⟨hexecuting, habandoned⟩ := h (Option.isSome_iff_exists.mpr ⟨id, hid⟩)
  rcases hs.known_of_running j hj hrunning with hmem | hmem
  · rw [hexecuting] at hmem
    exact absurd hmem List.not_mem_nil
  · rw [habandoned] at hmem
    exact absurd hmem List.not_mem_nil

/-- **Overlaps over whole runs.**  Starting with an empty queue, no state a run visits has
two RUNNING jobs of one connection if and only if no claim takes a job of a connection
that has a RUNNING one; in particular while a single worker settles every job before it
claims the next. -/
theorem always_oneRunning_iff (db : SheetDatabase) (hempty : db.val.jobs = [])
    (es : List QueueEvent) :
    (queueMachine.Always (fun s => OneRunning s.db.val) (QueueState.initial db) es ↔
      queueMachine.Along ClaimAlone (QueueState.initial db) es) ∧
    (queueMachine.Along OneWorker (QueueState.initial db) es →
      queueMachine.Always (fun s => OneRunning s.db.val) (QueueState.initial db) es) := by
  have hnone : OneRunning (QueueState.initial db).db.val := by
    intro j hj
    rw [show (QueueState.initial db).db.val.jobs = [] from hempty] at hj
    exact absurd hj List.not_mem_nil
  have hiff := queueMachine.always_iff_along wellFormed_next oneRunning_next_iff
    (wellFormed_initial hempty) hnone es
  refine ⟨hiff, fun hone => hiff.mpr ?_⟩
  exact hone.imp queueMachine (fun s e hs _ => wellFormed_next s e hs)
    (fun s e hs h => claimAlone_of_oneWorker hs h) (wellFormed_initial hempty)

/-- A lot is created; while its synchronization runs the lot is changed, and a second
worker claims the follow-up. -/
def overlappingRun : List QueueEvent :=
  [.enqueueSheetSync 1 .lotCreated 20 1, .claim [] 2, .enqueueSheetSync 1 .lotUpdated 21 3,
    .claim [] 4]

theorem overlappingRun_two_running :
    ¬ OneRunning (queueMachine.run (QueueState.initial customerDatabase) overlappingRun).db.val := by
  decide +kernel

/-- The follow-up waits until the first execution has succeeded. -/
theorem always_oneRunning_followUp :
    queueMachine.Always (fun s => OneRunning s.db.val) (QueueState.initial customerDatabase)
      [.enqueueSheetSync 1 .lotCreated 20 1, .claim [] 2, .enqueueSheetSync 1 .lotUpdated 21 3,
        .succeed 20 ⟨2, 1, 1, 1, [], "hash", 4⟩, .claim [] 5] :=
  (always_oneRunning_iff customerDatabase rfl _).2 (by decide +kernel)

end BondTrading
