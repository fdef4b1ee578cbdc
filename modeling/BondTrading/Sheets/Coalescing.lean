/-
# BondTrading.Sheets.Coalescing -- how many jobs of a connection wait in the queue

Every enqueue looks for a waiting job first; the retry of a failed attempt does not.
So a run keeps at most one waiting job for each connection exactly as long as no retry
meets a job that was enqueued while the attempt was running.
-/
import BondTrading.Sheets.Moves
import Mathlib.Tactic.Common

namespace BondTrading

open Machines (Machine)

/-! ## The workers and the rows -/

/-- Jobs in execution are RUNNING, and a RUNNING job is in execution or was left by a
killed worker. -/
structure QueueState.WellFormed (s : QueueState) : Prop where
  running_of_executing : ∀ id ∈ s.executing, ∃ j ∈ s.db.val.jobs, j.id = id ∧ j.status = .running
  known_of_running : ∀ j ∈ s.db.val.jobs, j.status = .running →
    j.id ∈ s.executing ∨ j.id ∈ s.abandoned

/-- The rows around a rewritten one. -/
theorem Rewrites.mem {t t' : SheetTables} {r r' : SheetSyncJobModel} (h : Rewrites t t' r r') :
    r ∈ t.jobs ∧ r' ∈ t'.jobs ∧ (∀ j ∈ t.jobs, j = r ∨ j ∈ t'.jobs) ∧
      ∀ j ∈ t'.jobs, j = r' ∨ j ∈ t.jobs := by
  obtain ⟨pre, post, hbefore, hafter⟩ := h.split
  rw [hbefore, hafter]
  refine ⟨by simp, by simp, ?_, ?_⟩
  · intro j hj
    simp only [List.mem_append, List.mem_cons] at hj ⊢
    tauto
  · intro j hj
    simp only [List.mem_append, List.mem_cons] at hj ⊢
    tauto

/-- A worker that is done with a row no longer holds it; the other workers hold what
they held. -/
theorem QueueState.WellFormed.release {s s' : QueueState} (h : s.WellFormed)
    {r r' : SheetSyncJobModel} (hrow : Rewrites s.db.val s'.db.val r r')
    (hexecuting : s'.executing = s.executing.filter (· ≠ r.id))
    (habandoned : ∀ id ∈ s.abandoned, id ∈ s'.abandoned)
    (hleft : r'.status = .running → r.id ∈ s'.abandoned) : s'.WellFormed := by
  obtain ⟨-, -, hforth, hback⟩ := hrow.mem
  constructor
  · intro id hid
    rw [hexecuting, List.mem_filter, decide_eq_true_eq] at hid
    obtain ⟨j, hj, rfl, hrunning⟩ := h.running_of_executing id hid.1
    rcases hforth j hj with rfl | hj'
    · exact absurd rfl hid.2
    · exact ⟨j, hj', rfl, hrunning⟩
  · intro j hj hrunning
    rcases hback j hj with rfl | hj'
    · rw [hrow.same_id]
      exact Or.inr (hleft hrunning)
    · by_cases hid : j.id = r.id
      · by_cases hmine : r.id ∈ s'.abandoned
        · exact Or.inr (hid ▸ hmine)
        · -- `j` and `r` are one row of the old table, so `j` is not in the new one
          have hjr : j = r := s.db.property.2.2.1.eq hj' hrow.mem.1 hid
          have hjr' : j = r' := s'.db.property.2.2.1.eq hj hrow.mem.2.1
            (hid.trans hrow.same_id.symm)
          exact absurd (hleft (hjr' ▸ hrunning)) hmine
      · rcases h.known_of_running j hj' hrunning with hexec | haband
        · left
          rw [hexecuting, List.mem_filter, decide_eq_true_eq]
          exact ⟨hexec, hid⟩
        · exact Or.inr (habandoned _ haband)

theorem Moves.wellFormed {s s' : QueueState} {retry : Option SheetSyncJobModel}
    (h : Moves s s' retry) (hs : s.WellFormed) : s'.WellFormed := by
  cases h with
  | kept hjobs hexecuting habandoned =>
      constructor
      · rw [hjobs, hexecuting]
        exact hs.running_of_executing
      · rw [hjobs, hexecuting, habandoned]
        exact hs.known_of_running
  | created new hjobs hqueued hdistinct hnone hexecuting habandoned =>
      constructor
      · intro id hid
        rw [hexecuting] at hid
        obtain ⟨j, hj, hrest⟩ := hs.running_of_executing id hid
        refine ⟨j, ?_, hrest⟩
        rw [hjobs]
        exact List.mem_append_left _ hj
      · intro j hj hrunning
        rw [hjobs] at hj
        rw [hexecuting, habandoned]
        rcases List.mem_append.mp hj with hj | hj
        · exact hs.known_of_running j hj hrunning
        · exact absurd (hrunning.symm.trans (hqueued j hj)) (by decide)
  | claimed r r' hrow hqueued hrunning hexecuting habandoned =>
      obtain ⟨hr, hr', hforth, hback⟩ := hrow.mem
      constructor
      · intro id hid
        rw [hexecuting] at hid
        rcases List.mem_cons.mp hid with rfl | hid
        · exact ⟨r', hr', hrow.same_id, hrunning⟩
        · obtain ⟨j, hj, hid', hrun⟩ := hs.running_of_executing id hid
          rcases hforth j hj with rfl | hj'
          · exact absurd (hrun.symm.trans hqueued) (by decide)
          · exact ⟨j, hj', hid', hrun⟩
      · intro j hj hrun
        rw [hexecuting, habandoned]
        rcases hback j hj with rfl | hj'
        · left
          rw [hrow.same_id]
          exact List.mem_cons_self
        · rcases hs.known_of_running j hj' hrun with hexec | haband
          · exact Or.inl (List.mem_cons_of_mem _ hexec)
          · exact Or.inr haband
  | finished r r' hrow hmine hdone hexecuting habandoned =>
      refine hs.release hrow hexecuting (by rw [habandoned]; exact fun _ h => h) ?_
      intro hrunning
      rcases hdone with hdone | hdone <;> exact absurd (hrunning.symm.trans hdone) (by decide)
  | retried _ r' hrow hmine hqueued hexecuting habandoned =>
      refine hs.release hrow hexecuting (by rw [habandoned]; exact fun _ h => h) ?_
      intro hrunning
      exact absurd (hrunning.symm.trans hqueued) (by decide)
  | abandoned r r' hrow hmine hsame hexecuting habandoned =>
      refine hs.release hrow hexecuting ?_ ?_
      · intro id hid
        rw [habandoned]
        exact List.mem_cons_of_mem _ hid
      · intro _
        rw [habandoned]
        exact List.mem_cons_self

theorem wellFormed_next (s : QueueState) (e : QueueEvent) (h : s.WellFormed) :
    (queueMachine.next s e).WellFormed :=
  (queueMachine_moves s e).wellFormed h

/-- An empty queue and no worker. -/
def QueueState.initial (db : SheetDatabase) : QueueState := ⟨db, [], []⟩

theorem wellFormed_initial {db : SheetDatabase} (h : db.val.jobs = []) :
    (QueueState.initial db).WellFormed where
  running_of_executing id hid := absurd hid List.not_mem_nil
  known_of_running j hj := by
    rw [show (QueueState.initial db).db.val.jobs = [] from h] at hj
    exact absurd hj List.not_mem_nil

/-! ## One waiting job for each connection -/

/-- **Coalescing**: every connection has at most one QUEUED job. -/
def Coalesced (t : SheetTables) : Prop := ∀ connection, queuedCount t connection ≤ 1

/-- How one rewritten row changes the count of a connection. -/
theorem Rewrites.queuedCount {t t' : SheetTables} {r r' : SheetSyncJobModel}
    (h : Rewrites t t' r r') (connection : ConnectionId) :
    queuedCount t' connection + (if isQueuedFor connection r then 1 else 0) =
      queuedCount t connection + if isQueuedFor connection r' then 1 else 0 := by
  obtain ⟨pre, post, hbefore, hafter⟩ := h.split
  simp only [BondTrading.queuedCount, hbefore, hafter, List.countP_append, List.countP_cons]
  omega

/-- A row that does not enter the queue adds to no count. -/
theorem Rewrites.coalesced {t t' : SheetTables} {r r' : SheetSyncJobModel}
    (h : Rewrites t t' r r') (hstatus : r'.status = .queued → r.status = .queued)
    (ht : Coalesced t) : Coalesced t' := by
  intro connection
  have hcount := h.queuedCount connection
  have hle := ht connection
  have hqueued : isQueuedFor connection r' = true → isQueuedFor connection r = true := by
    simp only [isQueuedFor, decide_eq_true_eq, h.same_connection]
    exact fun hr' => ⟨hr'.1, hstatus hr'.2⟩
  by_cases hr' : isQueuedFor connection r' = true
  · rw [if_pos hr', if_pos (hqueued hr')] at hcount
    omega
  · rw [if_neg hr'] at hcount
    omega

theorem created_coalesced {t t' : SheetTables} {new : List SheetSyncJobModel}
    (hjobs : t'.jobs = t.jobs ++ new) (hdistinct : (new.map SheetSyncJobModel.connectionId).Nodup)
    (hnone : ∀ j ∈ new, queuedCount t j.connectionId = 0) (ht : Coalesced t) : Coalesced t' := by
  intro connection
  have hcount : queuedCount t' connection =
      queuedCount t connection + new.countP (isQueuedFor connection) := by
    rw [queuedCount, hjobs, List.countP_append, queuedCount]
  by_cases hmem : ∃ j ∈ new, j.connectionId = connection
  · obtain ⟨j, hj, rfl⟩ := hmem
    have hzero := hnone j hj
    -- the new jobs name the connection once
    have hone : new.countP (isQueuedFor j.connectionId) ≤ 1 := by
      have hcount := List.nodup_iff_count_le_one.mp hdistinct j.connectionId
      rw [List.count_eq_countP, List.countP_map] at hcount
      refine le_trans (List.countP_mono_left fun k _ hk => ?_) hcount
      simp only [isQueuedFor, decide_eq_true_eq] at hk
      simp [hk.1]
    omega
  · have hzero : new.countP (isQueuedFor connection) = 0 := by
      rw [List.countP_eq_zero]
      intro j hj hqueued
      simp only [isQueuedFor, decide_eq_true_eq] at hqueued
      exact hmem ⟨j, hj, hqueued.1⟩
    have hle := ht connection
    omega

/-- The retry of a failed attempt meets no waiting job of its connection. -/
def RetryAlone (s : QueueState) (e : QueueEvent) : Prop :=
  ∀ row ∈ retryOf s e, queuedCount s.db.val row.connectionId = 0

instance (s : QueueState) (e : QueueEvent) : Decidable (RetryAlone s e) :=
  inferInstanceAs (Decidable (∀ row ∈ retryOf s e, _))

/-- **One step stays coalesced exactly if its retry, when it is one, is alone.** -/
theorem coalesced_next_iff (s : QueueState) (e : QueueEvent) (hs : s.WellFormed)
    (h : Coalesced s.db.val) :
    Coalesced (queueMachine.next s e).db.val ↔ RetryAlone s e := by
  have hmoves := queueMachine_moves s e
  unfold RetryAlone
  generalize queueMachine.next s e = s' at hmoves ⊢
  generalize retryOf s e = retry at hmoves ⊢
  cases hmoves with
  | kept hjobs hexecuting habandoned =>
      refine iff_of_true ?_ (by simp)
      intro connection
      rw [queuedCount, hjobs]
      exact h connection
  | created new hjobs hqueued hdistinct hnone hexecuting habandoned =>
      exact iff_of_true (created_coalesced hjobs hdistinct hnone h) (by simp)
  | claimed r r' hrow hqueued hrunning hexecuting habandoned =>
      exact iff_of_true (hrow.coalesced (fun _ => hqueued) h) (by simp)
  | finished r r' hrow hmine hdone hexecuting habandoned =>
      refine iff_of_true (hrow.coalesced (fun hqueued => ?_) h) (by simp)
      rcases hdone with hdone | hdone <;> exact absurd (hqueued.symm.trans hdone) (by decide)
  | abandoned r r' hrow hmine hsame hexecuting habandoned =>
      exact iff_of_true (hrow.coalesced (fun hqueued => hsame ▸ hqueued) h) (by simp)
  | retried r r' hrow hmine hqueued hexecuting habandoned =>
      -- the row was RUNNING and now waits: its connection gains one
      obtain ⟨j, hj, hid, hrunning⟩ := hs.running_of_executing r.id hmine
      have hjr : j = r := s.db.property.2.2.1.eq hj hrow.mem.1 hid
      rw [hjr] at hrunning
      have hcount : ∀ connection, queuedCount s'.db.val connection =
          queuedCount s.db.val connection + if r.connectionId = connection then 1 else 0 := by
        intro connection
        have hrewrites := hrow.queuedCount connection
        have hr : isQueuedFor connection r = false := by simp [isQueuedFor, hrunning]
        have hr' : isQueuedFor connection r' = decide (r.connectionId = connection) := by
          simp [isQueuedFor, hqueued, hrow.same_connection]
        rw [hr, hr'] at hrewrites
        simpa using hrewrites
      constructor
      · intro hnext row hrow'
        obtain rfl := Option.some.inj hrow'
        have hle := hnext r.connectionId
        rw [hcount, if_pos rfl] at hle
        omega
      · intro halone connection
        rw [hcount]
        split
        · rename_i hconnection
          rw [← hconnection, halone r rfl]
        · exact h connection

/-- **Coalescing over whole runs.**  Starting with an empty queue, every state a run
visits has at most one QUEUED job for each connection if and only if no failed attempt
is put back into the queue while another job of its connection waits there. -/
theorem always_coalesced_iff (db : SheetDatabase) (hempty : db.val.jobs = [])
    (es : List QueueEvent) :
    queueMachine.Always (fun s => Coalesced s.db.val) (QueueState.initial db) es ↔
      queueMachine.Along RetryAlone (QueueState.initial db) es := by
  refine queueMachine.always_iff_along wellFormed_next coalesced_next_iff
    (wellFormed_initial hempty) ?_ es
  intro connection
  rw [queuedCount, show (QueueState.initial db).db.val.jobs = [] from hempty]
  exact Nat.zero_le 1

/-! ## A run -/

/-- A connection of user 1, due every five minutes. -/
def customerConnection : SheetConnectionModel where
  id := 10
  ownerId := 1
  provider := "google_sheets"
  spreadsheetId := "customer-sheet"
  worksheetName := "Портфель"
  headerRow := 1
  isinColumn := "A"
  priceColumn := "C"
  updatedAtColumn := none
  statusColumn := some "D"
  priceMode := .bestOfferCleanRub
  enabled := true
  syncIntervalSeconds := 300
  lastAttemptAt := none
  lastSuccessAt := none
  lastError := none
  lastPayloadHash := none
  createdAt := 0

def customerDatabase : SheetDatabase := ⟨⟨[customerConnection], []⟩, by decide⟩

/-- A lot is created; while its synchronization runs the lot is changed; then the
attempt fails. -/
def followUpRun : List QueueEvent :=
  [.enqueueSheetSync 1 .lotCreated 20 1,
    .claim [] 2,
    .enqueueSheetSync 1 .lotUpdated 21 3,
    .fail 20 none "timeout" 4]

theorem followUpRun_not_coalesced :
    ¬ Coalesced
      (queueMachine.run (QueueState.initial customerDatabase) followUpRun).db.val := by
  intro h
  exact absurd (h 10) (by decide +kernel)

/-- Without the change in between, the retry is alone. -/
theorem always_coalesced_iff_retry :
    queueMachine.Always (fun s => Coalesced s.db.val) (QueueState.initial customerDatabase)
      [.enqueueSheetSync 1 .lotCreated 20 1, .claim [] 2, .fail 20 none "timeout" 4] :=
  (always_coalesced_iff customerDatabase rfl _).mpr (by decide +kernel)

end BondTrading
