/-
# BondTrading.Sheets.FollowUps -- events that interleave with each other and with claims

The caller of `enqueue_sheet_sync` reads the queue and commits later, together with its
own change.  The read takes no lock, so at the commit the queue may be another one:
`followUpMachine` runs the two steps of any number of events between atomic claims and
completions.
-/
import BondTrading.Sheets.Effects

namespace BondTrading

open Py (Instant)
open Sql (UniqueOn updateWhere)
open Machines (Machine)

/-! ## The two steps of an event -/

/-- What the two queries of `enqueue_sheet_sync` found. -/
inductive QueueReading where
  /-- No enabled connection. -/
  | disabled
  /-- A job of the connection waits already. -/
  | queued (connection : ConnectionId)
  | absent (connection : ConnectionId)
  deriving DecidableEq, Repr

/-- The connection of an event that has to be followed by a synchronization. -/
def QueueReading.connection : QueueReading → Option ConnectionId
  | .disabled => none
  | .queued connection => some connection
  | .absent connection => some connection

/-- The queries. -/
def readQueue (t : SheetTables) (owner : UserId) : QueueReading :=
  match t.connections.find? fun c =>
      c.ownerId = owner ∧ c.provider = "google_sheets" ∧ c.enabled = true with
  | none => .disabled
  | some connection =>
      match t.jobs.find? (isQueuedFor connection.id) with
      | some _ => .queued connection.id
      | none => .absent connection.id

/-- The job the session adds, as its commit writes it. -/
def addJob (t : SheetTables) (trigger : SheetSyncTrigger) (id : JobId) (now : Instant) :
    QueueReading → SheetTables
  | .absent connection => { t with jobs := t.jobs ++ [queuedJob id connection trigger now] }
  | _ => t

/-- Run without a break, the two steps are `enqueue_sheet_sync`. -/
theorem enqueueSheetSync_eq (t : SheetTables) (owner : UserId) (trigger : SheetSyncTrigger)
    (id : JobId) (now : Instant) :
    (enqueueSheetSync t owner trigger id now).1 = addJob t trigger id now (readQueue t owner) := by
  unfold enqueueSheetSync readQueue
  cases t.connections.find? fun c =>
      c.ownerId = owner ∧ c.provider = "google_sheets" ∧ c.enabled = true with
  | none => rfl
  | some connection =>
      dsimp only
      cases t.jobs.find? (isQueuedFor connection.id) with
      | none => rfl
      | some existing => rfl

/-! ## The machine -/

abbrev EventId := ℕ

/-- What is recorded about a connection: an event of it was committed, a job of it was
claimed. -/
inductive QueueMark where
  | committed (connection : ConnectionId)
  | claimed (connection : ConnectionId)
  deriving DecidableEq, Repr

/-- The queue, the events that have read it and not committed yet, and the order in which
commits and claims came. -/
structure EventState where
  queue : QueueState
  pending : List (EventId × QueueReading)
  log : List QueueMark

inductive EventStep where
  | read (event : EventId) (owner : UserId)
  | commit (event : EventId) (trigger : SheetSyncTrigger) (id : JobId) (now : Instant)
  | claim (locked : List JobId) (now : Instant)
  | succeed (job : JobId) (report : SyncReport)

/-- What the event has read. -/
def EventState.reading (s : EventState) (event : EventId) : Option QueueReading :=
  (s.pending.find? fun p => p.1 = event).map Prod.snd

/-- The connection whose job a step of the queue claims. -/
def claimedConnection (s : QueueState) (e : QueueEvent) : Option ConnectionId :=
  (claimOf s e).bind fun id =>
    (s.db.val.jobs.find? fun j => j.id = id).map SheetSyncJobModel.connectionId

/-- The commit of an event: its change and the job, or nothing. -/
def EventState.commitEvent (s : EventState) (event : EventId) (reading : QueueReading) :
    Except PyError SheetDatabase → EventState × Option PyError
  | .ok db =>
      ({ queue := { s.queue with db }
         pending := s.pending.filter fun p => p.1 ≠ event
         log := s.log ++ reading.connection.toList.map .committed }, none)
  | .error e => ({ s with pending := s.pending.filter fun p => p.1 ≠ event }, some e)

def followUpMachine : Machine EventState EventStep (Option PyError) where
  step s
    | .read event owner =>
        ({ s with pending :=
            (event, readQueue s.queue.db.val owner) :: s.pending.filter fun p => p.1 ≠ event },
          none)
    | .commit event trigger id now =>
        match s.reading event with
        | none => (s, none)
        | some reading =>
            s.commitEvent event reading (addJob s.queue.db.val trigger id now reading).commit
    | .claim locked now =>
        ({ s with
            queue := queueMachine.next s.queue (.claim locked now)
            log := s.log ++
              (claimedConnection s.queue (.claim locked now)).toList.map .claimed }, none)
    | .succeed job report =>
        ({ s with queue := queueMachine.next s.queue (.succeed job report) }, none)

def EventState.initial (db : SheetDatabase) : EventState := ⟨QueueState.initial db, [], []⟩

/-! ## What is promised -/

/-- **Every committed event is followed**: a job of its connection still waits, or one was
claimed after the commit. -/
def FollowedUp (s : EventState) : Prop :=
  ∀ pre post connection, s.log = pre ++ .committed connection :: post →
    (∃ j ∈ s.queue.db.val.jobs, isQueuedFor connection j = true) ∨ .claimed connection ∈ post

/-- No job is lost and none is doubled. -/
def ExactlyOneNext (s : EventState) : Prop := Coalesced s.queue.db.val ∧ FollowedUp s

/-- What an event has read is still so. -/
def ReadingHolds (t : SheetTables) : QueueReading → Prop
  | .disabled => True
  | .queued connection => queuedCount t connection ≠ 0
  | .absent connection => queuedCount t connection = 0

instance (t : SheetTables) : (reading : QueueReading) → Decidable (ReadingHolds t reading)
  | .disabled => isTrue trivial
  | .queued connection => inferInstanceAs (Decidable (queuedCount t connection ≠ 0))
  | .absent connection => inferInstanceAs (Decidable (queuedCount t connection = 0))

/-- A commit that goes through finds the queue as the event has read it. -/
def CommitsWhatItRead (s : EventState) : EventStep → Prop
  | .commit event trigger id now =>
      ∀ reading ∈ s.reading event,
        (addJob s.queue.db.val trigger id now reading).commit.isOk = true →
        ReadingHolds s.queue.db.val reading
  | _ => True

instance (s : EventState) : (e : EventStep) → Decidable (CommitsWhatItRead s e)
  | .commit event trigger id now =>
      inferInstanceAs (Decidable (∀ reading ∈ s.reading event,
        (addJob s.queue.db.val trigger id now reading).commit.isOk = true →
        ReadingHolds s.queue.db.val reading))
  | .read .. => isTrue trivial
  | .claim .. => isTrue trivial
  | .succeed .. => isTrue trivial

theorem queuedCount_ne_zero {t : SheetTables} {connection : ConnectionId} :
    queuedCount t connection ≠ 0 ↔ ∃ j ∈ t.jobs, isQueuedFor connection j = true := by
  rw [queuedCount, ← Nat.pos_iff_ne_zero, List.countP_pos_iff]

/-! ## The log -/

/-- The marks of other connections, and claims, do not undo what was followed. -/
theorem FollowedUp.extend {s s' : EventState} (h : FollowedUp s) (marks : List QueueMark)
    (hlog : s'.log = s.log ++ marks)
    (hwaiting : ∀ connection, (∃ j ∈ s.queue.db.val.jobs, isQueuedFor connection j = true) →
      (∃ j ∈ s'.queue.db.val.jobs, isQueuedFor connection j = true) ∨
        .claimed connection ∈ marks)
    (hmarks : ∀ connection, .committed connection ∈ marks →
      ∃ j ∈ s'.queue.db.val.jobs, isQueuedFor connection j = true) : FollowedUp s' := by
  intro pre post connection hsplit
  rw [hlog] at hsplit
  rcases List.append_eq_append_iff.mp hsplit.symm with ⟨tail, hpre, hpost⟩ | ⟨tail, hpre, hpost⟩
  · -- the event stands in the old log, or is the first new mark
    cases tail with
    | nil =>
        refine Or.inl (hmarks connection ?_)
        rw [List.nil_append] at hpost
        rw [← hpost]
        exact List.mem_cons_self
    | cons mark tail =>
        obtain ⟨rfl, rfl⟩ := List.cons.inj hpost
        rcases h pre tail connection hpre with hwait | hclaimed
        · exact (hwaiting connection hwait).imp_right (List.mem_append_right _)
        · exact Or.inr (List.mem_append_left _ hclaimed)
  · -- the event is among the new marks
    refine Or.inl (hmarks connection ?_)
    rw [hpost]
    exact List.mem_append_right _ List.mem_cons_self

/-! ## Steps and runs -/

/-- One more waiting job changes nothing for the workers. -/
theorem QueueState.WellFormed.append_queued {s : QueueState} (h : s.WellFormed)
    {db : SheetDatabase} {new : List SheetSyncJobModel} (hjobs : db.val.jobs = s.db.val.jobs ++ new)
    (hnew : ∀ j ∈ new, j.status = .queued) : { s with db }.WellFormed where
  running_of_executing id hid := by
    obtain ⟨j, hj, hrest⟩ := h.running_of_executing id hid
    refine ⟨j, ?_, hrest⟩
    show j ∈ db.val.jobs
    rw [hjobs]
    exact List.mem_append_left _ hj
  known_of_running j hj hrunning := by
    have hj' : j ∈ db.val.jobs := hj
    rw [hjobs] at hj'
    rcases List.mem_append.mp hj' with hold | hj'
    · exact h.known_of_running j hold hrunning
    · exact absurd ((hnew j hj').symm.trans hrunning) (by decide)

/-- What a commit adds to the jobs. -/
theorem addJob_jobs (t : SheetTables) (trigger : SheetSyncTrigger) (id : JobId) (now : Instant)
    (reading : QueueReading) :
    ∃ new, (addJob t trigger id now reading).jobs = t.jobs ++ new ∧
      ∀ j ∈ new, j.status = .queued := by
  cases reading with
  | disabled => exact ⟨[], (List.append_nil _).symm, fun _ h => absurd h List.not_mem_nil⟩
  | queued connection => exact ⟨[], (List.append_nil _).symm, fun _ h => absurd h List.not_mem_nil⟩
  | absent connection =>
      refine ⟨_, rfl, ?_⟩
      intro j hj
      rw [List.mem_singleton.mp hj]
      rfl

theorem followUp_wellFormed (s : EventState) (e : EventStep) (h : s.queue.WellFormed) :
    (followUpMachine.next s e).queue.WellFormed := by
  cases e with
  | read event owner => exact h
  | claim locked now => exact wellFormed_next s.queue _ h
  | succeed job report => exact wellFormed_next s.queue _ h
  | commit event trigger id now =>
      unfold Machine.next followUpMachine
      cases hreading : s.reading event with
      | none =>
          simp only [hreading]
          exact h
      | some reading =>
          simp only [hreading]
          cases hcommit : (addJob s.queue.db.val trigger id now reading).commit with
          | error error => exact h
          | ok db =>
              obtain ⟨new, hjobs, hnew⟩ := addJob_jobs s.queue.db.val trigger id now reading
              refine h.append_queued ?_ hnew
              rw [Sql.commit_eq_ok.mp hcommit, hjobs]

/-- A commit that reads nothing of the queue, or reads a waiting job, or adds one. -/
theorem exactlyOneNext_commit_iff {s : EventState} (h : ExactlyOneNext s) (event : EventId)
    (trigger : SheetSyncTrigger) (id : JobId) (now : Instant) (reading : QueueReading)
    {db : SheetDatabase} (hval : db.val = addJob s.queue.db.val trigger id now reading) :
    ExactlyOneNext (s.commitEvent event reading (.ok db)).1 ↔
      ReadingHolds s.queue.db.val reading := by
  obtain ⟨hcoalesced, hfollowed⟩ := h
  cases reading with
  | disabled =>
      have hsame : db = s.queue.db := Subtype.ext hval
      refine iff_of_true ⟨?_, ?_⟩ trivial
      · show Coalesced db.val
        rw [hsame]
        exact hcoalesced
      · refine hfollowed.extend [] rfl ?_ fun _ hmark => absurd hmark List.not_mem_nil
        intro connection hwait
        show (∃ j ∈ db.val.jobs, _) ∨ _
        rw [hsame]
        exact Or.inl hwait
  | queued connection =>
      have hsame : db = s.queue.db := Subtype.ext hval
      constructor
      · -- the event is the last mark, so its job has to wait
        rintro ⟨-, hnext⟩
        rcases hnext s.log [] connection rfl with hwait | hclaimed
        · have hwait' : ∃ j ∈ db.val.jobs, isQueuedFor connection j = true := hwait
          rw [hsame] at hwait'
          exact queuedCount_ne_zero.mpr hwait'
        · exact absurd hclaimed List.not_mem_nil
      · intro hholds
        refine ⟨?_, ?_⟩
        · show Coalesced db.val
          rw [hsame]
          exact hcoalesced
        · refine hfollowed.extend [.committed connection] rfl ?_ ?_
          · intro other hwait
            show (∃ j ∈ db.val.jobs, _) ∨ _
            rw [hsame]
            exact Or.inl hwait
          · intro other hmark
            obtain rfl : other = connection := QueueMark.committed.inj (List.mem_singleton.mp hmark)
            show ∃ j ∈ db.val.jobs, _
            rw [hsame]
            exact queuedCount_ne_zero.mp hholds
  | absent connection =>
      have hjobs : db.val.jobs = s.queue.db.val.jobs ++ [queuedJob id connection trigger now] := by
        rw [hval]
        rfl
      have hcount : ∀ other, queuedCount db.val other =
          queuedCount s.queue.db.val other + if connection = other then 1 else 0 := by
        intro other
        simp [queuedCount, hjobs, List.countP_append, isQueuedFor, queuedJob]
      constructor
      · rintro ⟨hnext, -⟩
        have hle : queuedCount db.val connection ≤ 1 := hnext connection
        rw [hcount, if_pos rfl] at hle
        show queuedCount s.queue.db.val connection = 0
        omega
      · intro hholds
        have hzero : queuedCount s.queue.db.val connection = 0 := hholds
        refine ⟨?_, ?_⟩
        · intro other
          show queuedCount db.val other ≤ 1
          rw [hcount]
          split
          · rename_i hother
            rw [← hother, hzero]
          · exact hcoalesced other
        · refine hfollowed.extend [.committed connection] rfl ?_ ?_
          · rintro other ⟨j, hj, hwait⟩
            refine Or.inl ⟨j, ?_, hwait⟩
            show j ∈ db.val.jobs
            rw [hjobs]
            exact List.mem_append_left _ hj
          · intro other hmark
            obtain rfl : other = connection := QueueMark.committed.inj (List.mem_singleton.mp hmark)
            refine ⟨queuedJob id other trigger now, ?_, decide_eq_true ⟨rfl, rfl⟩⟩
            show _ ∈ db.val.jobs
            rw [hjobs]
            exact List.mem_append_right _ List.mem_cons_self

/-- A claim answers for the connection whose job it takes. -/
theorem exactlyOneNext_claim {s : EventState} (hs : s.queue.WellFormed) (h : ExactlyOneNext s)
    (locked : List JobId) (now : Instant) :
    ExactlyOneNext (followUpMachine.next s (.claim locked now)) := by
  refine ⟨(coalesced_next_iff s.queue (.claim locked now) hs h.1).mpr ?_, ?_⟩
  · intro row hrow
    cases hrow
  · refine h.2.extend _ rfl ?_ ?_
    · rintro connection ⟨j, hj, hwait⟩
      show (∃ j ∈ (queueMachine.next s.queue (.claim locked now)).db.val.jobs, _) ∨ _
      have heffect := queueMachine_effect s.queue (.claim locked now)
      generalize queueMachine.next s.queue (.claim locked now) = q' at heffect
      cases heffect with
      | idle => exact Or.inl ⟨j, hj, hwait⟩
      | claimed _ _ r db hr hclaimable hclaim hval =>
          by_cases hid : j.id = r.id
          · right
            obtain rfl := s.queue.db.property.2.2.1.eq hj hr hid
            simp only [isQueuedFor, decide_eq_true_eq] at hwait
            have hfind : s.queue.db.val.jobs.find? (fun k => k.id = j.id) = some j :=
              UniqueOn.find s.queue.db.property.2.2.1 hj
            have hmark : claimedConnection s.queue (.claim locked now) = some connection := by
              unfold claimedConnection
              rw [hclaim, Option.bind_some, hfind, Option.map_some, hwait.1]
            rw [hmark]
            exact List.mem_cons_self
          · refine Or.inl ⟨j, ?_, hwait⟩
            rw [hval]
            exact (UniqueOn.mem_updateWhere s.queue.db.property.2.2.1 hr (·.claim now)).mpr
              (Or.inr ⟨hj, hid⟩)
    · intro connection hmark
      obtain ⟨_, -, heq⟩ := List.mem_map.mp hmark
      cases heq

/-- A completion concerns a RUNNING row only. -/
theorem exactlyOneNext_succeed {s : EventState} (hs : s.queue.WellFormed) (h : ExactlyOneNext s)
    (job : JobId) (report : SyncReport) :
    ExactlyOneNext (followUpMachine.next s (.succeed job report)) := by
  refine ⟨(coalesced_next_iff s.queue (.succeed job report) hs h.1).mpr ?_, ?_⟩
  · intro row hrow
    cases hrow
  · refine h.2.extend [] (List.append_nil _).symm ?_ fun _ hmark => absurd hmark List.not_mem_nil
    rintro connection ⟨j, hj, hwait⟩
    left
    show ∃ j ∈ (queueMachine.next s.queue (.succeed job report)).db.val.jobs, _
    have heffect := queueMachine_effect s.queue (.succeed job report)
    generalize queueMachine.next s.queue (.succeed job report) = q' at heffect
    cases heffect with
    | idle => exact ⟨j, hj, hwait⟩
    | succeeded _ r db hr hmine hval =>
        refine ⟨j, ?_, hwait⟩
        rw [hval]
        refine (UniqueOn.mem_updateWhere s.queue.db.property.2.2.1 hr (·.succeed report)).mpr
          (Or.inr ⟨hj, ?_⟩)
        intro hid
        obtain ⟨k, hk, hkid, hrunning⟩ := hs.running_of_executing r.id hmine
        obtain rfl := s.queue.db.property.2.2.1.eq hk hj (hkid.trans hid.symm)
        simp only [isQueuedFor, decide_eq_true_eq] at hwait
        exact absurd (hrunning.symm.trans hwait.2) (by decide)

/-- **One step keeps exactly one next run** exactly if a commit finds what its event has
read. -/
theorem exactlyOneNext_next_iff (s : EventState) (e : EventStep) (hs : s.queue.WellFormed)
    (h : ExactlyOneNext s) :
    ExactlyOneNext (followUpMachine.next s e) ↔ CommitsWhatItRead s e := by
  cases e with
  | read event owner => exact iff_of_true h trivial
  | claim locked now => exact iff_of_true (exactlyOneNext_claim hs h locked now) trivial
  | succeed job report => exact iff_of_true (exactlyOneNext_succeed hs h job report) trivial
  | commit event trigger id now =>
      unfold CommitsWhatItRead Machine.next followUpMachine
      cases hreading : s.reading event with
      | none =>
          simp only [hreading]
          exact iff_of_true h (fun _ hnone => nomatch hnone)
      | some reading =>
          simp only [hreading]
          cases hcommit : (addJob s.queue.db.val trigger id now reading).commit with
          | error error =>
              refine iff_of_true h ?_
              rintro _ heq hok
              obtain rfl := Option.some.inj heq
              rw [hcommit] at hok
              cases hok
          | ok db =>
              rw [exactlyOneNext_commit_iff h event trigger id now reading
                (Sql.commit_eq_ok.mp hcommit)]
              constructor
              · rintro hholds _ heq -
                obtain rfl := Option.some.inj heq
                exact hholds
              · intro hholds
                refine hholds reading rfl ?_
                rw [hcommit]
                rfl

/-- **Follow-ups over whole runs.**  Starting with an empty queue: in every state a run
visits each connection has at most one QUEUED job, and every committed event has a job
that still waits or was claimed after its commit, if and only if every commit that goes
through finds the queue of its connection as the event has read it. -/
theorem always_exactlyOneNext_iff (db : SheetDatabase) (hempty : db.val.jobs = [])
    (es : List EventStep) :
    followUpMachine.Always ExactlyOneNext (EventState.initial db) es ↔
      followUpMachine.Along CommitsWhatItRead (EventState.initial db) es := by
  refine followUpMachine.always_iff_along (W := fun s => s.queue.WellFormed) followUp_wellFormed
    exactlyOneNext_next_iff (wellFormed_initial hempty) ⟨?_, ?_⟩ es
  · intro connection
    rw [queuedCount, show (EventState.initial db).queue.db.val.jobs = [] from hempty]
    exact Nat.zero_le 1
  · intro pre post connection hlog
    have hnil : ([] : List QueueMark) = pre ++ .committed connection :: post := hlog
    simp at hnil

/-- The second event sees the waiting job, a worker claims it, and the event commits
without a job of its own. -/
def lostRun : List EventStep :=
  [.read 1 1, .commit 1 .lotCreated 20 1, .read 2 1, .claim [] 2, .commit 2 .lotUpdated 21 3]

/-- Two events see an empty queue. -/
def doubledRun : List EventStep :=
  [.read 1 1, .read 2 1, .commit 1 .lotCreated 20 1, .commit 2 .lotUpdated 21 2]

theorem followUp_lost_and_doubled :
    ¬ FollowedUp (followUpMachine.run (EventState.initial customerDatabase) lostRun) ∧
      ¬ Coalesced
        (followUpMachine.run (EventState.initial customerDatabase) doubledRun).queue.db.val := by
  constructor
  · intro h
    have hlog : (followUpMachine.run (EventState.initial customerDatabase) lostRun).log =
        [.committed 10, .claimed 10] ++ .committed 10 :: [] := by decide +kernel
    rcases h _ _ 10 hlog with hwait | hclaimed
    · exact absurd hwait (by decide +kernel)
    · exact absurd hclaimed List.not_mem_nil
  · intro h
    exact absurd (h 10) (by decide +kernel)

/-- The second event commits before the claim. -/
theorem always_exactlyOneNext_merged :
    followUpMachine.Always ExactlyOneNext (EventState.initial customerDatabase)
      [.read 1 1, .commit 1 .lotCreated 20 1, .read 2 1, .commit 2 .lotUpdated 21 2,
        .claim [] 3, .read 3 1, .commit 3 .lotDeleted 22 4] :=
  (always_exactlyOneNext_iff customerDatabase rfl _).mpr (by decide +kernel)

end BondTrading
