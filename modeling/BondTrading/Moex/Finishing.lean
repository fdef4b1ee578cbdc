/-
# BondTrading.Moex.Finishing -- every call is answered

The semaphore lets at most `concurrency` requests out at once, and it is given back with every
response.  A call makes a bounded number of steps, and as long as a call has no answer some
coroutine can go on: a client that is served does not hang, in whatever order it is served.
-/
import BondTrading.Machines.Budgets
import BondTrading.Moex.Calls

namespace BondTrading.Moex

open Py (Decimal Dict Instant Json)
open Machines (Machine)

/-! ## Weights of coroutines -/

/-- A weight of each gathered request, added up. -/
def Part.total (weight : Part → ℕ) : ℕ :=
  weight .specification + weight .market + weight .bondization

/-- One coroutine is replaced. -/
theorem Part.total_update (weight : Fetch → ℕ) (parts : Part → Fetch) (part : Part)
    (fetch : Fetch) :
    Part.total (fun other => weight (Function.update parts part fetch other)) +
        weight (parts part) =
      Part.total (fun other => weight (parts other)) + weight fetch := by
  cases part <;> simp [Part.total, Function.update] <;> omega

/-- A weight of each coroutine of a call, added up. -/
def Progress.total (weight : Fetch → ℕ) : Progress → ℕ
  | .asking _ fetch => weight fetch
  | .gathering _ _ parts _ => Part.total fun part => weight (parts part)

/-- A coroutine goes out. -/
theorem Progress.total_send (weight : Fetch → ℕ) {progress : Progress} {slot : Slot}
    {request : GetRequest} {fetch : Fetch} (h : progress.fetch slot = some (request, fetch))
    (n : ℕ) :
    (progress.send n slot).total weight + weight fetch =
      progress.total weight + weight (.sent n) := by
  cases progress with
  | asking call fetch' =>
      cases slot with
      | part part => cases h
      | first =>
          obtain ⟨-, rfl⟩ := Prod.mk.inj (Option.some.inj h)
          exact Nat.add_comm _ _
  | gathering isin found parts failed =>
      cases slot with
      | first => cases h
      | part part =>
          obtain ⟨-, rfl⟩ := Prod.mk.inj (Option.some.inj h)
          exact Part.total_update weight parts part (.sent n)

/-- A task is replaced. -/
theorem sum_set_task (weight : Task → ℕ) {tasks : List Task} {t : ℕ} {task : Task}
    (htask : tasks[t]? = some task) (task' : Task) :
    ((tasks.set t task').map weight).sum + weight task =
      (tasks.map weight).sum + weight task' := by
  induction tasks generalizing t with
  | nil => cases htask
  | cons head tasks ih =>
      cases t with
      | zero =>
          obtain rfl := Option.some.inj htask
          show weight task' + _ + weight head = weight head + _ + weight task'
          omega
      | succ t =>
          have hrest := ih (t := t) htask
          show weight head + ((tasks.set t task').map weight).sum + weight task =
            weight head + (tasks.map weight).sum + weight task'
          omega

/-- The call that an event moves. -/
def ClientEvent.moved : ClientEvent → Option ℕ
  | .refresh _ _ _ | .accruedInterestOn _ _ _ => none
  | .send t _ | .receive t _ _ | .resume t _ _ => some t

/-! ## The semaphore -/

/-- One for a coroutine that holds the semaphore. -/
def Fetch.held : Fetch → ℕ
  | .sent _ => 1
  | _ => 0

/-- The requests that are out. -/
def ClientState.inFlight (s : ClientState) : ℕ :=
  (s.tasks.map fun task => task.progress.total Fetch.held).sum

theorem held_receive (settings : MoexSettings) (n : ℕ) (outcome : HttpOutcome) :
    (Fetch.receive settings n outcome).held = 0 := by
  unfold Fetch.receive
  split
  · rfl
  · split <;> rfl

/-- A call goes on with requests of its own that wait. -/
theorem total_proceed_held (call : Call) (outcome : Except ClientError Payload) :
    (call.proceed outcome).progress.total Fetch.held = 0 := by
  cases call with
  | refresh isin =>
      unfold Call.proceed
      dsimp only
      split <;> rfl
  | accruedInterestOn secid boardId valueDate => rfl

/-- A response gives the semaphore back. -/
theorem total_receive_held {task : Task} {slot : Slot} {request : GetRequest} {n : ℕ}
    (hfetch : task.progress.fetch slot = some (request, .sent n)) {fetch : Fetch}
    (hheld : fetch.held = 0) :
    (task.receive fetch slot).progress.total Fetch.held + 1 = task.progress.total Fetch.held := by
  obtain ⟨progress, answer⟩ := task
  cases progress with
  | asking call fetch' =>
      cases slot with
      | part part => cases hfetch
      | first =>
          obtain ⟨-, rfl⟩ := Prod.mk.inj (Option.some.inj hfetch)
          cases fetch with
          | waiting n => rfl
          | sent n => cases hheld
          | returned outcome =>
              show (call.proceed outcome).progress.total Fetch.held + 1 = 1
              rw [total_proceed_held]
  | gathering isin found parts failed =>
      cases slot with
      | first => cases hfetch
      | part part =>
          obtain ⟨-, hpart⟩ := Prod.mk.inj (Option.some.inj hfetch)
          have htotal := Part.total_update Fetch.held parts part fetch
          rw [hpart, hheld] at htotal
          exact htotal

namespace MoexIssClient

variable {client : MoexIssClient} {s s' : ClientState} {e : ClientEvent} {reply : Reply}

/-- Requests out and semaphore left add up. -/
theorem Moves.inFlight (h : client.Moves s e s' reply) :
    s'.available + s'.inFlight = s.available + s.inFlight := by
  have hopen : ∀ call, (s.open call).available + (s.open call).inFlight =
      s.available + s.inFlight := by
    intro call
    unfold ClientState.inFlight ClientState.open
    rw [List.map_append, List.sum_append]
    rfl
  unfold ClientState.inFlight
  cases h with
  | answered => rfl
  | refreshes => exact hopen _
  | asks => exact hopen _
  | @sends t slot task request n htask hfetch available hfree =>
      have hset := sum_set_task (fun task => task.progress.total Fetch.held) htask
        { task with progress := task.progress.send n slot }
      have hsend : (task.progress.send n slot).total Fetch.held + 0 =
          task.progress.total Fetch.held + 1 := Progress.total_send Fetch.held hfetch n
      dsimp only at hset ⊢
      omega
  | @receives t slot outcome task request n htask hfetch =>
      have hset := sum_set_task (fun task => task.progress.total Fetch.held) htask
        (task.receive (Fetch.receive client.settings n outcome) slot)
      have hreceive := total_receive_held hfetch (held_receive client.settings n outcome)
      dsimp only at hset ⊢
      omega
  | @resumes t wall monotonic isin found parts failed payloads htask hgathered outcome =>
      have hset := sum_set_task (fun task => task.progress.total Fetch.held) htask
        ⟨.gathering isin found parts failed, some (outcome.map Answer.refreshed)⟩
      dsimp only at hset ⊢
      exact congrArg (s.available + ·) (Nat.add_right_cancel hset)

/-! ## Calls that wait -/

/-- A call waits for its first request until that has returned, and `gather` knows of every
request that failed. -/
structure WellFormed (task : Task) : Prop where
  asks : ∀ call fetch, task.progress = .asking call fetch →
    (task.answer = none ↔ ∀ outcome, fetch ≠ .returned outcome)
  fails : ∀ isin found parts, task.progress = .gathering isin found parts none →
    ∀ part, (parts part).failure = none

theorem wellFormed_asking {call : Call} {fetch : Fetch}
    {answer : Option (Except ClientError Answer)}
    (h : answer = none ↔ ∀ outcome, fetch ≠ .returned outcome) :
    WellFormed ⟨.asking call fetch, answer⟩ where
  asks _ _ hasking := by
    obtain ⟨-, rfl⟩ := Progress.asking.inj hasking
    exact h
  fails _ _ _ hgathering := nomatch hgathering

theorem wellFormed_open (call : Call) : WellFormed ⟨.asking call (.waiting 1), none⟩ :=
  wellFormed_asking (iff_of_true rfl fun _ h => nomatch h)

theorem WellFormed.send {task : Task} (h : WellFormed task) {slot : Slot} {request : GetRequest}
    {n : ℕ} (hfetch : task.progress.fetch slot = some (request, .waiting n)) :
    WellFormed { task with progress := task.progress.send n slot } := by
  obtain ⟨progress, answer⟩ := task
  cases progress with
  | asking call fetch =>
      cases slot with
      | part part => cases hfetch
      | first =>
          obtain ⟨-, rfl⟩ := Prod.mk.inj (Option.some.inj hfetch)
          have hwaits : answer = none := (h.asks call _ rfl).mpr fun _ hother => nomatch hother
          exact wellFormed_asking (iff_of_true hwaits fun _ hother => nomatch hother)
  | gathering isin found parts failed =>
      cases slot with
      | first => cases hfetch
      | part part =>
          refine ⟨fun _ _ hasking => (nomatch hasking), ?_⟩
          rintro _ _ _ ⟨⟩ other
          by_cases hother : other = part
          · rw [hother, Function.update_self]
            rfl
          · rw [Function.update_of_ne hother]
            exact h.fails isin found parts rfl other

theorem wellFormed_proceed (call : Call) (outcome : Except ClientError Payload) :
    WellFormed (call.proceed outcome) := by
  have hanswered : ∀ answer, WellFormed ⟨.asking call (.returned outcome), some answer⟩ :=
    fun answer => wellFormed_asking
      (iff_of_false (Option.some_ne_none answer) fun hother => hother outcome rfl)
  cases call with
  | accruedInterestOn secid boardId valueDate => exact hanswered _
  | refresh isin =>
      unfold Call.proceed
      dsimp only
      split
      · refine ⟨fun _ _ hasking => (nomatch hasking), ?_⟩
        rintro _ _ _ ⟨⟩ part
        rfl
      · exact hanswered _

theorem WellFormed.receive {task : Task} (h : WellFormed task) {slot : Slot}
    {request : GetRequest} {n : ℕ}
    (hfetch : task.progress.fetch slot = some (request, .sent n)) (fetch : Fetch) :
    WellFormed (task.receive fetch slot) := by
  obtain ⟨progress, answer⟩ := task
  cases progress with
  | asking call fetch' =>
      cases slot with
      | part part => cases hfetch
      | first =>
          obtain ⟨-, rfl⟩ := Prod.mk.inj (Option.some.inj hfetch)
          have hwaits : answer = none := (h.asks call _ rfl).mpr fun _ hother => nomatch hother
          cases fetch with
          | returned outcome => exact wellFormed_proceed call outcome
          | waiting n => exact wellFormed_asking (iff_of_true hwaits fun _ hother => nomatch hother)
          | sent n => exact wellFormed_asking (iff_of_true hwaits fun _ hother => nomatch hother)
  | gathering isin found parts failed =>
      cases slot with
      | first => cases hfetch
      | part part =>
          refine ⟨fun _ _ hasking => (nomatch hasking), ?_⟩
          intro _ _ parts' hgathering other
          obtain ⟨-, -, rfl, hfailed⟩ := Progress.gathering.inj hgathering
          obtain ⟨rfl, hnow⟩ := Option.or_eq_none_iff.mp hfailed
          by_cases hother : other = part
          · rw [hother, Function.update_self]
            exact hnow
          · rw [Function.update_of_ne hother]
            exact h.fails isin found parts rfl other

/-- A step keeps every call in order. -/
theorem Moves.wellFormed (h : client.Moves s e s' reply) (hs : ∀ task ∈ s.tasks, WellFormed task) :
    ∀ task ∈ s'.tasks, WellFormed task := by
  have hopen : ∀ call, ∀ task ∈ (s.open call).tasks, WellFormed task := by
    intro call task htask
    rcases List.mem_append.mp htask with hold | hnew
    · exact hs task hold
    · rw [List.mem_singleton.mp hnew]
      exact wellFormed_open call
  have hset : ∀ {t task'}, WellFormed task' → ∀ task ∈ s.tasks.set t task', WellFormed task := by
    intro t task' hwf task htask
    rcases List.mem_or_eq_of_mem_set htask with hold | rfl
    · exact hs task hold
    · exact hwf
  cases h with
  | answered => exact hs
  | refreshes => exact hopen _
  | asks => exact hopen _
  | sends t slot htask hfetch => exact hset ((hs _ (List.mem_of_getElem? htask)).send hfetch)
  | receives t slot outcome htask hfetch =>
      exact hset ((hs _ (List.mem_of_getElem? htask)).receive hfetch _)
  | resumes t wall monotonic htask =>
      have hwf := hs _ (List.mem_of_getElem? htask)
      exact hset ⟨fun _ _ hasking => (nomatch hasking), hwf.fails⟩

/-! ## Steps left -/

/-- The steps an event adds at most. -/
def steps (settings : MoexSettings) : ClientEvent → ℕ
  | .refresh _ _ _ => 8 * settings.retries + 1
  | .accruedInterestOn _ _ _ => 2 * settings.retries
  | _ => 0

/-- The steps a coroutine has left at most: two for each attempt. -/
def stepsOf (settings : MoexSettings) : Fetch → ℕ
  | .waiting n => 2 * (settings.retries - n) + 2
  | .sent n => 2 * (settings.retries - n) + 1
  | .returned _ => 0

/-- The steps a call makes after those of its coroutines: a refresh that searches has three
requests and its end before it. -/
def stepsAhead (settings : MoexSettings) : Task → ℕ
  | ⟨.asking (.refresh _) _, none⟩ => 6 * settings.retries + 1
  | ⟨.gathering _ _ _ _, none⟩ => 1
  | _ => 0

/-- The steps a call has left at most. -/
def stepsLeft (settings : MoexSettings) (task : Task) : ℕ :=
  task.progress.total (stepsOf settings) + stepsAhead settings task

theorem stepsOf_start (settings : MoexSettings) :
    stepsOf settings (.waiting 1) = 2 * settings.retries := by
  have := settings.retries_range.1
  show 2 * (settings.retries - 1) + 2 = 2 * settings.retries
  omega

/-- A response costs a step. -/
theorem stepsOf_receive (settings : MoexSettings) (n : ℕ) (outcome : HttpOutcome) :
    stepsOf settings (Fetch.receive settings n outcome) + 1 ≤ stepsOf settings (.sent n) := by
  unfold Fetch.receive
  split
  · exact Nat.le_add_left 1 _
  · split
    · rename_i hagain
      have hleft := of_decide_eq_true (Bool.and_eq_true_iff.mp hagain).2
      show 2 * (settings.retries - (n + 1)) + 2 + 1 ≤ 2 * (settings.retries - n) + 1
      omega
    · exact Nat.le_add_left 1 _

theorem stepsLeft_proceed (settings : MoexSettings) (call : Call)
    (outcome : Except ClientError Payload) :
    stepsLeft settings (call.proceed outcome) ≤
      stepsAhead settings ⟨.asking call (.returned outcome), none⟩ := by
  cases call with
  | accruedInterestOn secid boardId valueDate => exact le_refl 0
  | refresh isin =>
      unfold Call.proceed
      dsimp only
      split
      · have hstart := stepsOf_start settings
        show stepsOf settings (.waiting 1) + stepsOf settings (.waiting 1) +
          stepsOf settings (.waiting 1) + 1 ≤ 6 * settings.retries + 1
        omega
      · exact Nat.zero_le _

theorem stepsLeft_gathering (settings : MoexSettings) (isin : String) (found : Found)
    (parts : Part → Fetch) (failed : Option ClientError)
    (answer : Option (Except ClientError Answer)) :
    stepsLeft settings ⟨.gathering isin found parts failed, answer⟩ =
      Part.total (fun part => stepsOf settings (parts part)) + if answer.isNone then 1 else 0 := by
  cases answer <;> rfl

theorem stepsAhead_send (settings : MoexSettings) (task : Task) (n : ℕ) (slot : Slot) :
    stepsAhead settings { task with progress := task.progress.send n slot } =
      stepsAhead settings task := by
  obtain ⟨progress, answer⟩ := task
  cases progress with
  | asking call fetch => cases slot <;> cases call <;> cases answer <;> rfl
  | gathering isin found parts failed => cases slot <;> cases answer <;> rfl

theorem stepsLeft_receive {settings : MoexSettings} {task : Task} (hwf : WellFormed task)
    {slot : Slot} {request : GetRequest} {n : ℕ}
    (hfetch : task.progress.fetch slot = some (request, .sent n)) {fetch : Fetch}
    (hsteps : stepsOf settings fetch + 1 ≤ stepsOf settings (.sent n)) :
    stepsLeft settings (task.receive fetch slot) + 1 ≤ stepsLeft settings task := by
  obtain ⟨progress, answer⟩ := task
  cases progress with
  | asking call fetch' =>
      cases slot with
      | part part => cases hfetch
      | first =>
          obtain ⟨-, rfl⟩ := Prod.mk.inj (Option.some.inj hfetch)
          obtain rfl : answer = none := (hwf.asks call _ rfl).mpr fun _ hother => nomatch hother
          have hahead : ∀ fetch, stepsAhead settings ⟨.asking call fetch, none⟩ =
              stepsAhead settings ⟨.asking call (.sent n), none⟩ := by
            intro fetch
            cases call <;> rfl
          have hbefore : stepsLeft settings ⟨.asking call (.sent n), none⟩ =
            stepsOf settings (.sent n) + stepsAhead settings ⟨.asking call (.sent n), none⟩ := rfl
          have hwaits : stepsLeft settings ⟨.asking call fetch, none⟩ =
            stepsOf settings fetch + stepsAhead settings ⟨.asking call fetch, none⟩ := rfl
          rw [hahead] at hwaits
          cases fetch with
          | waiting n' =>
              show stepsLeft settings ⟨.asking call (.waiting n'), none⟩ + 1 ≤ _
              omega
          | sent n' =>
              show stepsLeft settings ⟨.asking call (.sent n'), none⟩ + 1 ≤ _
              omega
          | returned outcome =>
              have hproceed := stepsLeft_proceed settings call outcome
              rw [hahead] at hproceed
              show stepsLeft settings (call.proceed outcome) + 1 ≤ _
              omega
  | gathering isin found parts failed =>
      cases slot with
      | first => cases hfetch
      | part part =>
          obtain ⟨-, hpart⟩ := Prod.mk.inj (Option.some.inj hfetch)
          have htotal := Part.total_update (stepsOf settings) parts part fetch
          rw [hpart] at htotal
          have hafter : Task.receive ⟨.gathering isin found parts failed, answer⟩ fetch
            (.part part) = ⟨.gathering isin found (Function.update parts part fetch)
              (failed.or fetch.failure), answer⟩ := rfl
          rw [hafter, stepsLeft_gathering, stepsLeft_gathering]
          omega

/-- **What a move does to the calls**: nothing, or it begins one, or one of them makes a step and
has less steps left. -/
theorem Moves.tasks_cases (h : client.Moves s e s' reply)
    (hs : ∀ task ∈ s.tasks, WellFormed task) :
    (e.moved = none ∧ s'.tasks = s.tasks) ∨
    (e.moved = none ∧ ∃ task, s'.tasks = s.tasks ++ [task] ∧
      stepsLeft client.settings task ≤ steps client.settings e) ∨
    ∃ t task task', e.moved = some t ∧ s.tasks[t]? = some task ∧
      s'.tasks = s.tasks.set t task' ∧
      stepsLeft client.settings task' + 1 ≤ stepsLeft client.settings task := by
  have hstart := stepsOf_start client.settings
  cases h with
  | answered => exact .inl ⟨rfl, rfl⟩
  | @refreshes isin force monotonic asked hnormalized =>
      refine .inr (.inl ⟨rfl, _, rfl, ?_⟩)
      show stepsOf client.settings (.waiting 1) + (6 * client.settings.retries + 1) ≤
        8 * client.settings.retries + 1
      omega
  | asks secid boardId valueDate =>
      refine .inr (.inl ⟨rfl, _, rfl, ?_⟩)
      show stepsOf client.settings (.waiting 1) + 0 ≤ 2 * client.settings.retries
      omega
  | @sends t slot task request n htask hfetch available hfree =>
      refine .inr (.inr ⟨t, task, _, rfl, htask, rfl, ?_⟩)
      have hsend := Progress.total_send (stepsOf client.settings) hfetch n
      have hahead := stepsAhead_send client.settings task n slot
      have hless : stepsOf client.settings (.waiting n) =
        stepsOf client.settings (.sent n) + 1 := rfl
      unfold stepsLeft at *
      dsimp only at *
      omega
  | @receives t slot outcome task request n htask hfetch =>
      refine .inr (.inr ⟨t, task, _, rfl, htask, rfl, ?_⟩)
      exact stepsLeft_receive (hs _ (List.mem_of_getElem? htask)) hfetch
        (stepsOf_receive client.settings n outcome)
  | @resumes t wall monotonic isin found parts failed payloads htask hgathered outcome =>
      exact .inr (.inr ⟨t, _, _, rfl, htask, rfl, le_refl _⟩)

/-- The steps all calls have left at most. -/
def stepsOfCalls (settings : MoexSettings) (s : ClientState) : ℕ :=
  (s.tasks.map (stepsLeft settings)).sum

/-- **A step is one step less**; a call brings its own. -/
theorem Moves.pays (h : client.Moves s e s' reply) (hs : ∀ task ∈ s.tasks, WellFormed task) :
    stepsOfCalls client.settings s' + (if e.moved.isSome then 1 else 0) ≤
      stepsOfCalls client.settings s + steps client.settings e := by
  unfold stepsOfCalls
  obtain ⟨hmoved, htasks⟩ | ⟨hmoved, task, htasks, hnew⟩ |
    ⟨t, task, task', hmoved, htask, htasks, hless⟩ := h.tasks_cases hs
  · rw [hmoved, htasks]
    exact Nat.le_add_right _ _
  · rw [hmoved, htasks, List.map_append, List.sum_append, List.map_singleton, List.sum_singleton]
    exact Nat.add_le_add_left hnew _
  · have hset := sum_set_task (stepsLeft client.settings) htask task'
    rw [hmoved, htasks]
    show _ + 1 ≤ _
    omega

/-- The steps the `t`-th call has left at most. -/
def stepsLeftOf (settings : MoexSettings) (t : ℕ) (s : ClientState) : ℕ :=
  (s.tasks[t]?.map (stepsLeft settings)).getD 0

/-- The calls there are stay. -/
theorem Moves.length_le (h : client.Moves s e s' reply) (hs : ∀ task ∈ s.tasks, WellFormed task) :
    s.tasks.length ≤ s'.tasks.length := by
  obtain ⟨-, htasks⟩ | ⟨-, task, htasks, -⟩ | ⟨t, task, task', -, -, htasks, -⟩ :=
    h.tasks_cases hs
  · rw [htasks]
  · rw [htasks, List.length_append]
    exact Nat.le_add_right _ _
  · rw [htasks, List.length_set]

/-- A step is made by a call that was begun. -/
theorem Moves.moved_lt (h : client.Moves s e s' reply) (hs : ∀ task ∈ s.tasks, WellFormed task)
    {t : ℕ} (ht : e.moved = some t) : t < s.tasks.length := by
  obtain ⟨hmoved, -⟩ | ⟨hmoved, -⟩ | ⟨t', task, task', hmoved, htask, -⟩ := h.tasks_cases hs
  · cases ht.symm.trans hmoved
  · cases ht.symm.trans hmoved
  · obtain rfl := Option.some.inj (ht.symm.trans hmoved)
    exact (List.getElem?_eq_some_iff.mp htask).1

/-- **A step of a call is one step less for this call**, and the others have what they had. -/
theorem Moves.pays_of (h : client.Moves s e s' reply) (hs : ∀ task ∈ s.tasks, WellFormed task)
    {t : ℕ} (ht : t < s.tasks.length) :
    stepsLeftOf client.settings t s' + (if e.moved = some t then 1 else 0) ≤
      stepsLeftOf client.settings t s := by
  unfold stepsLeftOf
  obtain ⟨hmoved, htasks⟩ | ⟨hmoved, task, htasks, -⟩ |
    ⟨t', task, task', hmoved, htask, htasks, hless⟩ := h.tasks_cases hs
  · rw [hmoved, htasks]
    exact le_refl _
  · rw [hmoved, htasks, List.getElem?_append_left ht]
    exact le_refl _
  · rw [hmoved, htasks]
    by_cases hsame : t' = t
    · subst hsame
      rw [if_pos rfl, List.getElem?_set_self ht, htask]
      exact hless
    · rw [if_neg fun h => hsame (Option.some.inj h), List.getElem?_set_ne hsame]
      exact le_refl _

/-- A call that was begun has the steps of its event left. -/
theorem Moves.stepsLeftOf_new (h : client.Moves s e s' reply)
    (hs : ∀ task ∈ s.tasks, WellFormed task) (hbegun : s.tasks.length < s'.tasks.length) :
    e.moved = none ∧ stepsLeftOf client.settings s.tasks.length s' ≤ steps client.settings e := by
  obtain ⟨-, htasks⟩ | ⟨hmoved, task, htasks, hnew⟩ | ⟨t, task, task', -, -, htasks, -⟩ :=
    h.tasks_cases hs
  · rw [htasks] at hbegun
    exact absurd hbegun (lt_irrefl _)
  · refine ⟨hmoved, ?_⟩
    unfold stepsLeftOf
    rw [htasks, List.getElem?_concat_length]
    exact hnew
  · rw [htasks, List.length_set] at hbegun
    exact absurd hbegun (lt_irrefl _)

/-! ## No call hangs -/

theorem total_held_eq_zero {progress : Progress}
    (h : ∀ slot request n, progress.fetch slot ≠ some (request, .sent n)) :
    progress.total Fetch.held = 0 := by
  have hheld : ∀ slot request fetch, progress.fetch slot = some (request, fetch) →
      fetch.held = 0 := by
    intro slot request fetch hfetch
    cases fetch with
    | sent n => exact absurd hfetch (h slot request n)
    | _ => rfl
  cases progress with
  | asking call fetch => exact hheld .first _ _ rfl
  | gathering isin found parts failed =>
      show (parts .specification).held + (parts .market).held + (parts .bondization).held = 0
      rw [hheld (.part .specification) _ _ rfl, hheld (.part .market) _ _ rfl,
        hheld (.part .bondization) _ _ rfl]

/-- `gather` is over when every request has returned. -/
theorem gathered_isSome {parts : Part → Fetch} {failed : Option ClientError}
    (hreturned : ∀ part, ∃ outcome, parts part = .returned outcome)
    (hfails : failed = none → ∀ part, (parts part).failure = none) :
    (gathered parts failed).isSome := by
  cases failed with
  | some error => rfl
  | none =>
      have hpayload : ∀ part, ∃ payload, (parts part).payload = some payload := by
        intro part
        obtain ⟨outcome, houtcome⟩ := hreturned part
        have hnone := hfails rfl part
        rw [houtcome] at hnone ⊢
        cases outcome with
        | ok payload => exact ⟨payload, rfl⟩
        | error error => cases hnone
      obtain ⟨specification, hspecification⟩ := hpayload .specification
      obtain ⟨market, hmarket⟩ := hpayload .market
      obtain ⟨bondization, hbondization⟩ := hpayload .bondization
      unfold gathered
      simp [hspecification, hmarket, hbondization]

/-- **While a call waits, something can happen**: a response comes, a request goes out, or a
refresh goes on. -/
theorem exists_enabled (hfree : s.available + s.inFlight = client.settings.concurrency)
    (hwf : ∀ task ∈ s.tasks, WellFormed task) {task : Task} (htask : task ∈ s.tasks)
    (hwaits : task.answer = none) :
    ∃ e : ClientEvent, e.moved.isSome = true ∧ client.Enabled s e := by
  by_contra hnothing
  have hstuck : ∀ e : ClientEvent, e.moved.isSome = true → ¬ client.Enabled s e :=
    fun e hstep henabled => hnothing ⟨e, hstep, henabled⟩
  have hsent : ∀ (t : ℕ) (task : Task) slot request n, s.tasks[t]? = some task →
      task.progress.fetch slot ≠ some (request, .sent n) := by
    intro t task slot request n htask hfetch
    refine hstuck (.receive t slot (.otherError "")) rfl ?_
    simp [Enabled, step?, htask, hfetch]
  -- nothing is out, so the semaphore is free
  have hnone : s.inFlight = 0 := by
    refine List.sum_eq_zero_iff_forall_eq_nat.mpr fun n hn => ?_
    obtain ⟨other, hother, rfl⟩ := List.mem_map.mp hn
    obtain ⟨t, ht⟩ := List.getElem?_of_mem hother
    exact total_held_eq_zero fun slot request n => hsent t other slot request n ht
  obtain ⟨available, havailable⟩ : ∃ available, s.available = available + 1 := by
    have := client.settings.concurrency_range.1
    exact ⟨s.available - 1, by omega⟩
  have hreturned : ∀ (t : ℕ) (task : Task) slot request fetch, s.tasks[t]? = some task →
      task.progress.fetch slot = some (request, fetch) → ∃ outcome, fetch = .returned outcome := by
    intro t task slot request fetch htask hfetch
    cases fetch with
    | returned outcome => exact ⟨outcome, rfl⟩
    | sent n => exact absurd hfetch (hsent t task slot request n htask)
    | waiting n =>
        refine absurd ?_ (hstuck (.send t slot) rfl)
        simp [Enabled, step?, htask, hfetch, havailable]
  obtain ⟨t, ht⟩ := List.getElem?_of_mem htask
  have htaskWf := hwf task htask
  obtain ⟨progress, answer⟩ := task
  obtain rfl : answer = none := hwaits
  cases progress with
  | asking call fetch =>
      obtain ⟨outcome, rfl⟩ := hreturned t _ .first _ fetch ht rfl
      exact (htaskWf.asks call _ rfl).mp rfl outcome rfl
  | gathering isin found parts failed =>
      have hover : (gathered parts failed).isSome := by
        refine gathered_isSome (fun part => hreturned t _ (.part part) _ _ ht rfl) ?_
        rintro rfl
        exact htaskWf.fails isin found parts rfl
      obtain ⟨payloads, hpayloads⟩ := Option.isSome_iff_exists.mp hover
      refine hstuck (.resume t 0 0) rfl ?_
      simp [Enabled, step?, conclude, ht, hpayloads]

/-! ## A run -/

/-- What holds of every client. -/
structure Sound (client : MoexIssClient) (s : ClientState) : Prop where
  free : s.available + s.inFlight = client.settings.concurrency
  wellFormed : ∀ task ∈ s.tasks, WellFormed task

theorem sound_start (client : MoexIssClient) : client.Sound client.start where
  free := rfl
  wellFormed _ h := nomatch h

theorem Moves.sound (h : client.Moves s e s' reply) (hs : client.Sound s) : client.Sound s' where
  free := h.inFlight.trans hs.free
  wellFormed := h.wellFormed hs.wellFormed

theorem moves_of_enabled (h : client.Enabled s e) :
    client.Moves s e (client.clientMachine.step s e).1 (client.clientMachine.step s e).2 :=
  (clientMachine_step client s e).resolve_left fun hdisabled => hdisabled.1 h

/-- Steps are paid for by the calls. -/
theorem steps_budget (client : MoexIssClient) :
    client.clientMachine.Budget client.Enabled client.Sound (fun e => e.moved.isSome)
      (steps client.settings) (stepsOfCalls client.settings) where
  keeps _ _ hs h := (moves_of_enabled h).sound hs
  pays _ _ hs h := (moves_of_enabled h).pays hs.wellFormed

/-- The steps of a call that was begun are paid for by what it has left. -/
theorem steps_budget_of (client : MoexIssClient) (t : ℕ) :
    client.clientMachine.Budget client.Enabled (fun s => client.Sound s ∧ t < s.tasks.length)
      (fun e => e.moved = some t) (fun _ => 0) (stepsLeftOf client.settings t) where
  keeps _ _ hs h := ⟨(moves_of_enabled h).sound hs.1,
    hs.2.trans_le ((moves_of_enabled h).length_le hs.1.wellFormed)⟩
  pays _ _ hs h := by
    simp only [decide_eq_true_eq, Nat.add_zero]
    exact (moves_of_enabled h).pays_of hs.1.wellFormed hs.2

/-- Before a call is begun it makes no step. -/
theorem countP_moved_eq_zero {t : ℕ} {s : ClientState} (hs : client.Sound s)
    {es : List ClientEvent} (halong : client.clientMachine.Along client.Enabled s es)
    (ht : (client.clientMachine.run s es).tasks.length ≤ t) :
    es.countP (fun e => e.moved = some t) = 0 := by
  have hlast : ∀ (es : List ClientEvent) s, client.Sound s →
      client.clientMachine.Along client.Enabled s es →
        s.tasks.length ≤ (client.clientMachine.run s es).tasks.length := by
    intro es
    induction es with
    | nil => exact fun s _ _ => le_refl _
    | cons e es ih =>
        intro s hs halong
        have hmoves := moves_of_enabled halong.1
        exact (hmoves.length_le hs.wellFormed).trans (ih _ (hmoves.sound hs) halong.2)
  induction es generalizing s with
  | nil => rfl
  | cons e es ih =>
      have hmoves := moves_of_enabled halong.1
      rw [List.countP_cons, ih (hmoves.sound hs) halong.2 ht, if_neg]
      intro hmoved
      have hlt := hmoves.moved_lt hs.wellFormed (of_decide_eq_true hmoved)
      have hle := (hlast (e :: es) s hs halong).trans ht
      omega

theorem sound_run (client : MoexIssClient) (es : List ClientEvent) :
    client.Sound (client.clientMachine.run client.start es) := by
  refine client.clientMachine.invariant_run (fun s e hs => ?_) (sound_start client) es
  rcases clientMachine_step client s e with ⟨-, hstep⟩ | hmoves
  · show client.Sound (client.clientMachine.step s e).1
    rw [hstep]
    exact hs
  · exact hmoves.sound hs

/-- **Every call comes to its answer, and no more than `concurrency` requests are ever out.**
In a run of the client a refresh makes at most `8 * retries + 1` steps and an accrued interest
`2 * retries`, in whatever order coroutines go on: the call that an event begins is the one after
those there are, and makes at most the steps of the event.  When no step is left every call is
answered. -/
theorem calls_finish (client : MoexIssClient) (es : List ClientEvent) :
    (client.clientMachine.run client.start es).inFlight ≤ client.settings.concurrency ∧
    (client.clientMachine.Along client.Enabled client.start es →
      (∀ pre e post, es = pre ++ e :: post →
        let t := (client.clientMachine.run client.start pre).tasks.length
        t < (client.clientMachine.run client.start (pre ++ [e])).tasks.length →
          es.countP (fun e => e.moved = some t) ≤ steps client.settings e) ∧
      es.countP (fun e => e.moved.isSome) ≤ (es.map (steps client.settings)).sum) ∧
    ((∀ e : ClientEvent, e.moved.isSome →
        ¬ client.Enabled (client.clientMachine.run client.start es) e) →
      ∀ task ∈ (client.clientMachine.run client.start es).tasks, task.answer ≠ none) := by
  have hsound := sound_run client es
  refine ⟨?_, fun halong => ⟨?_, ?_⟩, ?_⟩
  · have := hsound.free
    omega
  · rintro pre e post rfl t hbegun
    obtain ⟨hpre, henabled, hpost⟩ := client.clientMachine.along_append.mp halong
    have hsoundPre := sound_run client pre
    have hmoves := moves_of_enabled henabled
    rw [Machine.run_append] at hbegun
    obtain ⟨hmoved, hnew⟩ := hmoves.stepsLeftOf_new hsoundPre.wellFormed hbegun
    have hbefore : pre.countP (fun e => e.moved = some t) = 0 :=
      countP_moved_eq_zero (sound_start client) hpre (le_refl _)
    have hpaid := (steps_budget_of client t).countP_le ⟨hmoves.sound hsoundPre, hbegun⟩ hpost
    have hincome : (post.map fun _ : ClientEvent => 0).sum = 0 := by simp
    have hfirst : ¬ (decide (e.moved = some t) = true) := by simp [hmoved]
    rw [List.countP_append, List.countP_cons, if_neg hfirst, hbefore]
    change stepsLeftOf client.settings t _ ≤ _ at hnew
    show 0 + _ ≤ _
    omega
  · have hpaid := (steps_budget client).countP_le (sound_start client) halong
    have hstart : stepsOfCalls client.settings client.start = 0 := rfl
    omega
  · intro hover task htask hwaits
    obtain ⟨e, hstep, henabled⟩ := exists_enabled hsound.free hsound.wellFormed htask hwaits
    exact hover e hstep henabled

end MoexIssClient

end BondTrading.Moex
