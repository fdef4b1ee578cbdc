/-
# BondTrading.Moex.Calls -- calls at once, each as if it were alone

Coroutines of any number of calls share the semaphore and the cache, retry on their own and
wait for each other's responses in any order.  What a call returns is still what the function
returns that asks its requests one after the other.
-/
import BondTrading.Moex.Client

namespace BondTrading.Moex

open Py (Decimal Dict Instant)
open Machines (Machine Entry)

/-! ## One step -/

/-- The call of a task. -/
def Progress.call : Progress → Call
  | .asking call _ => call
  | .gathering isin _ _ _ => .refresh isin

namespace MoexIssClient

variable (client : MoexIssClient)

/-- Everything a step can do. -/
inductive Moves (s : ClientState) : ClientEvent → ClientState → Reply → Prop
  | answered (isin : String) (force : Bool) (monotonic : ℚ)
      (reply : Except ClientError Answer) :
      Moves s (.refresh isin force monotonic) s (some reply)
  | refreshes (isin : String) (force : Bool) (monotonic : ℚ) {asked : String}
      (hnormalized : normalized isin = .ok asked) :
      Moves s (.refresh isin force monotonic) (s.open (.refresh asked)) none
  | asks (secid : String) (boardId : Option String) (valueDate : Date) :
      Moves s (.accruedInterestOn secid boardId valueDate)
        (s.open (.accruedInterestOn secid boardId valueDate)) none
  | sends (t : ℕ) (slot : Slot) {task : Task} {request : GetRequest} {n : ℕ}
      (htask : s.tasks[t]? = some task)
      (hfetch : task.progress.fetch slot = some (request, .waiting n)) {available : ℕ}
      (hfree : s.available = available + 1) :
      Moves s (.send t slot)
        { s with
          available
          tasks := s.tasks.set t { task with progress := task.progress.send n slot } } none
  | receives (t : ℕ) (slot : Slot) (outcome : HttpOutcome) {task : Task} {request : GetRequest}
      {n : ℕ} (htask : s.tasks[t]? = some task)
      (hfetch : task.progress.fetch slot = some (request, .sent n)) :
      Moves s (.receive t slot outcome)
        { s with
          available := s.available + 1
          tasks := s.tasks.set t
            (task.receive (Fetch.receive client.settings n outcome) slot) } none
  | resumes (t : ℕ) (wall : Instant) (monotonic : ℚ) {isin : String} {found : Found}
      {parts : Part → Fetch} {failed : Option ClientError}
      {payloads : Except ClientError (Part → Payload)}
      (htask : s.tasks[t]? = some ⟨.gathering isin found parts failed, none⟩)
      (hgathered : gathered parts failed = some payloads)
      {outcome : Except ClientError (MoexRefreshResult Decimal)}
      (houtcome : outcome = payloads >>= fun payloads =>
        client.mapParts isin found payloads wall) :
      Moves s (.resume t wall monotonic)
        { s with
          cache := client.remember s.cache isin monotonic outcome
          tasks := s.tasks.set t
            ⟨.gathering isin found parts failed, some (outcome.map Answer.refreshed)⟩ } none

variable {client} {s s' : ClientState} {e : ClientEvent} {reply : Reply}

theorem conclude_eq_some {t : ℕ} {wall : Instant} {isin : String} {progress : Progress}
    {outcome : Except ClientError (MoexRefreshResult Decimal)}
    (h : client.conclude s t wall = some (isin, progress, outcome)) :
    ∃ found parts failed payloads, s.tasks[t]? = some ⟨.gathering isin found parts failed, none⟩ ∧
      gathered parts failed = some payloads ∧ progress = .gathering isin found parts failed ∧
      outcome = payloads >>= fun payloads => client.mapParts isin found payloads wall := by
  unfold conclude at h
  split at h
  · rename_i isin' found parts failed htask
    obtain ⟨payloads, hgathered, heq⟩ := Option.map_eq_some_iff.mp h
    obtain ⟨rfl, rfl, rfl⟩ : isin' = isin ∧ _ = progress ∧ _ = outcome := by
      simpa only [Prod.mk.injEq] using heq
    exact ⟨found, parts, failed, payloads, htask, hgathered, rfl, rfl⟩
  · cases h

theorem moves_of_step? (h : client.step? s e = some (s', reply)) :
    client.Moves s e s' reply := by
  cases e with
  | refresh isin force monotonic =>
      have hbegin : s.begin isin force monotonic = (s', reply) := Option.some.inj h
      unfold ClientState.begin at hbegin
      split at hbegin
      · obtain ⟨rfl, rfl⟩ := Prod.mk.inj hbegin
        exact .answered isin force monotonic _
      · rename_i asked hasked
        split at hbegin
        · obtain ⟨rfl, rfl⟩ := Prod.mk.inj hbegin
          exact .answered isin force monotonic _
        · obtain ⟨rfl, rfl⟩ := Prod.mk.inj hbegin
          exact .refreshes isin force monotonic hasked
  | accruedInterestOn secid boardId valueDate =>
      obtain ⟨rfl, rfl⟩ := Prod.mk.inj (Option.some.inj h)
      exact .asks secid boardId valueDate
  | send t slot =>
      obtain ⟨task, htask, h⟩ := Option.bind_eq_some_iff.mp h
      obtain ⟨⟨request, fetch⟩, hfetch, h⟩ := Option.bind_eq_some_iff.mp h
      dsimp only at h
      split at h
      · rename_i n available hfree
        obtain ⟨rfl, rfl⟩ := Prod.mk.inj (Option.some.inj h)
        exact .sends t slot htask hfetch hfree
      · cases h
  | receive t slot outcome =>
      obtain ⟨task, htask, h⟩ := Option.bind_eq_some_iff.mp h
      obtain ⟨⟨request, fetch⟩, hfetch, h⟩ := Option.bind_eq_some_iff.mp h
      dsimp only at h
      split at h
      · obtain ⟨rfl, rfl⟩ := Prod.mk.inj (Option.some.inj h)
        exact .receives t slot outcome htask hfetch
      · cases h
  | resume t wall monotonic =>
      obtain ⟨⟨isin, progress, outcome⟩, hconclude, h⟩ := Option.bind_eq_some_iff.mp h
      obtain ⟨found, parts, failed, payloads, htask, hgathered, rfl, houtcome⟩ :=
        conclude_eq_some hconclude
      obtain ⟨rfl, rfl⟩ := Prod.mk.inj (Option.some.inj h)
      exact .resumes t wall monotonic htask hgathered houtcome

/-- The event can happen. -/
def Enabled (client : MoexIssClient) (s : ClientState) (e : ClientEvent) : Prop :=
  (client.step? s e).isSome

theorem clientMachine_step (client : MoexIssClient) (s : ClientState) (e : ClientEvent) :
    (¬ client.Enabled s e ∧ client.clientMachine.step s e = (s, none)) ∨
      client.Moves s e (client.clientMachine.step s e).1 (client.clientMachine.step s e).2 := by
  show (¬ (client.step? s e).isSome ∧ (client.step? s e).getD (s, none) = (s, none)) ∨
    client.Moves s e ((client.step? s e).getD (s, none)).1 ((client.step? s e).getD (s, none)).2
  cases h : client.step? s e with
  | none => exact Or.inl ⟨Bool.false_ne_true, rfl⟩
  | some next => exact Or.inr (moves_of_step? h)

end MoexIssClient

/-! ## One coroutine -/

/-- A coroutine that has heard the first answers of the server is where `get` is after them. -/
def Fetch.Follows (settings : MoexSettings) (server : ℕ → HttpOutcome) : Fetch → Prop
  | .waiting n | .sent n => settings.get server = getFrom server (settings.retries - n) n
  | .returned outcome => settings.get server = outcome

section Fetches

variable {settings : MoexSettings} {server : ℕ → HttpOutcome}

theorem Fetch.follows_start : (Fetch.waiting 1).Follows settings server := rfl

theorem Fetch.Follows.receive {n : ℕ} (h : (Fetch.sent n).Follows settings server) :
    (Fetch.receive settings n (server n)).Follows settings server := by
  unfold Fetch.receive
  unfold Fetch.Follows at h
  cases hpayload : payloadOf (server n) with
  | ok payload =>
      show settings.get server = .ok payload
      rw [h]
      cases settings.retries - n with
      | zero => exact hpayload
      | succ left =>
          unfold getFrom
          rw [hpayload]
  | error error =>
      dsimp only
      by_cases hagain : settings.again n error = true
      · -- there is an attempt left, and the exception is one to retry
        obtain ⟨hretried, hleft⟩ := Bool.and_eq_true_iff.mp hagain
        have hsub : settings.retries - n = (settings.retries - (n + 1)) + 1 := by
          have := of_decide_eq_true hleft
          omega
        rw [if_pos hagain]
        show settings.get server = getFrom server (settings.retries - (n + 1)) (n + 1)
        rw [h, hsub, getFrom, hpayload]
        exact if_pos hretried
      · rw [if_neg hagain]
        show settings.get server = .error error
        rw [h]
        cases hleft : settings.retries - n with
        | zero => exact hpayload
        | succ left =>
            rw [getFrom, hpayload]
            refine if_neg fun hretried => hagain ?_
            exact Bool.and_eq_true_iff.mpr ⟨hretried, decide_eq_true (by omega)⟩

theorem Fetch.Follows.of_failure {fetch : Fetch} (h : fetch.Follows settings server)
    {error : ClientError} (hfailure : fetch.failure = some error) :
    settings.get server = .error error := by
  match fetch, h, hfailure with
  | .returned (.error _), h, rfl => exact h

theorem Fetch.Follows.of_payload {fetch : Fetch} (h : fetch.Follows settings server)
    {payload : Payload} (hpayload : fetch.payload = some payload) :
    settings.get server = .ok payload := by
  match fetch, h, hpayload with
  | .returned (.ok _), h, rfl => exact h

end Fetches

/-! ## One call -/

namespace MoexIssClient

variable (client : MoexIssClient)

/-- `answer` is what the function of the call gives over this network. -/
def Answers (network : Network) : Call → Except ClientError Answer → Prop
  | .refresh isin, answer =>
      ∃ first wall, answer = (client.refresh network first wall isin).map Answer.refreshed
  | .accruedInterestOn secid boardId valueDate, answer =>
      answer = (client.accruedInterestOn network secid boardId valueDate).map Answer.accrued

/-- The call stands where its function stands over this network. -/
structure Follows (network : Network) (task : Task) : Prop where
  fetches : ∀ slot request fetch, task.progress.fetch slot = some (request, fetch) →
    fetch.Follows client.settings (network request)
  located : ∀ isin found parts failed, task.progress = .gathering isin found parts failed →
    (client.settings.get (network (searchRequest isin)) >>= locate isin) = .ok found
  failed : ∀ isin found parts error, task.progress = .gathering isin found parts (some error) →
    ∃ part : Part, client.settings.get (network (part.request found)) = .error error
  answered : ∀ answer, task.answer = some answer →
    client.Answers network task.progress.call answer

end MoexIssClient

section Calls

variable {client : MoexIssClient} {network : Network} {task : Task}

theorem gather_of_error {outcomes : Part → Except ClientError Payload} {first : Part}
    {error : ClientError} (h : outcomes first = .error error) :
    gather first outcomes = .error error := by
  unfold gather
  rw [h]
  rfl

theorem gather_of_ok {outcomes : Part → Except ClientError Payload} {payloads : Part → Payload}
    (h : ∀ part, outcomes part = .ok (payloads part)) (first : Part) :
    gather first outcomes = .ok payloads := by
  unfold gather
  rw [h first, h .specification, h .market, h .bondization]
  refine congrArg Except.ok (funext fun part => ?_)
  cases part <;> rfl

/-- What `gather` gives is what the requests give. -/
theorem gather_of_gathered {outcomes : Part → Except ClientError Payload} {parts : Part → Fetch}
    {failed : Option ClientError}
    (hparts : ∀ part payload, (parts part).payload = some payload → outcomes part = .ok payload)
    (hfailed : ∀ error, failed = some error → ∃ part, outcomes part = .error error)
    {payloads : Except ClientError (Part → Payload)}
    (h : MoexIssClient.gathered parts failed = some payloads) :
    ∃ first, gather first outcomes = payloads := by
  unfold MoexIssClient.gathered at h
  cases failed with
  | some error =>
      obtain ⟨part, hpart⟩ := hfailed error rfl
      obtain rfl := Option.some.inj h
      exact ⟨part, gather_of_error hpart⟩
  | none =>
      obtain ⟨specification, hspecification, h⟩ := Option.bind_eq_some_iff.mp h
      obtain ⟨market, hmarket, h⟩ := Option.bind_eq_some_iff.mp h
      obtain ⟨bondization, hbondization, h⟩ := Option.bind_eq_some_iff.mp h
      obtain rfl := Option.some.inj h
      refine ⟨.specification, gather_of_ok (fun part => ?_) _⟩
      cases part with
      | specification => exact hparts _ _ hspecification
      | market => exact hparts _ _ hmarket
      | bondization => exact hparts _ _ hbondization

/-- A new call. -/
theorem follows_open (call : Call) :
    client.Follows network ⟨.asking call (.waiting 1), none⟩ where
  fetches slot request fetch hfetch := by
    cases slot with
    | first =>
        obtain ⟨-, rfl⟩ := Prod.mk.inj (Option.some.inj hfetch)
        exact Fetch.follows_start
    | part part => cases hfetch
  located _ _ _ _ h := nomatch h
  failed _ _ _ _ h := nomatch h
  answered _ h := nomatch h

@[simp] theorem Progress.call_send (progress : Progress) (n : ℕ) (slot : Slot) :
    (progress.send n slot).call = progress.call := by
  cases progress <;> cases slot <;> rfl

/-- The coroutine in a slot that went out, and those in the others. -/
theorem Progress.fetch_send {progress : Progress} {slot : Slot} {request : GetRequest}
    {fetch : Fetch} (h : progress.fetch slot = some (request, fetch)) (n : ℕ) (slot' : Slot) :
    (progress.send n slot).fetch slot' =
      if slot' = slot then some (request, .sent n) else progress.fetch slot' := by
  cases progress with
  | asking call fetch' =>
      cases slot with
      | first =>
          obtain ⟨rfl, -⟩ := Prod.mk.inj (Option.some.inj h)
          cases slot' <;> rfl
      | part part => cases h
  | gathering isin found parts failed =>
      cases slot with
      | first => cases h
      | part part =>
          obtain ⟨rfl, -⟩ := Prod.mk.inj (Option.some.inj h)
          cases slot' with
          | first => rfl
          | part part' =>
              show some (part'.request found, Function.update parts part (.sent n) part') = _
              by_cases hpart : part' = part
              · rw [hpart, Function.update_self, if_pos rfl]
              · rw [Function.update_of_ne hpart, if_neg fun hslot => hpart (Slot.part.inj hslot)]
                rfl

theorem Progress.gathering_of_send {progress : Progress} {n : ℕ} {slot : Slot} {isin : String}
    {found : Found} {parts : Part → Fetch} {failed : Option ClientError}
    (h : progress.send n slot = .gathering isin found parts failed) :
    ∃ parts', progress = .gathering isin found parts' failed := by
  cases progress with
  | asking call fetch => cases slot <;> cases h
  | gathering isin' found' parts' failed' =>
      cases slot with
      | first =>
          cases h
          exact ⟨_, rfl⟩
      | part part =>
          cases h
          exact ⟨_, rfl⟩

/-- A request goes out. -/
theorem MoexIssClient.Follows.send (h : client.Follows network task) {slot : Slot}
    {request : GetRequest} {n : ℕ}
    (hfetch : task.progress.fetch slot = some (request, .waiting n)) :
    client.Follows network { task with progress := task.progress.send n slot } where
  fetches slot' request' fetch hfetch' := by
    rw [Progress.fetch_send hfetch] at hfetch'
    split at hfetch'
    · obtain ⟨rfl, rfl⟩ := Prod.mk.inj (Option.some.inj hfetch')
      have hwaiting := h.fetches slot _ _ hfetch
      exact hwaiting
    · exact h.fetches slot' _ _ hfetch'
  located isin found parts failed hgathering := by
    obtain ⟨parts', hprogress⟩ := Progress.gathering_of_send hgathering
    exact h.located isin found parts' failed hprogress
  failed isin found parts error hgathering := by
    obtain ⟨parts', hprogress⟩ := Progress.gathering_of_send hgathering
    exact h.failed isin found parts' error hprogress
  answered answer hanswer := by
    rw [Progress.call_send]
    exact h.answered answer hanswer

/-- The first request of a call returned. -/
theorem follows_proceed {call : Call} {outcome : Except ClientError Payload}
    (h : client.settings.get (network call.request) = outcome) :
    client.Follows network (call.proceed outcome) := by
  have hasking : ∀ answer, client.Answers network call answer →
      client.Follows network ⟨.asking call (.returned outcome), some answer⟩ := by
    intro answer hanswer
    refine ⟨?_, fun _ _ _ _ h => (nomatch h), fun _ _ _ _ h => (nomatch h), ?_⟩
    · intro slot request fetch hfetch
      cases slot with
      | first =>
          obtain ⟨rfl, rfl⟩ := Prod.mk.inj (Option.some.inj hfetch)
          exact h
      | part part => cases hfetch
    · rintro _ ⟨⟩
      exact hanswer
  cases call with
  | refresh isin =>
      unfold Call.proceed
      dsimp only
      cases hlocate : outcome >>= locate isin with
      | error error =>
          refine hasking _ ⟨.specification, 0, ?_⟩
          unfold MoexIssClient.refresh
          have hsearch : client.settings.get (network (searchRequest isin)) = outcome := h
          rw [hsearch, ← bind_assoc, hlocate]
          rfl
      | ok found =>
          refine ⟨?_, ?_, fun _ _ _ _ hfailed => (nomatch hfailed), fun _ hanswer => (nomatch hanswer)⟩
          · intro slot request fetch hfetch
            cases slot with
            | first => cases hfetch
            | part part =>
                obtain ⟨-, rfl⟩ := Prod.mk.inj (Option.some.inj hfetch)
                exact Fetch.follows_start
          · rintro _ _ _ _ ⟨⟩
            have hsearch : client.settings.get (network (searchRequest isin)) = outcome := h
            rw [hsearch, hlocate]
  | accruedInterestOn secid boardId valueDate =>
      refine hasking _ ?_
      show _ = (client.accruedInterestOn network secid boardId valueDate).map Answer.accrued
      unfold MoexIssClient.accruedInterestOn
      have hhistory : client.settings.get (network (historyRequest secid boardId valueDate)) =
        outcome := h
      rw [hhistory]

/-- A response comes that the network gave to this attempt. -/
theorem MoexIssClient.Follows.receive (h : client.Follows network task) {slot : Slot}
    {request : GetRequest} {n : ℕ}
    (hfetch : task.progress.fetch slot = some (request, .sent n)) :
    client.Follows network
      (task.receive (Fetch.receive client.settings n (network request n)) slot) := by
  have hnext := (h.fetches slot request _ hfetch).receive
  generalize Fetch.receive client.settings n (network request n) = next at hnext ⊢
  obtain ⟨progress, answer⟩ := task
  cases progress with
  | asking call fetch =>
      cases slot with
      | part part => cases hfetch
      | first =>
          obtain ⟨rfl, rfl⟩ := Prod.mk.inj (Option.some.inj hfetch)
          have hwaiting : ∀ fetch : Fetch, fetch.Follows client.settings (network call.request) →
              client.Follows network ⟨.asking call fetch, answer⟩ := by
            intro fetch hfollows
            refine ⟨?_, fun _ _ _ _ h => (nomatch h), fun _ _ _ _ h => (nomatch h), h.answered⟩
            intro slot request fetch' hfetch'
            cases slot with
            | first =>
                obtain ⟨rfl, rfl⟩ := Prod.mk.inj (Option.some.inj hfetch')
                exact hfollows
            | part part => cases hfetch'
          cases next with
          | returned outcome => exact follows_proceed hnext
          | waiting n => exact hwaiting _ hnext
          | sent n => exact hwaiting _ hnext
  | gathering isin found parts failed =>
      cases slot with
      | first => cases hfetch
      | part part =>
          obtain ⟨rfl, hpart⟩ := Prod.mk.inj (Option.some.inj hfetch)
          refine ⟨?_, ?_, ?_, h.answered⟩
          · intro slot' request' fetch' hfetch'
            cases slot' with
            | first => cases hfetch'
            | part part' =>
                obtain ⟨rfl, rfl⟩ := Prod.mk.inj (Option.some.inj hfetch')
                by_cases hsame : part' = part
                · rw [hsame, Function.update_self]
                  exact hnext
                · rw [Function.update_of_ne hsame]
                  exact h.fetches (.part part') _ _ rfl
          · rintro _ _ _ _ ⟨⟩
            exact h.located isin found parts failed rfl
          · rintro _ _ _ error hgathering
            obtain ⟨rfl, rfl, -, hfailed⟩ := Progress.gathering.inj hgathering
            rcases Option.or_eq_some_iff.mp hfailed with hbefore | ⟨-, hnow⟩
            · subst hbefore
              exact h.failed isin found parts error rfl
            · exact ⟨part, hnext.of_failure hnow⟩

/-- A refresh goes on after `gather`. -/
theorem MoexIssClient.Follows.resume {isin : String} {found : Found} {parts : Part → Fetch}
    {failed : Option ClientError}
    (h : client.Follows network ⟨.gathering isin found parts failed, none⟩)
    {payloads : Except ClientError (Part → Payload)}
    (hgathered : MoexIssClient.gathered parts failed = some payloads) (wall : Instant) :
    client.Follows network ⟨.gathering isin found parts failed,
      some ((payloads >>= fun payloads => client.mapParts isin found payloads wall).map
        Answer.refreshed)⟩ where
  fetches := h.fetches
  located := h.located
  failed := h.failed
  answered := by
    rintro _ ⟨⟩
    have hparts : ∀ part payload, (parts part).payload = some payload →
        client.settings.get (network (part.request found)) = .ok payload := fun part payload =>
      (h.fetches (.part part) _ _ rfl).of_payload
    have hfailed : ∀ error, failed = some error →
        ∃ part : Part, client.settings.get (network (part.request found)) = .error error := by
      rintro error rfl
      exact h.failed isin found parts error rfl
    obtain ⟨first, hgather⟩ := gather_of_gathered hparts hfailed hgathered
    refine ⟨first, wall, ?_⟩
    unfold MoexIssClient.refresh
    rw [← bind_assoc, h.located isin found parts failed rfl, Py.ok_bind, hgather]

end Calls

/-! ## A run -/

namespace MoexIssClient

/-- The responses are those that the network of each call gives to its attempts. -/
def ServedBy (network : ℕ → Network) (s : ClientState) : ClientEvent → Prop
  | .receive t slot outcome =>
      match (s.tasks[t]?).bind fun task => task.progress.fetch slot with
      | some (request, .sent n) => outcome = network t request n
      | _ => True
  | _ => True

/-- The call that an event opened. -/
def opened (x : Entry ClientState ClientEvent Reply) : Option Call :=
  match x.event, x.response with
  | .refresh isin _ _, none => (normalized isin).toOption.map Call.refresh
  | .accruedInterestOn secid boardId valueDate, _ =>
      some (.accruedInterestOn secid boardId valueDate)
  | _, _ => none

variable {client : MoexIssClient} {s s' : ClientState} {e : ClientEvent} {reply : Reply}

/-- A task in the list after a task was replaced. -/
theorem getElem?_set_task {tasks : List Task} {t : ℕ} {task : Task}
    (htask : tasks[t]? = some task) (task' : Task) (u : ℕ) :
    (tasks.set t task')[u]? = if u = t then some task' else tasks[u]? := by
  by_cases hu : u = t
  · subst hu
    rw [if_pos rfl, List.getElem?_set_self (List.getElem?_eq_some_iff.mp htask).1]
  · rw [if_neg hu, List.getElem?_set_ne (Ne.symm hu)]

/-- A step keeps every call where its function stands. -/
theorem Moves.follows {network : ℕ → Network} (h : client.Moves s e s' reply)
    (hserved : ServedBy network s e)
    (hs : ∀ t task, s.tasks[t]? = some task → client.Follows (network t) task) :
    ∀ t task, s'.tasks[t]? = some task → client.Follows (network t) task := by
  have hopen : ∀ call t task, (s.open call).tasks[t]? = some task →
      client.Follows (network t) task := by
    intro call t task htask
    have hsplit : (s.tasks ++ [⟨.asking call (.waiting 1), none⟩])[t]? = some task := htask
    rw [List.getElem?_append] at hsplit
    split at hsplit
    · exact hs t task hsplit
    · rw [List.mem_singleton.mp (List.mem_of_getElem? hsplit)]
      exact follows_open call
  have hset : ∀ {t task task'}, s.tasks[t]? = some task → client.Follows (network t) task' →
      ∀ u other, (s.tasks.set t task')[u]? = some other → client.Follows (network u) other := by
    intro t task task' htask hfollows u other hother
    rw [getElem?_set_task htask] at hother
    split at hother
    · rename_i hu
      rw [hu, ← Option.some.inj hother]
      exact hfollows
    · exact hs u other hother
  cases h with
  | answered => exact hs
  | refreshes => exact hopen _
  | asks => exact hopen _
  | sends t slot htask hfetch => exact hset htask ((hs t _ htask).send hfetch)
  | @receives t slot outcome task request n htask hfetch =>
      refine hset htask ?_
      have houtcome : outcome = network t request n := by
        simpa only [ServedBy, htask, Option.bind_some, hfetch] using hserved
      rw [houtcome]
      exact (hs t _ htask).receive hfetch
  | resumes t wall monotonic htask hgathered houtcome =>
      rw [houtcome]
      exact hset htask ((hs t _ htask).resume hgathered wall)

/-- A replaced task with the same call. -/
theorem map_set_call {tasks : List Task} {t : ℕ} {task : Task} (htask : tasks[t]? = some task)
    (task' : Task) (hcall : task'.progress.call = task.progress.call) :
    (tasks.set t task').map (fun task => task.progress.call) =
      tasks.map fun task => task.progress.call := by
  refine List.ext_getElem? fun u => ?_
  rw [List.getElem?_map, List.getElem?_map, getElem?_set_task htask]
  split
  · rename_i hu
    rw [hu, htask, Option.map_some, Option.map_some, hcall]
  · rfl

theorem call_proceed (call : Call) (outcome : Except ClientError Payload) :
    (call.proceed outcome).progress.call = call := by
  cases call with
  | refresh isin =>
      unfold Call.proceed
      dsimp only
      cases outcome >>= locate isin <;> rfl
  | accruedInterestOn secid boardId valueDate => rfl

theorem call_receive (task : Task) (fetch : Fetch) (slot : Slot) :
    (task.receive fetch slot).progress.call = task.progress.call := by
  obtain ⟨progress, answer⟩ := task
  cases progress with
  | gathering isin found parts failed => cases slot <;> rfl
  | asking call fetch' =>
      cases slot with
      | part part => rfl
      | first =>
          cases fetch with
          | returned outcome => exact call_proceed call outcome
          | waiting n => rfl
          | sent n => rfl

theorem Moves.calls (h : client.Moves s e s' reply) :
    s'.tasks.map (fun task => task.progress.call) =
      s.tasks.map (fun task => task.progress.call) ++ (opened ⟨s, e, reply⟩).toList := by
  cases h with
  | answered => exact (List.append_nil _).symm
  | @refreshes isin force monotonic asked hnormalized =>
      have hopened : opened ⟨s, .refresh isin force monotonic, none⟩ = some (.refresh asked) := by
        unfold opened
        dsimp only
        rw [hnormalized]
        rfl
      rw [hopened]
      exact List.map_append
  | asks => exact List.map_append
  | sends t slot htask hfetch =>
      exact (map_set_call htask _ (Progress.call_send _ _ _)).trans (List.append_nil _).symm
  | receives t slot outcome htask hfetch =>
      exact (map_set_call htask _ (call_receive _ _ _)).trans (List.append_nil _).symm
  | resumes t wall monotonic htask =>
      have hsame := fun answer => map_set_call htask ⟨_, answer⟩ rfl
      exact (hsame _).trans (List.append_nil _).symm

/-- The calls that wait or have returned are those that were opened. -/
theorem calls_history (client : MoexIssClient) (es : List ClientEvent) :
    (client.clientMachine.history client.start es).filterMap opened =
      (client.clientMachine.run client.start es).tasks.map fun task => task.progress.call := by
  refine client.clientMachine.history_induction
    (P := fun s hist => hist.filterMap opened = s.tasks.map fun task => task.progress.call)
    (fun s hist e hpast => ?_) rfl es
  have hnext : (client.clientMachine.next s e).tasks.map (fun task => task.progress.call) =
      s.tasks.map (fun task => task.progress.call) ++
        (opened (client.clientMachine.entry s e)).toList := by
    rcases clientMachine_step client s e with ⟨hdisabled, hstep⟩ | hmoves
    · show (client.clientMachine.step s e).1.tasks.map _ =
        _ ++ (opened ⟨s, e, (client.clientMachine.step s e).2⟩).toList
      rw [hstep]
      cases e with
      | refresh isin force monotonic => exact absurd rfl hdisabled
      | accruedInterestOn secid boardId valueDate => exact absurd rfl hdisabled
      | _ => exact (List.append_nil _).symm
    · exact hmoves.calls
  rw [List.filterMap_append, hpast, hnext, List.filterMap_eq_flatMap_toList, List.flatMap_singleton]

/-- The task of the `t`-th call stands where the function of the call stands. -/
theorem task_of_call (client : MoexIssClient) (network : ℕ → Network) {es : List ClientEvent}
    (hserved : client.clientMachine.Along (ServedBy network) client.start es) {t : ℕ} {call : Call}
    (hcall : ((client.clientMachine.history client.start es).filterMap opened)[t]? = some call) :
    ∃ task, (client.clientMachine.run client.start es).tasks[t]? = some task ∧
      task.progress.call = call ∧ client.Follows (network t) task := by
  have hfollows := client.clientMachine.invariant_along
    (I := fun s => ∀ t task, s.tasks[t]? = some task → client.Follows (network t) task)
    (G := ServedBy network)
    (fun s e hs hguard => by
      rcases clientMachine_step client s e with ⟨-, hstep⟩ | hmoves
      · show ∀ t task, (client.clientMachine.step s e).1.tasks[t]? = some task → _
        rw [hstep]
        exact hs
      · exact hmoves.follows hguard hs)
    (s := client.start) (fun _ _ h => nomatch h) hserved
  rw [calls_history, List.getElem?_map, Option.map_eq_some_iff] at hcall
  obtain ⟨task, htask, rfl⟩ := hcall
  exact ⟨task, htask, rfl, hfollows t task htask⟩

/-- **Every call returns what it would return alone.**  Whatever the other calls do and in
whatever order coroutines go on, the answer of the `t`-th call is the answer of its function,
asking its requests one after the other with their attempts, over the network that served it. -/
theorem answered_as_alone (client : MoexIssClient) (network : ℕ → Network)
    {es : List ClientEvent}
    (hserved : client.clientMachine.Along (ServedBy network) client.start es) {t : ℕ} {call : Call}
    (hcall : ((client.clientMachine.history client.start es).filterMap opened)[t]? = some call) :
    ∃ task, (client.clientMachine.run client.start es).tasks[t]? = some task ∧
      ∀ answer, task.answer = some answer → client.Answers (network t) call answer := by
  obtain ⟨task, htask, rfl, hfollows⟩ := task_of_call client network hserved hcall
  exact ⟨task, htask, hfollows.answered⟩

/-- A client with the default settings that never needs a timestamp. -/
def plainClient : MoexIssClient where
  settings := {}
  timezone := fun _ => 0
  library := ⟨fun _ => none, fun _ => .ok ""⟩

/-- The first call is told to come back once; every other attempt gets an empty document. -/
def busyOnce : ℕ → Network
  | 0, _, 1 => .response 503 none
  | _, _, _ => .response 200 (some (.object []))

/-- Two calls, the second of which is answered while the first waits for its second attempt. -/
def twoCalls : List ClientEvent :=
  [.accruedInterestOn "RU000A107SX3" (some "TQCB") 739761,
    .accruedInterestOn "RU000A0JX0J2" none 739761,
    .send 0 .first, .send 1 .first, .receive 0 .first (.response 503 none),
    .receive 1 .first (.response 200 (some (.object []))), .send 0 .first,
    .receive 0 .first (.response 200 (some (.object [])))]

theorem answered_as_alone_twice :
    (∃ task, (plainClient.clientMachine.run plainClient.start twoCalls).tasks[0]? = some task ∧
      task.answer = some (.ok (.accrued none))) ∧
    ∃ task, (plainClient.clientMachine.run plainClient.start twoCalls).tasks[0]? = some task ∧
      ∀ answer, task.answer = some answer → plainClient.Answers (busyOnce 0)
        (.accruedInterestOn "RU000A107SX3" (some "TQCB") 739761) answer :=
  have hserved : plainClient.clientMachine.Along (ServedBy busyOnce) plainClient.start twoCalls :=
    ⟨trivial, trivial, trivial, trivial, rfl, rfl, trivial, rfl, trivial⟩
  ⟨⟨_, rfl, rfl⟩, answered_as_alone plainClient busyOnce hserved rfl⟩

end MoexIssClient

end BondTrading.Moex
