/-
# BondTrading.Moex.Retries -- transient faults that nobody sees

An attempt that fails with a transport error, with 429 or with a status from 500 on is made
again.  As long as a request has fewer such failures than it has attempts, its answer is the
first one that is no such failure, and no call of the client can tell the difference.
-/
import BondTrading.Moex.Calls

namespace BondTrading.Moex

open Py (Decimal Dict Instant Json)

/-! ## One request -/

/-- The outcome of an attempt that is made again. -/
def IsTransient (outcome : Except ClientError Payload) : Prop :=
  ∃ error : ClientError, outcome = .error error ∧ error.isRetried = true

theorem getFrom_of_not_transient {server : ℕ → HttpOutcome} {n : ℕ}
    (h : ¬ IsTransient (payloadOf (server n))) (left : ℕ) :
    getFrom server left n = payloadOf (server n) := by
  cases left with
  | zero => rfl
  | succ left =>
      unfold getFrom
      cases houtcome : payloadOf (server n) with
      | ok payload => rfl
      | error error => exact if_neg fun hretried => h ⟨error, houtcome, hretried⟩

theorem getFrom_of_transient {server : ℕ → HttpOutcome} {n : ℕ}
    (h : IsTransient (payloadOf (server n))) (left : ℕ) :
    getFrom server (left + 1) n = getFrom server left (n + 1) := by
  obtain ⟨error, houtcome, hretried⟩ := h
  rw [getFrom, houtcome]
  exact if_pos hretried

/-- Failures before the attempts are over. -/
theorem getFrom_add {server : ℕ → HttpOutcome} {n k : ℕ}
    (h : ∀ j < k, IsTransient (payloadOf (server (n + j)))) (left : ℕ) :
    getFrom server (left + k) n = getFrom server left (n + k) := by
  induction k generalizing left with
  | zero => rfl
  | succ k ih =>
      rw [← Nat.add_assoc, Nat.add_right_comm, ih fun j hj => h j (Nat.lt_succ_of_lt hj),
        getFrom_of_transient (h k (Nat.lt_succ_self k)), Nat.add_assoc]

/-- **The first outcome that is no transient failure** is what the request gives. -/
theorem get_of_transient {settings : MoexSettings} {server : ℕ → HttpOutcome} {k : ℕ}
    (hk : k < settings.retries) (hbefore : ∀ j < k, IsTransient (payloadOf (server (1 + j))))
    (hlast : ¬ IsTransient (payloadOf (server (1 + k)))) :
    settings.get server = payloadOf (server (1 + k)) := by
  have hattempts : settings.retries - 1 = (settings.retries - 1 - k) + k := by omega
  rw [MoexSettings.get, hattempts, getFrom_add hbefore, getFrom_of_not_transient hlast]

/-! ## A whole network -/

/-- `faulty` is `calm` with transient failures before the answer of each request, fewer than
there are attempts. -/
def Delays (settings : MoexSettings) (calm faulty : Network) : Prop :=
  ∀ request, ¬ IsTransient (payloadOf (calm request 1)) ∧
    ∃ k < settings.retries, (∀ j < k, IsTransient (payloadOf (faulty request (1 + j)))) ∧
      faulty request (1 + k) = calm request 1

theorem Delays.get {settings : MoexSettings} {calm faulty : Network}
    (h : Delays settings calm faulty) (request : GetRequest) :
    settings.get (faulty request) = settings.get (calm request) := by
  obtain ⟨hcalm, k, hk, hbefore, hanswer⟩ := h request
  have hfaulty := get_of_transient hk hbefore (hanswer ▸ hcalm)
  have hdirect := get_of_transient (k := 0) (Nat.lt_of_lt_of_le Nat.zero_lt_one
    settings.retries_range.1) (fun _ hj => absurd hj (Nat.not_lt_zero _)) hcalm
  rw [hfaulty, hdirect, hanswer]

namespace MoexIssClient

variable {client : MoexIssClient} {calm faulty : Network}

theorem answers_delays (h : Delays client.settings calm faulty) (call : Call)
    (answer : Except ClientError Answer) :
    client.Answers faulty call answer ↔ client.Answers calm call answer := by
  cases call with
  | refresh isin =>
      have hrefresh : ∀ first wall,
          client.refresh faulty first wall isin = client.refresh calm first wall isin := by
        intro first wall
        unfold MoexIssClient.refresh
        simp only [h.get]
      unfold Answers
      simp only [hrefresh]
  | accruedInterestOn secid boardId valueDate =>
      unfold Answers MoexIssClient.accruedInterestOn
      simp only [h.get]

/-- **Transient faults are invisible.**  Over networks that fail each request with transient
errors only, fewer of them than there are attempts, every call that is answered is answered as
over the networks that do not fail at all, whatever the calls are and however they overlap. -/
theorem faults_invisible (client : MoexIssClient) (calm faulty : ℕ → Network)
    (hdelays : ∀ t, Delays client.settings (calm t) (faulty t)) {es : List ClientEvent}
    (hserved : client.clientMachine.Along (ServedBy faulty) client.start es) {t : ℕ} {call : Call}
    (hcall : ((client.clientMachine.history client.start es).filterMap opened)[t]? = some call) :
    ∃ task, (client.clientMachine.run client.start es).tasks[t]? = some task ∧
      ∀ answer, task.answer = some answer → client.Answers (calm t) call answer := by
  obtain ⟨task, htask, rfl, hfollows⟩ := task_of_call client faulty hserved hcall
  refine ⟨task, htask, fun answer hanswer => ?_⟩
  exact (answers_delays (hdelays t) _ _).mp (hfollows.answered answer hanswer)

/-- The network that `busyOnce` would be without its failure. -/
def neverBusy : Network := fun _ _ => .response 200 (some (.object []))

theorem neverBusy_not_transient (request : GetRequest) :
    ¬ IsTransient (payloadOf (neverBusy request 1)) := by
  rintro ⟨error, houtcome, -⟩
  cases houtcome

theorem busyOnce_delays (t : ℕ) : Delays plainClient.settings neverBusy (busyOnce t) := by
  intro request
  refine ⟨neverBusy_not_transient request, ?_⟩
  cases t with
  | zero =>
      refine ⟨1, by decide, fun j hj => ?_, rfl⟩
      obtain rfl := Nat.lt_one_iff.mp hj
      exact ⟨_, rfl, rfl⟩
  | succ t => exact ⟨0, by decide, fun j hj => absurd hj (Nat.not_lt_zero j), rfl⟩

theorem faults_invisible_once :
    ∃ task, (plainClient.clientMachine.run plainClient.start twoCalls).tasks[0]? = some task ∧
      ∀ answer, task.answer = some answer → plainClient.Answers neverBusy
        (.accruedInterestOn "RU000A107SX3" (some "TQCB") 739761) answer :=
  have hserved : plainClient.clientMachine.Along (ServedBy busyOnce) plainClient.start twoCalls :=
    ⟨trivial, trivial, trivial, trivial, rfl, rfl, trivial, rfl, trivial⟩
  faults_invisible plainClient (fun _ => neverBusy) busyOnce busyOnce_delays hserved rfl

end MoexIssClient

end BondTrading.Moex
