/-
# BondTrading.Machines.Budgets -- steps that a potential pays for

A run that keeps an invariant, raises a potential by the income of an event at most, and pays
one for every charged event makes at most as many charged events as the potential it started
with and its income.  The rule turns "someone else was served" into a bound on waiting: what
has to be shown is one step, and which events are charged is free.
-/
import BondTrading.Machines.Runs
import Mathlib

namespace BondTrading.Machines

universe u v w

variable {σ : Type u} {ε : Type v} {ρ : Type w}

namespace Machine

variable (m : Machine σ ε ρ)

/-- A guard along a run is a guard of every line of its history. -/
theorem along_iff_history {G : σ → ε → Prop} {s : σ} {es : List ε} :
    m.Along G s es ↔ ∀ x ∈ m.history s es, G x.before x.event := by
  induction es generalizing s with
  | nil => exact iff_of_true trivial fun _ h => absurd h List.not_mem_nil
  | cons e es ih =>
      rw [history_cons, List.forall_mem_cons, ← ih]
      exact Iff.rfl

/-- **Every charged step is paid for** out of the potential `φ` and the income. -/
structure Budget (G : σ → ε → Prop) (I : σ → Prop) (charged : ε → Bool) (income : ε → ℕ)
    (φ : σ → ℕ) : Prop where
  keeps : ∀ s e, I s → G s e → I (m.next s e)
  pays : ∀ s e, I s → G s e → φ (m.next s e) + (if charged e then 1 else 0) ≤ φ s + income e

variable {m} {G : σ → ε → Prop} {I : σ → Prop} {charged : ε → Bool} {income : ε → ℕ} {φ : σ → ℕ}

/-- **The charged events of a run** and what is left of the potential are within what it
started with and its income. -/
theorem Budget.countP_le (h : m.Budget G I charged income φ) {s : σ} (hs : I s) {es : List ε}
    (halong : m.Along G s es) :
    es.countP charged + φ (m.run s es) ≤ φ s + (es.map income).sum := by
  induction es generalizing s with
  | nil =>
      show 0 + φ s ≤ φ s + 0
      omega
  | cons e es ih =>
      have hpays := h.pays s e hs halong.1
      have hrest := ih (h.keeps s e hs halong.1) halong.2
      rw [List.countP_cons, run_cons, List.map_cons, List.sum_cons]
      omega

/-- **What the charged events must come to**: where they are paid for as long as nothing is
hit, more of them than the potential and the income hit something. -/
theorem Budget.exists_hit {hit : σ → ε → Prop}
    (h : m.Budget (fun s e => G s e ∧ ¬ hit s e) I charged income φ) {s : σ} (hs : I s)
    {es : List ε} (halong : m.Along G s es)
    (hmany : φ s + (es.map income).sum < es.countP charged) :
    ∃ x ∈ m.history s es, hit x.before x.event := by
  by_contra hnone
  have hmissed : ∀ x ∈ m.history s es, ¬ hit x.before x.event := by
    intro x hx hhit
    exact hnone ⟨x, hx, hhit⟩
  have hboth : m.Along (fun s e => G s e ∧ ¬ hit s e) s es := by
    rw [along_iff_history] at halong ⊢
    intro x hx
    exact ⟨halong x hx, hmissed x hx⟩
  have hpaid := h.countP_le hs hboth
  omega

end Machine

end BondTrading.Machines
