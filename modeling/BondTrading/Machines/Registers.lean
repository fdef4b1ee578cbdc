/-
# BondTrading.Machines.Registers -- what was written last

A part of the state that some steps overwrite and all others keep holds what was written last.
The rule states it of the history: the value was written, and nothing was written after it.
-/
import BondTrading.Machines.Runs

namespace BondTrading.Machines

universe u v w

variable {σ : Type u} {ε : Type v} {ρ : Type w} {τ : Type*}

namespace Machine

variable (m : Machine σ ε ρ)

/-- **A register holds what was written last.**  `writes` is what a line of the history puts
into the register, if it puts anything. -/
theorem eq_some_iff_since (register : σ → Option τ) (writes : Entry σ ε ρ → Option τ)
    (hstep : ∀ s e, register (m.next s e) = (writes (m.entry s e)).or (register s)) {s : σ}
    (hempty : register s = none) (es : List ε) (value : τ) :
    register (m.run s es) = some value ↔
      Since (fun x => writes x = some value) (fun x => writes x ≠ none) (m.history s es) := by
  refine m.history_induction
    (P := fun s hist => register s = some value ↔
      Since (fun x => writes x = some value) (fun x => writes x ≠ none) hist) ?_ ?_ es
  · intro s hist e hpast
    rw [hstep, since_snoc, ← hpast, not_not]
    cases writes (m.entry s e) with
    | none => simp
    | some other => simp
  · rw [hempty]
    refine iff_of_false (fun h => nomatch h) fun h => ?_
    obtain ⟨x, hx, -⟩ := h.mem
    cases hx

end Machine

end BondTrading.Machines
