/-
# BondTrading.Instruments.LatestFlows -- one flow for every event

The loop of `_instrument_cashflows` keeps the first amount it meets of every type and date.
Where the select returns the latest actions first, that amount is of a latest action that has
one, whichever of several equally late actions comes first.
-/
import BondTrading.Instruments.Cashflows
import Mathlib.Data.List.Sort

namespace BondTrading

open Py (Decimal)

/-- `(action_type, event_date)`. -/
def CorporateCashFlow.event (c : CorporateCashFlow Decimal) : ActionType × Date :=
  (c.actionType, c.eventDate)

/-- The amount of `c` is that of an action with an amount, none of which is later. -/
def CorporateCashFlow.LatestOf (c : CorporateCashFlow Decimal)
    (actions : List CorporateActionModel) : Prop :=
  ∃ a ∈ actions, a.event = c.event ∧
    (∃ amount, a.amountRubPerBond = some amount ∧ c.amountRubPerBond = .finite amount) ∧
    ∀ b ∈ actions, b.event = c.event → b.amountRubPerBond ≠ none →
      b.sourceUpdatedAt ≤ a.sourceUpdatedAt

/-- An order of the rows that the select may return. -/
def LatestFirst (actions : List CorporateActionModel) : Prop :=
  actions.Pairwise fun a b => b.sourceUpdatedAt ≤ a.sourceUpdatedAt

/-- What the loop has done with the actions behind it. -/
structure LatestFlows.Covers (acc : LatestFlows) (done : List CorporateActionModel) : Prop where
  seen : ∀ e, e ∈ acc.seen ↔ ∃ a ∈ done, a.event = e ∧ a.amountRubPerBond ≠ none
  events : acc.cashflows.map CorporateCashFlow.event = acc.seen.reverse
  nodup : acc.seen.Nodup
  latest : ∀ c ∈ acc.cashflows, c.LatestOf done

section Loop

variable {acc : LatestFlows} {done : List CorporateActionModel} {action : CorporateActionModel}

/-- An action that comes later in the list is no later in time. -/
theorem CorporateCashFlow.LatestOf.snoc {c : CorporateCashFlow Decimal} (h : c.LatestOf done)
    (hlate : ∀ a ∈ done, action.sourceUpdatedAt ≤ a.sourceUpdatedAt) :
    c.LatestOf (done ++ [action]) := by
  obtain ⟨a, ha, hevent, hamount, hlatest⟩ := h
  refine ⟨a, List.mem_append_left _ ha, hevent, hamount, ?_⟩
  intro b hb hbevent hbamount
  rcases List.mem_append.mp hb with hb | hb
  · exact hlatest b hb hbevent hbamount
  · obtain rfl := List.mem_singleton.mp hb
    exact hlate a ha

theorem LatestFlows.Covers.empty : LatestFlows.Covers ⟨[], []⟩ [] where
  seen _ := by simp
  events := rfl
  nodup := List.nodup_nil
  latest _ h := absurd h List.not_mem_nil

/-- One round. -/
theorem latestFlowStep_covers (h : acc.Covers done)
    (hlate : ∀ a ∈ done, action.sourceUpdatedAt ≤ a.sourceUpdatedAt) :
    (latestFlowStep acc action).Covers (done ++ [action]) := by
  have hkept : ∀ c ∈ acc.cashflows, c.LatestOf (done ++ [action]) := fun c hc =>
    (h.latest c hc).snoc hlate
  have hsplit : ∀ e, (∃ a ∈ done ++ [action], a.event = e ∧ a.amountRubPerBond ≠ none) ↔
      e ∈ acc.seen ∨ (action.event = e ∧ action.amountRubPerBond ≠ none) := by
    intro e
    rw [h.seen]
    simp only [List.mem_append, List.mem_singleton, or_and_right, exists_or, exists_eq_left]
  unfold latestFlowStep
  split
  · -- no amount
    rename_i hnone
    refine ⟨fun e => ?_, h.events, h.nodup, hkept⟩
    rw [hsplit]
    simp [hnone]
  · rename_i amount hamount
    split
    · -- an event that was seen
      rename_i hseen
      refine ⟨fun e => ?_, h.events, h.nodup, hkept⟩
      rw [hsplit]
      constructor
      · exact .inl
      · rintro (he | ⟨rfl, -⟩)
        · exact he
        · exact hseen
    · rename_i hnew
      refine ⟨fun e => ?_, ?_, List.nodup_cons.mpr ⟨hnew, h.nodup⟩, ?_⟩
      · rw [hsplit, List.mem_cons, hamount]
        constructor
        · rintro (rfl | he)
          · exact .inr ⟨rfl, nofun⟩
          · exact .inl he
        · rintro (he | ⟨rfl, -⟩)
          · exact .inr he
          · exact .inl rfl
      · rw [List.map_append, h.events, List.reverse_cons]
        rfl
      · intro c hc
        rcases List.mem_append.mp hc with hc | hc
        · exact hkept c hc
        · obtain rfl := List.mem_singleton.mp hc
          refine ⟨action, by simp, rfl, ⟨amount, hamount, rfl⟩, ?_⟩
          intro b hb hbevent hbamount
          rcases List.mem_append.mp hb with hb | hb
          · -- nothing of this event has an amount before
            exact absurd ((h.seen _).mpr ⟨b, hb, hbevent, hbamount⟩) hnew
          · obtain rfl := List.mem_singleton.mp hb
            exact le_refl _

theorem latestFlows_covers {actions : List CorporateActionModel} (h : acc.Covers done)
    (horder : LatestFirst (done ++ actions)) :
    (actions.foldl latestFlowStep acc).Covers (done ++ actions) := by
  induction actions generalizing acc done with
  | nil =>
      rw [List.append_nil]
      exact h
  | cons action actions ih =>
      have hshift : done ++ action :: actions = (done ++ [action]) ++ actions := by simp
      have hlate : ∀ a ∈ done, action.sourceUpdatedAt ≤ a.sourceUpdatedAt := fun a ha =>
        (List.pairwise_append.mp horder).2.2 a ha action List.mem_cons_self
      rw [hshift] at horder ⊢
      exact ih (latestFlowStep_covers h hlate) horder

end Loop

/-! ## The flows of an instrument -/

theorem CorporateCashFlow.before_total (a b : CorporateCashFlow Decimal) :
    a.before b ∨ b.before a := by
  rcases lt_trichotomy a.eventDate b.eventDate with h | h | h
  · exact .inl (.inl h)
  · rcases Nat.le_total a.actionType.rank b.actionType.rank with hrank | hrank
    · exact .inl (.inr ⟨h, hrank⟩)
    · exact .inr (.inr ⟨h.symm, hrank⟩)
  · exact .inr (.inl h)

theorem CorporateCashFlow.before_trans {a b c : CorporateCashFlow Decimal} (h : a.before b)
    (h' : b.before c) : a.before c := by
  rcases h with h | ⟨h, hrank⟩
  · rcases h' with h' | ⟨h', -⟩
    · exact .inl (h.trans h')
    · exact .inl (h.trans_eq h')
  · rcases h' with h' | ⟨h', hrank'⟩
    · exact .inl (h.trans_lt h')
    · exact .inr ⟨h.trans h', hrank.trans hrank'⟩

instance : Std.Total CorporateCashFlow.before := ⟨CorporateCashFlow.before_total⟩

instance : IsTrans (CorporateCashFlow Decimal) CorporateCashFlow.before :=
  ⟨fun _ _ _ => CorporateCashFlow.before_trans⟩

variable {actions : List CorporateActionModel}

/-- Whatever the order of the rows. -/
theorem instrumentCashflows_sorted (actions : List CorporateActionModel) :
    (instrumentCashflows actions).Pairwise fun a b => a.eventDate ≤ b.eventDate := by
  refine (List.pairwise_insertionSort CorporateCashFlow.before _).imp ?_
  rintro a b (h | ⟨h, -⟩)
  · exact h.le
  · exact h.le

theorem mem_instrumentCashflows {c : CorporateCashFlow Decimal} :
    c ∈ instrumentCashflows actions ↔ c ∈ (actions.foldl latestFlowStep ⟨[], []⟩).cashflows :=
  List.mem_insertionSort _

/-- **One flow for every event with an amount, of a latest action.** -/
theorem instrumentCashflows_latest (horder : LatestFirst actions) :
    ((instrumentCashflows actions).map CorporateCashFlow.event).Nodup ∧
      (∀ e, e ∈ (instrumentCashflows actions).map CorporateCashFlow.event ↔
        ∃ a ∈ actions, a.event = e ∧ a.amountRubPerBond ≠ none) ∧
      ∀ c ∈ instrumentCashflows actions, c.LatestOf actions := by
  have hcovers : LatestFlows.Covers _ ([] ++ actions) := latestFlows_covers .empty horder
  have hperm : (instrumentCashflows actions).Perm
      (actions.foldl latestFlowStep ⟨[], []⟩).cashflows := List.perm_insertionSort _ _
  refine ⟨?_, fun e => ?_, fun c hc => hcovers.latest c (mem_instrumentCashflows.mp hc)⟩
  · rw [(hperm.map _).nodup_iff, hcovers.events, List.nodup_reverse]
    exact hcovers.nodup
  · rw [(hperm.map _).mem_iff, hcovers.events, List.mem_reverse]
    exact hcovers.seen e

end BondTrading
