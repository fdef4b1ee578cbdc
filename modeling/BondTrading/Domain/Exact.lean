/-
# BondTrading.Domain.Exact -- the closed formulas of the calculation rules

The abstract layer over `Domain.Engine`: what a purchase costs, what the distinct
events of a holding window pay, what tax leaves of a profit and what a year of it
yields, all as plain formulas at `ℚ`.  `cashflowTotals_exact` is the bridge for the
loop: the dedup set and the two accumulators compute a sum over a finite SET of
(date, amount) pairs, unless some flow of the tuple is negative, in which case the
first such flow is reported wherever it lies in time.
-/
import BondTrading.Domain.Engine
import Mathlib.Algebra.BigOperators.Group.Finset.Basic
import Mathlib.Algebra.BigOperators.Ring.Finset
import Mathlib.Algebra.Order.BigOperators.Group.Finset

namespace BondTrading

open Py (Decimal)

/-! ## Formulas -/

/-- `clean_total`, `accrued_total`, `commission_total` and their sum. -/
def PurchaseInput.costs (p : PurchaseInput ℚ) : PurchaseResult ℚ where
  cleanPriceTotal := p.cleanPriceRubPerBond * p.quantity
  accruedInterestTotal := p.accruedInterestRubPerBond * p.quantity
  commissionTotal := p.commissionRubPerBond * p.quantity
  purchaseTotal :=
    p.cleanPriceRubPerBond * p.quantity + p.accruedInterestRubPerBond * p.quantity +
      p.commissionRubPerBond * p.quantity

/-- The window of a holding: after the purchase, up to and including the exit. -/
def InWindow (purchaseDate exitDate : Date) (c : CorporateCashFlow ℚ) : Prop :=
  purchaseDate < c.eventDate ∧ c.eventDate ≤ exitDate

instance (pd ed : Date) (c : CorporateCashFlow ℚ) : Decidable (InWindow pd ed c) :=
  inferInstanceAs (Decidable (_ ∧ _))

/-- **The SET of (date, amount) pairs of the events of one type inside the window.** -/
def eventAmounts (t : ActionType) (pd ed : Date) (l : List (CorporateCashFlow ℚ)) :
    Finset (Date × ℚ) :=
  ((l.filter fun c => c.actionType = t ∧ InWindow pd ed c).map
    fun c => (c.eventDate, c.amountRubPerBond)).toFinset

/-- What a position of `q` bonds receives from the events of one type. -/
def eventTotal (t : ActionType) (pd ed : Date) (q : ℚ) (l : List (CorporateCashFlow ℚ)) : ℚ :=
  q * ∑ x ∈ eventAmounts t pd ed l, x.2

/-- The tax strategies. -/
def taxedProfit (profit : ℚ) (policy : TaxPolicy ℚ) : ℚ :=
  if profit ≤ 0 then profit
  else
    match policy.mode with
    | .none => profit
    | .flatRate => profit * (1 - policy.rate)
    | .legacyDivide113 => profit / (113 / 100)

/-- `profit / purchase_total × 365 / holding_days × 100`. -/
def annualYield (profit purchaseTotal : ℚ) (holdingDays : ℤ) : ℚ :=
  profit / purchaseTotal * 365 / holdingDays * 100

/-- The result record over a breakdown of the exit. -/
def exactResult (p : PurchaseInput ℚ)
    (coupons amortizations redemptionOrMarket accrued sale exitTotal : ℚ) (exitDate : Date)
    (policy : TaxPolicy ℚ) : YieldResult ℚ :=
  let profit := exitTotal - p.costs.purchaseTotal
  let days := exitDate - p.purchaseDate
  { purchase := p.costs
    couponsTotal := coupons
    amortizationsTotal := amortizations
    redemptionOrMarketTotal := redemptionOrMarket
    accruedInterestTotal := accrued
    saleCommissionTotal := sale
    exitTotal
    profitBeforeTax := profit
    profitAfterTax := taxedProfit profit policy
    annualYieldBeforeTax := annualYield profit p.costs.purchaseTotal days
    annualYieldAfterTax := annualYield (taxedProfit profit policy) p.costs.purchaseTotal days
    holdingDays := days }

/-- The planned scenario. -/
def PlannedYieldInput.closedForm (v : PlannedYieldInput ℚ) : YieldResult ℚ :=
  let p := v.purchase
  let coupons := eventTotal .coupon p.purchaseDate v.targetDate p.quantity v.cashflows
  let amortizations := eventTotal .amortization p.purchaseDate v.targetDate p.quantity v.cashflows
  let redemption := v.finalRedemptionRubPerBond * p.quantity
  let sale := v.saleCommissionRubPerBond * p.quantity
  exactResult p coupons amortizations redemption 0 sale
    (coupons + amortizations + redemption - sale) v.targetDate v.taxPolicy

/-- The current scenario. -/
def CurrentYieldInput.closedForm (v : CurrentYieldInput ℚ) : YieldResult ℚ :=
  let p := v.purchase
  let coupons := eventTotal .coupon p.purchaseDate v.valuationDate p.quantity v.cashflows
  let amortizations := eventTotal .amortization p.purchaseDate v.valuationDate p.quantity v.cashflows
  let market := v.bidRubPerBond * p.quantity
  let accrued := v.currentAccruedInterestRubPerBond * p.quantity
  let sale := v.saleCommissionRubPerBond * p.quantity
  exactResult p coupons amortizations market accrued sale
    (market + accrued + coupons + amortizations - sale) v.valuationDate v.taxPolicy

/-- **When a scenario can be computed**: `exits` are its exit amounts and `profit` is
its profit before tax. -/
structure Admissible (p : PurchaseInput ℚ) (exits : List ℚ) (flows : List (CorporateCashFlow ℚ))
    (exitDate : Date) (policy : TaxPolicy ℚ) (profit : ℚ) : Prop where
  quantity_pos : 0 < p.quantity
  clean_nonneg : 0 ≤ p.cleanPriceRubPerBond
  accrued_nonneg : 0 ≤ p.accruedInterestRubPerBond
  commission_nonneg : 0 ≤ p.commissionRubPerBond
  exits_nonneg : ∀ a ∈ exits, 0 ≤ a
  flows_nonneg : ∀ c ∈ flows, 0 ≤ c.amountRubPerBond
  total_pos : 0 < p.costs.purchaseTotal
  exit_after : p.purchaseDate < exitDate
  rate_ok : 0 < profit → policy.mode = .flatRate → 0 ≤ policy.rate ∧ policy.rate ≤ 1

def PlannedYieldInput.Admissible (v : PlannedYieldInput ℚ) : Prop :=
  BondTrading.Admissible v.purchase [v.finalRedemptionRubPerBond, v.saleCommissionRubPerBond]
    v.cashflows v.targetDate v.taxPolicy v.closedForm.profitBeforeTax

def CurrentYieldInput.Admissible (v : CurrentYieldInput ℚ) : Prop :=
  BondTrading.Admissible v.purchase
    [v.bidRubPerBond, v.currentAccruedInterestRubPerBond, v.saleCommissionRubPerBond]
    v.cashflows v.valuationDate v.taxPolicy v.closedForm.profitBeforeTax

/-! ## Sets of events -/

theorem mem_eventAmounts {t : ActionType} {pd ed : Date} {l : List (CorporateCashFlow ℚ)}
    {x : Date × ℚ} :
    x ∈ eventAmounts t pd ed l ↔ ∃ c ∈ l, c.actionType = t ∧ InWindow pd ed c ∧
      (c.eventDate, c.amountRubPerBond) = x := by
  simp [eventAmounts, and_assoc]

/-- Order and repetition of the flows do not reach the set. -/
theorem eventAmounts_congr {t : ActionType} {pd ed : Date} {l l' : List (CorporateCashFlow ℚ)}
    (h : ∀ c, c ∈ l ↔ c ∈ l') : eventAmounts t pd ed l = eventAmounts t pd ed l' := by
  ext x
  simp only [mem_eventAmounts, h]

theorem eventAmounts_cons_of_not {t : ActionType} {pd ed : Date} {c : CorporateCashFlow ℚ}
    {l : List (CorporateCashFlow ℚ)} (h : ¬ (c.actionType = t ∧ InWindow pd ed c)) :
    eventAmounts t pd ed (c :: l) = eventAmounts t pd ed l := by
  simp only [eventAmounts, List.filter_cons, decide_eq_true_eq, if_neg h]

theorem eventAmounts_cons_of_in {t : ActionType} {pd ed : Date} {c : CorporateCashFlow ℚ}
    {l : List (CorporateCashFlow ℚ)} (ht : c.actionType = t) (hw : InWindow pd ed c) :
    eventAmounts t pd ed (c :: l) =
      insert (c.eventDate, c.amountRubPerBond) (eventAmounts t pd ed l) := by
  have h : c.actionType = t ∧ InWindow pd ed c := ⟨ht, hw⟩
  simp only [eventAmounts, List.filter_cons, decide_eq_true_eq, if_pos h, List.map_cons,
    List.toFinset_cons]

/-! ## The loop computes the set sum -/

/-- What the loop remembers of an exact flow. -/
abbrev Identity := ActionType × Date × ℚ

/-- The `seen` set as the program holds it. -/
def heldSeen (seen : List Identity) : List (ActionType × Date × Decimal) :=
  seen.map fun i => (i.1, i.2.1, .finite i.2.2)

theorem mem_heldSeen {i : Identity} {seen : List Identity} :
    (i.1, i.2.1, Decimal.finite i.2.2) ∈ heldSeen seen ↔ i ∈ seen := by
  simp only [heldSeen, List.mem_map, Prod.mk.injEq, Decimal.finite.injEq]
  constructor
  · rintro ⟨j, hj, h1, h2, h3⟩
    have : j = i := Prod.ext h1 (Prod.ext h2 h3)
    exact this ▸ hj
  · intro h
    exact ⟨i, h, rfl, rfl, rfl⟩

/-- The pairs of type `t` already counted. -/
def seenAmounts (t : ActionType) (seen : List Identity) : Finset (Date × ℚ) :=
  ((seen.filter fun i => i.1 = t).map Prod.snd).toFinset

theorem mem_seenAmounts {t : ActionType} {seen : List Identity} {x : Date × ℚ} :
    x ∈ seenAmounts t seen ↔ (t, x) ∈ seen := by
  simp only [seenAmounts, List.mem_toFinset, List.mem_map, List.mem_filter, decide_eq_true_eq]
  constructor
  · rintro ⟨⟨s, y⟩, ⟨hmem, rfl⟩, rfl⟩
    exact hmem
  · intro h
    exact ⟨(t, x), ⟨h, rfl⟩, rfl⟩

/-- What the rest of the loop still adds for the type `t`. -/
def pending (t : ActionType) (pd ed : Date) (seen : List Identity)
    (l : List (CorporateCashFlow ℚ)) : ℚ :=
  ∑ x ∈ eventAmounts t pd ed l \ seenAmounts t seen, x.2

theorem pending_nil (t : ActionType) (pd ed : Date) (seen : List Identity) :
    pending t pd ed seen [] = 0 := by
  simp [pending, eventAmounts]

theorem pending_cons_of_not {t : ActionType} {pd ed : Date} {seen : List Identity}
    {c : CorporateCashFlow ℚ} {l : List (CorporateCashFlow ℚ)}
    (h : ¬ (c.actionType = t ∧ InWindow pd ed c)) :
    pending t pd ed seen (c :: l) = pending t pd ed seen l := by
  rw [pending, eventAmounts_cons_of_not h, pending]

/-- A flow seen before adds nothing. -/
theorem pending_cons_of_seen {t : ActionType} {pd ed : Date} {seen : List Identity}
    {c : CorporateCashFlow ℚ} {l : List (CorporateCashFlow ℚ)}
    (h : (c.actionType, c.eventDate, c.amountRubPerBond) ∈ seen) :
    pending t pd ed seen (c :: l) = pending t pd ed seen l := by
  by_cases hin : c.actionType = t ∧ InWindow pd ed c
  · have hseen : (c.eventDate, c.amountRubPerBond) ∈ seenAmounts t seen :=
      mem_seenAmounts.mpr (hin.1 ▸ h)
    rw [pending, eventAmounts_cons_of_in hin.1 hin.2, Finset.insert_sdiff_of_mem _ hseen, pending]
  · exact pending_cons_of_not hin

/-- A new flow adds its own amount for its own type, and the rest goes on without it. -/
theorem pending_cons_of_new {t : ActionType} {pd ed : Date} {seen : List Identity}
    {c : CorporateCashFlow ℚ} {l : List (CorporateCashFlow ℚ)} (hw : InWindow pd ed c)
    (h : (c.actionType, c.eventDate, c.amountRubPerBond) ∉ seen) :
    pending t pd ed seen (c :: l) =
      (if c.actionType = t then c.amountRubPerBond else 0) +
        pending t pd ed ((c.actionType, c.eventDate, c.amountRubPerBond) :: seen) l := by
  by_cases ht : c.actionType = t
  · subst ht
    set x : Date × ℚ := (c.eventDate, c.amountRubPerBond) with hx
    have hnew : x ∉ seenAmounts c.actionType seen := fun hmem => h (mem_seenAmounts.mp hmem)
    have hcons : seenAmounts c.actionType ((c.actionType, x) :: seen) =
        insert x (seenAmounts c.actionType seen) := by
      ext y
      simp [mem_seenAmounts]
    rw [if_pos rfl, pending, eventAmounts_cons_of_in rfl hw, pending, ← hx, hcons,
      Finset.insert_sdiff_of_notMem _ hnew, Finset.sdiff_insert,
      ← Finset.sum_erase_add _ _ (Finset.mem_insert_self x _), Finset.erase_insert_eq_erase,
      add_comm]
  · have hcons : seenAmounts t ((c.actionType, c.eventDate, c.amountRubPerBond) :: seen) =
        seenAmounts t seen := by
      ext y
      simp [mem_seenAmounts, Ne.symm ht]
    rw [if_neg ht, zero_add, pending_cons_of_not (fun hin => ht hin.1), pending, pending, hcons]

/-- One round of the loop on a non-negative exact flow. -/
theorem cashflowStep_exact (pd ed : Date) (q coupons amortizations : ℚ) (seen : List Identity)
    (c : CorporateCashFlow ℚ) (hc : 0 ≤ c.amountRubPerBond) :
    cashflowStep pd ed (.finite q) ⟨.finite coupons, .finite amortizations, heldSeen seen⟩
        (c.map .finite) =
      .ok (if ¬ InWindow pd ed c ∨ (c.actionType, c.eventDate, c.amountRubPerBond) ∈ seen then
          ⟨.finite coupons, .finite amortizations, heldSeen seen⟩
        else
          ⟨.finite (coupons + if c.actionType = .coupon then c.amountRubPerBond * q else 0),
            .finite (amortizations +
              if c.actionType = .amortization then c.amountRubPerBond * q else 0),
            heldSeen ((c.actionType, c.eventDate, c.amountRubPerBond) :: seen)⟩) := by
  have hnn : ¬ c.amountRubPerBond < 0 := not_lt.mpr hc
  by_cases hw : InWindow pd ed c
  · by_cases hs : (c.actionType, c.eventDate, c.amountRubPerBond) ∈ seen
    · have hheld := mem_heldSeen.mpr hs
      simp [cashflowStep, CorporateCashFlow.map, ZERO, hnn, hs, hw.1, hw.2, hheld, bind,
        Except.bind, pure, Except.pure]
    · have hheld := fun hmem => hs (mem_heldSeen.mp hmem)
      have hor : ¬ (¬ InWindow pd ed c ∨
          (c.actionType, c.eventDate, c.amountRubPerBond) ∈ seen) := by simp [hw, hs]
      rw [if_neg hor]
      cases ht : c.actionType <;>
        simp [cashflowStep, CorporateCashFlow.map, ZERO, hnn, hw.1, hw.2, ht, bind,
          Except.bind, pure, Except.pure, heldSeen] <;> simpa [heldSeen, ht] using hheld
  · have hw' : ¬ (pd < c.eventDate ∧ c.eventDate ≤ ed) := hw
    simp only [hw, not_false_eq_true, true_or, if_true]
    simp [cashflowStep, CorporateCashFlow.map, ZERO, hnn, bind, Except.bind, pure, Except.pure]
    intro h1 h2
    exact absurd ⟨h1, h2⟩ hw'

/-- A negative flow is reported wherever it lies in time. -/
theorem cashflowStep_negative [Py.Context] (pd ed : Date) (q : Decimal) (acc : CashflowTotals)
    (c : CorporateCashFlow ℚ) (hc : c.amountRubPerBond < 0) :
    cashflowStep pd ed q acc (c.map .finite) =
      .error (invalidAmount "Cash flow amount cannot be negative" (.cashflow (c.map .finite))) := by
  simp [cashflowStep, CorporateCashFlow.map, ZERO, hc, bind, Except.bind, throw, throwThe,
    MonadExceptOf.throw]

/-- The loop from any of its states: the first negative flow stops it, and without one
each accumulator gains what is still pending for its type. -/
theorem foldlM_cashflowStep (pd ed : Date) (q : ℚ) (l : List (CorporateCashFlow ℚ)) :
    ∀ (coupons amortizations : ℚ) (seen : List Identity),
      match l.find? fun c => c.amountRubPerBond < 0 with
      | some c =>
          (l.map (CorporateCashFlow.map .finite)).foldlM (cashflowStep pd ed (.finite q))
              ⟨.finite coupons, .finite amortizations, heldSeen seen⟩ =
            .error (invalidAmount "Cash flow amount cannot be negative"
              (.cashflow (c.map .finite)))
      | none =>
          ∃ seen', (l.map (CorporateCashFlow.map .finite)).foldlM
              (cashflowStep pd ed (.finite q))
              ⟨.finite coupons, .finite amortizations, heldSeen seen⟩ =
            .ok ⟨.finite (coupons + q * pending .coupon pd ed seen l),
              .finite (amortizations + q * pending .amortization pd ed seen l), seen'⟩ := by
  induction l with
  | nil =>
      intro coupons amortizations seen
      exact ⟨heldSeen seen, by simp [pending_nil, pure, Except.pure]⟩
  | cons c l ih =>
      intro coupons amortizations seen
      by_cases hneg : c.amountRubPerBond < 0
      · simp only [List.find?_cons, hneg, decide_true, List.map_cons, List.foldlM_cons,
          cashflowStep_negative pd ed _ _ c hneg]
        rfl
      · simp only [List.find?_cons, hneg, decide_false, List.map_cons, List.foldlM_cons,
          cashflowStep_exact pd ed q coupons amortizations seen c (not_lt.mp hneg)]
        by_cases hskip : ¬ InWindow pd ed c ∨
            (c.actionType, c.eventDate, c.amountRubPerBond) ∈ seen
        · -- the state is unchanged, and nothing was pending for this flow
          have hpend : ∀ t, pending t pd ed seen (c :: l) = pending t pd ed seen l := by
            intro t
            rcases hskip with hout | hseen
            · exact pending_cons_of_not fun hin => hout hin.2
            · exact pending_cons_of_seen hseen
          simp only [if_pos hskip, hpend]
          exact ih coupons amortizations seen
        · rw [not_or, not_not] at hskip
          have hpend : ∀ t, pending t pd ed seen (c :: l) = _ := fun t =>
            pending_cons_of_new hskip.1 hskip.2
          simp only [hskip.1, hskip.2, not_true_eq_false, or_self, if_false, hpend]
          have hrest := ih
            (coupons + if c.actionType = .coupon then c.amountRubPerBond * q else 0)
            (amortizations + if c.actionType = .amortization then c.amountRubPerBond * q else 0)
            ((c.actionType, c.eventDate, c.amountRubPerBond) :: seen)
          have hfactor : ∀ (t : ActionType) (x : ℚ),
              (if c.actionType = t then c.amountRubPerBond * q else 0) + q * x =
                q * ((if c.actionType = t then c.amountRubPerBond else 0) + x) := by
            intro t x
            split <;> ring
          simp only [add_assoc, hfactor] at hrest
          exact hrest

theorem pending_empty (t : ActionType) (pd ed : Date) (l : List (CorporateCashFlow ℚ)) :
    pending t pd ed [] l = ∑ x ∈ eventAmounts t pd ed l, x.2 := by
  simp [pending, seenAmounts]

/-- **The loop with its dedup set is a sum over a set.** -/
theorem cashflowTotals_exact (pd ed : Date) (q : ℚ) (l : List (CorporateCashFlow ℚ)) :
    cashflowTotals (l.map (CorporateCashFlow.map .finite)) pd ed (.finite q) =
      match l.find? fun c => c.amountRubPerBond < 0 with
      | some c => .error (invalidAmount "Cash flow amount cannot be negative"
          (.cashflow (c.map .finite)))
      | none => .ok (.finite (eventTotal .coupon pd ed q l),
          .finite (eventTotal .amortization pd ed q l)) := by
  have hloop := foldlM_cashflowStep pd ed q l 0 0 []
  rw [show heldSeen [] = [] from rfl] at hloop
  unfold cashflowTotals ZERO
  split at hloop
  · rw [hloop]
    rfl
  · obtain ⟨seen', hloop⟩ := hloop
    rw [hloop]
    simp [bind, Except.bind, pure, Except.pure, eventTotal, pending_empty]

theorem cashflowTotals_of_nonneg {pd ed : Date} {q : ℚ} {l : List (CorporateCashFlow ℚ)}
    (h : ∀ c ∈ l, 0 ≤ c.amountRubPerBond) :
    cashflowTotals (l.map (CorporateCashFlow.map .finite)) pd ed (.finite q) =
      .ok (.finite (eventTotal .coupon pd ed q l),
        .finite (eventTotal .amortization pd ed q l)) := by
  have hnone : (l.find? fun c => c.amountRubPerBond < 0) = none := by
    simpa using h
  rw [cashflowTotals_exact, hnone]

theorem cashflowTotals_of_negative (pd ed : Date) (q : ℚ) {l : List (CorporateCashFlow ℚ)}
    (h : ¬ ∀ c ∈ l, 0 ≤ c.amountRubPerBond) :
    ∃ details, cashflowTotals (l.map (CorporateCashFlow.map .finite)) pd ed (.finite q) =
      .error (invalidAmount "Cash flow amount cannot be negative" details) := by
  rw [cashflowTotals_exact]
  cases hfind : l.find? fun c => c.amountRubPerBond < 0 with
  | none => exact absurd (by simpa using hfind) h
  | some c => exact ⟨_, rfl⟩

/-- Order and repetition of the flows reach neither the totals nor the report. -/
theorem cashflowTotals_congr {pd ed : Date} {q : ℚ} {l l' : List (CorporateCashFlow ℚ)}
    (h : ∀ c, c ∈ l ↔ c ∈ l') :
    (cashflowTotals (l.map (CorporateCashFlow.map .finite)) pd ed (.finite q)).mapError
        PyError.kind =
      (cashflowTotals (l'.map (CorporateCashFlow.map .finite)) pd ed (.finite q)).mapError
        PyError.kind := by
  by_cases hnn : ∀ c ∈ l, 0 ≤ c.amountRubPerBond
  · have hnn' : ∀ c ∈ l', 0 ≤ c.amountRubPerBond := fun c hc => hnn c ((h c).mpr hc)
    rw [cashflowTotals_of_nonneg hnn, cashflowTotals_of_nonneg hnn', eventTotal, eventTotal,
      eventTotal, eventTotal, eventAmounts_congr h, eventAmounts_congr h]
  · have hnn' : ¬ ∀ c ∈ l', 0 ≤ c.amountRubPerBond := fun hall =>
      hnn fun c hc => hall c ((h c).mp hc)
    obtain ⟨d, hd⟩ := cashflowTotals_of_negative pd ed q hnn
    obtain ⟨d', hd'⟩ := cashflowTotals_of_negative pd ed q hnn'
    rw [hd, hd']
    rfl

end BondTrading
