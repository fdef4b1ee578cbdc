/-
# BondTrading.Sheets.CouponTotals -- two sums of the coupons

Columns AE and AF are written twice: by `summarize_paid_coupons`, which adds up every coupon
of the holding period, and from the engine, whose loop passes over a repetition.  On the
flows of an instrument, one for every event, the loop has nothing to pass over.
-/
import BondTrading.Instruments.LatestFlows
import BondTrading.Sheets.Calculations
import BondTrading.Domain.Yields

namespace BondTrading

open Py (Decimal Gives)

/-! ## What the engine adds -/

/-- The coupon flows that the loop has added. -/
def CashflowTotals.couponCount (acc : CashflowTotals) : ℕ :=
  (acc.seen.filter fun i => i.1 = .coupon).length

/-- The events that the loop has met. -/
def CashflowTotals.events (acc : CashflowTotals) : List (ActionType × Date) :=
  acc.seen.map fun i => (i.1, i.2.1)

/-- The engine's loop over the flows of a purchase. -/
def SheetPurchaseInput.engineTotals [Py.Context] (x : SheetPurchaseInput) (valuationDate : Date)
    (cashflows : List (CorporateCashFlow Decimal)) : Except PyError CashflowTotals :=
  cashflows.foldlM (cashflowStep x.purchaseDate valuationDate x.quantity) ⟨ZERO, ZERO, []⟩

/-- `paid` keeps this flow. -/
def CorporateCashFlow.Paid (c : CorporateCashFlow Decimal) (pd ed : Date) : Prop :=
  c.actionType = .coupon ∧ pd < c.eventDate ∧ c.eventDate ≤ ed

instance (c : CorporateCashFlow Decimal) (pd ed : Date) : Decidable (c.Paid pd ed) :=
  inferInstanceAs (Decidable (_ ∧ _))

/-- One term of the sum of `summarize_paid_coupons`. -/
def couponRound [Py.Context] (quantity : Decimal) (total : Decimal)
    (c : CorporateCashFlow Decimal) : Except PyError Decimal := do
  total.add (← c.amountRubPerBond.mul quantity)

section Loop

variable {pd ed : Date} {q : Decimal} {acc acc' : CashflowTotals}
  {c : CorporateCashFlow Decimal} {l : List (CorporateCashFlow Decimal)}

/-- **One round on an event not met before**: a paid coupon is added and counted, anything
else leaves both alone. -/
theorem cashflowStep_new [Py.Context] (h : cashflowStep pd ed q acc c = .ok acc')
    (hnew : c.event ∉ acc.events) :
    (∀ e, e ∈ acc'.events → e = c.event ∨ e ∈ acc.events) ∧
      if c.Paid pd ed then
        couponRound q acc.coupons c = .ok acc'.coupons ∧
          acc'.couponCount = acc.couponCount + 1
      else acc'.coupons = acc.coupons ∧ acc'.couponCount = acc.couponCount := by
  have hfresh : (c.actionType, c.eventDate, c.amountRubPerBond) ∉ acc.seen := fun hmem =>
    hnew (List.mem_map.mpr ⟨_, hmem, rfl⟩)
  obtain ⟨actionType, eventDate, amount⟩ := c
  obtain ⟨negative, -, h⟩ := Py.bind_eq_ok.mp h
  cases negative with
  | true => cases h
  | false =>
      replace h : (if ¬ (pd < eventDate ∧ eventDate ≤ ed) then _ else _) = Except.ok acc' := h
      by_cases hwindow : pd < eventDate ∧ eventDate ≤ ed
      · rw [if_neg (not_not.mpr hwindow), if_neg hfresh] at h
        cases actionType with
        | coupon =>
            obtain ⟨product, hproduct, h⟩ := Py.bind_eq_ok.mp h
            obtain ⟨coupons, hcoupons, h⟩ := Py.bind_eq_ok.mp h
            obtain rfl := Except.ok.inj h
            refine ⟨fun e he => List.mem_cons.mp he, ?_⟩
            rw [if_pos ⟨rfl, hwindow⟩]
            refine ⟨?_, ?_⟩
            · exact Py.bind_eq_ok.mpr ⟨product, hproduct, hcoupons⟩
            · simp [CashflowTotals.couponCount]
        | amortization =>
            obtain ⟨product, -, h⟩ := Py.bind_eq_ok.mp h
            obtain ⟨amortizations, -, h⟩ := Py.bind_eq_ok.mp h
            obtain rfl := Except.ok.inj h
            refine ⟨fun e he => List.mem_cons.mp he, ?_⟩
            rw [if_neg fun hpaid => nomatch hpaid.1]
            exact ⟨rfl, by simp [CashflowTotals.couponCount]⟩
        | offer =>
            obtain rfl := Except.ok.inj h
            refine ⟨fun e he => List.mem_cons.mp he, ?_⟩
            rw [if_neg fun hpaid => nomatch hpaid.1]
            exact ⟨rfl, by simp [CashflowTotals.couponCount]⟩
        | maturity =>
            obtain rfl := Except.ok.inj h
            refine ⟨fun e he => List.mem_cons.mp he, ?_⟩
            rw [if_neg fun hpaid => nomatch hpaid.1]
            exact ⟨rfl, by simp [CashflowTotals.couponCount]⟩
      · rw [if_pos hwindow] at h
        obtain rfl := Except.ok.inj h
        refine ⟨fun e he => .inr he, ?_⟩
        rw [if_neg fun hpaid => hwindow hpaid.2]
        exact ⟨rfl, rfl⟩

/-- The loop and the sum, from any state of the loop. -/
theorem cashflowLoop_coupons [Py.Context] (h : l.foldlM (cashflowStep pd ed q) acc = .ok acc')
    (hdistinct : (l.map CorporateCashFlow.event).Nodup) (hnew : ∀ c ∈ l, c.event ∉ acc.events) :
    (paidCoupons pd ed l).foldlM (couponRound q) acc.coupons = .ok acc'.coupons ∧
      acc'.couponCount = acc.couponCount + (paidCoupons pd ed l).length := by
  induction l generalizing acc with
  | nil =>
      obtain rfl := Except.ok.inj h
      exact ⟨rfl, rfl⟩
  | cons c l ih =>
      rw [List.foldlM_cons] at h
      obtain ⟨next, hnext, h⟩ := Py.bind_eq_ok.mp h
      obtain ⟨hother, hdistinct⟩ := List.nodup_cons.mp hdistinct
      obtain ⟨hevents, hround⟩ := cashflowStep_new hnext (hnew c List.mem_cons_self)
      have hnew' : ∀ c' ∈ l, c'.event ∉ next.events := by
        intro c' hc' hmem
        rcases hevents _ hmem with hsame | hmem
        · exact hother (hsame ▸ List.mem_map_of_mem hc')
        · exact hnew c' (List.mem_cons_of_mem _ hc') hmem
      obtain ⟨hsum, hcount⟩ := ih h hdistinct hnew'
      by_cases hpaid : c.Paid pd ed
      · rw [if_pos hpaid] at hround
        have hcons : paidCoupons pd ed (c :: l) = c :: paidCoupons pd ed l :=
          List.filter_cons_of_pos (decide_eq_true hpaid)
        rw [hcons, List.foldlM_cons, hround.1, List.length_cons]
        exact ⟨hsum, by omega⟩
      · rw [if_neg hpaid] at hround
        have hcons : paidCoupons pd ed (c :: l) = paidCoupons pd ed l :=
          List.filter_cons_of_neg fun h => hpaid (of_decide_eq_true h)
        rw [hcons, ← hround.1, ← hround.2]
        exact ⟨hsum, hcount⟩

end Loop

/-! ## The two figures of a row -/

/-- Coupons of distinct events are on distinct dates. -/
theorem paidCoupons_dates {pd ed : Date} {l : List (CorporateCashFlow Decimal)}
    (hdistinct : (l.map CorporateCashFlow.event).Nodup) :
    (Py.distinct ((paidCoupons pd ed l).map CorporateCashFlow.eventDate)).length =
      (paidCoupons pd ed l).length := by
  have hkept : ((paidCoupons pd ed l).map CorporateCashFlow.event).Nodup :=
    hdistinct.sublist (List.filter_sublist.map _)
  have hdates : ((paidCoupons pd ed l).map CorporateCashFlow.eventDate).Nodup := by
    refine List.Nodup.map_on ?_ (List.Nodup.of_map _ hkept)
    intro a ha b hb hdate
    have hcoupon : ∀ c ∈ paidCoupons pd ed l, c.actionType = .coupon := fun c hc =>
      (of_decide_eq_true (List.mem_filter.mp hc).2).1
    refine List.inj_on_of_nodup_map hkept ha hb (Prod.ext ?_ hdate)
    exact (hcoupon a ha).trans (hcoupon b hb).symm
  have hperm : (Py.distinct ((paidCoupons pd ed l).map CorporateCashFlow.eventDate)).Perm
      ((paidCoupons pd ed l).map CorporateCashFlow.eventDate) :=
    (List.perm_ext_iff_of_nodup (Py.nodup_distinct _) hdates).mpr fun _ => Py.mem_distinct
  rw [hperm.length_eq, List.length_map]

/-- What the engine reports is what its loop has added. -/
theorem cashflowTotals_coupons [Py.Context] (l : List (CorporateCashFlow Decimal)) (pd ed : Date)
    (q : Decimal) :
    Gives (cashflowTotals l pd ed q) fun pair => ∃ totals,
      l.foldlM (cashflowStep pd ed q) ⟨ZERO, ZERO, []⟩ = .ok totals ∧ pair.1 = totals.coupons := by
  intro pair h
  obtain ⟨totals, htotals, h⟩ := Py.bind_eq_ok.mp h
  obtain rfl := Except.ok.inj h
  exact ⟨totals, htotals, rfl⟩

/-- **AE and AF once and again**: on flows of distinct events, a calculation that succeeds
has counted and added up the coupons as the summary does. -/
theorem summarizePaidCoupons_eq_engine [Py.Context] {x : SheetPurchaseInput} {valuationDate : Date}
    {offer current : Decimal} {cashflows : List (CorporateCashFlow Decimal)}
    {r : SheetCurrentCalculation} (hdistinct : (cashflows.map CorporateCashFlow.event).Nodup)
    (h : calculateSheetCurrent x valuationDate offer current cashflows = .ok r) :
    ∃ totals, x.engineTotals valuationDate cashflows = .ok totals ∧
      r.paidCouponsTotalRub = totals.coupons ∧
      summarizePaidCoupons x.purchaseDate valuationDate x.quantity cashflows =
        .ok (totals.couponCount, totals.coupons) := by
  obtain ⟨commission, -, h⟩ := Py.bind_eq_ok.mp h
  obtain ⟨result, hresult, h⟩ := Py.bind_eq_ok.mp h
  obtain ⟨⟨count, total⟩, -, h⟩ := Py.bind_eq_ok.mp h
  have hreported : r.paidCouponsTotalRub = result.couponsTotal := by
    revert h
    cases x.plannedAnnualYieldPercent with
    | none =>
        intro h
        obtain rfl := Except.ok.inj h
        rfl
    | some planned =>
        intro h
        obtain ⟨delta, -, h⟩ := Py.bind_eq_ok.mp h
        obtain rfl := Except.ok.inj h
        rfl
  obtain ⟨totals, htotals, hcoupons⟩ := cashflowTotals_coupons _ _ _ _ _
    (currentYield_totals hresult)
  obtain ⟨hsum, hcount⟩ := cashflowLoop_coupons htotals hdistinct
    fun _ _ => List.not_mem_nil
  refine ⟨totals, htotals, hreported.trans hcoupons, ?_⟩
  have hsum : couponSum x.quantity (paidCoupons x.purchaseDate valuationDate cashflows) =
    .ok totals.coupons := hsum
  have hcount : totals.couponCount = (paidCoupons x.purchaseDate valuationDate
    cashflows).length := by simpa [CashflowTotals.couponCount] using hcount
  unfold summarizePaidCoupons
  dsimp only
  rw [hsum, Py.ok_bind, paidCoupons_dates hdistinct, hcount]
  rfl

/-- **Coupon totals agree.**  From the stored actions of an instrument, however the select
orders equally late ones, there is one flow for every event that has an amount, of a latest
such action, by date; and whatever is calculated from these flows, the summary of the paid
coupons reports the engine's total and the number of coupons the engine has added. -/
theorem coupon_totals_agree [Py.Context] (actions : List CorporateActionModel)
    (horder : LatestFirst actions) :
    ((instrumentCashflows actions).map CorporateCashFlow.event).Nodup ∧
    (∀ e, e ∈ (instrumentCashflows actions).map CorporateCashFlow.event ↔
      ∃ a ∈ actions, a.event = e ∧ a.amountRubPerBond ≠ none) ∧
    (∀ c ∈ instrumentCashflows actions, c.LatestOf actions) ∧
    ((instrumentCashflows actions).Pairwise fun a b => a.eventDate ≤ b.eventDate) ∧
    ∀ (x : SheetPurchaseInput) (valuationDate : Date) (offer current : Decimal) r,
      calculateSheetCurrent x valuationDate offer current (instrumentCashflows actions) = .ok r →
        ∃ totals, x.engineTotals valuationDate (instrumentCashflows actions) = .ok totals ∧
          r.paidCouponsTotalRub = totals.coupons ∧
          summarizePaidCoupons x.purchaseDate valuationDate x.quantity
            (instrumentCashflows actions) = .ok (totals.couponCount, totals.coupons) := by
  obtain ⟨hdistinct, hevents, hlatest⟩ := instrumentCashflows_latest horder
  exact ⟨hdistinct, hevents, hlatest, instrumentCashflows_sorted actions,
    fun _ _ _ _ _ h => summarizePaidCoupons_eq_engine hdistinct h⟩

/-- A coupon of 40, announced without an amount, revised from 35, and an amortization. -/
def revisedActions : List CorporateActionModel :=
  [⟨4, 1, .coupon, 738980, none, none, none, "moex", "d", 40⟩,
    ⟨3, 1, .coupon, 738980, none, some 40, none, "moex", "c", 30⟩,
    ⟨2, 1, .amortization, 738980, none, some 100, none, "moex", "b", 20⟩,
    ⟨1, 1, .coupon, 738980, none, some 35, none, "moex", "a", 10⟩]

theorem coupon_totals_agree_revisedActions :
    ∃ r, ∃ totals : CashflowTotals, calculateSheetCurrent
        ⟨738886, .finite 10, .finite 950, .finite 5, .finite 4, none⟩ 739068 (.finite 860)
        (.finite 7) (instrumentCashflows revisedActions) = .ok r ∧
      r.paidCouponsTotalRub = totals.coupons ∧
      summarizePaidCoupons 738886 739068 (.finite 10) (instrumentCashflows revisedActions) =
        .ok (totals.couponCount, totals.coupons) := by
  have hreturns : (calculateSheetCurrent
      ⟨738886, .finite 10, .finite 950, .finite 5, .finite 4, none⟩ 739068 (.finite 860)
      (.finite 7) (instrumentCashflows revisedActions)).isOk = true := by decide +kernel
  obtain ⟨r, hr⟩ := Py.exists_of_isOk hreturns
  have horder : LatestFirst revisedActions := by
    unfold LatestFirst
    decide
  obtain ⟨-, -, -, -, hagree⟩ := coupon_totals_agree revisedActions horder
  obtain ⟨totals, -, htotals⟩ := hagree _ _ _ _ r hr
  exact ⟨r, totals, hr, htotals⟩

end BondTrading
