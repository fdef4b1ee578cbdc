/-
# BondTrading.Lots.Principal -- the principal of a bond held to maturity

A planned result pays the amortizations of the holding period and a final redemption.  With
the maturity date as its target the redemption is the amount of the maturity row, and every
part of the principal comes back once.  With a later target no row matches; the redemption is
then the outstanding face value of today, and what will have been amortized by then is paid
as an amortization and again inside the redemption.
-/
import BondTrading.Lots.LatestAmounts

namespace BondTrading

open Py (Decimal Zone)

/-! ## Schedules -/

/-- The amounts of the rows of these types after a date. -/
def amountsAfter (types : List ActionType) (d : Date) (rows : List CorporateActionModel) : ℚ :=
  ((rows.filter fun a => a.actionType ∈ types ∧ d < a.eventDate).map
    fun a => a.amountRubPerBond.getD 0).sum

/-- The principal still to be repaid after a date. -/
def principalAfter (d : Date) (rows : List CorporateActionModel) : ℚ :=
  amountsAfter [.amortization, .maturity] d rows

/-- The rows of a bond that repays its principal in parts: on distinct dates before its only
maturity, the last of them `amount`. -/
structure RepaymentSchedule (rows : List CorporateActionModel) (maturity : Date) (amount : ℚ) :
    Prop where
  matures : ∃ row, rows.filter (fun a => a.actionType = .maturity) = [row] ∧
    row.eventDate = maturity ∧ row.amountRubPerBond = some amount
  dates : ((rows.filter fun a => a.actionType = .amortization).map
    CorporateActionModel.eventDate).Nodup
  before : ∀ a ∈ rows, a.actionType = .amortization → a.eventDate < maturity
  positive : ∀ a ∈ rows, a.actionType = .amortization ∨ a.actionType = .maturity →
    ∃ x, a.amountRubPerBond = some x ∧ 0 < x

section Schedule

variable {rows rows' : List CorporateActionModel} {maturity d : Date} {amount : ℚ}

theorem amountsAfter_cons (types : List ActionType) (d : Date) (a : CorporateActionModel)
    (rows : List CorporateActionModel) :
    amountsAfter types d (a :: rows) =
      (if a.actionType ∈ types ∧ d < a.eventDate then a.amountRubPerBond.getD 0 else 0) +
        amountsAfter types d rows := by
  unfold amountsAfter
  rw [List.filter_cons]
  by_cases h : a.actionType ∈ types ∧ d < a.eventDate
  · rw [if_pos (decide_eq_true h), if_pos h, List.map_cons, List.sum_cons]
  · rw [if_neg fun h' => h (of_decide_eq_true h'), if_neg h, zero_add]

theorem principalAfter_eq (d : Date) (rows : List CorporateActionModel) :
    principalAfter d rows =
      amountsAfter [.amortization] d rows + amountsAfter [.maturity] d rows := by
  unfold principalAfter
  induction rows with
  | nil => simp [amountsAfter]
  | cons a rows ih =>
      rw [amountsAfter_cons, amountsAfter_cons, amountsAfter_cons, ih]
      -- an action is of one of the types, and then it counts once on either side
      have hterm : (if a.actionType ∈ [ActionType.amortization, .maturity] ∧ d < a.eventDate then
          a.amountRubPerBond.getD 0 else 0) =
        (if a.actionType ∈ [ActionType.amortization] ∧ d < a.eventDate then
          a.amountRubPerBond.getD 0 else 0) +
        if a.actionType ∈ [ActionType.maturity] ∧ d < a.eventDate then
          a.amountRubPerBond.getD 0 else 0 := by
        cases a.actionType <;> simp
      rw [hterm]
      ring

theorem RepaymentSchedule.redeemed (h : RepaymentSchedule rows maturity amount)
    (hd : d < maturity) : amountsAfter [.maturity] d rows = amount := by
  obtain ⟨row, hrow, hdate, hamount⟩ := h.matures
  have hfilter : rows.filter (fun a => a.actionType ∈ [ActionType.maturity] ∧ d < a.eventDate) =
      (rows.filter fun a => a.actionType = .maturity).filter fun a => d < a.eventDate := by
    rw [List.filter_filter]
    refine List.filter_congr fun a _ => ?_
    simp [Bool.and_comm]
  unfold amountsAfter
  rw [hfilter, hrow]
  simp [hdate, hd, hamount]

/-- Every amortization has an amount above zero, so nothing is left only after the last. -/
theorem RepaymentSchedule.amortized_eq_zero (h : RepaymentSchedule rows maturity amount) :
    amountsAfter [.amortization] d rows = 0 ↔
      ∀ a ∈ rows, a.actionType = .amortization → a.eventDate ≤ d := by
  have hpositive : ∀ x ∈ (rows.filter fun a => a.actionType ∈ [ActionType.amortization] ∧
      d < a.eventDate).map (fun a => a.amountRubPerBond.getD 0), 0 < x := by
    intro x hx
    obtain ⟨a, ha, rfl⟩ := List.mem_map.mp hx
    simp only [List.mem_filter, List.mem_singleton, decide_eq_true_eq] at ha
    obtain ⟨x, hx, hpos⟩ := h.positive a ha.1 (.inl ha.2.1)
    rw [hx]
    exact hpos
  constructor
  · intro hzero a ha htype
    by_contra hlate
    have hmem : a ∈ rows.filter fun a => a.actionType ∈ [ActionType.amortization] ∧
        d < a.eventDate := by
      simp [ha, htype, not_le.mp hlate]
    have hle := List.single_le_sum (fun x hx => (hpositive x hx).le) _
      (List.mem_map_of_mem (f := fun a => a.amountRubPerBond.getD 0) hmem)
    exact absurd (hle.trans_eq hzero) (not_le.mpr (hpositive _ (List.mem_map_of_mem hmem)))
  · intro hall
    have hnone : (rows.filter fun a => a.actionType ∈ [ActionType.amortization] ∧
        d < a.eventDate) = [] := by
      rw [List.filter_eq_nil_iff]
      intro a ha hkept
      simp only [List.mem_singleton, decide_eq_true_eq] at hkept
      exact absurd (hall a ha hkept.1) (not_le.mpr hkept.2)
    unfold amountsAfter
    rw [hnone]
    rfl

/-- The distinct pairs of the engine's sum are the rows themselves. -/
theorem RepaymentSchedule.eventTotal_eq (h : RepaymentSchedule rows maturity amount) (q : ℚ)
    {ed : Date} (hed : maturity ≤ ed) :
    eventTotal .amortization d ed q (storedCashflows rows) =
      q * amountsAfter [.amortization] d rows := by
  have hrows : ((storedCashflows rows).filter fun c =>
      c.actionType = .amortization ∧ InWindow d ed c).map
        (fun c => (c.eventDate, c.amountRubPerBond)) =
      (rows.filter fun a => a.actionType ∈ [ActionType.amortization] ∧ d < a.eventDate).map
        fun a => (a.eventDate, a.amountRubPerBond.getD 0) := by
    rw [storedCashflows, List.filter_filterMap, List.map_filterMap, ← List.filterMap_eq_map',
      List.filterMap_filter]
    refine List.filterMap_congr fun a ha => ?_
    by_cases htype : a.actionType = .amortization
    · obtain ⟨x, hx, -⟩ := h.positive a ha (.inl htype)
      have hexit : a.eventDate ≤ ed := (h.before a ha htype).le.trans hed
      by_cases hd : d < a.eventDate
      · simp [hx, htype, InWindow, hexit, hd]
      · simp [hx, htype, InWindow, hd]
    · cases a.amountRubPerBond with
      | none => simp [htype]
      | some x => simp [htype]
  have hnodup : ((rows.filter fun a => a.actionType ∈ [ActionType.amortization] ∧
      d < a.eventDate).map fun a => (a.eventDate, a.amountRubPerBond.getD 0)).Nodup := by
    refine List.Nodup.of_map Prod.fst ?_
    rw [List.map_map]
    refine h.dates.sublist (List.Sublist.map _ ?_)
    refine List.monotone_filter_right rows fun a ha => ?_
    simp only [List.mem_singleton, decide_eq_true_eq] at ha ⊢
    exact ha.1
  unfold eventTotal eventAmounts
  rw [hrows, List.sum_toFinset _ hnodup, List.map_map]
  rfl

/-- With one maturity row there is one candidate for the redemption. -/
theorem RepaymentSchedule.targetAmount_eq (h : RepaymentSchedule rows maturity amount)
    (hperm : rows'.Perm rows) {lot : BondLotModel} (htype : lot.targetEventType = "maturity") :
    lot.targetAmount rows' = if lot.targetEventDate = maturity then some amount else none := by
  obtain ⟨row, hrow, hdate, hamount⟩ := h.matures
  have hwanted : lot.wantedType = .maturity := if_pos htype
  have honly : ∀ a ∈ rows', a.actionType = .maturity → a = row := by
    intro a ha hmaturity
    have hmem : a ∈ rows.filter fun a => a.actionType = .maturity :=
      List.mem_filter.mpr ⟨hperm.mem_iff.mp ha, decide_eq_true hmaturity⟩
    rw [hrow] at hmem
    exact List.mem_singleton.mp hmem
  have hmem : row ∈ rows.filter fun a => a.actionType = .maturity :=
    hrow ▸ List.mem_singleton_self row
  obtain ⟨hstored, hmaturity⟩ := List.mem_filter.mp hmem
  cases hfound : lot.targetAmount rows' with
  | some other =>
      obtain ⟨a, ha, hsome⟩ := List.exists_of_findSome?_eq_some hfound
      split at hsome
      · rename_i htarget
        rw [hwanted] at htarget
        obtain rfl := honly a ha htarget.1
        rw [if_pos (htarget.2.symm.trans hdate), ← hsome, hamount]
      · cases hsome
  | none =>
      have hnone := List.findSome?_eq_none_iff.mp hfound row (hperm.mem_iff.mpr hstored)
      rw [if_neg]
      intro htarget
      rw [hwanted, if_pos ⟨of_decide_eq_true hmaturity, hdate.trans htarget.symm⟩, hamount] at hnone
      cases hnone

end Schedule

/-! ## The planned result -/

/-- A lot without an override, bought before `today` and held to the maturity of its bond or
longer; the outstanding face value is what is still to be repaid. -/
structure HeldToMaturity (loaded : LoadedLot) (rows : List CorporateActionModel)
    (today maturity : Date) (amount : ℚ) : Prop where
  schedule : RepaymentSchedule rows maturity amount
  ahead : today < maturity
  outstanding : loaded.instrument.currentFaceValue = some (principalAfter today rows)
  eventType : loaded.lot.targetEventType = "maturity"
  noOverride : loaded.lot.targetRedemptionPriceRubPerBond = none
  bought : loaded.lot.purchaseDate < today
  target : maturity ≤ loaded.lot.targetEventDate

/-- Amortizations and redemption together are the principal of the position. -/
def PrincipalOnce (lot : BondLotModel) (rows : List CorporateActionModel)
    (planned : YieldResult Decimal) : Prop :=
  (planned.amortizationsTotal.add planned.redemptionOrMarketTotal : Except PyError Decimal) =
    lot.quantity.mul (.finite (principalAfter lot.purchaseDate rows))

section Planned

variable {order : EventOrder} {zone : Zone} {db db' : Database} {owner : UserId} {id : LotId}
  {loaded : LoadedLot} {valuationDate : Option Date} {draw : CalculationDraw}
  {bundle : CalculationBundle} {rows rows' : List CorporateActionModel} {today maturity : Date}
  {amount : ℚ}

/-- The matching row, or the outstanding face value. -/
theorem HeldToMaturity.redemption (h : HeldToMaturity loaded rows today maturity amount)
    (hperm : rows'.Perm rows) : loaded.targetRedemption rows' =
      .ok (.finite (if loaded.lot.targetEventDate = maturity then amount
        else principalAfter today rows)) := by
  have htarget := h.schedule.targetAmount_eq hperm h.eventType
  unfold LoadedLot.targetRedemption
  rw [h.noOverride]
  dsimp only
  by_cases hdate : loaded.lot.targetEventDate = maturity
  · rw [htarget, if_pos hdate, if_pos hdate]
  · rw [htarget, if_neg hdate, if_neg hdate, h.outstanding]
    exact if_pos h.eventType

/-- The redemption is the last part exactly when nothing else is outstanding. -/
theorem HeldToMaturity.redemption_eq_iff (h : HeldToMaturity loaded rows today maturity amount) :
    (if loaded.lot.targetEventDate = maturity then amount else principalAfter today rows) = amount ↔
      loaded.lot.targetEventDate = maturity ∨
        ∀ a ∈ rows, a.actionType = .amortization → a.eventDate ≤ today := by
  by_cases hdate : loaded.lot.targetEventDate = maturity
  · rw [if_pos hdate]
    exact iff_of_true rfl (.inl hdate)
  · rw [if_neg hdate, principalAfter_eq, h.schedule.redeemed h.ahead, add_eq_right,
      h.schedule.amortized_eq_zero]
    exact (or_iff_right hdate).symm

/-- **When the principal comes back once**: the target is the maturity date itself, or no
amortization is still to come. -/
theorem calculate_principalOnce_iff (hlot : db.val.getLot owner id = some loaded)
    (hrows : rows = db.val.market.actions.filter fun a => a.instrumentId = loaded.lot.instrumentId)
    (hheld : HeldToMaturity loaded rows today maturity amount)
    (h : calculate order zone db owner id valuationDate draw = .ok (db', bundle)) :
    PrincipalOnce loaded.lot rows bundle.planned ↔
      loaded.lot.targetEventDate = maturity ∨
        ∀ a ∈ rows, a.actionType = .amortization → a.eventDate ≤ today := by
  obtain ⟨loaded', redemption, hloaded, hredemption, hplanned, -⟩ := calculate_eq_ok h
  obtain rfl : loaded = loaded' := Option.some.inj (hlot.symm.trans hloaded)
  obtain ⟨hquantity, htotals, hredeemed⟩ := plannedYield_totals hplanned
  obtain ⟨q, hq, hpos⟩ := getLot_quantity hlot hquantity
  -- whatever the order of the rows, the engine has their sum and the one redemption
  have hperm : (order.select db.val.market loaded.lot.instrumentId).Perm rows :=
    hrows ▸ order.perm _
  have hflows : ∀ c, c ∈ storedCashflows (order.select db.val.market loaded.lot.instrumentId) ↔
      c ∈ storedCashflows rows := fun c => (hperm.filterMap _).mem_iff
  have hevents : eventTotal .amortization loaded.lot.purchaseDate loaded.lot.targetEventDate q
      (storedCashflows (order.select db.val.market loaded.lot.instrumentId)) =
        q * amountsAfter [.amortization] loaded.lot.purchaseDate rows := by
    rw [← hheld.schedule.eventTotal_eq q hheld.target, eventTotal, eventTotal,
      eventAmounts_congr hflows]
  have hamortizations : bundle.planned.amortizationsTotal =
      .finite (q * amountsAfter [.amortization] loaded.lot.purchaseDate rows) := by
    have htotals : cashflowTotals _ loaded.lot.purchaseDate loaded.lot.targetEventDate
      loaded.lot.quantity = _ := htotals
    rw [hq] at htotals
    have hreturns := cashflowTotals_returns loaded.lot.purchaseDate loaded.lot.targetEventDate q
      (storedCashflows (order.select db.val.market loaded.lot.instrumentId))
    have hexact := hreturns.returns (hreturns.iff.mp ⟨_, htotals⟩)
    rw [← hevents]
    exact (Prod.mk.inj (Except.ok.inj (htotals.symm.trans hexact))).2
  rw [hheld.redemption hperm] at hredemption
  obtain rfl := Except.ok.inj hredemption
  rw [← hheld.redemption_eq_iff]
  generalize (if loaded.lot.targetEventDate = maturity then amount else principalAfter today rows) =
    redemption at hredeemed ⊢
  have hredeemed : (Decimal.finite redemption).mul loaded.lot.quantity = _ := hredeemed
  rw [hq, Decimal.mul_finite] at hredeemed
  have hprincipal : principalAfter loaded.lot.purchaseDate rows =
      amountsAfter [.amortization] loaded.lot.purchaseDate rows + amount := by
    rw [principalAfter_eq, hheld.schedule.redeemed (hheld.bought.trans hheld.ahead)]
  unfold PrincipalOnce
  rw [hamortizations, ← Except.ok.inj hredeemed, hq, Decimal.add_finite, Decimal.mul_finite,
    hprincipal, Except.ok.injEq, Decimal.finite.injEq, mul_add, add_right_inj, mul_comm redemption,
    mul_right_inj' hpos.ne']

end Planned

/-! ## A bond that repays 400 of its 1000 before it matures -/

/-- The rows of the bond. -/
def partsOfPar : List CorporateActionModel :=
  [⟨1, 30, .amortization, 738900, none, some 400, none, "moex", "amortization", 0⟩,
    ⟨2, 30, .maturity, 739200, none, some 600, none, "moex", "maturity", 0⟩]

/-- A lot that is held a day longer. -/
def lateLot : BondLotModel := { parLot with id := 61, targetEventDate := 739201 }

def partsDatabase : Database :=
  ⟨⟨⟨[{ newInstrument 30 "RU000A107SX3" "RU000A107SX3" "RU000A107SX3" with
        currentFaceValue := some 1000 }], partsOfPar, []⟩,
    ⟨[], [], [parLot, lateLot], [], []⟩, ⟨[], []⟩⟩, by decide +kernel⟩

/-- The calculation of one of the two lots, half a year before the maturity. -/
def partsCalculation (id : LotId) : Except PyError (Database × CalculationBundle) :=
  calculate EventOrder.stable (fun _ => 0) partsDatabase 1 id none ⟨70, 80, 1720000002000000⟩

theorem partsOfPar_schedule : RepaymentSchedule partsOfPar 739200 600 where
  matures := ⟨⟨2, 30, .maturity, 739200, none, some 600, none, "moex", "maturity", 0⟩,
    by decide +kernel, rfl, rfl⟩
  dates := by decide +kernel
  before := by decide +kernel
  positive := by
    intro a ha _
    simp only [partsOfPar, List.mem_cons, List.not_mem_nil, or_false] at ha
    rcases ha with rfl | rfl
    · exact ⟨400, rfl, by norm_num⟩
    · exact ⟨600, rfl, by norm_num⟩

/-- Both lots are held to maturity, on the day before the amortization. -/
theorem partsDatabase_held {loaded : LoadedLot}
    (hface : loaded.instrument.currentFaceValue = some 1000)
    (hlot : loaded.lot = parLot ∨ loaded.lot = lateLot) :
    HeldToMaturity loaded partsOfPar 738899 739200 600 := by
  refine ⟨partsOfPar_schedule, by decide, hface.trans (by decide +kernel), ?_, ?_, ?_, ?_⟩
  all_goals rcases hlot with h | h
  all_goals rw [h]; decide +kernel

/-- What a lookup of one of the lots finds. -/
theorem partsDatabase_found {lot : BondLotModel} (h : lot = parLot ∨ lot = lateLot) :
    ∃ loaded, partsDatabase.val.getLot 1 lot.id = some loaded ∧ loaded.lot = lot ∧
      loaded.instrument.currentFaceValue = some 1000 := by
  rcases h with rfl | rfl
  · exact ⟨⟨parLot, _⟩, rfl, rfl, rfl⟩
  · exact ⟨⟨lateLot, _⟩, rfl, rfl, rfl⟩

/-- Held a day longer, ten bonds return 4000 and again 10000. -/
theorem late_target_returns_principal_twice :
    ¬ ∀ (order : EventOrder) (zone : Zone) (db db' : Database) (owner : UserId) (id : LotId)
      (loaded : LoadedLot) (valuationDate : Option Date) (draw : CalculationDraw)
      (bundle : CalculationBundle) (rows : List CorporateActionModel) (today maturity : Date)
      (amount : ℚ), db.val.getLot owner id = some loaded →
      (rows = db.val.market.actions.filter fun a => a.instrumentId = loaded.lot.instrumentId) →
      HeldToMaturity loaded rows today maturity amount →
      calculate order zone db owner id valuationDate draw = .ok (db', bundle) →
      PrincipalOnce loaded.lot rows bundle.planned := by
  intro hall
  obtain ⟨loaded, hloaded, hlot, hface⟩ := partsDatabase_found (.inr rfl)
  obtain ⟨⟨db', bundle⟩, hcalculated⟩ : ∃ r, partsCalculation 61 = .ok r :=
    Py.exists_of_isOk (by decide +kernel)
  have hrows : partsOfPar = partsDatabase.val.market.actions.filter
      fun a => a.instrumentId = loaded.lot.instrumentId := by
    rw [hlot]
    decide +kernel
  have honce := hall _ _ _ db' 1 61 loaded none _ bundle _ 738899 739200 600 hloaded hrows
    (partsDatabase_held hface (.inr hlot)) hcalculated
  have hpaid : (partsCalculation 61).map
      (fun r => (r.2.planned.amortizationsTotal, r.2.planned.redemptionOrMarketTotal)) =
        .ok (.finite 4000, .finite 10000) := by decide +kernel
  rw [hcalculated] at hpaid
  obtain ⟨hamortized, hredeemed⟩ := Prod.mk.inj (Except.ok.inj hpaid)
  unfold PrincipalOnce at honce
  rw [hlot] at honce
  rw [show bundle.planned.amortizationsTotal = _ from hamortized,
    show bundle.planned.redemptionOrMarketTotal = _ from hredeemed] at honce
  exact absurd honce (by decide +kernel)

/-- Held to the day of maturity, it comes back once. -/
theorem calculate_principalOnce_iff_parLot :
    ∃ db' bundle, partsCalculation 60 = .ok (db', bundle) ∧
      PrincipalOnce parLot partsOfPar bundle.planned := by
  obtain ⟨loaded, hloaded, hlot, hface⟩ := partsDatabase_found (.inl rfl)
  obtain ⟨⟨db', bundle⟩, hcalculated⟩ : ∃ r, partsCalculation 60 = .ok r :=
    Py.exists_of_isOk (by decide +kernel)
  have hrows : partsOfPar = partsDatabase.val.market.actions.filter
      fun a => a.instrumentId = loaded.lot.instrumentId := by
    rw [hlot]
    decide +kernel
  have honce := (calculate_principalOnce_iff hloaded hrows
    (partsDatabase_held hface (.inl hlot)) hcalculated).mpr
    (.inl (by rw [hlot]; decide +kernel))
  rw [hlot] at honce
  exact ⟨db', bundle, hcalculated, honce⟩

end BondTrading
