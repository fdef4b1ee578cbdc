/-
# BondTrading.Presentation.Page -- the portfolio page of a user

The rows of the page are made of what is stored: the lots of the user, the last snapshot of each
instrument and the last yields of each lot.  One lot that cannot be calculated, or one snapshot
without a lot size, keeps the whole page from being shown.  The page that is shown is in order
exactly when the rows that pass its filters are kept apart.
-/
import BondTrading.Presentation.Sorting

namespace BondTrading

open Py (Decimal Instant)

/-! ## The rows that are read -/

/-- `evaluate_liquidity` returns for positive numbers. -/
theorem evaluateLiquidity_returns_iff (quantity lotSize : ℚ) (bidPresent : Bool)
    (depth : Option ℚ) :
    (∃ liquidity, evaluateLiquidity (.finite quantity) bidPresent (depth.map .finite)
      (.finite lotSize) = .ok liquidity) ↔ 0 < quantity ∧ 0 < lotSize := by
  have hcheck : orM ((Decimal.finite quantity).le ZERO) ((Decimal.finite lotSize).le ZERO) =
      (.ok (decide (quantity ≤ 0 ∨ lotSize ≤ 0)) : Except PyError Bool) := by
    simp [ZERO]
  have hpositive : ¬ (quantity ≤ 0 ∨ lotSize ≤ 0) ↔ 0 < quantity ∧ 0 < lotSize := by
    rw [not_or, not_le, not_le]
  rw [← hpositive]
  unfold evaluateLiquidity
  rw [hcheck, Py.ok_bind]
  by_cases hbad : quantity ≤ 0 ∨ lotSize ≤ 0
  · rw [if_pos (decide_eq_true hbad)]
    refine iff_of_false ?_ (not_not_intro hbad)
    rintro ⟨liquidity, h⟩
    cases h
  · rw [if_neg (by simpa using hbad)]
    refine iff_of_true ?_ hbad
    cases bidPresent with
    | false => exact ⟨_, rfl⟩
    | true =>
        cases depth with
        | none => exact ⟨_, rfl⟩
        | some depth =>
            -- a depth in lots is a number, and numbers compare
            simp only [Option.map_some, ZERO, Decimal.mul_finite, Decimal.le_finite, Py.ok_bind,
              not_true_eq_false, if_false]
            split
            · exact ⟨_, rfl⟩
            · exact ⟨_, rfl⟩

/-- The column of the stored yields. -/
def YieldColumn.stored : YieldColumn → YieldSnapshotModel → Option Decimal
  | .delta, y => y.yieldDeltaPp
  | .currentYield, y => y.currentAnnualYieldAfterTax

/-- What is stored for a lot. -/
def Tables.storedYield (t : Tables) (column : YieldColumn) (lot : BondLotModel) : Option Decimal :=
  (t.portfolio.latestYield lot.id).bind column.stored

section Rows

variable {t t' : Tables} {owner : UserId} {settings : SettingsId} {ttlSeconds : ℕ} {now : Instant}
  {loaded : LoadedLot} {row : PortfolioRow} {rows : List PortfolioRow}

/-- A row shows what is stored of its lot. -/
theorem portfolioRow_value (h : portfolioRow t ttlSeconds now loaded = .ok row)
    (column : YieldColumn) :
    row.lot = loaded.lot ∧ column.value row = t.storedYield column row.lot := by
  simp only [portfolioRow, Py.bind_eq_ok] at h
  obtain ⟨purchase, -, liquidity, -, hreturn⟩ := h
  obtain rfl := Except.ok.inj hreturn
  cases column with
  | delta => exact ⟨rfl, rfl⟩
  | currentYield => exact ⟨rfl, rfl⟩

/-- The size of a lot of the instrument, for the amounts of the page. -/
def Tables.pageLotSize (t : Tables) (loaded : LoadedLot) : ℚ :=
  ((t.market.latestOf loaded.lot.instrumentId).map MarketSnapshotModel.lotSize).getD 1

/-- **A lot has a row** if its purchase can be calculated and its instrument has a lot size. -/
theorem portfolioRow_returns_iff {p : PurchaseInput ℚ} (hp : loaded.lot.purchase = p.map .finite) :
    (∃ row, portfolioRow t ttlSeconds now loaded = .ok row) ↔
      (0 < p.quantity ∧ 0 ≤ p.cleanPriceRubPerBond ∧ 0 ≤ p.accruedInterestRubPerBond ∧
        0 ≤ p.commissionRubPerBond) ∧ 0 < t.pageLotSize loaded := by
  have hquantity : loaded.lot.quantity = .finite p.quantity := congrArg PurchaseInput.quantity hp
  have hpurchase := calculatePurchase_returns p
  have hliquidity := evaluateLiquidity_returns_iff p.quantity (t.pageLotSize loaded)
    ((t.market.latestOf loaded.lot.instrumentId).bind MarketSnapshotModel.bidRubPerBond).isSome
    ((t.market.latestOf loaded.lot.instrumentId).bind MarketSnapshotModel.bidDepthLots)
  simp only [portfolioRow, Py.bind_eq_ok, hp, hquantity]
  constructor
  · rintro ⟨row, purchase, hcalculated, liquidity, hevaluated, -⟩
    have hadmissible := hpurchase.iff.mp ⟨_, hcalculated⟩
    exact ⟨hadmissible, (hliquidity.mp ⟨liquidity, hevaluated⟩).2⟩
  · rintro ⟨hadmissible, hsize⟩
    obtain ⟨liquidity, hevaluated⟩ := hliquidity.mpr ⟨hadmissible.1, hsize⟩
    exact ⟨_, _, hpurchase.returns hadmissible, liquidity, hevaluated, rfl⟩

/-- **The rows that are read** are those of the lots of the user, in the order of `list_all`, each
with what is stored for its lot. -/
theorem portfolioRows_eq_ok (h : portfolioRows t owner settings now = .ok (rows, t')) :
    rows.map PortfolioRow.lot = (t.listAll owner).map LoadedLot.lot ∧
      ∀ row ∈ rows, ∀ column : YieldColumn,
        column.value row = t.storedYield column row.lot := by
  unfold portfolioRows at h
  obtain ⟨rows, hrows, hreturn⟩ := Py.bind_eq_ok.mp h
  obtain ⟨rfl, -⟩ := Prod.mk.inj (Except.ok.inj hreturn)
  refine ⟨Py.map_of_mapM (fun _ _ hrow => (portfolioRow_value hrow .delta).1) hrows, ?_⟩
  intro row hrow column
  obtain ⟨loaded, -, hread⟩ := (Py.exists_of_mem_mapM hrows).2 row hrow
  exact (portfolioRow_value hread column).2

/-- **When the page can be shown**: every lot of the user has a row. -/
theorem portfolioRows_returns_iff {purchase : LoadedLot → PurchaseInput ℚ}
    (hpurchase : ∀ loaded ∈ t.listAll owner,
      loaded.lot.purchase = (purchase loaded).map .finite) :
    (∃ page, portfolioRows t owner settings now = .ok page) ↔
      ∀ loaded ∈ t.listAll owner,
        (0 < (purchase loaded).quantity ∧ 0 ≤ (purchase loaded).cleanPriceRubPerBond ∧
          0 ≤ (purchase loaded).accruedInterestRubPerBond ∧
          0 ≤ (purchase loaded).commissionRubPerBond) ∧ 0 < t.pageLotSize loaded := by
  have hrows : (∃ page, portfolioRows t owner settings now = .ok page) ↔
      ∃ rows, (t.listAll owner).mapM (portfolioRow t
        (getSettings t owner settings).1.marketDataTtlSeconds now) = .ok rows := by
    unfold portfolioRows
    constructor
    · rintro ⟨page, h⟩
      obtain ⟨rows, hrows, -⟩ := Py.bind_eq_ok.mp h
      exact ⟨rows, hrows⟩
    · rintro ⟨rows, hrows⟩
      exact ⟨_, Py.bind_eq_ok.mpr ⟨rows, hrows, rfl⟩⟩
  rw [hrows, Py.mapM_returns_iff]
  exact forall₂_congr fun loaded hloaded => portfolioRow_returns_iff (hpurchase loaded hloaded)

end Rows

/-! ## The rows that are shown -/

section Shown

variable {rows : List PortfolioRow}

/-- The lines of `portfolio` in front of the sort. -/
def filtered (rows : List PortfolioRow) (query : PortfolioQuery) :
    Except PyError (List PortfolioRow) := do
  let rows := ofEventType query.eventType (searched query.search rows)
  let rows ← compared query.comparison rows
  return ofDataStatus query.dataStatus rows

theorem portfolio_eq (rows : List PortfolioRow) (query : PortfolioQuery) :
    portfolio rows query = filtered rows query >>= sortRows query.sort := by
  unfold portfolio filtered
  dsimp only
  cases compared query.comparison (ofEventType query.eventType (searched query.search rows)) with
  | error e => rfl
  | ok kept => rfl

theorem searched_sublist (search : Option String) (rows : List PortfolioRow) :
    (searched search rows).Sublist rows := by
  unfold searched
  split
  · exact List.Sublist.refl rows
  · exact List.filter_sublist

theorem ofEventType_sublist (eventType : Option String) (rows : List PortfolioRow) :
    (ofEventType eventType rows).Sublist rows := by
  unfold ofEventType
  split
  · exact List.filter_sublist
  · exact List.filter_sublist
  · exact List.Sublist.refl rows

theorem ofDataStatus_sublist (dataStatus : Option String) (rows : List PortfolioRow) :
    (ofDataStatus dataStatus rows).Sublist rows := by
  unfold ofDataStatus
  split
  · exact List.filter_sublist
  · exact List.filter_sublist
  · exact List.Sublist.refl rows

/-- A filter by differences that are numbers raises nothing. -/
theorem compared_returns (comparison : Option String) (hdelta : YieldColumn.delta.Numbers rows) :
    ∃ kept, compared comparison rows = .ok kept ∧ kept.Sublist rows := by
  have hnumber : ∀ row ∈ rows, ∀ v, row.delta = some v → v.isNaN = false := hdelta
  unfold compared
  split
  · refine ⟨_, Py.filterM_of_decided (q := fun row =>
      decide (ZERO.rank < (orDefault row.delta 0).rank)) fun row hrow => ?_, List.filter_sublist⟩
    exact lt_eq_rank rfl (YieldColumn.orDefault_isNaN (hnumber row hrow))
  · refine ⟨_, Py.filterM_of_decided (q := fun row =>
      row.delta.any fun delta => decide (delta.rank < ZERO.rank)) fun row hrow => ?_,
        List.filter_sublist⟩
    cases hvalue : row.delta with
    | none => rfl
    | some delta => exact lt_eq_rank (hnumber row hrow delta hvalue) rfl
  · exact ⟨rows, rfl, List.Sublist.refl rows⟩

theorem YieldColumn.Numbers.subset {column : YieldColumn} {kept : List PortfolioRow}
    (h : column.Numbers rows) (hsub : kept ⊆ rows) : column.Numbers kept :=
  fun row hrow => h row (hsub hrow)

/-- **The order of the page**: of the lots of the user those that pass the filters are shown, and
they are in order of what is stored for them exactly when every two of them are kept apart. -/
theorem portfolio_page_iff {t t' : Tables} {owner : UserId} {settings : SettingsId}
    {now : Instant} {column : YieldColumn} {query : PortfolioQuery}
    (h : portfolioRows t owner settings now = .ok (rows, t')) (hsort : query.sort = column.sort)
    (hnumbers : ∀ (column : YieldColumn) (lot : BondLotModel) (v : Decimal),
      t.storedYield column lot = some v → v.isNaN = false) :
    rows.map PortfolioRow.lot = (t.listAll owner).map LoadedLot.lot ∧
      ∃ shown, filtered rows query = .ok shown ∧ shown.Sublist rows ∧
        ((∃ page, portfolio rows query = .ok page ∧ page.Perm shown ∧
            page.Pairwise fun a b => YieldColumn.mayPrecede (t.storedYield column a.lot)
              (t.storedYield column b.lot)) ↔
          shown.Pairwise fun a b => YieldColumn.keptApart (t.storedYield column a.lot)
            (t.storedYield column b.lot)) := by
  obtain ⟨hlots, hvalue⟩ := portfolioRows_eq_ok h
  have hread : ∀ column : YieldColumn, column.Numbers rows := fun column row hrow v hv =>
    hnumbers column row.lot v ((hvalue row hrow column).symm.trans hv)
  have hfound : (ofEventType query.eventType (searched query.search rows)).Sublist rows :=
    (ofEventType_sublist _ _).trans (searched_sublist _ rows)
  obtain ⟨kept, hkept, hsublist⟩ :=
    compared_returns query.comparison ((hread .delta).subset hfound.subset)
  have hshown : (ofDataStatus query.dataStatus kept).Sublist rows :=
    ((ofDataStatus_sublist _ kept).trans hsublist).trans hfound
  have hfiltered : filtered rows query = .ok (ofDataStatus query.dataStatus kept) :=
    Py.bind_eq_ok.mpr ⟨kept, hkept, rfl⟩
  -- the page and the shown rows are rows that were read
  have hstored : ∀ (l : List PortfolioRow) (R : Option Decimal → Option Decimal → Prop),
      l ⊆ rows → ((l.Pairwise fun a b => R (column.value a) (column.value b)) ↔
        l.Pairwise fun a b => R (t.storedYield column a.lot) (t.storedYield column b.lot)) := by
    intro l R hl
    refine List.Pairwise.iff_of_mem fun {a b} ha hb => ?_
    rw [hvalue a (hl ha), hvalue b (hl hb)]
  refine ⟨hlots, _, hfiltered, hshown, ?_⟩
  rw [← hstored _ _ hshown.subset, ← YieldColumn.sorted_pairs_iff, portfolio_eq, hfiltered, hsort,
    Py.ok_bind]
  refine Iff.trans ?_
    (YieldColumn.exists_sorted_iff ((hread column).subset hshown.subset) fun page =>
      page.Pairwise fun a b => YieldColumn.mayPrecede (column.value a) (column.value b))
  refine exists_congr fun page => and_congr_right fun _ => and_congr_right fun hperm => ?_
  exact (hstored page _ fun row hrow => hshown.subset (hperm.subset hrow)).symm

end Shown

end BondTrading
