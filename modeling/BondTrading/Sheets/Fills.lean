/-
# BondTrading.Sheets.Fills -- what a batch fills in

The columns J and L are read by a run and written by it where they are empty.  What is written
there are amounts: the default commission, and the accrued interest of MOEX rounded to
kopecks.
-/
import BondTrading.Sheets.Refilled

namespace BondTrading

open Py (Decimal Dict Zone Gives)

/-! ## Amounts -/

/-- A number of kopecks of at most fifteen digits. -/
def Py.Decimal.IsAmount (d : Decimal) : Prop :=
  ∃ kopecks : ℤ, kopecks.natAbs < 10 ^ 15 ∧ d = .finite (kopecks / 100)

/-- What is written is an amount. -/
def CellContent.IsAmount (content : CellContent) : Prop :=
  ∃ d : Decimal, d.IsAmount ∧ content = .decimal d

/-- What MOEX says of accrued interest are amounts once it is rounded. -/
def MoexClient.AccruesAmounts (moex : MoexClient) : Prop :=
  ∀ secid boardId date d, moex.accruedInterestOn secid boardId date = .ok (some d) →
    ∀ r, d.quantize (ε := PyError) 2 = .ok r → r.IsAmount

/-- **An amount that was written is read back.** -/
theorem parseDecimal_amount {d : Decimal} (h : d.IsAmount) :
    parseDecimal (.number d.str) = some d := by
  obtain ⟨kopecks, hdigits, rfl⟩ := h
  refine parseDecimal_number_str (n := 2) (c := kopecks) (by decide) (by norm_num) ?_
  exact hdigits.trans (by decide)

theorem isAmount_defaultCommission : defaultPurchaseCommission.IsAmount := by
  refine ⟨40, by decide, ?_⟩
  unfold defaultPurchaseCommission
  norm_num

/-! ## The row -/

/-- The values of J and L, where there are any, are amounts. -/
def RowUpdates.FillsAmounts (values : RowUpdates) : Prop :=
  ∀ column ∈ filledColumns, ∀ content ∈ values.get? column, content.IsAmount

section Row

variable {connection : SheetConnectionModel} {zone : Zone} {moex : MoexClient}
  {value : RefreshedInstrument} {row : SheetDataRow} {updates values : RowUpdates}

theorem RowUpdates.FillsAmounts.of_none
    (h : ∀ column ∈ filledColumns, values.get? column = none) : values.FillsAmounts := by
  intro column hcolumn content hcontent
  rw [h column hcolumn] at hcontent
  cases hcontent

theorem RowUpdates.FillsAmounts.set (h : updates.FillsAmounts) (column : String)
    {content : CellContent} (hcontent : content.IsAmount) :
    RowUpdates.FillsAmounts (updates.set column content) := by
  intro other hother written hwritten
  rw [Dict.get?_set] at hwritten
  split at hwritten
  · obtain rfl := Option.some.inj hwritten
    exact hcontent
  · exact h other hother written hwritten

theorem RowUpdates.FillsAmounts.kept (h : updates.FillsAmounts)
    (hkept : ∀ column ∈ filledColumns, values.get? column = updates.get? column) :
    values.FillsAmounts := by
  intro column hcolumn content hcontent
  rw [hkept column hcolumn] at hcontent
  exact h column hcolumn content hcontent

theorem commissionUpdates_fills (h : updates.FillsAmounts) :
    (commissionUpdates row updates).FillsAmounts := by
  unfold commissionUpdates
  split
  · exact h.set "L" ⟨_, isAmount_defaultCommission, rfl⟩
  · exact h

/-- The accrued interest that is filled in is an amount. -/
theorem rowAccrued_fills (hmoex : moex.AccruesAmounts) (h : updates.FillsAmounts) :
    Gives (rowAccrued moex value row updates) fun r => r.2.FillsAmounts := by
  refine Gives.bind Gives.trivial fun purchaseDate _ => ?_
  cases purchaseDate with
  | none => exact Gives.ok h
  | some date =>
      dsimp only
      split
      · cases hanswer : historicalAccruedOn moex value date with
        | none => exact Gives.ok h
        | some accrued =>
            have hasked : ∃ secid boardId, moex.accruedInterestOn secid boardId date =
                .ok (some accrued) := by
              unfold historicalAccruedOn at hanswer
              split at hanswer
              · rename_i answer hok
                exact ⟨_, _, hanswer ▸ hok⟩
              · cases hanswer
            obtain ⟨secid, boardId, hok⟩ := hasked
            refine Gives.bind (P := CellContent.IsAmount) (Gives.map ?_) fun content hcontent =>
              Gives.ok (h.set "J" hcontent)
            intro rounded hrounded
            exact ⟨rounded, hmoex secid boardId date accrued hok rounded hrounded, rfl⟩
      · exact Gives.ok h

/-- **A row is filled with amounts.** -/
theorem valuedRow_fills [Py.Context] (hplaced : WellPlaced connection) (hmoex : moex.AccruesAmounts)
    (h : valuedRow connection zone moex value row = .ok values) : values.FillsAmounts := by
  obtain ⟨quote, hquote, h⟩ := Py.bind_eq_ok.mp h
  have hfree : RowUpdates.FillsAmounts quote :=
    .of_none fun column hcolumn => quoteUpdates_filled hplaced hquote hcolumn
  cases hcommission : commissionTotal row with
  | none =>
      simp only [hcommission] at h
      obtain rfl := Except.ok.inj h
      exact hfree.kept fun column hcolumn =>
        (blank_overwritten quote quote "НЕКОРРЕКТНАЯ КОМИССИЯ В L").kept hcolumn
  | some commission =>
      simp only [hcommission] at h
      obtain ⟨⟨accrued, filled⟩, haccrued, h⟩ := Py.bind_eq_ok.mp h
      obtain ⟨⟨purchase, status⟩, -, h⟩ := Py.bind_eq_ok.mp h
      obtain ⟨_, -, hover⟩ := purchased_overwritten h filled
      have hfilled : RowUpdates.FillsAmounts filled :=
        rowAccrued_fills hmoex (commissionUpdates_fills hfree) _ haccrued
      exact hfilled.kept fun column hcolumn => hover.kept hcolumn

/-- What a row that was not refreshed gets goes neither to J nor to L. -/
theorem failedRow_fills (hplaced : WellPlaced connection) :
    (failedRowUpdates connection).FillsAmounts := by
  refine .of_none fun column hcolumn => Dict.get?_eq_none fun hkey => ?_
  -- seen from a row that is filled, only the connection's own columns are writable
  have hwritable : Writable connection ⟨0, Dict.ofList [("J", .bool true), ("L", .bool true)]⟩
      column := confined_failedRow column hkey
  rcases hwritable with hown | ⟨-, hblank⟩ | ⟨-, hblank⟩
  · exact hown.not_input hplaced hcolumn
  · exact absurd hblank (by decide)
  · exact absurd hblank (by decide)

/-- The updates of a row are its values. -/
theorem cellUpdates_fills (h : values.FillsAmounts) {rowNumber : ℕ} {u : CellUpdate}
    (hu : u ∈ cellUpdates rowNumber values) (hcolumn : u.column ∈ filledColumns) :
    u.value.IsAmount := by
  have hnumber : u.rowNumber = rowNumber := by
    obtain ⟨entry, -, rfl⟩ := List.mem_map.mp hu
    rfl
  have hwritten : u.value ∈ written (cellUpdates rowNumber values) rowNumber u.column :=
    List.mem_map_of_mem (List.mem_filter.mpr ⟨hu, decide_eq_true ⟨hnumber, rfl⟩⟩)
  rw [written_cellUpdates] at hwritten
  exact h u.column hcolumn u.value (Option.mem_toList.mp hwritten)

theorem rowUpdates_fills [Py.Context] (hplaced : WellPlaced connection)
    (hmoex : moex.AccruesAmounts) {known : Option RefreshedInstrument} {cells : List CellUpdate}
    (h : rowUpdates connection zone moex known row = .ok cells) :
    ∀ u ∈ cells, u.column ∈ filledColumns → u.value.IsAmount := by
  intro u hu hcolumn
  cases known with
  | none =>
      obtain rfl := Except.ok.inj h
      exact cellUpdates_fills (failedRow_fills hplaced) hu hcolumn
  | some value =>
      obtain ⟨values, hvalues, hreturn⟩ := Py.bind_eq_ok.mp h
      obtain rfl := Except.ok.inj hreturn
      exact cellUpdates_fills (valuedRow_fills hplaced hmoex hvalues) hu hcolumn

end Row

/-! ## The batch -/

section Batch

variable {env : SyncEnvironment} {connection : SheetConnectionModel}
  {known : String → Option RefreshedInstrument} {rows : List SheetDataRow}
  {batch : List CellUpdate}

theorem headerUpdates_fills :
    ∀ u ∈ headerUpdates connection, u.column ∉ filledColumns := by
  intro u hu
  obtain ⟨⟨column, header⟩, hmem, rfl⟩ := List.mem_map.mp hu
  exact (by decide : ∀ c ∈ calculationColumns, c ∉ filledColumns) column
    (List.mem_map_of_mem hmem)

theorem invalidRowUpdates_fills (hplaced : WellPlaced connection)
    (normalized : List (SheetDataRow × String)) (errors : List SheetRowError) :
    ∀ u ∈ invalidRowUpdates connection normalized errors, u.column ∉ filledColumns := by
  intro u hu
  unfold invalidRowUpdates at hu
  split at hu
  · cases hu
  · rename_i status hstatus
    have hcolumn : connection.statusColumn = some status :=
      (Option.filter_eq_some_iff.mp hstatus).1
    have hown : connection.OwnColumn status := Or.inr (Or.inr (Or.inl hcolumn))
    obtain ⟨error, -, hu⟩ := List.mem_flatMap.mp hu
    unfold errorCells at hu
    split at hu
    · split at hu
      · cases hu
      · rcases List.mem_cons.mp hu with rfl | hu
        · exact hown.not_input hplaced
        · obtain rfl := List.mem_singleton.mp hu
          exact (by decide : "AL" ∉ filledColumns)
    · cases hu

/-- **A batch fills J and L with amounts.** -/
theorem sheetBatch_fills [Py.Context] (hplaced : WellPlaced connection)
    (hmoex : env.moex.AccruesAmounts) (h : sheetBatch env connection known rows = .ok batch) :
    ∀ u ∈ batch, u.column ∈ filledColumns → u.value.IsAmount := by
  obtain ⟨cells, hcells, hreturn⟩ := Py.bind_eq_ok.mp h
  obtain rfl := Except.ok.inj hreturn
  intro u hu hcolumn
  rcases List.mem_append.mp hu with hu | hu
  · rcases List.mem_append.mp hu with hu | hu
    · exact absurd hcolumn (headerUpdates_fills u hu)
    · obtain ⟨rowCells, hrowCells, hu⟩ := List.mem_flatten.mp hu
      obtain ⟨entry, -, hentry⟩ := (Py.exists_of_mem_mapM hcells).2 rowCells hrowCells
      exact rowUpdates_fills hplaced hmoex hentry u hu hcolumn
  · exact absurd hcolumn (invalidRowUpdates_fills hplaced _ _ u hu)

end Batch

end BondTrading
