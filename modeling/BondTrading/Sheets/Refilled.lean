/-
# BondTrading.Sheets.Refilled -- a row that a run has filled

A run fills an empty J with the accrued interest it was told and an empty L with the
default commission.  Read back, both are the values the run calculated with, if J lost
nothing to its two decimals; so the row has the values it had, save that J and L are not
written again.
-/
import BondTrading.Sheets.Memory
import BondTrading.Sheets.SameAnswers

namespace BondTrading

open Py (Agrees Decimal Dict Gives Zone)

/-! ## Numbers that are read back -/

/-- A number that `quantize(Decimal("0.01"))` leaves as it is. -/
def Py.Decimal.InKopecks (d : Decimal) : Prop :=
  ∀ r, d.quantize (ε := PyError) 2 = .ok r → r = d

/-- **A number that was written is read back.** -/
theorem parseDecimal_number_str {q : ℚ} {n : ℕ} {c : ℤ} (hn : n ≤ Decimal.contextPrecision)
    (hq : q = c / 10 ^ n) (hc : c.natAbs < 10 ^ Decimal.contextPrecision) :
    parseDecimal (.number (Decimal.str (.finite q))) = some (.finite q) := by
  have hreplace : ∀ x by', (∀ c ∈ (Decimal.str (.finite q)).toList, c ≠ x) →
      Py.Text.replaceChar x by' (Decimal.str (.finite q)).toList =
        (Decimal.str (.finite q)).toList := by
    intro x by' hx
    unfold Py.Text.replaceChar
    calc (Decimal.str (.finite q)).toList.flatMap (fun c => if c = x then by' else [c])
        = (Decimal.str (.finite q)).toList.flatMap fun c => [c] :=
          List.flatMap_congr fun c hc => if_neg (hx c hc)
      _ = (Decimal.str (.finite q)).toList := List.flatMap_singleton' _
  have hplain : ∀ {P : Char → Prop}, P '-' → P '.' → (∀ d < 10, P (Nat.digitChar d)) →
      ∀ c ∈ (Decimal.str (.finite q)).toList, P c := fun hsign hpoint hdigit c hc =>
    (Decimal.isPlain_of_mem_str hc).cases hsign hpoint hdigit
  have hcomma : ∀ c ∈ (Decimal.str (.finite q)).toList, c ≠ ',' :=
    hplain (by decide) (by decide) (by decide)
  have hspace : ∀ c ∈ (Decimal.str (.finite q)).toList, c ≠ ' ' :=
    hplain (by decide) (by decide) (by decide)
  have hnbsp : ∀ c ∈ (Decimal.str (.finite q)).toList, c ≠ '\u00a0' :=
    hplain (by decide) (by decide) (by decide)
  have hclean : cleanNumber (Decimal.str (.finite q)) = (Decimal.str (.finite q)).toList := by
    unfold cleanNumber
    rw [Decimal.stripChars_str, hreplace _ _ hnbsp, hreplace _ _ hspace, hreplace _ _ hcomma]
  show decimalOfCandidate (cleanNumber _) = _
  rw [hclean]
  unfold decimalOfCandidate
  rw [if_neg (Decimal.str_ne_nil q), String.ofList_toList, Decimal.ofText_str hn hq hc]

/-- A number in kopecks that was written is read back. -/
theorem parseDecimal_money {d : Decimal} (hkopecks : d.InKopecks) {content : CellContent}
    (h : money (some d) = .ok content) :
    content = .decimal d ∧ parseDecimal content.cell = some d := by
  obtain ⟨r, hr, rfl⟩ := Py.map_eq_ok.mp h
  obtain rfl := hkopecks r hr
  refine ⟨rfl, ?_⟩
  cases r with
  | finite q =>
      rw [Decimal.quantize_finite] at hr
      split at hr
      · rename_i hquantizable
        have hq := Decimal.finite.inj (Except.ok.inj hr)
        exact parseDecimal_number_str (by decide) hq.symm hquantizable
      · cases hr
  | infinity negative => cases hr
  | nan => decide +kernel
  | snan => cases hr

theorem parseDecimal_defaultCommission :
    parseDecimal (CellContent.decimal defaultPurchaseCommission).cell =
      some defaultPurchaseCommission := by
  decide +kernel

/-! ## Values off J and L -/

/-- The columns a run fills for itself. -/
def filledColumns : List String := ["J", "L"]

/-- The same values, save in the columns a run fills. -/
def RowUpdates.SameOff (updates updates' : RowUpdates) : Prop :=
  ∀ column ∉ filledColumns, updates'.get? column = updates.get? column

theorem RowUpdates.SameOff.refl (updates : RowUpdates) : updates.SameOff updates := fun _ _ => rfl

theorem RowUpdates.SameOff.update {updates updates' : RowUpdates} (h : updates.SameOff updates')
    (entries : List (String × CellContent)) :
    RowUpdates.SameOff (updates.update entries) (updates'.update entries) :=
  fun column hcolumn => Dict.get?_update_congr entries (h column hcolumn)

theorem RowUpdates.SameOff.of_set {updates updates' : RowUpdates} (h : updates.SameOff updates')
    {column : String} (hcolumn : column ∈ filledColumns) (value : CellContent) :
    RowUpdates.SameOff (updates.set column value) updates' := by
  intro other hother
  have hne : other ≠ column := fun hsame => hother (hsame.symm ▸ hcolumn)
  rw [Dict.get?_set, if_neg hne]
  exact h other hother

/-- Both values are written over with the same entries, and none of them goes to J or L. -/
structure Overwritten (updates updates' written written' : RowUpdates) : Prop where
  entries : ∃ entries : List (String × CellContent),
    (∀ column ∈ entries.map Prod.fst, column ∉ filledColumns) ∧
      written = updates.update entries ∧ written' = updates'.update entries

section Overwritten

variable {updates updates' written written' : RowUpdates}

theorem Overwritten.refl (updates updates' : RowUpdates) :
    Overwritten updates updates' updates updates' :=
  ⟨[], fun _ h => absurd h List.not_mem_nil, rfl, rfl⟩

theorem Overwritten.update (h : Overwritten updates updates' written written')
    {entries : List (String × CellContent)} (columns : List String)
    (hcolumns : entries.map Prod.fst = columns) (hoff : ∀ column ∈ columns, column ∉ filledColumns) :
    Overwritten updates updates' (written.update entries) (written'.update entries) := by
  obtain ⟨first, hfirst, rfl, rfl⟩ := h.entries
  refine ⟨first ++ entries, ?_, (Dict.update_append _ _ _).symm, (Dict.update_append _ _ _).symm⟩
  intro column hcolumn
  rw [List.map_append, hcolumns] at hcolumn
  exact (List.mem_append.mp hcolumn).elim (hfirst column) (hoff column)

theorem Overwritten.set (h : Overwritten updates updates' written written') (column : String)
    (hoff : column ∉ filledColumns) (value : CellContent) :
    Overwritten updates updates' (written.set column value) (written'.set column value) := by
  refine h.update [column] (by rfl : [(column, value)].map Prod.fst = _) fun other hother => ?_
  rw [List.mem_singleton.mp hother]
  exact hoff

theorem Overwritten.calculations (h : Overwritten updates updates' written written') :
    Overwritten updates updates' (written.update blankCalculationValues)
      (written'.update blankCalculationValues) :=
  h.update (blankCalculationValues.map Prod.fst) rfl (by decide)

theorem Overwritten.kept (h : Overwritten updates updates' written written') {column : String}
    (hcolumn : column ∈ filledColumns) : written.get? column = updates.get? column := by
  obtain ⟨entries, hentries, rfl, -⟩ := h.entries
  exact Dict.get?_update_of_not_mem _ fun hmem => hentries column hmem hcolumn

theorem Overwritten.sameOff (h : Overwritten updates updates' written written')
    (hsame : updates.SameOff updates') : written.SameOff written' := by
  obtain ⟨entries, -, rfl, rfl⟩ := h.entries
  exact hsame.update entries

theorem blank_overwritten (updates updates' : RowUpdates) (status : String) :
    Overwritten updates updates' (updates.blank status) (updates'.blank status) :=
  (Overwritten.refl updates updates').calculations.set "AL" (by decide) _

theorem calculationUpdates_overwritten (calculation : SheetCurrentCalculation)
    (h : Overwritten updates updates' written written') :
    Agrees (Overwritten updates updates') (calculationUpdates calculation written)
      (calculationUpdates calculation written') := by
  unfold calculationUpdates
  apply Agrees.bind_same
  intro af
  apply Agrees.bind_same
  intro ag
  apply Agrees.bind_same
  intro ah
  apply Agrees.bind_same
  intro ai
  apply Agrees.bind_same
  intro aj
  apply Agrees.bind_same
  intro ak
  refine Agrees.ok ?_
  exact h.update ["AE", "AF", "AG", "AH", "AI", "AJ", "AK", "AL"] rfl (by decide)

/-- **The calculation of a row** writes the same over any values. -/
theorem purchaseUpdates_overwritten [Py.Context] (connection : SheetConnectionModel) (zone : Zone)
    (value : RefreshedInstrument) (purchase : SheetPurchaseInput)
    (h : Overwritten updates updates' written written') :
    Agrees (fun r r' => Overwritten updates updates' r.1 r'.1)
      (purchaseUpdates connection zone value purchase written)
      (purchaseUpdates connection zone value purchase written') := by
  unfold purchaseUpdates
  apply Agrees.bind_same
  rintro ⟨count, total⟩
  apply Agrees.bind_same
  intro af
  dsimp only
  have hcoupons := (h.set "AE" (by decide) (.decimal (.ofInt count))).set "AF" (by decide) af
  split
  · refine Agrees.ok ?_
    exact hcoupons.set "AL" (by decide) _
  · refine Agrees.ok ?_
    exact hcoupons.set "AL" (by decide) _
  · split
    · refine (calculationUpdates_overwritten _ hcoupons).bind fun r r' hr => ?_
      exact Agrees.ok hr
    · refine Agrees.ok ?_
      exact hcoupons.set "AL" (by decide) _

end Overwritten

/-! ## The row -/

/-- What a cell of a row holds after a run that wrote these values. -/
def SheetDataRow.after (row : SheetDataRow) (values : RowUpdates) (column : String) : CellValue :=
  ((values.get? column).map CellContent.cell).getD (row.get column)

/-- A row as a run left it, in the columns that are read. -/
structure SheetDataRow.Refilled (row row' : SheetDataRow) (values : RowUpdates) : Prop where
  customer : ∀ column ∈ ["E", "H", "I", "V"], row'.get column = row.get column
  filled : ∀ column ∈ filledColumns, row'.get column = row.after values column

section Row

variable {connection : SheetConnectionModel} {zone : Zone} {moex : MoexClient}
  {value : RefreshedInstrument} {row row' : SheetDataRow} {updates updates' values : RowUpdates}

/-- The quote of a row goes to none of the columns a run fills. -/
theorem quoteUpdates_filled (hplaced : WellPlaced connection)
    (h : quoteUpdates connection zone value = .ok updates) {column : String}
    (hcolumn : column ∈ filledColumns) : updates.get? column = none := by
  refine Dict.get?_eq_none fun hkey => ?_
  -- seen from a row that is filled, only the connection's own columns are writable
  have hwritable : Writable connection ⟨0, Dict.ofList [("J", .bool true), ("L", .bool true)]⟩
      column := confined_quote h column hkey
  rcases hwritable with hown | ⟨-, hblank⟩ | ⟨-, hblank⟩
  · exact hown.not_input hplaced hcolumn
  · exact absurd hblank (by decide)
  · exact absurd hblank (by decide)

theorem parseSheetPurchase_refilled (h : row.Refilled row' values) (accrued : Option Decimal)
    (commission : Decimal) :
    parseSheetPurchase row' accrued commission = parseSheetPurchase row accrued commission := by
  unfold parseSheetPurchase
  rw [h.customer "E" (by decide), h.customer "H" (by decide), h.customer "I" (by decide),
    h.customer "V" (by decide)]

/-- The commission is the one that was written. -/
theorem commission_refilled (updates : RowUpdates)
    (h : row'.get "L" = row.after (commissionUpdates row updates) "L")
    (hfree : updates.get? "L" = none) :
    commissionTotal row' = commissionTotal row ∧
      (commissionUpdates row updates).SameOff (commissionUpdates row' updates) := by
  cases hblank : (row.get "L").isBlank with
  | true =>
      have hset : commissionUpdates row updates =
          updates.set "L" (.decimal defaultPurchaseCommission) := if_pos hblank
      have hcell : row'.get "L" = (CellContent.decimal defaultPurchaseCommission).cell := by
        rw [h, hset, SheetDataRow.after, Dict.get?_set, if_pos rfl]
        rfl
      have hfilled : (row'.get "L").isBlank = false := by
        rw [hcell]
        rfl
      refine ⟨?_, ?_⟩
      · unfold commissionTotal
        rw [if_pos hblank, hfilled, hcell]
        exact parseDecimal_defaultCommission
      · have hkept : commissionUpdates row' updates = updates := by
          unfold commissionUpdates
          rw [hfilled]
          rfl
        rw [hset, hkept]
        exact (RowUpdates.SameOff.refl updates).of_set (by decide) _
  | false =>
      have hkept : commissionUpdates row updates = updates := by
        unfold commissionUpdates
        rw [hblank]
        rfl
      have hcell : row'.get "L" = row.get "L" := by
        rw [h, hkept, SheetDataRow.after, hfree]
        rfl
      unfold commissionTotal commissionUpdates
      rw [hcell, hblank]
      exact ⟨rfl, RowUpdates.SameOff.refl updates⟩

/-- **The accrued interest of the purchase is the one that was written**, if it is in
kopecks. -/
theorem rowAccrued_refilled {accrued : Option Decimal} {filled : RowUpdates}
    (hkopecks : ∀ date d, historicalAccruedOn moex value date = some d → d.InKopecks)
    (hE : row'.get "E" = row.get "E") (hJ : row'.get "J" = row.after filled "J")
    (hfree : updates.get? "J" = none) (hsame : updates.SameOff updates')
    (h : rowAccrued moex value row updates = .ok (accrued, filled)) :
    ∃ filled', rowAccrued moex value row' updates' = .ok (accrued, filled') ∧
      filled.SameOff filled' := by
  obtain ⟨purchaseDate, hdate, h⟩ := Py.bind_eq_ok.mp h
  have hunwritten : filled = updates → row'.get "J" = row.get "J" := by
    rintro rfl
    rw [hJ, SheetDataRow.after, hfree]
    rfl
  unfold rowAccrued
  rw [hE, hdate, Py.ok_bind]
  cases purchaseDate with
  | none =>
      obtain ⟨rfl, rfl⟩ := Prod.mk.inj (Except.ok.inj h)
      refine ⟨updates', ?_, hsame⟩
      rw [hunwritten rfl]
      rfl
  | some date =>
      cases hblank : (row.get "J").isBlank with
      | false =>
          simp only [hblank] at h
          obtain ⟨rfl, rfl⟩ := Prod.mk.inj (Except.ok.inj h)
          refine ⟨updates', ?_, hsame⟩
          rw [hunwritten rfl]
          simp only [hblank]
          rfl
      | true =>
          simp only [hblank, if_true] at h
          cases hanswer : historicalAccruedOn moex value date with
          | none =>
              simp only [hanswer] at h
              obtain ⟨rfl, rfl⟩ := Prod.mk.inj (Except.ok.inj h)
              refine ⟨updates', ?_, hsame⟩
              rw [hunwritten rfl]
              simp only [hblank, hanswer, if_true]
              rfl
          | some d =>
              simp only [hanswer] at h
              obtain ⟨content, hmoney, hreturn⟩ := Py.bind_eq_ok.mp h
              obtain ⟨rfl, rfl⟩ := Prod.mk.inj (Except.ok.inj hreturn)
              obtain ⟨rfl, hparse⟩ := parseDecimal_money (hkopecks date d hanswer) hmoney
              have hcell : row'.get "J" = (CellContent.decimal d).cell := by
                rw [hJ, SheetDataRow.after, Dict.get?_set, if_pos rfl]
                rfl
              refine ⟨updates', ?_, hsame.of_set (by decide) _⟩
              -- the cell is filled now, and holds what MOEX answered
              have hfilled : (row'.get "J").isBlank = false := by
                rw [hcell]
                rfl
              simp only [hfilled]
              rw [hcell, hparse]
              rfl

/-- The accrued interest is written to J, if anywhere. -/
theorem rowAccrued_gives :
    Gives (rowAccrued moex value row updates) fun r =>
      r.2 = updates ∨ ∃ content, r.2 = updates.set "J" content := by
  refine Gives.bind Gives.trivial fun purchaseDate _ => ?_
  cases purchaseDate with
  | none => exact Gives.ok (Or.inl rfl)
  | some date =>
      dsimp only
      split
      · split
        · refine Gives.bind Gives.trivial fun content _ => ?_
          exact Gives.ok (Or.inr ⟨content, rfl⟩)
        · exact Gives.ok (Or.inl rfl)
      · exact Gives.ok (Or.inl rfl)

/-- What follows the purchase of a row writes over the values it meets, and neither to J nor
to L. -/
theorem purchased_overwritten [Py.Context] {purchase : Option SheetPurchaseInput}
    {status : Option String} {filled : RowUpdates}
    (h : (match purchase with
      | none => .ok (filled.blank ((Py.Text.given status).getD "НЕДОСТАТОЧНО ДАННЫХ"))
      | some purchase => do
          let (updates, _) ← purchaseUpdates connection zone value purchase
            (filled.update blankCalculationValues)
          return updates : Except PyError RowUpdates) = .ok values) (filled' : RowUpdates) :
    ∃ values',
      (match purchase with
        | none => .ok (filled'.blank ((Py.Text.given status).getD "НЕДОСТАТОЧНО ДАННЫХ"))
        | some purchase => do
            let (updates, _) ← purchaseUpdates connection zone value purchase
              (filled'.update blankCalculationValues)
            return updates : Except PyError RowUpdates) = .ok values' ∧
        Overwritten filled filled' values values' := by
  cases purchase with
  | none =>
      obtain rfl := Except.ok.inj h
      exact ⟨_, rfl, blank_overwritten _ _ _⟩
  | some purchase =>
      obtain ⟨⟨written, error⟩, hwritten, hreturn⟩ := Py.bind_eq_ok.mp h
      obtain rfl := Except.ok.inj hreturn
      have hagrees := purchaseUpdates_overwritten connection zone value purchase
        (Overwritten.refl filled filled').calculations
      rw [hwritten] at hagrees
      obtain ⟨⟨written', error'⟩, hwritten', hover⟩ := hagrees.of_ok
      refine ⟨written', ?_, hover⟩
      dsimp only
      rw [hwritten']
      rfl

/-- **A row that was filled has the values it had**, save J and L. -/
theorem valuedRow_refilled [Py.Context] (hplaced : WellPlaced connection)
    (hkopecks : ∀ date d, historicalAccruedOn moex value date = some d → d.InKopecks)
    (hrow : row.Refilled row' values)
    (h : valuedRow connection zone moex value row = .ok values) :
    ∃ values', valuedRow connection zone moex value row' = .ok values' ∧
      values.SameOff values' := by
  obtain ⟨updates, hquote, h⟩ := Py.bind_eq_ok.mp h
  have hL := quoteUpdates_filled hplaced hquote (by decide : "L" ∈ filledColumns)
  have hJ := quoteUpdates_filled hplaced hquote (by decide : "J" ∈ filledColumns)
  have hfilledL := hrow.filled "L" (by decide)
  have hfilledJ := hrow.filled "J" (by decide)
  have hafter : ∀ {written : RowUpdates} {column : String},
      values.get? column = written.get? column →
        row.after values column = row.after written column := by
    intro written column hsame
    unfold SheetDataRow.after
    rw [hsame]
  unfold valuedRow
  rw [hquote, Py.ok_bind]
  cases hcommission : commissionTotal row with
  | none =>
      simp only [hcommission] at h
      obtain rfl := Except.ok.inj h
      have hunset : commissionUpdates row updates = updates := by
        unfold commissionUpdates
        refine if_neg fun hblank => ?_
        unfold commissionTotal at hcommission
        rw [if_pos hblank] at hcommission
        cases hcommission
      have hblank := blank_overwritten updates updates "НЕКОРРЕКТНАЯ КОМИССИЯ В L"
      have hlast := (commission_refilled updates
        (by rw [hfilledL, hunset]; exact hafter (hblank.kept (by decide))) hL).1
      rw [hlast, hcommission]
      exact ⟨_, rfl, RowUpdates.SameOff.refl _⟩
  | some commission =>
      simp only [hcommission] at h
      obtain ⟨⟨accrued, filled⟩, haccrued, h⟩ := Py.bind_eq_ok.mp h
      obtain ⟨⟨purchase, status⟩, hparse, h⟩ := Py.bind_eq_ok.mp h
      have hrest := purchased_overwritten h
      obtain ⟨_, -, hkept⟩ := hrest filled
      have hcommissionL : filled.get? "L" = (commissionUpdates row updates).get? "L" := by
        rcases rowAccrued_gives _ haccrued with hsame | ⟨content, hsame⟩
        · exact congrArg (Dict.get? · "L") hsame
        · exact (congrArg (Dict.get? · "L") hsame).trans (by rw [Dict.get?_set, if_neg (by decide)])
      have hcommissionJ : (commissionUpdates row updates).get? "J" = none := by
        unfold commissionUpdates
        split
        · rw [Dict.get?_set, if_neg (by decide), hJ]
        · exact hJ
      obtain ⟨hlast, hoff⟩ := commission_refilled updates
        (by rw [hfilledL]; exact hafter ((hkept.kept (by decide)).trans hcommissionL)) hL
      obtain ⟨filled', haccrued', hoff'⟩ := rowAccrued_refilled hkopecks
        (hrow.customer "E" (by decide))
        (by rw [hfilledJ]; exact hafter (hkept.kept (by decide))) hcommissionJ hoff haccrued
      obtain ⟨values', hvalues', hover⟩ := hrest filled'
      rw [hlast, hcommission]
      simp only [haccrued', Py.ok_bind, parseSheetPurchase_refilled hrow, hparse]
      exact ⟨values', hvalues', hover.sameOff hoff'⟩

/-- A row shows what it reads of its instrument, whoever answers the same for it. -/
theorem valuedRow_shown [Py.Context] {moex' : MoexClient} {value' : RefreshedInstrument}
    (hshown : value'.shown = value.shown)
    (haccrued : moex'.accruedInterestOn = moex.accruedInterestOn) (row : SheetDataRow) :
    valuedRow connection zone moex' value' row = valuedRow connection zone moex value row := by
  have hhistorical : ∀ date, historicalAccruedOn moex' value' date =
      historicalAccruedOn moex value date := by
    intro date
    have hmoex : historicalAccruedOn moex' value' date = historicalAccruedOn moex value' date := by
      unfold historicalAccruedOn
      rw [haccrued]
    rw [hmoex, historicalAccruedOn_shown hshown]
  unfold valuedRow rowAccrued
  simp only [quoteUpdates_shown hshown, purchaseUpdates_shown hshown, hhistorical]

/-- **The values of a row in the second run**, save J and L. -/
theorem rowValues_again [Py.Context] {moex' : MoexClient}
    {known known' : Option RefreshedInstrument} (hplaced : WellPlaced connection)
    (hshown : known'.map RefreshedInstrument.shown = known.map RefreshedInstrument.shown)
    (haccrued : moex'.accruedInterestOn = moex.accruedInterestOn)
    (hkopecks : ∀ secid boardId date d, moex.accruedInterestOn secid boardId date = .ok (some d) →
      d.InKopecks)
    (hrow : row.Refilled row' values)
    (h : rowValues connection zone moex known row = .ok values) :
    ∃ values', rowValues connection zone moex' known' row' = .ok values' ∧
      values.SameOff values' := by
  cases known with
  | none =>
      obtain rfl := Option.map_eq_none_iff.mp hshown
      exact ⟨values, h, RowUpdates.SameOff.refl values⟩
  | some value =>
      obtain ⟨value', rfl, hvalue⟩ := Option.map_eq_some_iff.mp hshown
      have hanswers : ∀ date d, historicalAccruedOn moex value date = some d → d.InKopecks := by
        intro date d hanswer
        unfold historicalAccruedOn at hanswer
        split at hanswer
        · rename_i accrued hok
          rw [hanswer] at hok
          exact hkopecks _ _ _ _ hok
        · cases hanswer
      obtain ⟨values', hvalues', hsame⟩ := valuedRow_refilled hplaced hanswers hrow h
      refine ⟨values', ?_, hsame⟩
      show valuedRow connection zone moex' value' row' = _
      rw [valuedRow_shown hvalue haccrued, hvalues']

end Row

end BondTrading
