/-
# BondTrading.Imports.BadRows -- the rows that abort a preview

The loop over the rows catches `_RowValidationError`.  Every helper of `_parse_row` raises
that and nothing else, but for one: `Decimal` reads the texts `NaN` and `sNaN`, and the
comparison of a required amount with zero, outside of any `try`, raises for them.
-/
import BondTrading.Imports.Blocks

namespace BondTrading

open Py (Decimal Returns orRaise raiseIf)

/-! ## Helpers that raise validation errors only -/

/-- An exception the loop does not catch. -/
def Aborts {α : Type} (x : Except RowFailure α) : Prop := ∃ e, x = .error (.raised e)

section Steps

variable {α β : Type}

theorem aborts_ok (a : α) : ¬ Aborts (.ok a) := by
  rintro ⟨e, h⟩
  cases h

theorem aborts_invalid (e : RowValidationError) : ¬ Aborts (.error (.invalid e) : Except _ α) := by
  rintro ⟨e', h⟩
  cases h

/-- A sequence aborts where its first step does, or its second after the first. -/
theorem aborts_bind {x : Except RowFailure α} {f : α → Except RowFailure β} :
    Aborts (x >>= f) ↔ Aborts x ∨ ∃ a, x = .ok a ∧ Aborts (f a) := by
  cases x with
  | ok a => simp [aborts_ok]
  | error e =>
      constructor
      · rintro ⟨e', h⟩
        obtain rfl := Except.error.inj h
        exact Or.inl ⟨e', rfl⟩
      · rintro (⟨e', h⟩ | ⟨a, h, -⟩)
        · obtain rfl := Except.error.inj h
          exact ⟨e', rfl⟩
        · cases h

/-- A first step that never aborts. -/
theorem aborts_bind_of_not {x : Except RowFailure α} {f : α → Except RowFailure β}
    (hx : ¬ Aborts x) : Aborts (x >>= f) ↔ ∃ a, x = .ok a ∧ Aborts (f a) := by
  rw [aborts_bind]
  exact or_iff_right hx

theorem not_aborts_raiseIf (c : Prop) [Decidable c] (field message : String)
    (value : Option String) : ¬ Aborts (raiseIf c (.of field message value)) := by
  unfold raiseIf
  split
  · exact aborts_invalid _
  · exact aborts_ok _

theorem not_aborts_orRaise (x : Option α) (field message : String) (value : Option String) :
    ¬ Aborts (orRaise x (.of field message value)) := by
  cases x with
  | some a => exact aborts_ok a
  | none => exact aborts_invalid _

end Steps

theorem not_aborts_rejectFormula (cell : SpreadsheetCell) (field : String) :
    ¬ Aborts (rejectFormula cell field) := not_aborts_raiseIf _ _ _ _

theorem not_aborts_manualText (cell : SpreadsheetCell) (field : String) :
    ¬ Aborts (manualText cell field) := by
  rw [manualText, aborts_bind_of_not (not_aborts_rejectFormula cell field)]
  rintro ⟨_, -, h⟩
  exact not_aborts_orRaise _ _ _ _ h

theorem not_aborts_manualDate (cell : SpreadsheetCell) (field : String) :
    ¬ Aborts (manualDate cell field) := by
  rw [manualDate, aborts_bind_of_not (not_aborts_rejectFormula cell field)]
  rintro ⟨_, -, h⟩
  split at h
  · exact aborts_ok _ h
  · exact aborts_ok _ h
  · exact not_aborts_orRaise _ _ _ _ h
  · exact aborts_invalid _ h

theorem not_aborts_eventType (value : String) : ¬ Aborts (eventType value) := by
  simp only [eventType]
  split
  · exact aborts_ok _
  · split
    · exact aborts_ok _
    · exact aborts_invalid _

/-- `normalize_isin` raises `InvalidIsinError` and nothing else. -/
theorem normalizeIsin_error {value : String} {e : PyError} (h : normalizeIsin value = .error e) :
    ∃ message details, e = .domain .invalidIsin message details := by
  simp only [normalizeIsin, validateIsin, raiseIf] at h
  generalize Py.Text.upper (Py.Text.strip value) = normalized at h
  by_cases hpattern : isIsinPattern normalized.toList = true
  · by_cases hdigit : validCheckDigit normalized.toList = true
    · rw [if_neg (not_not.mpr hpattern), if_neg (not_not.mpr hdigit)] at h
      cases h
    · rw [if_neg (not_not.mpr hpattern), if_pos hdigit] at h
      obtain rfl := Except.error.inj h
      exact ⟨_, _, rfl⟩
  · rw [if_pos hpattern] at h
    obtain rfl := Except.error.inj h
    exact ⟨_, _, rfl⟩

theorem not_aborts_rowIsin (sourceIsin : String) : ¬ Aborts (rowIsin sourceIsin) := by
  unfold rowIsin
  cases h : normalizeIsin sourceIsin with
  | ok isin => exact aborts_ok isin
  | error e =>
      obtain ⟨message, details, rfl⟩ := normalizeIsin_error h
      exact aborts_invalid _

theorem not_aborts_cellDecimal (value : SpreadsheetValue) (field : String) :
    ¬ Aborts (cellDecimal value field) := by
  rw [cellDecimal, aborts_bind_of_not (not_aborts_raiseIf _ _ _ _)]
  rintro ⟨_, -, h⟩
  exact not_aborts_orRaise _ _ _ _ h

theorem not_aborts_optionalDecimal (cell : SpreadsheetCell) : ¬ Aborts (optionalDecimal cell) := by
  unfold optionalDecimal
  split
  · exact aborts_ok _
  · cases h : cellDecimal cell.value "optional_decimal" with
    | ok d => exact aborts_ok _
    | error e =>
        rintro ⟨e', h'⟩
        have hsame : e = .raised e' := Except.error.inj h'
        exact not_aborts_cellDecimal _ _ ⟨e', h.trans (congrArg Except.error hsame)⟩

/-! ## Required amounts -/

/-- The number of a required cell: it is neither a formula nor blank, and `Decimal` reads
it. -/
def SpreadsheetCell.number? (cell : SpreadsheetCell) : Option Decimal :=
  if cell.isFormula ∨ cell.value.startsWithEquals ∨ cell.value.isBlank then none
  else decimalOfValue cell.value

/-- What both required parsers read before they compare. -/
theorem requiredDecimal_eq_ok {cell : SpreadsheetCell} {field : String} {d : Decimal} :
    (rejectFormula cell field >>= fun _ => cellDecimal cell.value field) = .ok d ↔
      cell.number? = some d := by
  simp only [rejectFormula, cellDecimal, Py.bind_eq_ok, Py.raiseIf_eq_ok, Py.orRaise_eq_ok,
    SpreadsheetCell.number?, not_or]
  by_cases h : cell.isFormula ∨ cell.value.startsWithEquals ∨ cell.value.isBlank
  · rw [if_pos h]
    refine iff_of_false ?_ (Option.some_ne_none d).symm
    rintro ⟨_, ⟨hformula, hequals⟩, _, hblank, -⟩
    tauto
  · rw [if_neg h]
    simp only [not_or] at h
    constructor
    · rintro ⟨_, -, _, -, hd⟩
      exact hd
    · intro hd
      exact ⟨(), ⟨h.1, h.2.1⟩, (), h.2.2, hd⟩

/-- A comparison with zero between a required number and its return. -/
theorem compared_eq_ok {compare : Decimal → Except RowFailure Bool} {accepts : Decimal → Prop}
    (hcompare : ∀ d r, compare d = .ok r ↔ d.isNaN = false ∧ (r = false ↔ accepts d))
    (haccepts : ∀ d, accepts d → d.isNaN = false) {x : Except RowFailure Decimal}
    {failure : RowFailure} {d : Decimal} :
    (x >>= fun value => compare value >>= fun r =>
        if r then (throw failure : Except RowFailure Decimal) else pure value) = .ok d ↔
      x = .ok d ∧ accepts d := by
  simp only [Py.bind_eq_ok]
  constructor
  · rintro ⟨value, hx, r, hr, hreturn⟩
    cases r with
    | true => cases hreturn
    | false =>
        obtain rfl := Except.ok.inj hreturn
        exact ⟨hx, ((hcompare value false).mp hr).2.mp rfl⟩
  · rintro ⟨hx, hd⟩
    refine ⟨d, hx, false, (hcompare d false).mpr ⟨haccepts d hd, ?_⟩, rfl⟩
    exact iff_of_true rfl hd

/-- It aborts where the comparison does. -/
theorem compared_aborts {compare : Decimal → Except RowFailure Bool}
    (hcompare : ∀ d, Aborts (compare d) ↔ d.isNaN = true) {x : Except RowFailure Decimal}
    (hx : ¬ Aborts x) (e : RowValidationError) :
    Aborts (x >>= fun value => compare value >>= fun r =>
        if r then (throw (.invalid e) : Except RowFailure Decimal) else pure value) ↔
      ∃ d, x = .ok d ∧ d.isNaN = true := by
  rw [aborts_bind_of_not hx]
  apply exists_congr
  intro d
  rw [aborts_bind, hcompare]
  apply and_congr_right'
  apply or_iff_left
  rintro ⟨r, -, h⟩
  cases r with
  | true => exact aborts_invalid e h
  | false => exact aborts_ok d h

theorem aborts_le_zero (d : Decimal) :
    Aborts (d.le ZERO : Except RowFailure Bool) ↔ d.isNaN = true := by
  cases d with
  | finite q => exact iff_of_false (aborts_ok _) Bool.false_ne_true
  | infinity negative => exact iff_of_false (aborts_ok _) Bool.false_ne_true
  | nan => exact iff_of_true ⟨_, rfl⟩ rfl
  | snan => exact iff_of_true ⟨_, rfl⟩ rfl

theorem aborts_lt_zero (d : Decimal) :
    Aborts (d.lt ZERO : Except RowFailure Bool) ↔ d.isNaN = true := by
  cases d with
  | finite q => exact iff_of_false (aborts_ok _) Bool.false_ne_true
  | infinity negative => exact iff_of_false (aborts_ok _) Bool.false_ne_true
  | nan => exact iff_of_true ⟨_, rfl⟩ rfl
  | snan => exact iff_of_true ⟨_, rfl⟩ rfl

theorem not_aborts_requiredDecimal (cell : SpreadsheetCell) (field : String) :
    ¬ Aborts (rejectFormula cell field >>= fun _ => cellDecimal cell.value field) := by
  rw [aborts_bind_of_not (not_aborts_rejectFormula cell field)]
  rintro ⟨_, -, h⟩
  exact not_aborts_cellDecimal _ _ h

section Required

variable {cell : SpreadsheetCell} {field : String} {d : Decimal}

/-- Both parsers compare what they read with zero. -/
theorem manualPositive_eq (cell : SpreadsheetCell) (field : String) :
    manualPositive cell field =
      ((rejectFormula cell field >>= fun _ => cellDecimal cell.value field) >>= fun value =>
        value.le ZERO >>= fun r =>
          if r then throw (.of field "Value must be positive" (some cell.value.str))
          else pure value) := by
  rw [bind_assoc]
  rfl

theorem manualNonNegative_eq (cell : SpreadsheetCell) (field : String) :
    manualNonNegative cell field =
      ((rejectFormula cell field >>= fun _ => cellDecimal cell.value field) >>= fun value =>
        value.lt ZERO >>= fun r =>
          if r then throw (.of field "Value cannot be negative" (some cell.value.str))
          else pure value) := by
  rw [bind_assoc]
  rfl

theorem manualPositive_eq_ok :
    manualPositive cell field = .ok d ↔ cell.number? = some d ∧ d.Positive := by
  rw [manualPositive_eq, ← requiredDecimal_eq_ok]
  exact compared_eq_ok (fun _ _ => Decimal.le_zero_eq_ok) (fun _ => Decimal.Positive.number)

theorem manualNonNegative_eq_ok :
    manualNonNegative cell field = .ok d ↔ cell.number? = some d ∧ d.Nonneg := by
  rw [manualNonNegative_eq, ← requiredDecimal_eq_ok]
  exact compared_eq_ok (fun _ _ => Decimal.lt_zero_eq_ok) (fun _ => Decimal.Nonneg.number)

end Required

/-- A required cell with a NaN in it. -/
def SpreadsheetCell.ReadsNaN (cell : SpreadsheetCell) : Prop :=
  ∃ d, cell.number? = some d ∧ d.isNaN = true

theorem manualPositive_aborts (cell : SpreadsheetCell) (field : String) :
    Aborts (manualPositive cell field) ↔ cell.ReadsNaN := by
  rw [manualPositive_eq, RowFailure.of,
    compared_aborts aborts_le_zero (not_aborts_requiredDecimal cell field)]
  simp only [requiredDecimal_eq_ok]
  rfl

theorem manualNonNegative_aborts (cell : SpreadsheetCell) (field : String) :
    Aborts (manualNonNegative cell field) ↔ cell.ReadsNaN := by
  rw [manualNonNegative_eq, RowFailure.of,
    compared_aborts aborts_lt_zero (not_aborts_requiredDecimal cell field)]
  simp only [requiredDecimal_eq_ok]
  rfl

def SpreadsheetCell.ReadsPositive (cell : SpreadsheetCell) : Prop :=
  ∃ d, cell.number? = some d ∧ d.Positive

def SpreadsheetCell.ReadsNonneg (cell : SpreadsheetCell) : Prop :=
  ∃ d, cell.number? = some d ∧ d.Nonneg

/-! ## Rows -/

/-- The columns before the amounts are accepted. -/
structure HeadAccepted (cell : ℕ → SpreadsheetCell) (isinColumn : ℕ) : Prop where
  isin : ∃ text, manualText (cell isinColumn) "isin" = .ok text ∧ ∃ isin, rowIsin text = .ok isin
  event : ∃ text, manualText (cell 4) "target_event_type" = .ok text ∧
    ∃ event, eventType text = .ok event
  purchaseDate : ∃ day, manualDate (cell 5) "purchase_date" = .ok day
  targetEventDate : ∃ day, manualDate (cell 7) "target_event_date" = .ok day

/-- The first of the required amounts that is not accepted is a NaN, and everything before
the amounts is accepted. -/
def ReachesNaN (cell : ℕ → SpreadsheetCell) (isinColumn : ℕ) : Prop :=
  HeadAccepted cell isinColumn ∧
    ((cell 8).ReadsNaN ∨ (cell 8).ReadsPositive ∧
      ((cell 9).ReadsNaN ∨ (cell 9).ReadsNonneg ∧
        ((cell 10).ReadsNaN ∨ (cell 10).ReadsNonneg ∧ (cell 12).ReadsNaN)))

/-- **`_parse_row` raises another exception than a validation error exactly there.** -/
theorem parseCells_aborts {cell : ℕ → SpreadsheetCell} {row isinColumn : ℕ} :
    Aborts (parseCells cell row isinColumn) ↔ ReachesNaN cell isinColumn := by
  have hreturn : ∀ parsed : ImportRow, ¬ Aborts (pure parsed) := aborts_ok
  simp only [parseCells, aborts_bind, not_aborts_manualText, not_aborts_rowIsin,
    not_aborts_eventType, not_aborts_manualDate, not_aborts_optionalDecimal, hreturn,
    manualPositive_aborts, manualNonNegative_aborts, manualPositive_eq_ok,
    manualNonNegative_eq_ok, false_or, or_false, and_false, exists_false, exists_and_right]
  constructor
  · rintro ⟨text, htext, hisin, text', htext', hevent, hpurchase, htarget, hamounts⟩
    exact ⟨⟨⟨text, htext, hisin⟩, ⟨text', htext', hevent⟩, hpurchase, htarget⟩, hamounts⟩
  · rintro ⟨⟨⟨text, htext, hisin⟩, ⟨text', htext', hevent⟩, hpurchase, htarget⟩, hamounts⟩
    exact ⟨text, htext, hisin, text', htext', hevent, hpurchase, htarget, hamounts⟩

/-! ## Previews -/

/-- **No row of the block is lost**: an acceptable one is kept, any other one reported. -/
structure KeepsAndReports (sheet : SpreadsheetSheet) (header column : ℕ) (p : ImportPreview) :
    Prop where
  kept : ∀ row ∈ blockOf sheet header, ∀ parsed, parseRow sheet row column = .ok parsed →
    parsed ∈ p.rows
  reported : ∀ row ∈ blockOf sheet header, ∀ failure, parseRow sheet row column = .error failure →
    ∃ e ∈ p.errors, e.rowNumber = row

theorem pos_of_mem_block {sheet : SpreadsheetSheet} {header row : ℕ}
    (h : row ∈ blockOf sheet header) : 0 < row := by
  have hmem := List.mem_range'_1.mp ((List.takeWhile_sublist _).subset h)
  omega

theorem decodedPreview_keepsAndReports {sheet : SpreadsheetSheet} {header column : ℕ}
    (hfine : ∀ row ∈ blockOf sheet header, ¬ RaisesRow column row (sheet.rowAt row))
    (fileName checksum : String) :
    KeepsAndReports sheet header column (decodedPreview fileName checksum sheet header column) := by
  constructor
  case kept =>
    intro row hrow parsed hparsed
    rw [parseRow_eq (pos_of_mem_block hrow)] at hparsed
    refine List.mem_filterMap.mpr ⟨row, hrow, ?_⟩
    rw [acceptedRow, hparsed]
  case reported =>
    intro row hrow failure hfailed
    rw [parseRow_eq (pos_of_mem_block hrow)] at hfailed
    cases failure with
    | raised e => exact absurd ⟨e, hfailed⟩ (hfine row hrow)
    | invalid e =>
        refine ⟨⟨row, e.field, e.message, e.sourceValue⟩, ?_, rfl⟩
        refine List.mem_filterMap.mpr ⟨row, hrow, ?_⟩
        rw [rejectedRow, hfailed]

/-- **A bad row aborts the preview exactly when it reaches a NaN**: where no row of the block
does, the preview returns, keeps every acceptable row and reports every other one. -/
theorem previewSpreadsheet_reports_iff {libraries : SpreadsheetLibraries}
    {sha256 : Bytes → String} {content : Bytes} {fileName requested : String}
    {sheets : List SpreadsheetSheet}
    (hload : loadSheets libraries content fileName = .ok sheets)
    (hsome : ∃ sheet ∈ sheets, sheet.HasHeaderCell) :
    ∃ sheet header column, IsChosen sheets requested sheet ∧ IsHeader sheet header column ∧
      ((∃ p, previewSpreadsheet libraries sha256 content fileName requested = .ok p ∧
          KeepsAndReports sheet header column p) ↔
        ∀ row ∈ blockOf sheet header,
          ¬ ReachesNaN (SpreadsheetRow.cell (sheet.rowAt row)) column) := by
  obtain ⟨sheet, hchosen⟩ := exists_chosen requested hsome
  obtain ⟨header, column, hheader⟩ := hasHeaderCell_iff.mp hchosen.found
  have hreturns : Returns (previewSpreadsheet libraries sha256 content fileName requested) _ _ :=
    previewSpreadsheet_returns hload hchosen hheader
  refine ⟨sheet, header, column, hchosen, hheader, ?_⟩
  have hcondition : (∀ row ∈ blockOf sheet header, ¬ RaisesRow column row (sheet.rowAt row)) ↔
      ∀ row ∈ blockOf sheet header,
        ¬ ReachesNaN (SpreadsheetRow.cell (sheet.rowAt row)) column := by
    apply forall₂_congr
    intro row _
    exact not_congr parseCells_aborts
  rw [← hcondition]
  constructor
  · rintro ⟨p, hp, -⟩
    exact hreturns.iff.mp ⟨p, hp⟩
  · intro hfine
    exact ⟨_, hreturns.returns hfine, decodedPreview_keepsAndReports hfine _ _⟩

/-- A good row, and one with `NaN` for its quantity. -/
def nanRows : List (List SpreadsheetValue) :=
  [purchaseRow (.number "40") (.number "962.9") .none,
    purchaseRow (.text "NaN") (.number "962.9") .none]

theorem nanRows_hasHeaderCell : ∃ sheet ∈ calamineSheets nanRows, sheet.HasHeaderCell := by
  refine ⟨_, List.mem_cons_of_mem _ List.mem_cons_self, findHeader_isOk.mp ?_⟩
  decide +kernel

/-- **One row aborts the preview of both.** -/
theorem nan_quantity_aborts_preview :
    loadSheets (calamineWorkbook nanRows) [] "portfolio.xls" = .ok (calamineSheets nanRows) ∧
      (∃ sheet ∈ calamineSheets nanRows, sheet.HasHeaderCell) ∧
      ¬ ∃ p, previewSpreadsheet (calamineWorkbook nanRows) (fun _ => "") [] "portfolio.xls"
        defaultSheetName = .ok p := by
  have hraised : previewSpreadsheet (calamineWorkbook nanRows) (fun _ => "") [] "portfolio.xls"
      defaultSheetName = .error (.raised (.decimal .invalidOperation)) := by decide +kernel
  refine ⟨loadSheets_calamine nanRows, nanRows_hasHeaderCell, ?_⟩
  rintro ⟨p, hp⟩
  cases hraised.symm.trans hp

theorem previewSpreadsheet_reports_iff_nanRows :
    ∃ sheet header column,
      IsChosen (calamineSheets nanRows) defaultSheetName sheet ∧ IsHeader sheet header column ∧
      ∃ row ∈ blockOf sheet header, ReachesNaN (SpreadsheetRow.cell (sheet.rowAt row)) column := by
  have hraised : previewSpreadsheet (calamineWorkbook nanRows) (fun _ => "") [] "portfolio.xls"
      defaultSheetName = .error (.raised (.decimal .invalidOperation)) := by decide +kernel
  obtain ⟨sheet, header, column, hchosen, hheader, hiff⟩ :=
    previewSpreadsheet_reports_iff (loadSheets_calamine nanRows) nanRows_hasHeaderCell
  refine ⟨sheet, header, column, hchosen, hheader, ?_⟩
  by_contra hnone
  push Not at hnone
  obtain ⟨p, hp, -⟩ := hiff.mpr hnone
  cases hraised.symm.trans hp

end BondTrading
