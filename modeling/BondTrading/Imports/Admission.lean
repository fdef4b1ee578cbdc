/-
# BondTrading.Imports.Admission -- the lots an import lets in

Two validators guard the lots of a user: the schema of `POST /lots` and the cell parsers of
a spreadsheet.  Both reject negative purchase amounts; the parsers also pass infinities, and
compare the optional columns N, R and V with nothing.
-/
import BondTrading.Imports.BadRows
import BondTrading.Lots.Calculation
import BondTrading.Lots.Schemas

namespace BondTrading

open Py (Decimal Instant)

/-! ## Rows as payloads -/

/-- The fields of a row under the names `LotCreate` has for them; the others have their
defaults. -/
def ImportRow.asLotCreate (row : ImportRow) : LotCreate where
  isin := row.normalizedIsin
  sourceName := row.sourceName
  purchaseDate := row.purchaseDate
  quantity := row.quantity
  purchaseCleanPriceRubPerBond := row.purchaseCleanPriceRubPerBond
  purchaseAccruedInterestRubPerBond := row.purchaseAccruedInterestRubPerBond
  purchaseCommissionRubPerBond := row.purchaseCommissionRubPerBond
  targetEventType := row.targetEventType
  targetEventDate := row.targetEventDate
  targetRedemptionPriceRubPerBond := row.targetRedemptionPriceRubPerBond
  targetRedemptionOverrideReason := none
  saleCommissionRubPerBond := row.saleCommissionRubPerBond
  plannedYieldManualReference := row.plannedYieldManualReference
  sourceRowNumber := some row.rowNumber
  sourceSheetName := "manual"
  notes := none

/-! ## Lots and the engine -/

/-- **The first lines of `calculate_planned_yield` accept the amounts of the lot**, whatever
it redeems at if it has no price of its own; and the total they give is positive, unless all
three purchase amounts are zero. -/
def BondLotModel.AmountsAccepted (lot : BondLotModel) : Prop :=
  ∀ (redemption : Decimal) (cashflows : List (CorporateCashFlow ℚ)) (settings : AppSettingModel),
    (lot.targetRedemptionPriceRubPerBond = some redemption ∨
      lot.targetRedemptionPriceRubPerBond = none ∧ redemption.Nonneg) →
    let value := plannedInput lot redemption cashflows settings
    ((value.finalRedemptionRubPerBond.lt ZERO <||> value.saleCommissionRubPerBond.lt ZERO :
        Except PyError Bool) = .ok false) ∧
      ∃ purchase, calculatePurchase value.purchase = .ok purchase ∧
        ((∃ amount ∈ [value.purchase.cleanPriceRubPerBond,
            value.purchase.accruedInterestRubPerBond, value.purchase.commissionRubPerBond],
          amount.Positive) →
          (purchase.purchaseTotal.le ZERO : Except PyError Bool) = .ok false)

/-- A purchase at finite amounts of the right signs is calculated. -/
theorem calculatePurchase_of_fields {p : PurchaseInput Decimal} (hquantity : FieldPositive p.quantity)
    (hclean : FieldNonneg p.cleanPriceRubPerBond)
    (haccrued : FieldNonneg p.accruedInterestRubPerBond)
    (hcommission : FieldNonneg p.commissionRubPerBond) :
    ∃ purchase, calculatePurchase p = .ok purchase ∧
      ((∃ amount ∈ [p.cleanPriceRubPerBond, p.accruedInterestRubPerBond, p.commissionRubPerBond],
          amount.Positive) →
        (purchase.purchaseTotal.le ZERO : Except PyError Bool) = .ok false) := by
  obtain ⟨day, quantity, clean, accrued, commission⟩ := p
  obtain ⟨⟨q, rfl⟩, hq⟩ := hquantity
  obtain ⟨⟨c, rfl⟩, hc⟩ := hclean
  obtain ⟨⟨a, rfl⟩, ha⟩ := haccrued
  obtain ⟨⟨m, rfl⟩, hm⟩ := hcommission
  have hq : 0 < q := hq
  have hc : 0 ≤ c := hc
  have ha : 0 ≤ a := ha
  have hm : 0 ≤ m := hm
  have hreturns := calculatePurchase_returns ⟨day, q, c, a, m⟩
  refine ⟨_, hreturns.returns ⟨hq, hc, ha, hm⟩, ?_⟩
  rintro ⟨amount, hamount, hpositive⟩
  have hsum : 0 < c + a + m := by
    simp only [List.mem_cons, List.not_mem_nil, or_false] at hamount
    rcases hamount with rfl | rfl | rfl
    · have hpositive : 0 < c := hpositive
      linarith
    · have hpositive : 0 < a := hpositive
      linarith
    · have hpositive : 0 < m := hpositive
      linarith
  apply Decimal.le_zero_eq_ok.mpr
  refine ⟨rfl, iff_of_true rfl ?_⟩
  show 0 < c * q + a * q + m * q
  have htotal : c * q + a * q + m * q = (c + a + m) * q := by ring
  rw [htotal]
  exact mul_pos hsum hq

/-- An amount that is not negative is stored as one. -/
theorem FieldNonneg.stored {d : Decimal} (h : FieldNonneg d) : FieldNonneg (MONEY.stored d) := by
  obtain ⟨⟨q, rfl⟩, hq⟩ := h
  exact ⟨⟨_, rfl⟩, Sql.Numeric.round_nonneg hq⟩

/-- The lot of a row that meets the schema, if its quantity is not rounded to zero. -/
theorem importedLot_amountsAccepted {row : ImportRow} (hrow : row.asLotCreate.FieldsValid)
    (owner : UserId) (batch : BatchId) (sheetName : String) (instrument : InstrumentId)
    (id : LotId) (now : Instant) (hpositive : isPositive (MONEY.stored row.quantity) = true) :
    (importedLot owner batch sheetName row instrument id now).AmountsAccepted := by
  intro redemption cashflows settings hredemption
  have hnonneg : redemption.Nonneg := by
    rcases hredemption with hprice | ⟨-, hnonneg⟩
    · obtain ⟨price, hrowPrice, rfl⟩ := Option.map_eq_some_iff.mp hprice
      exact (FieldNonneg.stored (hrow.targetRedemption price hrowPrice)).2
    · exact hnonneg
  have hquantity : FieldPositive (MONEY.stored row.quantity) := by
    obtain ⟨q, hq⟩ : row.quantity.IsFinite := hrow.quantity.1
    rw [hq] at hpositive ⊢
    exact ⟨⟨_, rfl⟩, of_decide_eq_true hpositive⟩
  refine ⟨?_, calculatePurchase_of_fields hquantity (FieldNonneg.stored hrow.cleanPrice)
    (FieldNonneg.stored hrow.accruedInterest) (FieldNonneg.stored hrow.commission)⟩
  apply Py.orM_eq_false_iff.mpr
  constructor
  · exact Decimal.lt_zero_eq_ok.mpr ⟨hnonneg.number, iff_of_true rfl hnonneg⟩
  · have hsale := (FieldNonneg.stored hrow.saleCommission).2
    exact Decimal.lt_zero_eq_ok.mpr ⟨hsale.number, iff_of_true rfl hsale⟩

/-- A lot that a commit of the preview stored is made from one of its rows. -/
theorem importCommit_stored {db db' : Database} {owner : UserId} {preview : ImportPreview}
    {draw : ImportDraw} {batch : ImportBatchModel}
    (h : importCommit db owner preview draw = .ok (db', batch, false)) {lot : BondLotModel}
    (hlot : lot ∈ db'.val.portfolio.lots) (hnew : lot ∉ db.val.portfolio.lots) :
    ∃ row ∈ preview.rows, ∃ instrument id now,
      lot = importedLot owner draw.batch preview.sheetName row instrument id now := by
  unfold importCommit finishImport at h
  split at h
  · obtain ⟨committed, -, hreturn⟩ := Py.bind_eq_ok.mp h
    cases Except.ok.inj hreturn
  · obtain ⟨committed, hcommit, hreturn⟩ := Py.bind_eq_ok.mp h
    obtain rfl : committed = db' := (Prod.mk.inj (Except.ok.inj hreturn)).1
    have htables := Sql.commit_eq_ok.mp hcommit
    rw [htables] at hlot
    rcases List.mem_append.mp hlot with hold | hadded
    · exact absurd hold hnew
    · obtain ⟨row, hrow, hcarries⟩ :=
        exists_row_of_lot (importRows_spec db.val owner preview draw).2 lot hadded
      obtain ⟨instrument, -, -, id, now, rfl⟩ := hcarries
      exact ⟨row, hrow, instrument.id, id, now, rfl⟩

/-! ## What the cells must read -/

/-- An optional cell is empty, a formula, or a number. -/
def SpreadsheetCell.OptionalReads (cell : SpreadsheetCell) : Prop :=
  ∃ value, optionalDecimal cell = .ok value

/-- The checks of `_parse_row` pass. -/
structure RowPasses (cell : ℕ → SpreadsheetCell) (isinColumn : ℕ) : Prop where
  head : HeadAccepted cell isinColumn
  quantity : (cell 8).ReadsPositive
  purchase : ∀ column ∈ [9, 10, 12], (cell column).ReadsNonneg
  optional : ∀ column ∈ [14, 18, 22], (cell column).OptionalReads

/-- The numbers in the cells are what the schema takes: the required amounts and the
reference yield are finite, the exit amounts finite and not negative. -/
structure PlainAmounts (cell : ℕ → SpreadsheetCell) : Prop where
  required : ∀ column ∈ [8, 9, 10, 12], ∀ d, (cell column).number? = some d → d.IsFinite
  exits : ∀ column ∈ [14, 18], ∀ d, optionalDecimal (cell column) = .ok (some d) → FieldNonneg d
  reference : ∀ d, optionalDecimal (cell 22) = .ok (some d) → d.IsFinite

/-- **A row is accepted exactly when its checks pass.** -/
theorem parseCells_returns_iff {cell : ℕ → SpreadsheetCell} {row isinColumn : ℕ} :
    (∃ parsed, parseCells cell row isinColumn = .ok parsed) ↔ RowPasses cell isinColumn := by
  have hreturn : ∀ parsed : ImportRow, ∃ r, (pure parsed : Except RowFailure ImportRow) = .ok r :=
    fun parsed => ⟨parsed, rfl⟩
  simp only [parseCells, Py.bind_returns_iff, hreturn, and_true, exists_and_right,
    manualPositive_eq_ok, manualNonNegative_eq_ok]
  constructor
  · rintro ⟨text, htext, hisin, text', htext', hevent, hpurchase, htarget, hquantity, hclean,
      haccrued, hcommission, hredemption, hsale, hplanned⟩
    constructor
    case head => exact ⟨⟨text, htext, hisin⟩, ⟨text', htext', hevent⟩, hpurchase, htarget⟩
    case quantity => exact hquantity
    case purchase => simpa using ⟨hclean, haccrued, hcommission⟩
    case optional => simpa using ⟨hredemption, hsale, hplanned⟩
  · rintro ⟨⟨⟨text, htext, hisin⟩, ⟨text', htext', hevent⟩, hpurchase, htarget⟩, hquantity, hamounts,
      hoptional⟩
    refine ⟨text, htext, hisin, text', htext', hevent, hpurchase, htarget, hquantity, ?_⟩
    simp only [List.forall_mem_cons] at hamounts hoptional
    obtain ⟨hclean, haccrued, hcommission, -⟩ := hamounts
    obtain ⟨hredemption, hsale, hplanned, -⟩ := hoptional
    exact ⟨hclean, haccrued, hcommission, hredemption, hsale, hplanned⟩

theorem eventType_valid {value event : String} (h : eventType value = .ok event) :
    FieldEventType event := by
  simp only [eventType] at h
  split at h
  · obtain rfl := Except.ok.inj h
    exact Or.inl rfl
  · split at h
    · obtain rfl := Except.ok.inj h
      exact Or.inr rfl
    · cases h

/-- **An accepted row meets the schema exactly when its cells read plain amounts.** -/
theorem fieldsValid_iff {cell : ℕ → SpreadsheetCell} {row isinColumn : ℕ} {parsed : ImportRow}
    (h : ParsedFrom cell row isinColumn parsed) :
    parsed.asLotCreate.FieldsValid ↔ PlainAmounts cell := by
  obtain ⟨hquantity, hpositive⟩ := manualPositive_eq_ok.mp h.quantity
  obtain ⟨hclean, hcleanSign⟩ := manualNonNegative_eq_ok.mp h.cleanPrice
  obtain ⟨haccrued, haccruedSign⟩ := manualNonNegative_eq_ok.mp h.accruedInterest
  obtain ⟨hcommission, hcommissionSign⟩ := manualNonNegative_eq_ok.mp h.commission
  obtain ⟨sale, hsale, hparsedSale⟩ := h.saleCommission
  constructor
  · intro hvalid
    have hsaleValid : FieldNonneg parsed.saleCommissionRubPerBond := hvalid.saleCommission
    constructor
    case required =>
      simp only [List.forall_mem_cons, hquantity, hclean, haccrued, hcommission, Option.some.injEq,
        forall_eq']
      exact ⟨hvalid.quantity.1, hvalid.cleanPrice.1, hvalid.accruedInterest.1,
        hvalid.commission.1, fun _ h => absurd h List.not_mem_nil⟩
    case exits =>
      simp only [List.forall_mem_cons, h.redemption, hsale, Except.ok.injEq]
      refine ⟨?_, ?_, fun _ h => absurd h List.not_mem_nil⟩
      · intro d hd
        exact hvalid.targetRedemption d hd
      · intro d hd
        rw [hparsedSale, hd] at hsaleValid
        exact hsaleValid
    case reference =>
      simp only [h.plannedYield, Except.ok.injEq]
      intro d hd
      exact hvalid.plannedYield d hd
  · intro hplain
    have hrequired := hplain.required
    simp only [List.forall_mem_cons, hquantity, hclean, haccrued, hcommission, Option.some.injEq,
      forall_eq'] at hrequired
    obtain ⟨hq, hc, ha, hm, -⟩ := hrequired
    have hexits := hplain.exits
    simp only [List.forall_mem_cons, h.redemption, hsale, Except.ok.injEq] at hexits
    obtain ⟨hredemptionExit, hsaleExit, -⟩ := hexits
    constructor
    case quantity => exact ⟨hq, hpositive⟩
    case cleanPrice => exact ⟨hc, hcleanSign⟩
    case accruedInterest => exact ⟨ha, haccruedSign⟩
    case commission => exact ⟨hm, hcommissionSign⟩
    case targetEventType =>
      obtain ⟨text, -, hevent⟩ := h.event
      exact eventType_valid hevent
    case targetRedemption => exact fun d hd => hredemptionExit d hd
    case reason => exact fun s hs => nomatch hs
    case saleCommission =>
      show FieldNonneg parsed.saleCommissionRubPerBond
      rw [hparsedSale]
      cases sale with
      | none => exact ⟨⟨0, rfl⟩, le_refl (0 : ℚ)⟩
      | some d => exact hsaleExit d rfl
    case plannedYield =>
      intro d hd
      apply hplain.reference d
      rw [h.plannedYield]
      exact congrArg Except.ok hd

/-! ## Imports and the schema -/

/-- The rows of a preview that meet the schema, and stored lots that the engine accepts. -/
structure AdmitsLikeApi (p : ImportPreview) : Prop where
  rows : ∀ row ∈ p.rows, row.asLotCreate.FieldsValid
  lots : ∀ (upload : Option UploadId) (db db' : Database) (owner : UserId) (draw : ImportDraw)
    (batch : ImportBatchModel),
    importCommit db owner { p with uploadId := upload } draw = .ok (db', batch, false) →
    ∀ lot ∈ db'.val.portfolio.lots, lot ∉ db.val.portfolio.lots → lot.AmountsAccepted

theorem admitsLikeApi_iff {p : ImportPreview} :
    AdmitsLikeApi p ↔ ∀ row ∈ p.rows, row.asLotCreate.FieldsValid := by
  constructor
  · exact AdmitsLikeApi.rows
  · intro hrows
    refine ⟨hrows, ?_⟩
    intro upload db db' owner draw batch hcommit lot hlot hnew
    have hpositive := db'.property.portfolio.quantities lot hlot
    obtain ⟨row, hrow, instrument, id, now, rfl⟩ := importCommit_stored hcommit hlot hnew
    exact importedLot_amountsAccepted (hrows row hrow) _ _ _ _ _ _ hpositive

/-- **An import admits what the API admits, exactly when the cells of every row that passes
its checks read plain amounts**: no infinity in a required column, and in the columns N, R and
V no number that is not finite, or in N and R negative. -/
theorem imports_admit_iff {libraries : SpreadsheetLibraries} {sha256 : Bytes → String}
    {content : Bytes} {fileName requested : String} {sheets : List SpreadsheetSheet}
    {p : ImportPreview} (hload : loadSheets libraries content fileName = .ok sheets)
    (h : previewSpreadsheet libraries sha256 content fileName requested = .ok p) :
    ∃ sheet header column, IsChosen sheets requested sheet ∧ IsHeader sheet header column ∧
      (AdmitsLikeApi p ↔
        ∀ row ∈ blockOf sheet header,
          RowPasses (SpreadsheetRow.cell (sheet.rowAt row)) column →
            PlainAmounts (SpreadsheetRow.cell (sheet.rowAt row))) := by
  obtain ⟨sheet, header, column, hchosen, hheader, -, rfl⟩ := chosen_of_preview hload h
  refine ⟨sheet, header, column, hchosen, hheader, ?_⟩
  rw [admitsLikeApi_iff]
  constructor
  · intro hvalid row hrow hpasses
    obtain ⟨parsed, hparsed⟩ := parseCells_returns_iff.mpr hpasses
    have haccepted : acceptedRow column row (sheet.rowAt row) = some parsed := by
      rw [acceptedRow, hparsed]
    apply (fieldsValid_iff (parseCells_eq_ok hparsed)).mp
    exact hvalid parsed (List.mem_filterMap.mpr ⟨row, hrow, haccepted⟩)
  · intro hplain parsed hmem
    obtain ⟨row, hrow, haccepted⟩ := List.mem_filterMap.mp hmem
    unfold acceptedRow at haccepted
    split at haccepted
    · rename_i hparse
      obtain rfl := Option.some.inj haccepted
      apply (fieldsValid_iff (parseCells_eq_ok hparse)).mpr
      exact hplain row hrow (parseCells_returns_iff.mp ⟨_, hparse⟩)
    · cases haccepted

/-- One purchase with a negative exit commission in column R. -/
def negativeCommissionRows : List (List SpreadsheetValue) :=
  [purchaseRow (.number "40") (.number "962.9") (.text "-1")]

theorem preview_negativeCommission :
    ∃ p, previewSpreadsheet (calamineWorkbook negativeCommissionRows) (fun _ => "") []
        "portfolio.xls" defaultSheetName = .ok p ∧
      ∃ row ∈ p.rows, row.saleCommissionRubPerBond = .finite (-1) := by
  have hread : (previewSpreadsheet (calamineWorkbook negativeCommissionRows) (fun _ => "") []
      "portfolio.xls" defaultSheetName).toOption.map
        (fun p => p.rows.map ImportRow.saleCommissionRubPerBond) = some [.finite (-1)] := by
    decide +kernel
  cases h : previewSpreadsheet (calamineWorkbook negativeCommissionRows) (fun _ => "") []
      "portfolio.xls" defaultSheetName with
  | error e =>
      rw [h] at hread
      cases hread
  | ok p =>
      rw [h] at hread
      have hsales : p.rows.map ImportRow.saleCommissionRubPerBond = [.finite (-1)] :=
        Option.some.inj hread
      refine ⟨p, rfl, List.mem_map.mp ?_⟩
      rw [hsales]
      exact List.mem_singleton.mpr rfl

/-- A commission without decimals is stored as it is. -/
theorem stored_minus_one : MONEY.stored (.finite (-1)) = .finite (-1) := by
  decide +kernel

theorem not_nonneg_minus_one : ¬ (Decimal.finite (-1)).Nonneg := by
  decide

/-- **A row with a negative exit commission is accepted**, which `LotCreate` refuses, and the
engine refuses the amounts of every lot that carries it. -/
theorem import_admits_negative_commission :
    ∃ p, previewSpreadsheet (calamineWorkbook negativeCommissionRows) (fun _ => "") []
        "portfolio.xls" defaultSheetName = .ok p ∧
      ∃ row ∈ p.rows, ¬ row.asLotCreate.FieldsValid ∧
        ∀ owner batch sheetName instrument id now,
          ¬ (importedLot owner batch sheetName row instrument id now).AmountsAccepted := by
  obtain ⟨p, hp, row, hrow, hsale⟩ := preview_negativeCommission
  refine ⟨p, hp, row, hrow, ?_, ?_⟩
  · intro hvalid
    have hnonneg : row.saleCommissionRubPerBond.Nonneg := hvalid.saleCommission.2
    rw [hsale] at hnonneg
    exact not_nonneg_minus_one hnonneg
  · intro owner batch sheetName instrument id now haccepted
    have hexit : ∃ redemption,
        row.targetRedemptionPriceRubPerBond.map MONEY.stored = some redemption ∨
          row.targetRedemptionPriceRubPerBond.map MONEY.stored = none ∧ redemption.Nonneg := by
      cases row.targetRedemptionPriceRubPerBond.map MONEY.stored with
      | none => exact ⟨ZERO, Or.inr ⟨rfl, le_refl (0 : ℚ)⟩⟩
      | some price => exact ⟨price, Or.inl rfl⟩
    obtain ⟨redemption, hredemption⟩ := hexit
    have hchecks := (haccepted redemption [] (defaultSettings 0 0) hredemption).1
    have hcompared : ((MONEY.stored row.saleCommissionRubPerBond).lt ZERO : Except PyError Bool) =
        .ok false := (Py.orM_eq_false_iff.mp hchecks).2
    rw [hsale, stored_minus_one] at hcompared
    exact not_nonneg_minus_one ((Decimal.lt_zero_eq_ok.mp hcompared).2.mp rfl)

theorem imports_admit_iff_negativeCommission :
    ∃ sheet header column,
      IsChosen (calamineSheets negativeCommissionRows) defaultSheetName sheet ∧
      IsHeader sheet header column ∧
      ∃ row ∈ blockOf sheet header,
        RowPasses (SpreadsheetRow.cell (sheet.rowAt row)) column ∧
          ¬ PlainAmounts (SpreadsheetRow.cell (sheet.rowAt row)) := by
  obtain ⟨p, hp, row, hrow, hsale⟩ := preview_negativeCommission
  obtain ⟨sheet, header, column, hchosen, hheader, hiff⟩ :=
    imports_admit_iff (loadSheets_calamine negativeCommissionRows) hp
  refine ⟨sheet, header, column, hchosen, hheader, ?_⟩
  by_contra hplain
  push Not at hplain
  have hnonneg : row.saleCommissionRubPerBond.Nonneg :=
    ((hiff.mpr hplain).rows row hrow).saleCommission.2
  rw [hsale] at hnonneg
  exact not_nonneg_minus_one hnonneg

end BondTrading
