/-
# BondTrading.Sheets.Addresses -- a range names one cell of one worksheet

The name of a worksheet stands between apostrophes and may hold anything.  What follows it
begins with an exclamation mark, so that the closing apostrophe is the first one alone; the
letters of the column end where the digits of the row begin.
-/
import BondTrading.Py.Numerals
import BondTrading.Sheets.Google

namespace BondTrading

/-- A cell that can be named: a column `normalize_column` accepts, in capital letters, and a
row of the sheet. -/
structure CellUpdate.Addressed (update : CellUpdate) : Prop where
  accepted : (normalizeColumn update.column).isOk
  capitals : ∀ c ∈ update.column.toList, c.isUpper
  row : 1 ≤ update.rowNumber

theorem quoteWorksheet_toList (value : String) :
    (quoteWorksheet value).toList = Codes.quoted apostrophe value.toList := by
  rw [quoteWorksheet, String.toList_ofList]
  rfl

theorem cellRange_toList (worksheetName column : String) (rowNumber : ℕ) :
    (GoogleServiceAccountSheetsGateway.cellRange worksheetName column rowNumber).toList =
      Codes.quoted apostrophe worksheetName.toList ++
        '!' :: (column.toList ++ Nat.toDigits 10 rowNumber) := by
  simp [GoogleServiceAccountSheetsGateway.cellRange, quoteWorksheet_toList]

theorem isUpper_iff {c : Char} : c.isUpper ↔ 65 ≤ c.toNat ∧ c.toNat ≤ 90 := by
  show decide (c.val ≥ 'A'.val ∧ c.val ≤ 'Z'.val) = true ↔ _
  simp [UInt32.le_iff_toNat_le, ← Char.toNat_val]

theorem isUpper_of_mem_toDigits {c : Char} {n : ℕ} (h : c ∈ Nat.toDigits 10 n) :
    c.isUpper = false := by
  have hdigit := Nat.isDigit_of_mem_toDigits (by decide) (by decide) h
  have hnine : c.toNat ≤ 57 := by
    simp only [Char.isDigit, Bool.and_eq_true, decide_eq_true_eq] at hdigit
    exact UInt32.le_iff_toNat_le.mp hdigit.2
  rw [← Bool.not_eq_true, isUpper_iff]
  omega

theorem toDigits_injective {n m : ℕ} (h : Nat.toDigits 10 n = Nat.toDigits 10 m) : n = m := by
  have hvalue := congrArg (fun digits => Nat.ofDigitChars 10 digits 0) h
  simpa using hvalue

/-- **A range names one cell**: whatever the worksheets are called, two updates with the same
range are updates of the same cell of the same worksheet. -/
theorem update_ranges_injective (g : GoogleServiceAccountSheetsGateway)
    {worksheetName worksheetName' : String} {update update' : CellUpdate}
    (hupdate : update.Addressed) (hupdate' : update'.Addressed)
    (h : (g.updateRange worksheetName update).range =
      (g.updateRange worksheetName' update').range) :
    worksheetName = worksheetName' ∧ update.column = update'.column ∧
      update.rowNumber = update'.rowNumber := by
  have hchars := congrArg String.toList h
  simp only [GoogleServiceAccountSheetsGateway.updateRange, cellRange_toList] at hchars
  -- the name ends at the first apostrophe that no apostrophe follows
  obtain ⟨hname, hrest⟩ := Codes.quoted_append_inj (by simp [apostrophe])
    (by simp [apostrophe]) hchars
  have hcell := List.tail_eq_of_cons_eq hrest
  -- the column ends at the first character that is no capital letter
  obtain ⟨hcolumn, hrow⟩ := Codes.span_append_inj Char.isUpper hupdate.capitals
    hupdate'.capitals
    (fun c hc => isUpper_of_mem_toDigits (List.mem_of_mem_head? hc))
    (fun c hc => isUpper_of_mem_toDigits (List.mem_of_mem_head? hc)) hcell
  exact ⟨String.toList_inj.mp hname, String.toList_inj.mp hcolumn, toDigits_injective hrow⟩

def clearedCell : CellUpdate := ⟨10, "XFD", .none⟩

def filledCell : CellUpdate := ⟨10, "XFD", .text "FRESH"⟩

/-- A gateway without a network. -/
def idleGateway : GoogleServiceAccountSheetsGateway where
  retries := 3
  attempt := fun _ _ => .failed "no network"
  statusError := fun _ => .external "no network"
  float := Py.Decimal.str

/-- Two updates of one cell, on a worksheet whose name reads like a range of another one. -/
theorem update_ranges_injective_apostrophes :
    "Bonds'!A1:'" = "Bonds'!A1:'" ∧ clearedCell.column = filledCell.column ∧
      clearedCell.rowNumber = filledCell.rowNumber := by
  have hcleared : clearedCell.Addressed :=
    ⟨by decide +kernel, List.all_eq_true.mp (by decide), by decide⟩
  have hfilled : filledCell.Addressed :=
    ⟨by decide +kernel, List.all_eq_true.mp (by decide), by decide⟩
  have hrange : (idleGateway.updateRange "Bonds'!A1:'" clearedCell).range =
      (idleGateway.updateRange "Bonds'!A1:'" filledCell).range := rfl
  exact update_ranges_injective idleGateway hcleared hfilled hrange

end BondTrading
