/-
# BondTrading.Sheets.Columns -- columns are numbered in base 26 without a zero

The letters A..Z stand for 1..26 and a column text for the number they write.
`column_number` and `column_name` are the two directions; an accepted column is a text of
capital letters with a number from 1 to 16 384.
-/
import BondTrading.Sheets.Addresses

namespace BondTrading

open Py (raiseIf_eq_ok bind_eq_ok)

/-- The number that capital letters write: the first one counts most. -/
def lettersValue : List Char → ℕ
  | [] => 0
  | c :: cs => (c.toNat - 64) * 26 ^ cs.length + lettersValue cs

/-! ## From the letters to the number -/

theorem foldl_lettersValue {cs : List Char} (h : ∀ c ∈ cs, c.isUpper) (n : ℕ) :
    cs.foldl (fun result character => result * 26 + character.toNat - 'A'.toNat + 1) n =
      n * 26 ^ cs.length + lettersValue cs := by
  induction cs generalizing n with
  | nil => simp [lettersValue]
  | cons c cs ih =>
      have hc : 65 ≤ c.toNat := (isUpper_iff.mp (h c (by simp))).1
      have hstep : n * 26 + c.toNat - 'A'.toNat + 1 = n * 26 + (c.toNat - 64) := by
        have hA : 'A'.toNat = 65 := rfl
        omega
      rw [List.foldl_cons, ih (fun d hd => h d (by simp [hd])), hstep, lettersValue,
        List.length_cons]
      ring

theorem columnNumber_eq {value : String} (h : ∀ c ∈ value.toList, c.isUpper) :
    columnNumber value = lettersValue value.toList := by
  rw [columnNumber, foldl_lettersValue h, Nat.zero_mul, Nat.zero_add]

theorem lettersValue_pos {cs : List Char} (h : ∀ c ∈ cs, c.isUpper) (hne : cs ≠ []) :
    1 ≤ lettersValue cs := by
  cases cs with
  | nil => exact absurd rfl hne
  | cons c cs =>
      have hc : 65 ≤ c.toNat := (isUpper_iff.mp (h c (by simp))).1
      have hdigit : 1 ≤ (c.toNat - 64) * 26 ^ cs.length :=
        Nat.mul_pos (by omega) (by positivity)
      rw [lettersValue]
      omega

/-! ## From the number to the letters -/

theorem toNat_letter {r : ℕ} (h : r < 26) : (Char.ofNat ('A'.toNat + r)).toNat = 65 + r := by
  interval_cases r <;> rfl

/-- The loop puts the letters of a number in front of those it has. -/
theorem lettersValue_columnLetters (n : ℕ) (result : List Char) :
    lettersValue (columnLetters n result) = n * 26 ^ result.length + lettersValue result := by
  fun_induction columnLetters n result with
  | case1 result => simp
  | case2 current result hcurrent ih =>
      have hlast := Nat.mod_lt (current - 1) (show 26 > 0 by decide)
      have hsplit : (current - 1) / 26 * 26 + (65 + (current - 1) % 26 - 64) = current := by
        omega
      rw [ih, lettersValue, toNat_letter hlast, List.length_cons]
      calc (current - 1) / 26 * 26 ^ (result.length + 1) +
            ((65 + (current - 1) % 26 - 64) * 26 ^ result.length + lettersValue result)
          = ((current - 1) / 26 * 26 + (65 + (current - 1) % 26 - 64)) * 26 ^ result.length +
              lettersValue result := by ring
        _ = current * 26 ^ result.length + lettersValue result := by rw [hsplit]

theorem columnLetters_isUpper (n : ℕ) (result : List Char) (h : ∀ c ∈ result, c.isUpper) :
    ∀ c ∈ columnLetters n result, c.isUpper := by
  fun_induction columnLetters n result with
  | case1 result => exact h
  | case2 current result hcurrent ih =>
      refine ih ?_
      intro c hc
      rcases List.mem_cons.mp hc with rfl | hc
      · have hlast := Nat.mod_lt (current - 1) (show 26 > 0 by decide)
        rw [isUpper_iff, toNat_letter hlast]
        omega
      · exact h c hc

/-- **The name of a number** is made of capital letters that write the number. -/
theorem columnName_spec {n : ℕ} (hlo : 1 ≤ n) (hhi : n ≤ 16384) :
    ∃ name, columnName n = .ok name ∧ (∀ c ∈ name.toList, c.isUpper) ∧
      lettersValue name.toList = n := by
  refine ⟨String.ofList (columnLetters n []), ?_, ?_, ?_⟩
  · rw [columnName, raiseIf_eq_ok (u := ()).mpr (by omega)]
    rfl
  · rw [String.toList_ofList]
    exact columnLetters_isUpper n [] (by simp)
  · rw [String.toList_ofList, lettersValue_columnLetters]
    simp [lettersValue]

/-! ## Accepted columns -/

theorem isUpper_toUpper {c : Char} (halpha : c.toUpper.isAlpha) : c.toUpper.isUpper := by
  unfold Char.toUpper at halpha ⊢
  split
  · rename_i hlower
    have hlo : 97 ≤ c.val.toNat := UInt32.le_iff_toNat_le.mp hlower.1
    have hhi : c.val.toNat ≤ 122 := UInt32.le_iff_toNat_le.mp hlower.2
    rw [isUpper_iff]
    show 65 ≤ (c.val + ('A'.val - 'a'.val)).toNat ∧ (c.val + ('A'.val - 'a'.val)).toNat ≤ 90
    have hsub : ('A'.val - 'a'.val).toNat = 4294967264 := rfl
    rw [UInt32.toNat_add, hsub]
    omega
  · rename_i hlower
    rw [dif_neg hlower] at halpha
    refine ((Bool.or_eq_true _ _).mp halpha).resolve_right ?_
    show ¬ (decide (c.val ≥ 'a'.val) && decide (c.val ≤ 'z'.val)) = true
    simpa using hlower

/-- A letter of an upper case is a capital letter. -/
theorem isUpper_of_mem_upperChars {cs : List Char} {d : Char} (h : d ∈ Py.Text.upperChars cs)
    (halpha : d.isAlpha) : d.isUpper := by
  obtain ⟨c, -, hd⟩ := List.mem_flatMap.mp h
  unfold Py.Text.upperChar at hd
  split at hd
  case h_11 =>
    obtain rfl := List.mem_singleton.mp hd
    exact isUpper_toUpper halpha
  all_goals
    simp only [List.mem_cons, List.not_mem_nil, or_false] at hd
    rcases hd with rfl | rfl | rfl <;> rfl

/-- **An accepted column**: capital letters with a number from 1 to 16 384. -/
theorem normalizeColumn_spec {value column : String} (h : normalizeColumn value = .ok column) :
    (∀ c ∈ column.toList, c.isUpper) ∧ 1 ≤ columnNumber column ∧ columnNumber column ≤ 16384 := by
  obtain ⟨_, -, hchecked⟩ := bind_eq_ok.mp h
  obtain ⟨_, hvalid, hcolumn⟩ := bind_eq_ok.mp hchecked
  obtain rfl := Except.ok.inj hcolumn
  have hvalid := raiseIf_eq_ok.mp hvalid
  simp only [isColumnName, Bool.and_eq_true, List.all_eq_true, decide_eq_true_eq, not_or, not_not,
    not_lt] at hvalid
  obtain ⟨⟨⟨halpha, hlength⟩, -⟩, hnumber⟩ := hvalid
  have hupper : ∀ c ∈ (Py.Text.upper (Py.Text.strip value)).toList, c.isUpper := by
    intro c hc
    have hmem := hc
    rw [Py.Text.upper, String.toList_ofList] at hmem
    exact isUpper_of_mem_upperChars hmem (halpha c hc)
  refine ⟨hupper, ?_, hnumber⟩
  rw [columnNumber_eq hupper]
  refine lettersValue_pos hupper ?_
  rintro hnil
  rw [hnil] at hlength
  cases hlength

end BondTrading
