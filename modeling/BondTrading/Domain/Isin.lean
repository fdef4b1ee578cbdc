/-
# BondTrading.Domain.Isin -- ISIN codes

`domain/value_objects/isin.py`.
-/
import BondTrading.Domain.Models
import BondTrading.Py.Outcome
import BondTrading.Py.Text
import Mathlib.Tactic.IntervalCases

namespace BondTrading

open Py (raiseIf)

def isUpper (c : Char) : Bool := 'A' ≤ c && c ≤ 'Z'

def isDigit (c : Char) : Bool := '0' ≤ c && c ≤ '9'

/-- `ISIN_PATTERN.fullmatch`: two letters, nine letters or digits, one digit. -/
def isIsinPattern (value : List Char) : Bool :=
  value.length = 12 && (value.take 2).all isUpper &&
    ((value.drop 2).take 9).all (fun c => isUpper c || isDigit c) &&
    (value.drop 11).all isDigit

/-- The digits of `str(ord(char) - 55)` for a letter, the digit itself otherwise. -/
def expandChar (c : Char) : List ℕ :=
  if isUpper c then [(c.toNat - 55) / 10, (c.toNat - 55) % 10] else [c.toNat - '0'.toNat]

/-- One round of the loop of `_valid_check_digit`: the total, and whether the digit is
doubled. -/
def checkDigitStep (acc : ℕ × Bool) (digit : ℕ) : ℕ × Bool :=
  let counted := if acc.2 then digit * 2 / 10 + digit * 2 % 10 else digit
  (acc.1 + counted, !acc.2)

def validCheckDigit (value : List Char) : Bool :=
  (((value.flatMap expandChar).reverse.foldl checkDigitStep (0, false)).1 % 10) = 0

def invalidIsin (message value : String) : PyError :=
  .domain .invalidIsin message (.text value)

def validateIsin (value : String) : Except PyError Unit := do
  raiseIf (¬ isIsinPattern value.toList)
    (invalidIsin "ISIN must contain 12 valid uppercase characters" value)
  raiseIf (¬ validCheckDigit value.toList) (invalidIsin "ISIN check digit is invalid" value)

def normalizeIsin (value : String) : Except PyError String := do
  let normalized := Py.Text.upper (Py.Text.strip value)
  validateIsin normalized
  return normalized

example : normalizeIsin " ru000a107sx3" = .ok "RU000A107SX3" := by decide +kernel

/-! ## Normalizing twice -/

theorem validateIsin_eq_ok {value : String} {u : Unit} (h : validateIsin value = .ok u) :
    isIsinPattern value.toList = true := by
  simp only [validateIsin, Py.bind_eq_ok, Py.raiseIf_eq_ok] at h
  obtain ⟨_, hpattern, -⟩ := h
  exact not_not.mp hpattern

theorem upperChar_of_isin {c : Char} (h : isUpper c = true ∨ isDigit c = true) :
    Py.Text.upperChar c = [c] ∧ Py.Text.isSpace c = false := by
  have hrange : 48 ≤ c.toNat ∧ c.toNat ≤ 57 ∨ 65 ≤ c.toNat ∧ c.toNat ≤ 90 := by
    rcases h with h | h
    · simp only [isUpper, Bool.and_eq_true, decide_eq_true_eq] at h
      exact Or.inr h
    · simp only [isDigit, Bool.and_eq_true, decide_eq_true_eq] at h
      exact Or.inl h
  obtain ⟨n, hn⟩ : ∃ n, c.toNat = n := ⟨_, rfl⟩
  have hc : c = Char.ofNat n := by rw [← hn, Char.ofNat_toNat]
  rw [hn] at hrange
  subst hc
  rcases hrange with ⟨hlo, hhi⟩ | ⟨hlo, hhi⟩ <;> interval_cases n <;> decide

/-- The characters of a valid ISIN are capital letters and digits. -/
theorem isIsinPattern_chars {value : List Char} (h : isIsinPattern value = true) :
    ∀ c ∈ value, isUpper c = true ∨ isDigit c = true := by
  simp only [isIsinPattern, Bool.and_eq_true, List.all_eq_true, Bool.or_eq_true] at h
  obtain ⟨⟨⟨-, hletters⟩, hmiddle⟩, hcheck⟩ := h
  intro c hc
  rw [← List.take_append_drop 2 value, List.mem_append] at hc
  rcases hc with hc | hc
  · exact Or.inl (hletters c hc)
  · rw [← List.take_append_drop 9 (value.drop 2), List.mem_append, List.drop_drop] at hc
    rcases hc with hc | hc
    · exact hmiddle c hc
    · exact Or.inr (hcheck c hc)

/-- **A normalized ISIN is normal.** -/
theorem normalizeIsin_idem {value isin : String} (h : normalizeIsin value = .ok isin) :
    normalizeIsin isin = .ok isin := by
  simp only [normalizeIsin, Py.bind_eq_ok] at h
  obtain ⟨_, hvalid, hreturn⟩ := h
  obtain rfl := Except.ok.inj hreturn
  generalize Py.Text.upper (Py.Text.strip value) = isin at hvalid
  have hchars := isIsinPattern_chars (validateIsin_eq_ok hvalid)
  have hstrip : Py.Text.strip isin = isin := by
    rw [Py.Text.strip, Py.Text.stripChars_of_no_space fun c hc => (upperChar_of_isin (hchars c hc)).2,
      String.ofList_toList]
  have hupper : Py.Text.upper isin = isin := by
    rw [Py.Text.upper, Py.Text.upperChars_of_fixed fun c hc => (upperChar_of_isin (hchars c hc)).1,
      String.ofList_toList]
  simp only [normalizeIsin, hstrip, hupper, hvalid, Py.ok_bind]
  rfl

end BondTrading
