/-
# BondTrading.Domain.Typos -- which typing errors the check digit of an ISIN finds

A letter stands for two digits, so which digits are doubled depends on the letters to the
right of them.  A digit that is changed, or exchanged with the digit beside it, leaves the
digits to its right where they are, and `Sums.Luhn` applies whichever way they are counted.
-/
import BondTrading.Domain.Isin
import BondTrading.Sums.Luhn

namespace BondTrading

open Sums

/-! ## The check digit as a sum -/

theorem foldl_checkDigitStep (ds : List ℕ) (acc : ℕ × Bool) :
    (ds.foldl checkDigitStep acc).1 = acc.1 + Luhn.total acc.2 ds := by
  induction ds generalizing acc with
  | nil => rfl
  | cons d ds ih =>
      rw [List.foldl_cons, ih, Luhn.total_cons, ← Nat.add_assoc]
      rfl

theorem validCheckDigit_iff {value : List Char} :
    validCheckDigit value = true ↔
      Luhn.total false (value.flatMap expandChar).reverse % 10 = 0 := by
  rw [validCheckDigit, foldl_checkDigitStep, Nat.zero_add, decide_eq_true_eq]

theorem validateIsin_iff {value : List Char} :
    validateIsin (String.ofList value) = .ok () ↔
      isIsinPattern value = true ∧ validCheckDigit value = true := by
  simp only [validateIsin, Py.bind_eq_ok, Py.raiseIf_eq_ok, String.toList_ofList, not_not]
  constructor
  · rintro ⟨_, hpattern, hdigit⟩
    exact ⟨hpattern, hdigit⟩
  · intro h
    exact ⟨(), h⟩

theorem validateIsin_error_iff {value : String} :
    (∃ e, validateIsin value = .error e) ↔ ¬ validateIsin value = .ok () := by
  cases validateIsin value with
  | error e => simp
  | ok u => simp

/-! ## Digits -/

/-- The digit a character stands for. -/
def digitOf (c : Char) : ℕ := c.toNat - '0'.toNat

section Digits

variable {c c' : Char}

theorem isDigit_iff : isDigit c = true ↔ 48 ≤ c.toNat ∧ c.toNat ≤ 57 := by
  simp only [isDigit, Bool.and_eq_true, decide_eq_true_eq]
  exact Iff.rfl

theorem digitOf_lt (h : isDigit c = true) : digitOf c < 10 := by
  have := isDigit_iff.mp h
  have : '0'.toNat = 48 := rfl
  unfold digitOf
  omega

theorem digitOf_inj (h : isDigit c = true) (h' : isDigit c' = true)
    (heq : digitOf c = digitOf c') : c = c' := by
  have := isDigit_iff.mp h
  have := isDigit_iff.mp h'
  have : '0'.toNat = 48 := rfl
  unfold digitOf at heq
  have hsame : c.toNat = c'.toNat := by omega
  rw [← Char.ofNat_toNat c, hsame, Char.ofNat_toNat]

theorem exists_digit {d : ℕ} (h : d < 10) : ∃ c, isDigit c = true ∧ digitOf c = d := by
  refine ⟨Char.ofNat (48 + d), ?_⟩
  interval_cases d <;> decide

theorem isUpper_of_digit (h : isDigit c = true) : isUpper c = false := by
  have hrange := isDigit_iff.mp h
  rw [← Bool.not_eq_true]
  simp only [isUpper, Bool.and_eq_true, decide_eq_true_eq]
  rintro ⟨hlo, -⟩
  have hlo : 65 ≤ c.toNat := hlo
  omega

theorem expandChar_digit (h : isDigit c = true) : expandChar c = [digitOf c] := by
  rw [expandChar, isUpper_of_digit h]
  rfl

/-- The digits of a text around one of them, from the right. -/
theorem expanded_reverse (h : isDigit c = true) (before after : List Char) :
    ((before ++ c :: after).flatMap expandChar).reverse =
      (after.flatMap expandChar).reverse ++ digitOf c :: (before.flatMap expandChar).reverse := by
  rw [List.flatMap_append, List.flatMap_cons, expandChar_digit h]
  simp

end Digits

/-! ## The pattern -/

/-- Two capital letters and nine capital letters or digits. -/
def IsIsinPrefix (value : List Char) : Prop :=
  value.length = 11 ∧ (∀ c ∈ value.take 2, isUpper c = true) ∧
    ∀ c ∈ value.drop 2, isUpper c = true ∨ isDigit c = true

theorem isIsinPattern_snoc {value : List Char} (h : IsIsinPrefix value) {c : Char}
    (hc : isDigit c = true) : isIsinPattern (value ++ [c]) = true := by
  obtain ⟨hlength, hletters, hrest⟩ := h
  have htake : (value ++ [c]).take 2 = value.take 2 :=
    List.take_append_of_le_length (by omega)
  have hmiddle : ((value ++ [c]).drop 2).take 9 = value.drop 2 := by
    rw [List.drop_append_of_le_length (by omega), List.take_append_of_le_length (by simp; omega)]
    exact List.take_of_length_le (by simp; omega)
  have hlast : (value ++ [c]).drop 11 = [c] := by
    rw [← hlength, List.drop_left]
  simp only [isIsinPattern, htake, hmiddle, hlast, Bool.and_eq_true, List.all_eq_true,
    Bool.or_eq_true, decide_eq_true_eq]
  refine ⟨⟨⟨by simp; omega, hletters⟩, hrest⟩, ?_⟩
  simpa using hc

/-- The pattern tells capital letters, digits and the rest apart, nothing else. -/
def SameClass (c c' : Char) : Prop := isUpper c = isUpper c' ∧ isDigit c = isDigit c'

instance : Std.Refl SameClass := ⟨fun _ => ⟨rfl, rfl⟩⟩

theorem sameClass_of_digits {c c' : Char} (hc : isDigit c = true) (hc' : isDigit c' = true) :
    SameClass c c' :=
  ⟨(isUpper_of_digit hc).trans (isUpper_of_digit hc').symm, hc.trans hc'.symm⟩

theorem all_sameClass {p : Char → Bool} (hp : ∀ c c', SameClass c c' → p c = p c')
    {value value' : List Char} (h : List.Forall₂ SameClass value value') :
    value.all p = value'.all p := by
  induction h with
  | nil => rfl
  | cons hc _ ih => rw [List.all_cons, List.all_cons, hp _ _ hc, ih]

theorem isIsinPattern_congr {value value' : List Char}
    (h : List.Forall₂ SameClass value value') : isIsinPattern value = isIsinPattern value' := by
  have hupper : ∀ c c', SameClass c c' → isUpper c = isUpper c' := fun _ _ hc => hc.1
  have hdigit : ∀ c c', SameClass c c' → isDigit c = isDigit c' := fun _ _ hc => hc.2
  have heither : ∀ c c', SameClass c c' →
      (isUpper c || isDigit c) = (isUpper c' || isDigit c') := by
    intro c c' hc
    rw [hc.1, hc.2]
  unfold isIsinPattern
  rw [h.length_eq, all_sameClass hupper (List.forall₂_take 2 h),
    all_sameClass heither (List.forall₂_take 9 (List.forall₂_drop 2 h)),
    all_sameClass hdigit (List.forall₂_drop 11 h)]

/-! ## Typing errors -/

/-- **Every prefix has one check digit.** -/
theorem existsUnique_checkDigit {value : List Char} (h : IsIsinPrefix value) :
    ∃! c : Char, isDigit c = true ∧ validateIsin (String.ofList (value ++ [c])) = .ok () := by
  obtain ⟨b, hsum⟩ := Luhn.total_append true (value.flatMap expandChar).reverse
  set rest := Luhn.total true (value.flatMap expandChar).reverse
  have hvalid : ∀ c, isDigit c = true →
      (validateIsin (String.ofList (value ++ [c])) = .ok () ↔ (digitOf c + rest) % 10 = 0) := by
    intro c hc
    rw [validateIsin_iff, validCheckDigit_iff, expanded_reverse hc]
    exact and_iff_right (isIsinPattern_snoc h hc)
  have hlt : (10 - rest % 10) % 10 < 10 := Nat.mod_lt _ (by decide)
  obtain ⟨c, hc, hvalue⟩ := exists_digit hlt
  refine ⟨c, ⟨hc, (hvalid c hc).mpr (by omega)⟩, ?_⟩
  rintro c' ⟨hc', haccepted⟩
  have hsum' := (hvalid c' hc').mp haccepted
  have hlt' := digitOf_lt hc'
  apply digitOf_inj hc' hc
  omega

/-- **A digit that was mistyped is found.** -/
theorem validateIsin_replace {c c' : Char} (hc : isDigit c = true) (hc' : isDigit c' = true)
    {before after : List Char}
    (h : validateIsin (String.ofList (before ++ c :: after)) = .ok ())
    (h' : validateIsin (String.ofList (before ++ c' :: after)) = .ok ()) : c = c' := by
  obtain ⟨-, hsum⟩ := validateIsin_iff.mp h
  obtain ⟨-, hsum'⟩ := validateIsin_iff.mp h'
  rw [validCheckDigit_iff, expanded_reverse hc] at hsum
  rw [validCheckDigit_iff, expanded_reverse hc'] at hsum'
  apply digitOf_inj hc hc'
  exact Luhn.total_replace (digitOf_lt hc) (digitOf_lt hc') (hsum.trans hsum'.symm)

/-- **Two digits that were exchanged are found**, unless they are 0 and 9. -/
theorem validateIsin_swap_iff {c c' : Char} (hc : isDigit c = true) (hc' : isDigit c' = true)
    {before after : List Char}
    (h : validateIsin (String.ofList (before ++ c :: c' :: after)) = .ok ()) :
    validateIsin (String.ofList (before ++ c' :: c :: after)) = .ok () ↔
      c = c' ∨ (c = '0' ∧ c' = '9') ∨ (c = '9' ∧ c' = '0') := by
  obtain ⟨hpattern, hsum⟩ := validateIsin_iff.mp h
  have hclass : List.Forall₂ SameClass (before ++ c :: c' :: after)
      (before ++ c' :: c :: after) :=
    List.rel_append (List.forall₂_refl before) (.cons (sameClass_of_digits hc hc')
      (.cons (sameClass_of_digits hc' hc) (List.forall₂_refl after)))
  have hexpanded : ∀ {d e : Char}, isDigit d = true → isDigit e = true →
      ((before ++ d :: e :: after).flatMap expandChar).reverse =
        (after.flatMap expandChar).reverse ++ digitOf e :: digitOf d ::
          (before.flatMap expandChar).reverse := by
    intro d e hd he
    have hfirst : before ++ d :: e :: after = (before ++ [d]) ++ e :: after := by simp
    rw [hfirst, expanded_reverse he, expanded_reverse hd]
    rfl
  have hdigits : digitOf c' = digitOf c ∨ (digitOf c' = 0 ∧ digitOf c = 9) ∨
      (digitOf c' = 9 ∧ digitOf c = 0) ↔ c = c' ∨ (c = '0' ∧ c' = '9') ∨ (c = '9' ∧ c' = '0') := by
    have hzero : ∀ {d : Char}, isDigit d = true → (digitOf d = 0 ↔ d = '0') := fun hd =>
      ⟨fun h => digitOf_inj hd (by decide) h, fun h => by rw [h]; rfl⟩
    have hnine : ∀ {d : Char}, isDigit d = true → (digitOf d = 9 ↔ d = '9') := fun hd =>
      ⟨fun h => digitOf_inj hd (by decide) h, fun h => by rw [h]; rfl⟩
    have hsame : digitOf c' = digitOf c ↔ c = c' :=
      ⟨fun h => (digitOf_inj hc' hc h).symm, fun h => by rw [h]⟩
    rw [hsame, hzero hc, hzero hc', hnine hc, hnine hc']
    exact or_congr_right ((or_congr and_comm and_comm).trans or_comm)
  rw [validCheckDigit_iff, hexpanded hc hc'] at hsum
  rw [validateIsin_iff, validCheckDigit_iff, ← isIsinPattern_congr hclass, hexpanded hc' hc,
    ← hdigits, ← Luhn.total_swap_iff (digitOf_lt hc') (digitOf_lt hc), hsum]
  exact ⟨fun h => h.2.symm, fun h => ⟨hpattern, h.symm⟩⟩

/-- **What the check digit of an ISIN finds**: it is determined by what stands before it, no
digit of an accepted ISIN can be changed alone, and of two digits side by side only 0 and 9
can be exchanged. -/
theorem isin_typos_found :
    (∀ value : List Char, IsIsinPrefix value →
      ∃! c : Char, isDigit c = true ∧ validateIsin (String.ofList (value ++ [c])) = .ok ()) ∧
    (∀ before after c c', isDigit c = true → isDigit c' = true → c ≠ c' →
      validateIsin (String.ofList (before ++ c :: after)) = .ok () →
        ∃ e, validateIsin (String.ofList (before ++ c' :: after)) = .error e) ∧
    ∀ before after c c', isDigit c = true → isDigit c' = true → c ≠ c' →
      validateIsin (String.ofList (before ++ c :: c' :: after)) = .ok () →
        ((∃ e, validateIsin (String.ofList (before ++ c' :: c :: after)) = .error e) ↔
          ¬ ((c = '0' ∧ c' = '9') ∨ (c = '9' ∧ c' = '0'))) := by
  refine ⟨fun value h => existsUnique_checkDigit h, ?_, ?_⟩
  · intro before after c c' hc hc' hne h
    rw [validateIsin_error_iff]
    exact fun h' => hne (validateIsin_replace hc hc' h h')
  · intro before after c c' hc hc' hne h
    rw [validateIsin_error_iff, validateIsin_swap_iff hc hc' h, or_iff_right hne]

theorem isin_typos_found_ru000a107sx3 :
    (∃! c : Char, isDigit c = true ∧
      validateIsin (String.ofList ("RU000A107SX".toList ++ [c])) = .ok ()) ∧
    (∃ e, validateIsin "RU000A108SX3" = .error e) ∧
    ∃ e, validateIsin "RU000A170SX3" = .error e := by
  obtain ⟨hhead, hreplace, hswap⟩ := isin_typos_found
  have hprefix : IsIsinPrefix "RU000A107SX".toList := by
    have hrest : ("RU000A107SX".toList.drop 2).all (fun c => isUpper c || isDigit c) = true := by
      decide
    refine ⟨rfl, List.all_eq_true.mp (by decide), fun c hc => ?_⟩
    exact (Bool.or_eq_true _ _).mp (List.all_eq_true.mp hrest c hc)
  refine ⟨hhead _ hprefix, ?_, ?_⟩
  · exact hreplace "RU000A10".toList "SX3".toList '7' '8' rfl rfl (by decide) (by decide +kernel)
  · exact (hswap "RU000A1".toList "SX3".toList '0' '7' rfl rfl (by decide)
      (by decide +kernel)).mpr (by decide)

end BondTrading
