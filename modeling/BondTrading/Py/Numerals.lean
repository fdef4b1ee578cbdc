/-
# BondTrading.Py.Numerals -- `str(Decimal)`, and reading it back

`str` of a finite value is its plain numeral, with as many places as the value needs, and
`Decimal(..)` of the numeral is the value again.
-/
import BondTrading.Py.Text
import Mathlib.Data.Nat.Digits.Lemmas

namespace BondTrading.Py

namespace Text

open Decimal (contextPrecision coefficient)

/-! ## Digits -/

/-- The decimal digits of `n`, the most significant first, filled up to a width. -/
def digitsOf (width n : ℕ) : List ℕ := (Nat.digitsAppend 10 width n).reverse

theorem lt_ten_of_mem_digitsOf {width n d : ℕ} (h : d ∈ digitsOf width n) : d < 10 :=
  Nat.lt_of_mem_digitsAppend (b := 10) (by decide) width d (List.mem_reverse.mp h)

/-- **The digits of a number give the number.** -/
theorem digitsValue_digitsOf (width n : ℕ) : digitsValue (digitsOf width n) = n := by
  have hfold : ∀ ds : List ℕ, digitsValue ds.reverse = Nat.ofDigits 10 ds := by
    intro ds
    induction ds with
    | nil => rfl
    | cons d ds ih =>
        rw [List.reverse_cons, Nat.ofDigits_cons, ← ih]
        unfold digitsValue
        rw [List.foldl_append]
        show 10 * _ + d = d + 10 * _
        omega
  rw [digitsOf, hfold, Nat.digitsAppend, Nat.ofDigits_append_replicate_zero, Nat.ofDigits_digits]

theorem length_digitsOf (width n : ℕ) :
    (digitsOf width n).length = max width (Nat.digits 10 n).length := by
  rw [digitsOf, List.length_reverse, Nat.digitsAppend, List.length_append, List.length_replicate]
  omega

theorem digit?_digitChar : ∀ d < 10, digit? (Nat.digitChar d) = some d := by decide

/-- A run of digits ends where no digit follows. -/
theorem spanDigits_map {ds : List ℕ} (hds : ∀ d ∈ ds, d < 10) {rest : List Char}
    (hrest : ∀ c tail, rest = c :: tail → digit? c = none) :
    spanDigits (ds.map Nat.digitChar ++ rest) = (ds, rest) := by
  induction ds with
  | nil =>
      cases rest with
      | nil => rfl
      | cons c tail =>
          show spanDigits (c :: tail) = _
          rw [spanDigits, hrest c tail rfl]
  | cons d ds ih =>
      show spanDigits (Nat.digitChar d :: (ds.map Nat.digitChar ++ rest)) = _
      rw [spanDigits, digit?_digitChar d (hds d List.mem_cons_self),
        ih fun d' hd' => hds d' (List.mem_cons_of_mem _ hd')]

/-! ## Numerals -/

/-- The numeral of `n / 10 ^ places`. -/
def numeralChars (places n : ℕ) : List Char :=
  let digits := digitsOf (places + 1) n
  let whole := digits.take (digits.length - places)
  let frac := digits.drop (digits.length - places)
  whole.map Nat.digitChar ++ if places = 0 then [] else '.' :: frac.map Nat.digitChar

theorem length_digitsOf_le {places n : ℕ} (hplaces : places ≤ contextPrecision)
    (hn : n < 10 ^ contextPrecision) : (digitsOf (places + 1) n).length ≤ 29 := by
  have hlength : (Nat.digits 10 n).length ≤ contextPrecision :=
    (Nat.digits_length_le_iff (by decide) n).mpr hn
  rw [length_digitsOf]
  unfold contextPrecision at hplaces hlength
  omega

/-- Behind the point stands the second run of digits. -/
theorem numeral?_point {cs rest : List Char} {whole : List ℕ}
    (hwhole : spanDigits cs = (whole, '.' :: rest)) :
    numeral? cs = if whole = [] ∧ (spanDigits rest).1 = [] then none
      else match exponent? (spanDigits rest).2 with
        | none => none
        | some e =>
            if maxExponent < e - ((spanDigits rest).1.length : ℤ) +
                (whole ++ (spanDigits rest).1).length - 1 ∨
                e - ((spanDigits rest).1.length : ℤ) < -(2 * maxExponent - 1) then none
            else some ((digitsValue (whole ++ (spanDigits rest).1) : ℚ) *
              10 ^ (e - ((spanDigits rest).1.length : ℤ))) := by
  unfold numeral?
  rw [hwhole]
  rfl

/-- A numeral with these digits before and after the point. -/
theorem numeral?_of_spans {cs afterWhole : List Char} {whole frac : List ℕ}
    (hwhole : spanDigits cs = (whole, afterWhole)) (hne : whole ≠ [])
    (hfrac : (afterWhole = [] ∧ frac = []) ∨
      ∃ rest, afterWhole = '.' :: rest ∧ spanDigits rest = (frac, []))
    (hlength : (whole ++ frac).length ≤ 29) :
    numeral? cs = some ((digitsValue (whole ++ frac) : ℚ) / 10 ^ frac.length) := by
  have hbound : ¬ (maxExponent < 0 - (frac.length : ℤ) + (whole ++ frac).length - 1 ∨
      0 - (frac.length : ℤ) < -(2 * maxExponent - 1)) := by
    rw [List.length_append] at hlength ⊢
    unfold maxExponent
    omega
  have hpower : (digitsValue (whole ++ frac) : ℚ) * 10 ^ (0 - (frac.length : ℤ)) =
      digitsValue (whole ++ frac) / 10 ^ frac.length := by
    rw [zero_sub, zpow_neg, zpow_natCast, div_eq_mul_inv]
  rcases hfrac with ⟨rfl, rfl⟩ | ⟨rest, rfl, hrest⟩
  · unfold numeral?
    rw [hwhole]
    show (if whole = [] ∧ _ then _ else if _ then _ else _) = _
    rw [if_neg fun h => hne h.1, if_neg hbound, hpower]
  · rw [numeral?_point hwhole, hrest]
    show (if whole = [] ∧ _ then _ else if _ then _ else _) = _
    rw [if_neg fun h => hne h.1, if_neg hbound, hpower]

/-- **A numeral is read back.** -/
theorem numeral?_numeralChars {places n : ℕ} (hplaces : places ≤ contextPrecision)
    (hn : n < 10 ^ contextPrecision) :
    numeral? (numeralChars places n) = some ((n : ℚ) / 10 ^ places) := by
  have hlength := length_digitsOf_le hplaces hn
  have hwidth : places + 1 ≤ (digitsOf (places + 1) n).length := by
    rw [length_digitsOf]
    exact le_max_left _ _
  have hten : ∀ d ∈ digitsOf (places + 1) n, d < 10 := fun d hd => lt_ten_of_mem_digitsOf hd
  have hvalue := digitsValue_digitsOf (places + 1) n
  unfold numeralChars
  generalize digitsOf (places + 1) n = digits at hlength hwidth hten hvalue
  dsimp only
  have hsplit := List.take_append_drop (digits.length - places) digits
  have hfrac : (digits.drop (digits.length - places)).length = places := by
    rw [List.length_drop]
    omega
  have hwhole : digits.take (digits.length - places) ≠ [] := by
    intro hnil
    rw [hnil, List.nil_append] at hsplit
    rw [hsplit] at hfrac
    omega
  have htake : ∀ d ∈ digits.take (digits.length - places), d < 10 := fun d hd =>
    hten d (List.mem_of_mem_take hd)
  have hdrop : ∀ d ∈ digits.drop (digits.length - places), d < 10 := fun d hd =>
    hten d (List.mem_of_mem_drop hd)
  have hread : numeral? ((digits.take (digits.length - places)).map Nat.digitChar ++
      if places = 0 then [] else '.' :: (digits.drop (digits.length - places)).map Nat.digitChar) =
        some ((digitsValue (digits.take (digits.length - places) ++
          digits.drop (digits.length - places)) : ℚ) /
            10 ^ (digits.drop (digits.length - places)).length) := by
    rw [← hsplit] at hlength
    by_cases hzero : places = 0
    · rw [if_pos hzero]
      refine numeral?_of_spans (spanDigits_map htake fun _ _ h => nomatch h) hwhole
        (Or.inl ⟨rfl, ?_⟩) hlength
      exact List.length_eq_zero_iff.mp (hfrac.trans hzero)
    · rw [if_neg hzero]
      refine numeral?_of_spans (spanDigits_map htake ?_) hwhole (Or.inr ⟨_, rfl, ?_⟩) hlength
      · rintro c tail h
        obtain ⟨rfl, -⟩ := List.cons.inj h
        decide
      · have hend := spanDigits_map hdrop (fun _ _ h => nomatch (h : ([] : List Char) = _))
        rw [List.append_nil] at hend
        exact hend
  rw [hread, hsplit, hvalue, hfrac]

/-! ## Texts -/

/-- A character of a plain numeral. -/
def IsPlain (c : Char) : Prop := c = '-' ∨ c = '.' ∨ ∃ d < 10, c = Nat.digitChar d

theorem IsPlain.cases {P : Char → Prop} (hsign : P '-') (hpoint : P '.')
    (hdigit : ∀ d < 10, P (Nat.digitChar d)) {c : Char} (h : IsPlain c) : P c := by
  rcases h with rfl | rfl | ⟨d, hd, rfl⟩
  · exact hsign
  · exact hpoint
  · exact hdigit d hd

theorem isPlain_of_mem_numeralChars {places n : ℕ} {c : Char} (h : c ∈ numeralChars places n) :
    IsPlain c := by
  have hdigits : ∀ {digits : List ℕ}, (∀ d ∈ digits, d ∈ digitsOf (places + 1) n) →
      ∀ c ∈ digits.map Nat.digitChar, IsPlain c := by
    intro digits hsub c hc
    obtain ⟨d, hd, rfl⟩ := List.mem_map.mp hc
    exact Or.inr (Or.inr ⟨d, lt_ten_of_mem_digitsOf (hsub d hd), rfl⟩)
  rcases List.mem_append.mp h with h | h
  · exact hdigits (fun d hd => List.mem_of_mem_take hd) c h
  · split at h
    · exact absurd h List.not_mem_nil
    · rcases List.mem_cons.mp h with rfl | h
      · exact Or.inr (Or.inl rfl)
      · exact hdigits (fun d hd => List.mem_of_mem_drop hd) c h

/-- A numeral begins with a digit. -/
theorem numeralChars_head (places n : ℕ) :
    ∃ d rest, d < 10 ∧ numeralChars places n = Nat.digitChar d :: rest := by
  have hwidth : places + 1 ≤ (digitsOf (places + 1) n).length := by
    rw [length_digitsOf]
    exact le_max_left _ _
  unfold numeralChars
  dsimp only
  cases hwhole : (digitsOf (places + 1) n).take ((digitsOf (places + 1) n).length - places) with
  | nil =>
      have hlength := congrArg List.length hwhole
      rw [List.length_take] at hlength
      have hlength : min ((digitsOf (places + 1) n).length - places)
        (digitsOf (places + 1) n).length = 0 := hlength
      omega
  | cons d whole =>
      have hmem : d ∈ digitsOf (places + 1) n :=
        List.mem_of_mem_take (hwhole ▸ List.mem_cons_self)
      exact ⟨d, _, lt_ten_of_mem_digitsOf hmem, rfl⟩

/-- What begins with a digit is a number without a sign. -/
theorem decimalOfChars_digit {d : ℕ} (hd : d < 10) (rest : List Char) :
    decimalOfChars (Nat.digitChar d :: rest) =
      (numeral? (Nat.digitChar d :: rest)).map Decimal.finite := by
  interval_cases d <;> rfl

theorem decimalOfChars_neg_digit {d : ℕ} (hd : d < 10) (rest : List Char) :
    decimalOfChars ('-' :: Nat.digitChar d :: rest) =
      (numeral? (Nat.digitChar d :: rest)).map fun q => .finite (-q) := by
  interval_cases d <;> rfl

end Text

open Text

/-! ## `str(Decimal)` -/

namespace Decimal

/-- The decimal places a plain numeral of the value has. -/
def places (q : ℚ) : ℕ :=
  ((List.range (contextPrecision + 1)).find? fun n => (q * 10 ^ n).den = 1).getD contextPrecision

/-- `str(d)`, without the zeros a value keeps at its end and without an exponent. -/
def str : Decimal → String
  | .finite q =>
      let c := coefficient (places q) q
      String.ofList ((if c < 0 then ['-'] else []) ++ numeralChars (places q) c.natAbs)
  | .infinity negative => if negative then "-Infinity" else "Infinity"
  | .nan => "NaN"
  | .snan => "sNaN"

example : str (.finite (-1234 / 100)) = "-12.34" := by decide +kernel

/-- A decimal numeral of the value: its places and its coefficient. -/
theorem exists_places {q : ℚ} {n : ℕ} {c : ℤ} (hn : n ≤ contextPrecision)
    (hq : q = c / 10 ^ n) (hc : c.natAbs < 10 ^ contextPrecision) :
    places q ≤ contextPrecision ∧ q = coefficient (places q) q / 10 ^ places q ∧
      (coefficient (places q) q).natAbs < 10 ^ contextPrecision := by
  have hten : ∀ k : ℕ, (10 : ℚ) ^ k ≠ 0 := fun k => pow_ne_zero k (by norm_num)
  have hint : q * 10 ^ n = c := by
    rw [hq, div_mul_cancel₀ _ (hten n)]
  have hdenominator : (q * 10 ^ n).den = 1 := by
    rw [hint]
    exact Rat.den_intCast c
  have hfound : ∃ m, (List.range (contextPrecision + 1)).find? (fun n => (q * 10 ^ n).den = 1) =
      some m := by
    apply Option.isSome_iff_exists.mp
    rw [List.find?_isSome]
    exact ⟨n, List.mem_range.mpr (Nat.lt_succ_of_le hn), decide_eq_true hdenominator⟩
  obtain ⟨m, hm⟩ := hfound
  have hplaces : places q = m := by
    unfold places
    rw [hm]
    rfl
  obtain ⟨hwhole, hmem, hleast⟩ := List.find?_range_eq_some.mp hm
  have hmn : m ≤ n := by
    by_contra hlt
    have hearlier := hleast n (by omega)
    rw [decide_eq_true hdenominator] at hearlier
    exact Bool.noConfusion hearlier
  -- the coefficient at the least number of places
  have hcoefficient : q * 10 ^ m = ((q * 10 ^ m).num : ℚ) :=
    (Rat.den_eq_one_iff _).mp (of_decide_eq_true hwhole) |>.symm
  have hrounded : coefficient m q = (q * 10 ^ m).num := by
    unfold coefficient
    rw [hcoefficient, roundHalfEven_intCast, Rat.num_intCast]
  rw [hplaces, hrounded]
  refine ⟨hmn.trans hn, ?_, ?_⟩
  · rw [← hcoefficient, mul_div_cancel_right₀ _ (hten m)]
  · have hscaled : c = (q * 10 ^ m).num * 10 ^ (n - m) := by
      have hpow : (10 : ℚ) ^ n = 10 ^ m * 10 ^ (n - m) := by
        rw [← pow_add, Nat.add_sub_cancel' hmn]
      have hcast : (c : ℚ) = ((q * 10 ^ m).num : ℚ) * 10 ^ (n - m) := by
        rw [← hcoefficient, ← hint, hpow, mul_assoc]
      exact_mod_cast hcast
    have hle : (q * 10 ^ m).num.natAbs ≤ c.natAbs := by
      rw [hscaled, Int.natAbs_mul]
      refine Nat.le_mul_of_pos_right _ ?_
      rw [Int.natAbs_pow]
      positivity
    exact lt_of_le_of_lt hle hc

/-- A plain numeral holds nothing but a sign, a point and digits. -/
theorem isPlain_of_mem_str {q : ℚ} {c : Char} (h : c ∈ (str (.finite q)).toList) : IsPlain c := by
  unfold str at h
  rw [String.toList_ofList] at h
  rcases List.mem_append.mp h with h | h
  · split at h
    · exact Or.inl (List.mem_singleton.mp h)
    · exact absurd h List.not_mem_nil
  · exact isPlain_of_mem_numeralChars h

/-- No numeral is empty. -/
theorem str_ne_nil (q : ℚ) : (str (.finite q)).toList ≠ [] := by
  obtain ⟨d, rest, -, hhead⟩ := numeralChars_head (places q) (coefficient (places q) q).natAbs
  unfold str
  rw [String.toList_ofList, hhead]
  exact fun h => nomatch (List.append_eq_nil_iff.mp h).2

theorem stripChars_str (q : ℚ) :
    stripChars (str (.finite q)).toList = (str (.finite q)).toList :=
  stripChars_of_no_space fun c hmem => (isPlain_of_mem_str hmem).cases
    (P := fun c => isSpace c = false) (by decide) (by decide) (by decide)

/-- **`Decimal(str(d))` is `d`**, for a value the context can hold. -/
theorem ofText_str {q : ℚ} {n : ℕ} {c : ℤ} (hn : n ≤ contextPrecision) (hq : q = c / 10 ^ n)
    (hc : c.natAbs < 10 ^ contextPrecision) : ofText (str (.finite q)) = some (.finite q) := by
  obtain ⟨hplaces, hvalue, hbound⟩ := exists_places hn hq hc
  have hfilter : (str (.finite q)).toList.filter (· ≠ '_') = (str (.finite q)).toList := by
    rw [List.filter_eq_self]
    intro c hmem
    exact (isPlain_of_mem_str hmem).cases (P := fun c => decide (c ≠ '_') = true) (by decide)
      (by decide) (by decide)
  unfold ofText
  rw [stripChars_str, hfilter]
  unfold str
  rw [String.toList_ofList]
  obtain ⟨d, rest, hd, hhead⟩ := numeralChars_head (places q) (coefficient (places q) q).natAbs
  have hnumeral := numeral?_numeralChars hplaces hbound
  rw [hhead] at hnumeral ⊢
  by_cases hsign : coefficient (places q) q < 0
  · rw [if_pos hsign]
    show decimalOfChars ('-' :: Nat.digitChar d :: rest) = _
    rw [decimalOfChars_neg_digit hd, hnumeral]
    have habs : (((coefficient (places q) q).natAbs : ℕ) : ℚ) = -(coefficient (places q) q : ℚ) := by
      have : ((coefficient (places q) q).natAbs : ℤ) = -coefficient (places q) q := by omega
      rw [← Int.cast_natCast, this, Int.cast_neg]
    show some (Decimal.finite (-((((coefficient (places q) q).natAbs : ℕ) : ℚ) / _))) = _
    rw [habs, neg_div, neg_neg, ← hvalue]
  · rw [if_neg hsign]
    show decimalOfChars (Nat.digitChar d :: rest) = _
    rw [decimalOfChars_digit hd, hnumeral]
    have habs : (((coefficient (places q) q).natAbs : ℕ) : ℚ) = (coefficient (places q) q : ℚ) := by
      have : ((coefficient (places q) q).natAbs : ℤ) = coefficient (places q) q := by omega
      rw [← Int.cast_natCast, this]
    show some (Decimal.finite ((((coefficient (places q) q).natAbs : ℕ) : ℚ) / _)) = _
    rw [habs, ← hvalue]

end Decimal

end BondTrading.Py
