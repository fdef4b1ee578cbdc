/-
# BondTrading.Py.Text -- the `str` methods and the `Decimal(str)` constructor

Python texts are sequences of code points, so everything here works on `List Char`
and is lifted to `String` at the end.  Case mapping is modelled where a program
can tell it apart by an ASCII pattern: the ten characters outside ASCII whose
upper case IS ASCII are listed; the upper case of every other character keeps a
character outside ASCII, and is left as it stands.
-/
import BondTrading.Py.Decimal

namespace BondTrading.Py

namespace Text

/-! ## Character classes -/

/-- `str.isspace` on one character. -/
def isSpace (c : Char) : Bool :=
  let n := c.toNat
  (9 ≤ n && n ≤ 13) || (28 ≤ n && n ≤ 32) || n == 0x85 || n == 0xA0 || n == 0x1680 ||
    (0x2000 ≤ n && n ≤ 0x200A) || n == 0x2028 || n == 0x2029 || n == 0x202F || n == 0x205F ||
    n == 0x3000

/-- The zero of every block of ten decimal digits (general category `Nd`). -/
def digitZeros : List ℕ :=
  [0x30, 0x660, 0x6F0, 0x7C0, 0x966, 0x9E6, 0xA66, 0xAE6, 0xB66, 0xBE6, 0xC66, 0xCE6, 0xD66,
    0xDE6, 0xE50, 0xED0, 0xF20, 0x1040, 0x1090, 0x17E0, 0x1810, 0x1946, 0x19D0, 0x1A80, 0x1A90,
    0x1B50, 0x1BB0, 0x1C40, 0x1C50, 0xA620, 0xA8D0, 0xA900, 0xA9D0, 0xA9F0, 0xAA50, 0xABF0,
    0xFF10, 0x104A0, 0x10D30, 0x11066, 0x110F0, 0x11136, 0x111D0, 0x112F0, 0x11450, 0x114D0,
    0x11650, 0x116C0, 0x11730, 0x118E0, 0x11950, 0x11C50, 0x11D50, 0x11DA0, 0x11F50, 0x16A60,
    0x16AC0, 0x16B50, 0x1D7CE, 0x1D7D8, 0x1D7E2, 0x1D7EC, 0x1D7F6, 0x1E140, 0x1E2F0, 0x1E4F0,
    0x1E950, 0x1FBF0]

/-- The value of a decimal digit of any script. -/
def digit? (c : Char) : Option ℕ :=
  (digitZeros.find? fun z => z ≤ c.toNat && c.toNat < z + 10).map fun z => c.toNat - z

/-- `str.upper` on one character. -/
def upperChar (c : Char) : List Char :=
  match c.toNat with
  | 0xDF => ['S', 'S']
  | 0x131 => ['I']
  | 0x17F => ['S']
  | 0xFB00 => ['F', 'F']
  | 0xFB01 => ['F', 'I']
  | 0xFB02 => ['F', 'L']
  | 0xFB03 => ['F', 'F', 'I']
  | 0xFB04 => ['F', 'F', 'L']
  | 0xFB05 | 0xFB06 => ['S', 'T']
  | _ => [c.toUpper]

/-! ## Methods on character lists -/

/-- `str.strip()`. -/
def stripChars (cs : List Char) : List Char :=
  ((cs.dropWhile isSpace).reverse.dropWhile isSpace).reverse

/-- Every occurrence of `c` replaced by `by'`. -/
def replaceChar (c : Char) (by' : List Char) (cs : List Char) : List Char :=
  cs.flatMap fun x => if x = c then by' else [x]

/-- `"".join(cs).upper()`. -/
def upperChars (cs : List Char) : List Char := cs.flatMap upperChar

/-! ## `str` methods -/

/-- `s.strip()`. -/
def strip (s : String) : String := String.ofList (stripChars s.toList)

/-- `s.upper()`. -/
def upper (s : String) : String := String.ofList (upperChars s.toList)

/-- `s or ..` of an optional text: neither `None` nor empty. -/
def given (s : Option String) : Option String := s.filter fun t => ¬ t.isEmpty

/-- `s[:n]`. -/
def take (n : ℕ) (s : String) : String := String.ofList (s.toList.take n)

theorem stripChars_of_no_space {cs : List Char} (h : ∀ c ∈ cs, isSpace c = false) :
    stripChars cs = cs := by
  have hdrop : ∀ l : List Char, (∀ c ∈ l, isSpace c = false) → l.dropWhile isSpace = l := by
    intro l hl
    cases l with
    | nil => rfl
    | cons c l => exact List.dropWhile_cons_of_neg (by simp [hl c (by simp)])
  rw [stripChars, hdrop cs h, hdrop cs.reverse (by simpa using h), List.reverse_reverse]

theorem upperChars_of_fixed {cs : List Char} (h : ∀ c ∈ cs, upperChar c = [c]) :
    upperChars cs = cs := by
  induction cs with
  | nil => rfl
  | cons c cs ih =>
      rw [upperChars, List.flatMap_cons, h c (by simp), ← upperChars,
        ih fun d hd => h d (List.mem_cons_of_mem c hd)]
      rfl

/-! ## `Decimal(str)` -/

/-- ASCII digits of a digit run, most significant first. -/
def digitsValue (ds : List ℕ) : ℕ := ds.foldl (fun acc d => 10 * acc + d) 0

/-- The longest run of decimal digits and what follows it. -/
def spanDigits (cs : List Char) : List ℕ × List Char :=
  match cs with
  | [] => ([], [])
  | c :: rest =>
      match digit? c with
      | none => ([], c :: rest)
      | some d => let (ds, tail) := spanDigits rest; (d :: ds, tail)

/-- An optional sign. -/
def spanSign (cs : List Char) : Bool × List Char :=
  match cs with
  | '-' :: rest => (true, rest)
  | '+' :: rest => (false, rest)
  | _ => (false, cs)

/-- Largest exponent a coefficient may be scaled to; beyond it the exact
conversion is `InvalidOperation`. -/
def maxExponent : ℤ := 999999999999999999

/-- `E[+-]?digits`, or nothing, up to the end of the text. -/
def exponent? (cs : List Char) : Option ℤ :=
  match cs with
  | [] => some 0
  | e :: rest =>
      if e.toLower = 'e' then
        let (negative, body) := spanSign rest
        match spanDigits body with
        | ([], _) => none
        | (ds, []) => some (if negative then -(digitsValue ds : ℤ) else digitsValue ds)
        | (_, _ :: _) => none
      else none

/-- The numeric alternative of the grammar: digits with an optional point, then an
optional exponent. -/
def numeral? (cs : List Char) : Option ℚ :=
  let (whole, afterWhole) := spanDigits cs
  let (frac, afterFrac) :=
    match afterWhole with
    | '.' :: rest => spanDigits rest
    | other => ([], other)
  if whole = [] ∧ frac = [] then none
  else
    match exponent? afterFrac with
    | none => none
    | some e =>
        let coefficient := digitsValue (whole ++ frac)
        let scale := e - frac.length
        if maxExponent < scale + (whole ++ frac).length - 1 ∨ scale < -(2 * maxExponent - 1) then none
        else some (coefficient * (10 : ℚ) ^ scale)

/-- The whole grammar after blanks and underscores are gone. -/
def decimalOfChars (cs : List Char) : Option Decimal :=
  let (negative, body) := spanSign cs
  match body.map Char.toLower with
  | ['i', 'n', 'f'] | ['i', 'n', 'f', 'i', 'n', 'i', 't', 'y'] => some (.infinity negative)
  | 'n' :: 'a' :: 'n' :: payload => if (spanDigits payload).2 = [] then some .nan else none
  | 's' :: 'n' :: 'a' :: 'n' :: payload =>
      if (spanDigits payload).2 = [] then some .snan else none
  | _ => (numeral? body).map fun q => .finite (if negative then -q else q)

end Text

/-- **`Decimal(s)`** for a text; `none` is the `InvalidOperation` of a text that is not
a number.  `NaN`, `sNaN` and `Infinity` are numbers in this sense. -/
def Decimal.ofText (s : String) : Option Decimal :=
  Text.decimalOfChars ((Text.stripChars s.toList).filter (· ≠ '_'))

example : Decimal.ofText " -1_2.50e1 " = some (.finite (-125)) := by decide +kernel
example : Decimal.ofText "sNaN12" = some .snan := by decide +kernel
example : Decimal.ofText "+Infinity" = some (.infinity false) := by decide +kernel
example : Decimal.ofText "+.e3" = none := by decide +kernel

end BondTrading.Py
