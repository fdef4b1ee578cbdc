/-
# BondTrading.Py.Names -- file names and what a web service makes of them

`pathlib.PurePosixPath(..).name` and `.suffix` of Python 3.13, `str.lower`, `repr` of a
text, and `urllib.parse.quote`.  Case mapping is modelled where an ASCII or a Russian pattern
can tell it apart.
-/
import BondTrading.Py.Text

namespace BondTrading.Py

/-! ## Paths -/

namespace Path

/-- `Path(s).name`: the last part that is neither empty nor a dot. -/
def name (s : String) : String :=
  let parts := (s.toList.splitOn '/').filter fun part => part ≠ [] ∧ part ≠ ['.']
  String.ofList (parts.getLast?.getD [])

/-- `Path(s).suffix`: from the last dot of the name on, if the dot is neither its first
nor its last character. -/
def suffix (s : String) : String :=
  let chars := (name s).toList
  let extension := (chars.reverse.takeWhile (· ≠ '.')).reverse
  if extension ≠ [] ∧ extension.length + 1 < chars.length then
    String.ofList ('.' :: extension)
  else ""

example : suffix "a/портфель.2026.XLSX" = ".XLSX" := by decide

end Path

/-! ## Texts -/

namespace Text

/-- `str.lower` on one character; two characters outside ASCII have an ASCII letter in
their lower case, and only the Cyrillic capitals have a Russian one. -/
def lowerChar (c : Char) : List Char :=
  match c.toNat with
  | 0x130 => ['i', Char.ofNat 0x307]
  | 0x212A => ['k']
  | n =>
      if 0x410 ≤ n ∧ n ≤ 0x42F then [Char.ofNat (n + 32)]
      else if 0x400 ≤ n ∧ n ≤ 0x40F then [Char.ofNat (n + 80)]
      else [c.toLower]

/-- `s.lower()`. -/
def lower (s : String) : String := String.ofList (s.toList.flatMap lowerChar)

/-- One lower-case hexadecimal digit. -/
def hexDigit (n : ℕ) : Char := Nat.digitChar (n % 16)

def reprChar (quote c : Char) : List Char :=
  if c = quote ∨ c = '\\' then ['\\', c]
  else if c = '\n' then ['\\', 'n']
  else if c = '\r' then ['\\', 'r']
  else if c = '\t' then ['\\', 't']
  else if c.toNat < 32 ∨ c.toNat = 127 then
    ['\\', 'x', hexDigit (c.toNat / 16), hexDigit c.toNat]
  else [c]

/-- `repr(s)`. -/
def repr (s : String) : String :=
  let quote := if '\'' ∈ s.toList ∧ '"' ∉ s.toList then '"' else '\''
  String.ofList ([quote] ++ s.toList.flatMap (reprChar quote) ++ [quote])

/-- `s.partition(c)[0]`. -/
def before (c : Char) (s : String) : String := String.ofList (s.toList.takeWhile (· ≠ c))

/-- The characters `quote` leaves alone. -/
def isUnreserved (c : Char) : Bool := c.isAlphanum || c ∈ ['_', '.', '-', '~', '/']

/-- `urllib.parse.quote(s)`: every other character as the bytes of its UTF-8 form. -/
def quote (s : String) : String :=
  String.ofList <| s.toList.flatMap fun c =>
    if isUnreserved c then [c]
    else (String.utf8EncodeChar c).flatMap fun byte =>
      ['%', (hexDigit (byte.toNat / 16)).toUpper, (hexDigit byte.toNat).toUpper]

end Text

end BondTrading.Py
