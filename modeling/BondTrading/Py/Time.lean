/-
# BondTrading.Py.Time -- instants, dates and the texts of both

An aware `datetime` is its number of microseconds since the epoch; a `timedelta` is a
number of microseconds; a `date` is its proleptic Gregorian ordinal.  A time zone is its
offset from UTC at every instant, as `ZoneInfo` tells it.
-/
import BondTrading.Py.Text

namespace BondTrading.Py

/-- An aware `datetime`. -/
abbrev Instant := ℤ

/-- `timedelta(seconds=n)`. -/
def seconds (n : ℤ) : ℤ := n * 1000000

/-- `timedelta(days=n)`. -/
def days (n : ℤ) : ℤ := seconds (n * 86400)

/-- `tz.utcoffset(..)` at an instant. -/
abbrev Zone := Instant → ℤ

/-! ## The calendar -/

/-- `date(1970, 1, 1).toordinal()`. -/
def epochOrdinal : ℤ := 719163

/-- `date.min.toordinal()` and `date.max.toordinal()`. -/
def minOrdinal : ℤ := 1
def maxOrdinal : ℤ := 3652059

def isLeapYear (year : ℕ) : Bool := year % 4 = 0 && (year % 100 ≠ 0 || year % 400 = 0)

/-- The lengths of the months of a year. -/
def monthLengths (year : ℕ) : List ℕ :=
  [31, if isLeapYear year then 29 else 28, 31, 30, 31, 30, 31, 31, 30, 31, 30, 31]

/-- `date(year, month, day).toordinal()`; nothing where there is no such day. -/
def ordinal? (year month day : ℕ) : Option ℤ :=
  let lengths := monthLengths year
  let y : ℤ := year - 1
  if 1 ≤ year ∧ year ≤ 9999 ∧ 1 ≤ month ∧ month ≤ 12 ∧ 1 ≤ day ∧
      day ≤ lengths.getD (month - 1) 0 then
    some (y * 365 + y / 4 - y / 100 + y / 400 + (lengths.take (month - 1)).sum + day)
  else none

/-- Year, month and day of an ordinal, counted in 400-year eras that start in March. -/
def yearMonthDay (ordinal : ℤ) : ℤ × ℤ × ℤ :=
  let z := ordinal + 305
  let era := z / 146097
  let dayOfEra := z % 146097
  let yearOfEra := (dayOfEra - dayOfEra / 1460 + dayOfEra / 36524 - dayOfEra / 146096) / 365
  let dayOfYear := dayOfEra - (365 * yearOfEra + yearOfEra / 4 - yearOfEra / 100)
  let march := (5 * dayOfYear + 2) / 153
  let day := dayOfYear - (153 * march + 2) / 5 + 1
  let month := if march < 10 then march + 3 else march - 9
  (yearOfEra + era * 400 + (if month ≤ 2 then 1 else 0), month, day)

example : (ordinal? 2024 2 29).map yearMonthDay = some (2024, 2, 29) := by decide +kernel

/-- `datetime.astimezone(zone).date()`. -/
def localDate (zone : Zone) (instant : Instant) : ℤ :=
  (instant + zone instant) / days 1 + epochOrdinal

/-! ## ISO texts -/

/-- A number with leading zeros. -/
def padded (width : ℕ) (n : ℤ) : String :=
  let digits := toString n.natAbs
  String.ofList (List.replicate (width - digits.length) '0') ++ digits

/-- `date.isoformat()`. -/
def isoDate (ordinal : ℤ) : String :=
  let (year, month, day) := yearMonthDay ordinal
  padded 4 year ++ "-" ++ padded 2 month ++ "-" ++ padded 2 day

/-- `HH:MM` and, where there are any, `:SS` of an offset in microseconds. -/
def isoOffset (offset : ℤ) : String :=
  let total := offset.natAbs / 1000000
  let clock := padded 2 (total / 3600) ++ ":" ++ padded 2 (total / 60 % 60)
  (if offset < 0 then "-" else "+") ++
    (if total % 60 = 0 then clock else clock ++ ":" ++ padded 2 (total % 60))

/-- `datetime.astimezone(zone).isoformat(timespec="seconds")`. -/
def isoInstant (zone : Zone) (instant : Instant) : String :=
  let second := (instant + zone instant) % days 1 / 1000000
  isoDate (localDate zone instant) ++ "T" ++ padded 2 (second / 3600) ++ ":" ++
    padded 2 (second / 60 % 60) ++ ":" ++ padded 2 (second % 60) ++ isoOffset (zone instant)

/-- `str(time)` of a time of day in microseconds: `HH:MM:SS`, and the microseconds where
there are any. -/
def clockText (microsecond : ℕ) : String :=
  let second := microsecond / 1000000
  let clock := padded 2 (second / 3600) ++ ":" ++ padded 2 (second / 60 % 60) ++ ":" ++
    padded 2 (second % 60)
  if microsecond % 1000000 = 0 then clock else clock ++ "." ++ padded 6 (microsecond % 1000000)

/-! ## `date.fromisoformat` -/

/-- Exactly `n` ASCII digits, and what follows them. -/
def asciiDigits : ℕ → List UInt8 → Option (ℕ × List UInt8)
  | 0, bytes => some (0, bytes)
  | _ + 1, [] => none
  | n + 1, byte :: bytes =>
      if 48 ≤ byte ∧ byte ≤ 57 then
        (asciiDigits n bytes).map fun (rest, tail) =>
          ((byte.toNat - 48) * 10 ^ n + rest, tail)
      else none

/-- The separator, where the text uses one. -/
def dropDash (separated : Bool) (bytes : List UInt8) : Option (List UInt8) :=
  match separated, bytes with
  | false, bytes => some bytes
  | true, byte :: bytes => if byte = 45 then some bytes else none
  | true, [] => none

/-- The day of a week of an ISO year; week 1 is the one with the first Thursday. -/
def isoWeekDay? (year week day : ℕ) : Option ℤ := do
  let first ← ordinal? year 1 1
  let weekday := (first + 6) % 7
  let long := weekday = 3 ∨ (weekday = 2 ∧ isLeapYear year)
  let monday := first - weekday + (if 3 < weekday then 7 else 0)
  let ordinal := monday + (week - 1) * 7 + (day - 1)
  if 1 ≤ week ∧ (week ≤ 52 ∨ (week = 53 ∧ long)) ∧ 1 ≤ day ∧ day ≤ 7 ∧ ordinal ≤ maxOrdinal then
    some ordinal
  else none

/-- `YYYY-?MM-?DD` or `YYYY-?Www-?D?`; what follows a date without separators is ignored. -/
def isoDateOfBytes (bytes : List UInt8) : Option ℤ := do
  let (year, bytes) ← asciiDigits 4 bytes
  let separated := bytes.head? = some 45
  let bytes := if separated then bytes.tail else bytes
  if bytes.head? = some 87 then
    let (week, bytes) ← asciiDigits 2 bytes.tail
    if bytes = [] then isoWeekDay? year week 1
    else
      let (day, _) ← asciiDigits 1 (← dropDash separated bytes)
      isoWeekDay? year week day
  else
    let (month, bytes) ← asciiDigits 2 bytes
    let (day, _) ← asciiDigits 2 (← dropDash separated bytes)
    ordinal? year month day

/-- `date.fromisoformat(s)`; the length that counts is the one of the UTF-8 form. -/
def fromIsoFormat (s : String) : Option ℤ :=
  let bytes := s.toList.flatMap String.utf8EncodeChar
  if bytes.length ∈ [7, 8, 10] then isoDateOfBytes bytes else none

example : (fromIsoFormat "2026-05-25").map isoDate = some "2026-05-25" := by decide +kernel
example : (fromIsoFormat "2026-W53").map isoDate = some "2026-12-28" := by decide +kernel
example : fromIsoFormat "2025-W53" = none := by decide +kernel

/-! ## `strptime` -/

/-- `%Y` or `%y`: exactly so many digits of any script. -/
def digitsOf (width : ℕ) (cs : List Char) : Option ℕ :=
  match Text.spanDigits cs with
  | (ds, []) => if ds.length = width then some (Text.digitsValue ds) else none
  | (_, _ :: _) => none

/-- `%m`. -/
def monthOf : List Char → Option ℕ
  | ['1', c] => if '0' ≤ c ∧ c ≤ '2' then some (10 + (c.toNat - '0'.toNat)) else none
  | ['0', c] | [c] => if '1' ≤ c ∧ c ≤ '9' then some (c.toNat - '0'.toNat) else none
  | _ => none

/-- `%d`. -/
def dayOf : List Char → Option ℕ
  | ['3', c] => if '0' ≤ c ∧ c ≤ '1' then some (30 + (c.toNat - '0'.toNat)) else none
  | ['1', c] => (Text.digit? c).map fun d => 10 + d
  | ['2', c] => (Text.digit? c).map fun d => 20 + d
  | ['0', c] | [' ', c] | [c] => if '1' ≤ c ∧ c ≤ '9' then some (c.toNat - '0'.toNat) else none
  | _ => none

/-- The order of the fields in a pattern, its separator, and the digits of its year. -/
inductive DatePattern where
  | yearFirst
  | dayFirst (separator : Char) (yearDigits : ℕ)
  deriving DecidableEq, Repr

/-- A two-digit year, as POSIX reads it. -/
def fullYear (yearDigits year : ℕ) : ℕ :=
  if yearDigits = 4 then year else if year ≤ 68 then 2000 + year else 1900 + year

/-- `datetime.strptime(text, pattern).date()`. -/
def strptime (text : List Char) : DatePattern → Option ℤ
  | .yearFirst =>
      match text.splitOn '-' with
      | [y, m, d] => do ordinal? (← digitsOf 4 y) (← monthOf m) (← dayOf d)
      | _ => none
  | .dayFirst separator yearDigits =>
      match text.splitOn separator with
      | [d, m, y] => do
          ordinal? (fullYear yearDigits (← digitsOf yearDigits y)) (← monthOf m) (← dayOf d)
      | _ => none

example : strptime "29.02.24".toList (.dayFirst '.' 2) = some 738945 := by decide +kernel
example : strptime "2024-02-30".toList .yearFirst = none := by decide +kernel

end BondTrading.Py
