/-
# BondTrading.Py.Decimal -- decimal numbers as `decimal.Decimal` computes with them

A value is a rational, a signed infinity, a quiet NaN or a signalling NaN.  The result of an
operation on finite values is the exact one as the `Context` takes it.  Which operation RAISES:

* an ordering comparison with either NaN is `InvalidOperation`;
* arithmetic on a signalling NaN, `∞ - ∞`, `0 × ∞`, `∞ / ∞` and `0 / 0` are
  `InvalidOperation`, and `x / 0` is `DivisionByZero`;
* a result that the context refuses is `Overflow`;
* a quiet NaN passes through arithmetic and through `quantize` in silence;
* `quantize` of an infinity, or of a value whose rounded coefficient needs more
  digits than the context has, is `InvalidOperation`.

The operations are generic in the exception type: a program chooses its own and
says how a decimal signal is one of its exceptions (`Raises`).
-/
import BondTrading.Py.Context
import Mathlib.Data.Rat.Floor
import Mathlib.Algebra.Order.Field.Rat
import Mathlib.Tactic.Ring
import Mathlib.Tactic.Linarith
import Mathlib.Tactic.NormNum
import Mathlib.Tactic.FieldSimp

namespace BondTrading.Py

/-! ## Values and signals -/

/-- A `decimal.Decimal`.  The sign of a zero and trailing zeros of the coefficient
are not kept: no operation below reads them. -/
inductive Decimal where
  | finite (value : ℚ)
  | infinity (negative : Bool)
  | nan
  | snan
  deriving DecidableEq, Repr

/-- How a decimal signal is raised among the exceptions `ε` of a program. -/
class Raises (ε : Type) where
  signal : Signal → ε

/-- Programs that raise nothing else. -/
instance : Raises Signal := ⟨id⟩

namespace Decimal

variable {ε : Type} [Raises ε]

/-- Raise a decimal signal. -/
def raise {α : Type} (s : Signal) : Except ε α := .error (Raises.signal s)

/-- An integer literal. -/
def ofInt (n : ℤ) : Decimal := .finite n

/-- A value that is a number: neither an infinity nor a NaN. -/
def IsFinite (d : Decimal) : Prop := ∃ q : ℚ, d = .finite q

/-- Neither kind of NaN; exactly the values an ordering comparison accepts. -/
def isNaN : Decimal → Bool
  | .nan | .snan => true
  | _ => false

/-! ## Arithmetic -/

section Arithmetic

variable [Context]

/-- The exact result of an operation, as the context takes it. -/
def fixed (q : ℚ) : Except ε Decimal :=
  match Context.fix q with
  | .ok r => .ok (.finite r)
  | .error s => raise s

/-- `a + b`. -/
def add : Decimal → Decimal → Except ε Decimal
  | .snan, _ | _, .snan => raise .invalidOperation
  | .nan, _ | _, .nan => .ok .nan
  | .finite a, .finite b => fixed (a + b)
  | .infinity s, .infinity t => if s = t then .ok (.infinity s) else raise .invalidOperation
  | .infinity s, .finite _ => .ok (.infinity s)
  | .finite _, .infinity t => .ok (.infinity t)

/-- `-a`. -/
def neg : Decimal → Decimal
  | .finite a => .finite (-a)
  | .infinity s => .infinity !s
  | .nan => .nan
  | .snan => .snan

/-- `a - b`. -/
def sub (a b : Decimal) : Except ε Decimal := add a (neg b)

/-- `a * b`.  A zero times an infinity has no value. -/
def mul : Decimal → Decimal → Except ε Decimal
  | .snan, _ | _, .snan => raise .invalidOperation
  | .nan, _ | _, .nan => .ok .nan
  | .finite a, .finite b => fixed (a * b)
  | .infinity s, .infinity t => .ok (.infinity (s != t))
  | .infinity s, .finite b | .finite b, .infinity s =>
      if b = 0 then raise .invalidOperation else .ok (.infinity (s != decide (b < 0)))

/-- `a / b`. -/
def div : Decimal → Decimal → Except ε Decimal
  | .snan, _ | _, .snan => raise .invalidOperation
  | .nan, _ | _, .nan => .ok .nan
  | .finite a, .finite b =>
      if b = 0 then raise (if a = 0 then .divisionUndefined else .divisionByZero)
      else fixed (a / b)
  | .infinity _, .infinity _ => raise .invalidOperation
  | .infinity s, .finite b => .ok (.infinity (s != decide (b < 0)))
  | .finite _, .infinity _ => .ok (.finite 0)

theorem fixed_eq_ok {q : ℚ} {d : Decimal} :
    fixed (ε := ε) q = .ok d ↔ ∃ r, Context.fix q = .ok r ∧ d = .finite r := by
  unfold fixed
  cases Context.fix q with
  | ok r => simp [eq_comm]
  | error s => simp [raise]

end Arithmetic

/-! ## Comparison -/

/-- `a < b`. -/
def lt : Decimal → Decimal → Except ε Bool
  | .snan, _ | _, .snan | .nan, _ | _, .nan => raise .invalidOperation
  | .finite a, .finite b => .ok (decide (a < b))
  | .infinity s, .infinity t => .ok (s && !t)
  | .infinity s, .finite _ => .ok s
  | .finite _, .infinity t => .ok !t

/-- `a <= b`. -/
def le : Decimal → Decimal → Except ε Bool
  | .snan, _ | _, .snan | .nan, _ | _, .nan => raise .invalidOperation
  | .finite a, .finite b => .ok (decide (a ≤ b))
  | .infinity s, .infinity t => .ok (s || !t)
  | .infinity s, .finite _ => .ok s
  | .finite _, .infinity t => .ok !t

section Finite

variable (a b : ℚ)

@[simp] theorem add_finite : add (ε := ε) (.finite a) (.finite b) = .ok (.finite (a + b)) := rfl

@[simp] theorem sub_finite : sub (ε := ε) (.finite a) (.finite b) = .ok (.finite (a - b)) := by
  simp [sub, neg, sub_eq_add_neg]

@[simp] theorem mul_finite : mul (ε := ε) (.finite a) (.finite b) = .ok (.finite (a * b)) := rfl

@[simp] theorem div_finite :
    div (ε := ε) (.finite a) (.finite b) =
      if b = 0 then raise (if a = 0 then .divisionUndefined else .divisionByZero)
      else .ok (.finite (a / b)) := rfl

@[simp] theorem lt_finite : lt (ε := ε) (.finite a) (.finite b) = .ok (decide (a < b)) := rfl

@[simp] theorem le_finite : le (ε := ε) (.finite a) (.finite b) = .ok (decide (a ≤ b)) := rfl

end Finite

/-- **Only a NaN makes an ordering comparison raise.** -/
theorem lt_raises_iff (a b : Decimal) :
    (∃ e, lt (ε := ε) a b = .error e) ↔ a.isNaN = true ∨ b.isNaN = true := by
  cases a <;> cases b <;> simp [lt, isNaN, raise]

theorem le_raises_iff (a b : Decimal) :
    (∃ e, le (ε := ε) a b = .error e) ↔ a.isNaN = true ∨ b.isNaN = true := by
  cases a <;> cases b <;> simp [le, isNaN, raise]

/-- `0 < d`, where the comparison does not raise. -/
def Positive : Decimal → Prop
  | .finite q => 0 < q
  | .infinity negative => negative = false
  | .nan | .snan => False

/-- `0 <= d`, where the comparison does not raise. -/
def Nonneg : Decimal → Prop
  | .finite q => 0 ≤ q
  | .infinity negative => negative = false
  | .nan | .snan => False

instance : DecidablePred Positive
  | .finite q => inferInstanceAs (Decidable (0 < q))
  | .infinity negative => inferInstanceAs (Decidable (negative = false))
  | .nan | .snan => inferInstanceAs (Decidable False)

instance : DecidablePred Nonneg
  | .finite q => inferInstanceAs (Decidable (0 ≤ q))
  | .infinity negative => inferInstanceAs (Decidable (negative = false))
  | .nan | .snan => inferInstanceAs (Decidable False)

theorem Positive.number {d : Decimal} (h : d.Positive) : d.isNaN = false := by
  cases d with
  | finite q => rfl
  | infinity negative => rfl
  | nan => exact h.elim
  | snan => exact h.elim

theorem Nonneg.number {d : Decimal} (h : d.Nonneg) : d.isNaN = false := by
  cases d with
  | finite q => rfl
  | infinity negative => rfl
  | nan => exact h.elim
  | snan => exact h.elim

/-- A comparison of a number with zero tells its sign. -/
theorem le_zero {d : Decimal} (h : d.isNaN = false) :
    le (ε := ε) d (.finite 0) = .ok (decide (¬ d.Positive)) := by
  cases d with
  | finite q => simp [Positive]
  | infinity negative => cases negative <;> rfl
  | nan => cases h
  | snan => cases h

theorem lt_zero {d : Decimal} (h : d.isNaN = false) :
    lt (ε := ε) d (.finite 0) = .ok (decide (¬ d.Nonneg)) := by
  cases d with
  | finite q => simp [Nonneg]
  | infinity negative => cases negative <;> rfl
  | nan => cases h
  | snan => cases h

theorem le_zero_eq_ok {d : Decimal} {r : Bool} :
    le (ε := ε) d (.finite 0) = .ok r ↔ d.isNaN = false ∧ (r = false ↔ d.Positive) := by
  cases hd : d.isNaN with
  | true =>
      obtain ⟨e, he⟩ := (le_raises_iff (ε := ε) d (.finite 0)).mpr (.inl hd)
      rw [he]
      exact iff_of_false (fun h => nomatch h) fun h => nomatch h.1
  | false =>
      rw [le_zero hd]
      cases r <;> simp

theorem lt_zero_eq_ok {d : Decimal} {r : Bool} :
    lt (ε := ε) d (.finite 0) = .ok r ↔ d.isNaN = false ∧ (r = false ↔ d.Nonneg) := by
  cases hd : d.isNaN with
  | true =>
      obtain ⟨e, he⟩ := (lt_raises_iff (ε := ε) d (.finite 0)).mpr (.inl hd)
      rw [he]
      exact iff_of_false (fun h => nomatch h) fun h => nomatch h.1
  | false =>
      rw [lt_zero hd]
      cases r <;> simp

/-! ## Rounding -/

/-- The rounded coefficient of `q` at `places` decimals. -/
def coefficient (places : ℕ) (q : ℚ) : ℤ := roundHalfEven (q * 10 ^ places)

/-- `q` rounds to `places` decimals without exceeding the context. -/
def Quantizable (places : ℕ) (q : ℚ) : Prop :=
  (coefficient places q).natAbs < 10 ^ contextPrecision

instance (places : ℕ) (q : ℚ) : Decidable (Quantizable places q) :=
  inferInstanceAs (Decidable (_ < _))

/-- `d.quantize(Decimal(1).scaleb(-places))`. -/
def quantize (places : ℕ) : Decimal → Except ε Decimal
  | .finite q =>
      if Quantizable places q then .ok (.finite (coefficient places q / 10 ^ places))
      else raise .invalidOperation
  | .infinity _ => raise .invalidOperation
  | .nan => .ok .nan
  | .snan => raise .invalidOperation

@[simp] theorem quantize_finite (places : ℕ) (q : ℚ) :
    quantize (ε := ε) places (.finite q) =
      if Quantizable places q then .ok (.finite (coefficient places q / 10 ^ places))
      else raise .invalidOperation := rfl

/-- A value that `quantize` accepts. -/
def Rounds (places : ℕ) : Decimal → Prop
  | .finite q => Quantizable places q
  | .nan => True
  | .infinity _ | .snan => False

/-- Why `int(d)` can fail: a NaN is a `ValueError`, an infinity an `OverflowError`. -/
inductive IntError where
  | valueError
  | overflowError
  deriving DecidableEq, Repr

/-- `int(d)`: truncation towards zero. -/
def toInt : Decimal → Except IntError ℤ
  | .finite q => .ok (if 0 ≤ q then ⌊q⌋ else ⌈q⌉)
  | .infinity _ => .error .overflowError
  | .nan | .snan => .error .valueError

end Decimal

end BondTrading.Py
