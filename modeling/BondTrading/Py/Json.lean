/-
# BondTrading.Py.Json -- what `json.loads` gives

The values of a decoded document, with what Python makes of them: which are false, which are
equal to one, how they are printed, and which may be keys of a mapping.
-/
import BondTrading.Py.Decimal
import BondTrading.Py.Names

namespace BondTrading.Py

/-- A decoded value.  A float is its exact value, nothing for `nan` and the infinities, and
its `repr`; the keys of an object are distinct. -/
inductive Json where
  | null
  | bool (b : Bool)
  | int (n : ℤ)
  | float (value : Option ℚ) (repr : String)
  | string (s : String)
  | array (items : List Json)
  | object (entries : List (String × Json))
  deriving Repr

namespace Json

/-! ## Truth -/

/-- `bool(value)`. -/
def truthy : Json → Bool
  | null => false
  | bool b => b
  | int n => n ≠ 0
  | float value _ => value ≠ some 0
  | string s => s ≠ ""
  | array items => !items.isEmpty
  | object entries => !entries.isEmpty

/-- `first or second`. -/
def orElse (first second : Json) : Json := if first.truthy then first else second

/-- `value == 1`. -/
def isOne : Json → Bool
  | bool b => b
  | int n => n = 1
  | float value _ => value = some 1
  | _ => false

/-- `value in (None, "")`. -/
def isMissing : Json → Bool
  | null => true
  | string s => s = ""
  | _ => false

/-! ## Texts -/

mutual

/-- `repr(value)`. -/
def repr : Json → String
  | null => "None"
  | bool true => "True"
  | bool false => "False"
  | int n => toString n
  | float _ text => text
  | string s => Text.repr s
  | array items => "[" ++ ", ".intercalate (reprItems items) ++ "]"
  | object entries => "\x7b" ++ ", ".intercalate (reprEntries entries) ++ "\x7d"

def reprItems : List Json → List String
  | [] => []
  | item :: items => repr item :: reprItems items

def reprEntries : List (String × Json) → List String
  | [] => []
  | (key, value) :: entries => (Text.repr key ++ ": " ++ repr value) :: reprEntries entries

end

/-- `str(value)`. -/
def str : Json → String
  | string s => s
  | value => value.repr

example : (array [null, int (-3), object [("a", string "x'y")]]).str =
    "[None, -3, \x7b'a': \"x'y\"\x7d]" := by decide +kernel

/-! ## Keys -/

/-- A value as a key.  Numbers are equal by value, whatever their types. -/
inductive Key where
  | none
  | number (value : ℚ)
  | notFinite (repr : String)
  | text (s : String)
  deriving DecidableEq, Repr

/-- The key a value is, or the text of the `TypeError` of `hash(value)`. -/
def key : Json → Except String Key
  | null => .ok .none
  | bool b => .ok (.number (if b then 1 else 0))
  | int n => .ok (.number n)
  | float (some value) _ => .ok (.number value)
  | float none text => .ok (.notFinite text)
  | string s => .ok (.text s)
  | array _ => .error "unhashable type: 'list'"
  | object _ => .error "unhashable type: 'dict'"

end Json

end BondTrading.Py
