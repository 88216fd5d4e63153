import StgEnvironment.Lib.Dict
import StgEnvironment.Python.Number

/-!
# `Python.YamlValue`: what `yaml.load` returns, and what Python 2 does with it

`Value` are the values of YAML as Python holds them. The operations are those of Python 2 on them: subscription by a
text, the difference of a float and a value, and `value > 0`, which is defined for most types that are no numbers.

A float stands for an exact number or an infinity, or it is `nan`. A mapping is kept with the entries under texts,
since nothing else is looked up.

What is done with a value comes with a lemma about all values of which it is defined, numbers or not (`getitem_cases`,
`subtract_of_number`, `positive_of_number`).
-/

namespace StgEnvironment
namespace Python

/-- A number, as a float or an integer stands for it. -/
inductive Number
  | finite (x : ℚ)
  | infinity (negative : Bool)
deriving DecidableEq

def Number.exceeds : Number → ℤ → Prop
  | .finite x, threshold => (threshold : ℚ) < x
  | .infinity negative, _ => negative = false

instance (x : Number) (threshold : ℤ) : Decidable (x.exceeds threshold) := by
  cases x <;> unfold Number.exceeds <;> infer_instance

/-- The exact difference. -/
def Number.minus (now : ℚ) : Number → Number
  | .finite x => .finite (now - x)
  | .infinity negative => .infinity (!negative)

/-- A value, with the types of YAML 1.1 that Python has objects for. -/
inductive Value
  | null
  | bool (b : Bool)
  | int (n : ℤ)
  /-- `nan` is no number. -/
  | float (x : Option Number)
  | str (t : Text)
  | timestamp (t : Text)
  | list (vs : List Value)
  | set (vs : List Value)
  | mapping (entries : List (Text × Value))

/-- The number that a value is. -/
def Value.number? : Value → Option Number
  | .int n => some (.finite n)
  | .float x => x
  | _ => none

/-- The value under a key. -/
def Value.entry? (v : Value) (key : Text) : Option Value :=
  match v with
  | .mapping entries => Dict.find key entries
  | _ => none

def Value.IsMapping (v : Value) : Prop := ∃ entries, v = .mapping entries

/-! ## Subscription -/

/-- What a subscription raises: the key is missing, or the value has no keys. -/
inductive SubscriptError
  | KeyError | TypeError
deriving DecidableEq

def getitem (v : Value) (key : Text) : Except SubscriptError Value :=
  match v with
  | .mapping entries => match Dict.find key entries with
      | some w => .ok w
      | none => .error .KeyError
  | _ => .error .TypeError

theorem getitem_cases (v : Value) (key : Text) :
    (¬ v.IsMapping ∧ v.entry? key = none ∧ getitem v key = .error .TypeError) ∨
    (v.IsMapping ∧ v.entry? key = none ∧ getitem v key = .error .KeyError) ∨
    ∃ w, v.IsMapping ∧ v.entry? key = some w ∧ getitem v key = .ok w := by
  cases v with
  | mapping entries =>
      have hmapping : (Value.mapping entries).IsMapping := ⟨entries, rfl⟩
      cases hfind : Dict.find key entries with
      | none => exact Or.inr (Or.inl ⟨hmapping, hfind, by simp only [getitem, hfind]⟩)
      | some w => exact Or.inr (Or.inr ⟨w, hmapping, hfind, by simp only [getitem, hfind]⟩)
  | _ =>
      refine Or.inl ⟨fun h => ?_, rfl, rfl⟩
      obtain ⟨entries, h⟩ := h
      cases h

/-! ## Numbers -/

/-- The float nearest to a number: a number out of range becomes an infinity. -/
def toFloat (x : ℚ) : Number :=
  match Binary64.ofRat x with
  | some y => .finite y
  | none => .infinity (decide (x < 0))

/-- `now - n`: the integer becomes a float first. -/
def subtractInt (now : ℚ) (n : ℤ) : Except Exception (Option Number) :=
  match Binary64.ofRat n with
  | some x => .ok (some (toFloat (now - x)))
  | none => .error .OverflowError

/-- `now - v` for a float `now`, where `nan` stays what it is. -/
def subtract (now : ℚ) (v : Value) : Except Exception (Option Number) :=
  match v with
  | .bool b => .ok (some (toFloat (now - if b then 1 else 0)))
  | .int n => subtractInt now n
  | .float none => .ok none
  | .float (some (.finite x)) => .ok (some (toFloat (now - x)))
  | .float (some (.infinity negative)) => .ok (some (.infinity (!negative)))
  | _ => .error .TypeError

/-- `x > threshold` for a float, where `nan` is not greater than anything. -/
def floatExceeds (x : Option Number) (threshold : ℤ) : Bool :=
  match x with
  | some x => decide (x.exceeds threshold)
  | none => false

/-- `v > 0`. `None` is less than every number, and what is no number comes behind the numbers. -/
def positive (v : Value) : Except Exception Bool :=
  match v with
  | .null => .ok false
  | .bool b => .ok b
  | .int n => .ok (decide (0 < n))
  | .float x => .ok (floatExceeds x 0)
  | .str _ => .ok true
  | .list _ => .ok true
  | .mapping _ => .ok true
  | .timestamp _ => .error .TypeError
  | .set _ => .error .TypeError

def percentD (x : Option Number) : Except Exception Text :=
  match x with
  | some (.finite x) => .ok (decimal (if x < 0 then ⌈x⌉ else ⌊x⌋))
  | some (.infinity _) => .error .OverflowError
  | none => .error .ValueError

/-- The difference from a number is a float, unless an integer is too large. -/
theorem subtract_of_number {now : ℚ} {v : Value} {x : Number} (h : v.number? = some x) :
    subtract now v = .error .OverflowError ∨ ∃ d, subtract now v = .ok (some d) := by
  cases v with
  | int n =>
      show subtractInt now n = .error .OverflowError ∨ ∃ d, subtractInt now n = .ok (some d)
      unfold subtractInt
      cases Binary64.ofRat (n : ℚ) with
      | none => exact Or.inl rfl
      | some y => exact Or.inr ⟨_, rfl⟩
  | float y =>
      obtain rfl : y = some x := h
      cases x with
      | finite q => exact Or.inr ⟨_, rfl⟩
      | infinity negative => exact Or.inr ⟨_, rfl⟩
  | _ => cases h

/-- A number is greater than 0 as the number that it is. -/
theorem positive_of_number {v : Value} {x : Number} (h : v.number? = some x) :
    positive v = .ok (decide (x.exceeds 0)) := by
  cases v with
  | int n =>
      obtain rfl := Option.some.inj h
      have hcast : 0 < n ↔ (Number.finite n).exceeds 0 := Int.cast_lt.symm
      exact congrArg Except.ok (decide_eq_decide.mpr hcast)
  | float y =>
      obtain rfl : y = some x := h
      rfl
  | _ => cases h

end Python
end StgEnvironment
