import StgEnvironment.Lib.Binary64
import StgEnvironment.Lib.Decimal
import StgEnvironment.Python.Text

/-!
# `Python.Number`: the arithmetic of the Python scripts

Integers are unbounded. With `from __future__ import division`, the quotient of two of them is the double nearest to
the exact one, and an `OverflowError` where that is out of range.

`Exception` are those that the scripts can raise, with the names that they are printed by. A script is a computation
in `Except Exception`, whose two rules are here as well.
-/

namespace StgEnvironment
namespace Python

/-- The exceptions that a script can meet. -/
inductive Exception where
  | ValueError | TypeError | IndexError | ZeroDivisionError | OverflowError
deriving DecidableEq

/-- `e.__class__.__name__`. -/
def Exception.name : Exception → Text
  | .ValueError => "ValueError".toList
  | .TypeError => "TypeError".toList
  | .IndexError => "IndexError".toList
  | .ZeroDivisionError => "ZeroDivisionError".toList
  | .OverflowError => "OverflowError".toList

/-- `sys.maxsize` on a 64-bit host. -/
def maxsize : ℤ := 2 ^ 63 - 1

def int (t : Text) : Except Exception ℤ :=
  match strip t with
  | '-' :: digits => match ofDecimal digits with
      | some n => .ok (-n)
      | none => .error .ValueError
  | '+' :: digits => match ofDecimal digits with
      | some n => .ok n
      | none => .error .ValueError
  | digits => match ofDecimal digits with
      | some n => .ok n
      | none => .error .ValueError

def truediv (a b : ℤ) : Except Exception ℚ :=
  if b = 0 then .error .ZeroDivisionError
  else match Binary64.ofRat (a / b) with
    | some x => .ok x
    | none => .error .OverflowError

/-- `'{0:.2f}'.format(x)`. -/
def fixed2 (x : ℚ) : Text :=
  let hundredths := (Binary64.roundEven (100 * |x|)).natAbs
  (if x < 0 then ['-'] else []) ++ decimal (hundredths / 100) ++ '.' ::
    [Nat.digitChar (hundredths / 10 % 10), Nat.digitChar (hundredths % 10)]

/-! ## What returns -/

section Except
variable {ε α β : Type}

theorem bind_eq_ok {x : Except ε α} {f : α → Except ε β} {b : β} :
    x >>= f = .ok b ↔ ∃ a, x = .ok a ∧ f a = .ok b := by
  cases x with
  | error e =>
      constructor
      · intro h; cases h
      · rintro ⟨a, ha, -⟩; cases ha
  | ok a =>
      constructor
      · intro h; exact ⟨a, rfl, h⟩
      · rintro ⟨a', ha, h⟩; cases ha; exact h

theorem pure_eq_ok {a b : α} : (pure a : Except ε α) = .ok b ↔ a = b :=
  ⟨Except.ok.inj, congrArg Except.ok⟩

end Except

/-! ## Quotients -/

/-- The quotient of moderate size is the nearest double. -/
theorem truediv_eq {a b : ℤ} (hb : b ≠ 0) {k : ℕ} (hk : k < 1024) (h : |(a / b : ℚ)| ≤ 2 ^ k) :
    truediv a b = .ok (Binary64.nearest (a / b)) := by
  rw [truediv, if_neg hb, Binary64.ofRat_eq_some hk h]

example : fixed2 (933 / 8) = "116.62".toList := by decide +kernel

end Python
end StgEnvironment
