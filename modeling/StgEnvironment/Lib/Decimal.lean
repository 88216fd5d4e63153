import StgEnvironment.Lib.Text

/-!
# `Lib.Decimal`: integers in decimal

`decimal` is what a program prints of an integer, `ofDecimal` what it reads of a text without a sign.
-/

namespace StgEnvironment

/-- An integer, as it is printed. -/
def decimal (n : ℤ) : Text := if n < 0 then '-' :: Nat.toDigits 10 n.natAbs else Nat.toDigits 10 n.natAbs

/-- A text that consists of digits. -/
def IsDecimal (t : Text) : Prop := t ≠ [] ∧ t.all Char.isDigit = true

instance (t : Text) : Decidable (IsDecimal t) := inferInstanceAs (Decidable (_ ∧ _))

/-- The number that the digits stand for. -/
def ofDecimal (t : Text) : Option ℕ := if IsDecimal t then some (Nat.ofDigitChars 10 t 0) else none

theorem isDecimal_toDigits (n : ℕ) : IsDecimal (Nat.toDigits 10 n) :=
  ⟨Nat.toDigits_ne_nil, List.all_eq_true.mpr fun _ hc => Nat.isDigit_of_mem_toDigits (by decide) (by decide) hc⟩

theorem decimal_natCast (n : ℕ) : decimal n = Nat.toDigits 10 n := if_neg (by omega)

theorem decimal_of_nonneg {n : ℤ} (h : 0 ≤ n) : decimal n = Nat.toDigits 10 n.natAbs := if_neg (by omega)

theorem decimal_of_neg {n : ℤ} (h : n < 0) : decimal n = '-' :: Nat.toDigits 10 n.natAbs := if_pos h

theorem mem_decimal {n : ℤ} {c : Char} (h : c ∈ decimal n) : c = '-' ∨ c.isDigit = true := by
  have hdigits : ∀ {m : ℕ}, c ∈ Nat.toDigits 10 m → c.isDigit = true := fun hc =>
    Nat.isDigit_of_mem_toDigits (by omega) (by omega) hc
  unfold decimal at h
  split_ifs at h
  · exact (List.mem_cons.mp h).imp id hdigits
  · exact Or.inr (hdigits h)

theorem decimal_ne_nil (n : ℤ) : decimal n ≠ [] := by
  unfold decimal
  split_ifs
  · exact List.cons_ne_nil _ _
  · exact Nat.toDigits_ne_nil

theorem isWord_decimal (n : ℤ) : IsWord (decimal n) := by
  refine ⟨decimal_ne_nil n, fun c hc => ?_⟩
  rcases mem_decimal hc with rfl | hdigit
  · rfl
  · exact isBlank_of_isDigit hdigit

/-- A text of digits is read, with leading zeros or without. -/
theorem ofDecimal_of_isDecimal {t : Text} (h : IsDecimal t) : ofDecimal t = some (Nat.ofDigitChars 10 t 0) :=
  if_pos h

end StgEnvironment
