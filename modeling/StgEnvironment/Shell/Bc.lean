import StgEnvironment.Lib.Decimal

/-!
# `Shell.Bc`: what the scripts have `bc` do

A number with a fraction is kept as an integer, the multiple of the power of ten that its scale says. An expression in
which an operand is missing is a syntax error, and prints nothing to standard output; so does a division by zero.

Numbers are unbounded. Lines of more than 69 characters are broken by a backslash and a newline (`wrap`), so that an
unquoted result of that length is more than one word (`two_le_words_wrap`).
-/

namespace StgEnvironment
namespace Bc

/-- Why there is no result. -/
inductive Failure where
  | syntaxError | divideByZero
deriving DecidableEq

/-- What an expression gives. -/
abbrev Result := Except Failure ℤ

/-! ## Reading -/

/-- A number in an expression. -/
def read : Text → ℤ
  | '-' :: digits => -(Nat.ofDigitChars 10 digits 0 : ℕ)
  | digits => (Nat.ofDigitChars 10 digits 0 : ℕ)

/-- `$a - $b`: without `b` an operand is missing. -/
def minus (a b : Text) : Result := if b = [] then .error .syntaxError else .ok (read a - read b)

/-- `a / b` under a scale, of integers that `bc` has printed: digits behind the scale are cut off. -/
def divide (scale : ℕ) : Result → Result → Result
  | .ok a, .ok b => if b = 0 then .error .divideByZero else .ok ((a * 10 ^ scale).tdiv b)
  | _, _ => .error .syntaxError

/-! ## Printing -/

/-- A line has room for 69 characters. What is longer goes on in the next line, with a backslash at the end of this
    one. -/
def wrap (t : Text) : Text := if t.length ≤ 69 then t else t.take 69 ++ '\\' :: '\n' :: wrap (t.drop 69)
termination_by t.length
decreasing_by simp only [List.length_drop]; omega

/-- The output for an integer. -/
def printed : Result → Text
  | .ok n => wrap (decimal n)
  | .error _ => []

/-- A number with three digits behind the point: the zero in front of the point is left out, and zero is `0`. -/
def thousandths (n : ℤ) : Text :=
  let m := n.natAbs
  if n = 0 then ['0']
  else (if n < 0 then ['-'] else []) ++ (if m / 1000 = 0 then [] else Nat.toDigits 10 (m / 1000)) ++
    '.' :: [Nat.digitChar (m / 100 % 10), Nat.digitChar (m / 10 % 10), Nat.digitChar (m % 10)]

/-- The output for a number under `scale=3`. -/
def printed3 : Result → Text
  | .ok n => wrap (thousandths n)
  | .error _ => []

/-- A printed integer that is put into another expression without quotes: the shell cuts it where `bc` has broken the
    line, and the backslash before the blank is no operator. -/
def unquoted : Result → Result
  | .ok n => if (decimal n).length ≤ 69 then .ok n else .error .syntaxError
  | .error _ => .error .syntaxError

/-! ## What is read and printed -/

theorem read_decimal (n : ℤ) : read (decimal n) = n := by
  by_cases hneg : n < 0
  · rw [decimal_of_neg hneg, read, Nat.ofDigitChars_ten_toDigits]
    omega
  · rw [decimal_of_nonneg (by omega)]
    have hread : ∀ digits : Text, digits.head? ≠ some '-' → read digits = (Nat.ofDigitChars 10 digits 0 : ℕ) := by
      intro digits hhead
      unfold read
      split
      · exact absurd rfl hhead
      · rfl
    rw [hread, Nat.ofDigitChars_ten_toDigits]
    · omega
    · intro hhead
      have hdigit := Nat.isDigit_of_mem_toDigits (by omega) (by omega) (List.mem_of_mem_head? hhead)
      exact absurd hdigit (by decide)

theorem divide_ok {scale : ℕ} {a b : ℤ} (h : b ≠ 0) : divide scale (.ok a) (.ok b) = .ok ((a * 10 ^ scale).tdiv b) :=
  if_neg h

theorem divide_zero {scale : ℕ} {a : ℤ} : divide scale (.ok a) (.ok 0) = .error .divideByZero := by
  rw [divide, if_pos rfl]

/-- Nothing but a second operand that is zero makes a division by zero. -/
theorem divide_ne_divideByZero {scale : ℕ} {a b : Result} (h : b ≠ .ok 0) :
    divide scale a b ≠ .error .divideByZero := by
  intro hdivide
  cases a with
  | error e => cases b <;> cases hdivide
  | ok a =>
      cases b with
      | error e => cases hdivide
      | ok b =>
          have hb : b ≠ 0 := fun heq => h (heq ▸ rfl)
          rw [divide_ok hb] at hdivide
          cases hdivide

theorem wrap_of_length_le {t : Text} (h : t.length ≤ 69) : wrap t = t := by rw [wrap, if_pos h]

theorem wrap_of_lt_length {t : Text} (h : 69 < t.length) :
    wrap t = t.take 69 ++ '\\' :: '\n' :: wrap (t.drop 69) := by rw [wrap, if_neg (by omega)]

theorem mem_wrap {t : Text} {c : Char} (h : c ∈ wrap t) : c ∈ t ∨ c = '\\' ∨ c = '\n' := by
  induction t using wrap.induct with
  | case1 t hle =>
      rw [wrap_of_length_le hle] at h
      exact Or.inl h
  | case2 t hle ih =>
      rw [wrap_of_lt_length (by omega)] at h
      rcases List.mem_append.mp h with h | h
      · exact Or.inl (List.mem_of_mem_take h)
      · rcases List.mem_cons.mp h with h | h
        · exact Or.inr (Or.inl h)
        · rcases List.mem_cons.mp h with h | h
          · exact Or.inr (Or.inr h)
          · exact (ih h).imp_left List.mem_of_mem_drop

theorem take_prefix_wrap (t : Text) : t.take 69 <+: wrap t := by
  by_cases hle : t.length ≤ 69
  · rw [wrap_of_length_le hle]
    exact List.take_prefix 69 t
  · rw [wrap_of_lt_length (by omega)]
    exact List.prefix_append _ _

/-- A number that does not fit a line is cut into words. -/
theorem two_le_words_wrap {t : Text} (hword : IsWord t) (h : 69 < t.length) : 2 ≤ (words (wrap t)).length := by
  have hline : IsWord (t.take 69 ++ ['\\']) := by
    refine ⟨by simp, fun c hc => ?_⟩
    rcases List.mem_append.mp hc with hc | hc
    · exact hword.2 c (List.mem_of_mem_take hc)
    · rw [List.mem_singleton.mp hc]
      rfl
  have hsplit : wrap t = (t.take 69 ++ ['\\']) ++ '\n' :: wrap (t.drop 69) := by
    rw [wrap_of_lt_length h, List.append_assoc, List.singleton_append]
  have hrest : words (wrap (t.drop 69)) ≠ [] := by
    obtain ⟨c, u, hu⟩ := List.exists_cons_of_ne_nil (l := t.drop 69) (by
      rw [Ne, List.drop_eq_nil_iff]
      omega)
    intro hnil
    have hmem : c ∈ wrap (t.drop 69) := by
      refine (take_prefix_wrap _).subset ?_
      rw [hu, List.take_succ_cons]
      exact List.mem_cons_self ..
    have hblank := words_eq_nil_iff.mp hnil c hmem
    rw [hword.2 c (List.mem_of_mem_drop (hu ▸ List.mem_cons_self ..))] at hblank
    cases hblank
  rw [hsplit, words, wordsBy_word_cons hline (by decide), List.length_cons]
  have hpos : 0 < (wordsBy isBlank (wrap (t.drop 69))).length := List.length_pos_iff.mpr hrest
  omega

end Bc
end StgEnvironment
