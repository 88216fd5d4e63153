import StgEnvironment.Lib.Numeral

/-!
# `Shell.Awk`: the fields, arrays and numbers of `awk`

A number is a double, the exact number that it stands for, and `none` is the infinite one. As a text, an integer is
printed in full, and any other number with six significant digits, since nothing sets `CONVFMT`.

The implementations differ in which integers they print in full, so the largest one is a parameter. It is
`2 ^ 31 - 1` for a `mawk` that has integers of 32 bits, which prints `2 ^ 31` as `2.14748e+09`, and it is larger where
`awk` has wider integers.

`split` with one character cuts at each of them, and an element that is not there is the empty text
(`element_split`).
-/

namespace StgEnvironment
namespace Awk
open Numeral

def field (line : Text) (i : ℕ) : Text := ((words line)[i - 1]?).getD []

/-- `split(t, a, sep)`: the empty text has no elements. -/
def split (t : Text) (sep : Char) : List Text := if t = [] then [] else t.splitOn sep

def element (a : List Text) (i : ℕ) : Text := (a[i - 1]?).getD []

/-- A text as a number: the longest numeral that it starts with. -/
def number (t : Text) : Option ℚ :=
  Binary64.ofRat (((List.range (t.length + 1)).reverse.findSome? fun i => numeral? (t.take i)).getD 0)

def divide (x : Option ℚ) (n : ℚ) : Option ℚ := x.bind fun x => Binary64.ofRat (x / n)

def convfmt (x : ℚ) : Text := if x < 0 then '-' :: format 6 (-x) else format 6 x

/-- Whether a number is an integer that is printed in full, where `maxInt` is the largest one. -/
def InFull (maxInt : ℕ) (x : ℚ) : Prop := x = ⌊x⌋ ∧ |x| ≤ maxInt

instance (maxInt : ℕ) (x : ℚ) : Decidable (InFull maxInt x) := inferInstanceAs (Decidable (_ ∧ _))

/-- A number as a text. -/
def toText (maxInt : ℕ) : Option ℚ → Text
  | some x => if InFull maxInt x then decimal ⌊x⌋ else convfmt x
  | none => "inf".toList

/-! ## The elements of an array -/

/-- The part of a text behind the `k`-th separator and before the next one. -/
def part (sep : Char) : ℕ → Text → Text
  | 0, t => t.takeWhile (· != sep)
  | k + 1, t => part sep k ((t.dropWhile (· != sep)).drop 1)

theorem part_nil (sep : Char) : ∀ k, part sep k [] = []
  | 0 => rfl
  | k + 1 => part_nil sep k

theorem ne_of_notMem {sep : Char} {a : Text} (h : sep ∉ a) : ∀ c ∈ a, (c != sep) = true := fun _ hc =>
  bne_iff_ne.mpr fun heq => h (heq ▸ hc)

theorem getElem?_splitOn (sep : Char) : ∀ (k : ℕ) (t : Text), ((t.splitOn sep)[k]?).getD [] = part sep k t := by
  intro k t
  by_cases hsep : sep ∈ t
  · obtain ⟨a, b, rfl, ha⟩ := List.eq_append_cons_of_mem hsep
    have hpiece := ne_of_notMem ha
    rw [List.splitOn_append_cons_self_of_not_mem ha]
    cases k with
    | zero =>
        show a = (a ++ sep :: b).takeWhile (· != sep)
        rw [List.takeWhile_append_of_pos hpiece, List.takeWhile_cons_of_neg (by simp), List.append_nil]
    | succ k =>
        show ((b.splitOn sep)[k]?).getD [] = part sep k (((a ++ sep :: b).dropWhile (· != sep)).drop 1)
        rw [List.dropWhile_append_of_pos hpiece, List.dropWhile_cons_of_neg (by simp)]
        exact getElem?_splitOn sep k b
  · have hpiece := ne_of_notMem hsep
    rw [List.splitOn_eq_singleton hsep]
    cases k with
    | zero => exact (List.takeWhile_eq_self_iff.mpr hpiece).symm
    | succ k =>
        show [] = part sep k ((t.dropWhile (· != sep)).drop 1)
        rw [List.dropWhile_eq_nil_iff.mpr hpiece]
        exact (part_nil sep k).symm

/-- **An element of the array is a part of the text.** -/
theorem element_split (sep : Char) (k : ℕ) (t : Text) : element (split t sep) (k + 1) = part sep k t := by
  unfold split
  split_ifs with hnil
  · rw [hnil, part_nil]
    rfl
  · exact getElem?_splitOn sep k t

/-! ## Numbers -/

theorem number_of_isDecimal {t : Text} (h : IsDecimal t) :
    number t = Binary64.ofRat (Nat.ofDigitChars 10 t 0 : ℚ) := by
  unfold number
  rw [List.range_succ, List.reverse_append, List.reverse_singleton, List.singleton_append, List.findSome?_cons,
    List.take_length, numeral?_of_isDecimal h]
  rfl

theorem inFull_zero (maxInt : ℕ) : InFull maxInt 0 := ⟨by simp, by simp⟩

/-- **A number that is not negative, read back**: itself if it is printed in full, and rounded otherwise. -/
theorem numeral?_toText (maxInt : ℕ) {x : ℚ} (h : 0 ≤ x) :
    numeral? (toText maxInt (some x)) = some (if InFull maxInt x then x else rounded 6 x) := by
  show numeral? (if InFull maxInt x then decimal ⌊x⌋ else convfmt x) = _
  by_cases hfull : InFull maxInt x
  · have hfloor : 0 ≤ ⌊x⌋ := Int.floor_nonneg.mpr h
    rw [if_pos hfull, if_pos hfull, decimal_of_nonneg hfloor, numeral?_toDigits]
    refine congrArg some ?_
    rw [← Int.cast_natCast, Int.natAbs_of_nonneg hfloor]
    exact hfull.1.symm
  · have hpos : 0 < x := lt_of_le_of_ne h fun hzero => hfull (hzero ▸ inFull_zero maxInt)
    rw [if_neg hfull, if_neg hfull, convfmt, if_neg (not_lt.mpr h), numeral?_format hpos (by decide)]

example : toText (2 ^ 31 - 1) (some (2 ^ 31)) = "2.14748e+09".toList := by decide +kernel

end Awk
end StgEnvironment
