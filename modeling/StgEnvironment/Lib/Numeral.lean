import StgEnvironment.Lib.Binary64
import StgEnvironment.Lib.Decimal

/-!
# `Lib.Numeral`: numbers with a point and an exponent

`numeral?` reads a decimal numeral, with or without a sign, a point and an exponent. `format p` prints a positive number
with `p` significant digits, as the conversion `%.pg` of `printf` does: the number is rounded to the nearest one of so
many digits (`rounded`), printed with an exponent if that one is very large or very small, and without the zeros
behind the last digit of a fraction.

## Contents
- **Reading** and **printing**: both as functions on exact numbers.
- **Rounding to significant digits**: the digits of the rounded number (`significand_spec`). A number that is very
  close to one of so many digits is rounded to that one (`rounded_of_close`), so a double in place of the exact number
  does not show.
- **Reading what is printed**: what is printed reads as the rounded number (`numeral?_format`), with a point or an
  exponent or neither.
-/

namespace StgEnvironment
namespace Numeral
open Binary64 (roundEven roundEven_le le_roundEven roundEven_of_abs_sub_lt)

/-! ## Reading

A numeral is a sign, digits with or without a point, and an exponent, each part of which is read by itself. What is
no numeral has no value. -/

/-- Digits, with or without a point. Before or behind the point there may be none, but not on both sides. -/
def unsigned? (t : Text) : Option ℚ :=
  match t.splitOn '.' with
  | [digits] => (ofDecimal digits).map fun n : ℕ => (n : ℚ)
  | [whole, fraction] => (ofDecimal (whole ++ fraction)).map fun n : ℕ => (n : ℚ) / 10 ^ fraction.length
  | _ => none

/-- A sign in front of what `read` reads. -/
def signed {α : Type} [Neg α] (read : Text → Option α) : Text → Option α
  | '-' :: t => (read t).map Neg.neg
  | '+' :: t => read t
  | t => read t

/-- An integer, with or without a sign. -/
def integer? (t : Text) : Option ℤ := signed (fun t => (ofDecimal t).map fun n : ℕ => (n : ℤ)) t

/-- What stands in front of an exponent. -/
def isExponentMark (c : Char) : Bool := c == 'e' || c == 'E'

/-- The number that a numeral stands for: a mantissa, and an exponent if there is one. -/
def numeral? (t : Text) : Option ℚ :=
  match t.splitOnP isExponentMark with
  | [m] => signed unsigned? m
  | [m, e] => match signed unsigned? m, integer? e with
      | some m, some e => some (m * 10 ^ e)
      | _, _ => none
  | _ => none

/-! ## Printing

The formats of `printf` for a number of significant digits: the number is rounded to them, and laid out by its
exponent. -/

/-- The place of the last of `p` significant digits, as a power of ten. -/
def place (p : ℕ) (x : ℚ) : ℤ := Int.log 10 x + 1 - p

/-- The nearest number of `p` significant digits. -/
def rounded (p : ℕ) (x : ℚ) : ℚ := roundEven (x / 10 ^ place p x) * 10 ^ place p x

/-- Its digits and their place: rounding up may make it the next power of ten, which has one digit more. -/
def significand (p : ℕ) (x : ℚ) : ℕ × ℤ :=
  let m := (roundEven (x / 10 ^ place p x)).natAbs
  if m = 10 ^ p then (10 ^ (p - 1), place p x + 1) else (m, place p x)

/-- The point behind the first `i` digits, and no zeros at the end of the fraction. -/
def pointed (digits : Text) (i : ℕ) : Text :=
  let fraction := (digits.drop i).rdropWhile (· == '0')
  if fraction = [] then digits.take i else digits.take i ++ '.' :: fraction

/-- An exponent has a sign and two digits at least. -/
def exponentText (e : ℤ) : Text :=
  (if e < 0 then '-' else '+') :: ((if e.natAbs < 10 then ['0'] else []) ++ Nat.toDigits 10 e.natAbs)

/-- `m * 10 ^ k`, where `m` has `p` digits. An exponent below -4, or of `p` and more, is printed; every other number
    has a point or none. -/
def layout (p m : ℕ) (k : ℤ) : Text :=
  let digits := Nat.toDigits 10 m
  let e := k + p - 1
  if e < -4 ∨ p ≤ e then pointed digits 1 ++ 'e' :: exponentText e
  else if e < 0 then pointed (List.replicate (-e).toNat '0' ++ digits) 1
  else pointed digits (e.toNat + 1)

/-- `%.pg` for a positive number. -/
def format (p : ℕ) (x : ℚ) : Text := layout p (significand p x).1 (significand p x).2

/-! ## Rounding to significant digits

The place of the last digit is found from the logarithm. The rounded quotient has as many digits as were asked for,
or is the next power of ten. -/

section Rounding
variable {p : ℕ} {x : ℚ}

theorem ten_zpow_pos (k : ℤ) : (0 : ℚ) < 10 ^ k := zpow_pos (by norm_num) k

/-- The digits fill what is between the number and its place. -/
theorem ten_zpow_place (p : ℕ) (x : ℚ) : (10 : ℚ) ^ p * 10 ^ place p x = 10 ^ (Int.log 10 x + 1) := by
  rw [← zpow_natCast, ← zpow_add₀ (by norm_num)]
  congr 1
  unfold place
  omega

/-- The number has `p` digits in front of its place. -/
theorem le_div_place (hx : 0 < x) (hp : 0 < p) : (10 : ℚ) ^ (p - 1) ≤ x / 10 ^ place p x := by
  have hself : (10 : ℚ) ^ Int.log 10 x ≤ x := by exact_mod_cast Int.zpow_log_le_self (b := 10) (by norm_num) hx
  rw [le_div_iff₀ (ten_zpow_pos _), ← zpow_natCast, ← zpow_add₀ (by norm_num)]
  have hexp : ((p - 1 : ℕ) : ℤ) + place p x = Int.log 10 x := by
    unfold place
    omega
  rw [hexp]
  exact hself

theorem div_place_lt (p : ℕ) (x : ℚ) : x / 10 ^ place p x < 10 ^ p := by
  have hlt : x < 10 ^ (Int.log 10 x + 1) := by exact_mod_cast Int.lt_zpow_succ_log_self (b := 10) (by norm_num) x
  rw [div_lt_iff₀ (ten_zpow_pos _), ten_zpow_place]
  exact hlt

/-- **The digits of the rounded number**: as many as were asked for, and with their exponent they are the number.
    Rounding up may give one digit more, which is then taken off with a zero. -/
theorem significand_spec (hx : 0 < x) (hp : 0 < p) :
    10 ^ (p - 1) ≤ (significand p x).1 ∧ (significand p x).1 < 10 ^ p ∧
      rounded p x = (significand p x).1 * 10 ^ (significand p x).2 := by
  have hlow : (10 : ℤ) ^ (p - 1) ≤ roundEven (x / 10 ^ place p x) :=
    le_roundEven (by push_cast; exact le_div_place hx hp)
  have hhigh : roundEven (x / 10 ^ place p x) ≤ (10 : ℤ) ^ p :=
    roundEven_le (by push_cast; exact (div_place_lt p x).le)
  obtain ⟨m, hm⟩ : ∃ m : ℕ, roundEven (x / 10 ^ place p x) = m :=
    ⟨_, (Int.toNat_of_nonneg ((by positivity : (0 : ℤ) ≤ 10 ^ (p - 1)).trans hlow)).symm⟩
  rw [hm] at hlow hhigh
  have hlow' : 10 ^ (p - 1) ≤ m := by exact_mod_cast hlow
  have hhigh' : m ≤ 10 ^ p := by exact_mod_cast hhigh
  have hrounded : rounded p x = m * 10 ^ place p x := by rw [rounded, hm]; push_cast; rfl
  unfold significand
  rw [hm, Int.natAbs_natCast]
  by_cases htop : m = 10 ^ p
  · rw [if_pos htop]
    refine ⟨le_rfl, Nat.pow_lt_pow_right (by decide) (by omega), ?_⟩
    obtain ⟨q, rfl⟩ : ∃ q, p = q + 1 := ⟨p - 1, by omega⟩
    rw [hrounded, htop, zpow_add₀ (by norm_num), Nat.add_sub_cancel]
    push_cast
    ring
  · rw [if_neg htop]
    exact ⟨hlow', lt_of_le_of_ne hhigh' htop, hrounded⟩

/-- What ends at a place is a multiple of every lower one. -/
theorem exists_multiple_of_le (m : ℕ) {j k : ℤ} (h : j ≤ k) : ∃ n : ℤ, (m : ℚ) * 10 ^ k = n * 10 ^ j := by
  obtain ⟨i, rfl⟩ : ∃ i : ℕ, k = j + i := ⟨(k - j).toNat, by omega⟩
  refine ⟨m * 10 ^ i, ?_⟩
  rw [zpow_add₀ (by norm_num), zpow_natCast]
  push_cast
  ring

/-- **What is close enough to a number of so many digits is rounded to it**, so that a double in place of a decimal
    number does not show. -/
theorem rounded_of_close {m : ℕ} {k : ℤ} {u : ℚ} (hm : m < 10 ^ p) (hu : u = m * 10 ^ k) (hpos : 0 < u)
    (hclose : |x - u| < u / (4 * 10 ^ p)) : rounded p x = u := by
  have hp10 : (1 : ℚ) ≤ 10 ^ p := one_le_pow₀ (by norm_num)
  have hthird : u / (4 * 10 ^ p) ≤ u / 4 := div_le_div_of_nonneg_left hpos.le (by norm_num) (by linarith)
  obtain ⟨hlow, hhigh⟩ := abs_lt.mp hclose
  have hx : 0 < x := by linarith
  -- the last place of `x` is not behind the one of `u`
  have hplace : place p x ≤ k := by
    have hquarter : u / (4 * 10 ^ p) < 10 ^ k := by
      rw [div_lt_iff₀ (by positivity), hu]
      have hmq : (m : ℚ) < 10 ^ p := by exact_mod_cast hm
      have hstep := mul_lt_mul_of_pos_right hmq (ten_zpow_pos k)
      nlinarith [ten_zpow_pos k]
    have hbound : x < ((10 : ℕ) : ℚ) ^ ((p : ℤ) + k) := by
      have hmq : (m : ℚ) + 1 ≤ 10 ^ p := by exact_mod_cast hm
      calc x < u + 10 ^ k := by linarith
        _ = (m + 1) * 10 ^ k := by rw [hu]; ring
        _ ≤ 10 ^ p * 10 ^ k := mul_le_mul_of_nonneg_right hmq (ten_zpow_pos k).le
        _ = ((10 : ℕ) : ℚ) ^ ((p : ℤ) + k) := by rw [zpow_add₀ (by norm_num), zpow_natCast]; push_cast; rfl
    have hlog := (Int.lt_zpow_iff_log_lt (by norm_num) hx).mp hbound
    unfold place
    omega
  -- and `u` is closer than half a unit of it
  have hhalf : u / (4 * 10 ^ p) < 10 ^ place p x / 2 := by
    have hlt := div_place_lt p x
    rw [div_lt_iff₀ (ten_zpow_pos _)] at hlt
    rw [div_lt_iff₀ (by positivity)]
    calc u < 2 * (10 ^ p * 10 ^ place p x) := by linarith
      _ = 10 ^ place p x / 2 * (4 * 10 ^ p) := by ring
  obtain ⟨n, hn⟩ := exists_multiple_of_le m hplace
  have hround : roundEven (x / 10 ^ place p x) = n := by
    refine roundEven_of_abs_sub_lt ?_
    have hquot : x / 10 ^ place p x - n = (x - u) / 10 ^ place p x := by
      rw [sub_div, hu, hn, mul_div_cancel_right₀ _ (ten_zpow_pos _).ne']
    rw [hquot, abs_div, abs_of_pos (ten_zpow_pos _), div_lt_iff₀ (ten_zpow_pos _)]
    linarith
  rw [rounded, hround, hu, hn]

end Rounding

/-! ## Reading what is printed

A text of digits and points has no sign and no exponent mark in it, so that the parts of a numeral are found where
they were put. -/

/-- Nothing but digits and a point. -/
def Plain (t : Text) : Prop := ∀ c ∈ t, c.isDigit = true ∨ c = '.'

theorem notMem_of_isDecimal {t : Text} {c : Char} (h : IsDecimal t) (hc : c.isDigit = false) : c ∉ t := by
  intro hmem
  exact ne_of_isDigit (List.all_eq_true.mp h.2 c hmem) hc rfl

theorem Plain.notMem {t : Text} {c : Char} (h : Plain t) (hc : c.isDigit = false) (hpoint : c ≠ '.') : c ∉ t := by
  intro hmem
  rcases h c hmem with hdigit | hdot
  · exact ne_of_isDigit hdigit hc rfl
  · exact hpoint hdot

theorem plain_of_isDecimal {t : Text} (h : IsDecimal t) : Plain t := fun c hc => Or.inl (List.all_eq_true.mp h.2 c hc)

theorem signed_of_plain {α : Type} [Neg α] (read : Text → Option α) {t : Text} (h : Plain t) :
    signed read t = read t := by
  have hminus := h.notMem (c := '-') (by decide) (by decide)
  have hplus := h.notMem (c := '+') (by decide) (by decide)
  unfold signed
  split
  · exact absurd (List.mem_cons_self) hminus
  · exact absurd (List.mem_cons_self) hplus
  · rfl

theorem mark_of_plain {t : Text} (h : Plain t) : ∀ c ∈ t, isExponentMark c = false := by
  intro c hc
  rw [Bool.eq_false_iff]
  intro hmark
  have hor : c = 'e' ∨ c = 'E' := by simpa [isExponentMark] using hmark
  rcases hor with rfl | rfl
  · exact h.notMem (by decide) (by decide) hc
  · exact h.notMem (by decide) (by decide) hc

/-- So a numeral without sign and exponent is a mantissa. -/
theorem numeral?_of_plain {t : Text} (h : Plain t) : numeral? t = unsigned? t := by
  unfold numeral?
  rw [List.splitOnP_eq_singleton (mark_of_plain h)]
  exact signed_of_plain unsigned? h

theorem unsigned?_of_isDecimal {t : Text} (h : IsDecimal t) : unsigned? t = some (Nat.ofDigitChars 10 t 0 : ℚ) := by
  unfold unsigned?
  rw [List.splitOn_eq_singleton (notMem_of_isDecimal h (by decide))]
  exact congrArg (Option.map _) (ofDecimal_of_isDecimal h)

/-- **A text of digits is a numeral.** -/
theorem numeral?_of_isDecimal {t : Text} (h : IsDecimal t) : numeral? t = some (Nat.ofDigitChars 10 t 0 : ℚ) := by
  rw [numeral?_of_plain (plain_of_isDecimal h), unsigned?_of_isDecimal h]

theorem numeral?_toDigits (n : ℕ) : numeral? (Nat.toDigits 10 n) = some (n : ℚ) := by
  rw [numeral?_of_isDecimal (isDecimal_toDigits n), Nat.ofDigitChars_ten_toDigits]

theorem numeral?_exponent {m : Text} {x : ℚ} {e : Text} {k : ℤ} (hplain : Plain m) (hm : unsigned? m = some x)
    (hmark : ∀ c ∈ e, isExponentMark c = false) (he : integer? e = some k) :
    numeral? (m ++ 'e' :: e) = some (x * 10 ^ k) := by
  unfold numeral?
  rw [List.splitOnP_append_cons_of_forall_mem (mark_of_plain hplain) 'e' rfl, List.splitOnP_eq_singleton hmark]
  show (match signed unsigned? m, integer? e with
    | some m, some e => some (m * 10 ^ e)
    | _, _ => none) = _
  rw [signed_of_plain unsigned? hplain, hm, he]

/-! ## The point

Zeros at the end of a fraction are not printed, and make no difference to the value. -/

theorem exists_zeros (t : Text) :
    ∃ j, t = t.rdropWhile (· == '0') ++ List.replicate j '0' := by
  refine ⟨(t.rtakeWhile (· == '0')).length, ?_⟩
  have hzeros : t.rtakeWhile (· == '0') = List.replicate (t.rtakeWhile (· == '0')).length '0' :=
    List.eq_replicate_of_mem fun c hc => beq_iff_eq.mp (List.mem_rtakeWhile_imp (p := (· == '0')) hc)
  rw [← hzeros]
  exact List.rdropWhile_append_rtakeWhile.symm

section Point
variable {digits : Text} {i : ℕ}

theorem plain_pointed (h : IsDecimal digits) (i : ℕ) : Plain (pointed digits i) := by
  have hdigit : ∀ c ∈ digits, c.isDigit = true := fun c hc => List.all_eq_true.mp h.2 c hc
  intro c hc
  unfold pointed at hc
  dsimp only at hc
  split_ifs at hc
  · exact Or.inl (hdigit c (List.mem_of_mem_take hc))
  · rcases List.mem_append.mp hc with hwhole | hrest
    · exact Or.inl (hdigit c (List.mem_of_mem_take hwhole))
    · rcases List.mem_cons.mp hrest with rfl | hfraction
      · exact Or.inr rfl
      · exact Or.inl (hdigit c (List.mem_of_mem_drop (List.rdropWhile_prefix _ _ |>.subset hfraction)))

/-- Zeros at the end of a fraction do not count. -/
theorem value_append_zeros (t : Text) (n j : ℕ) :
    (Nat.ofDigitChars 10 (t ++ List.replicate j '0') 0 : ℚ) / 10 ^ (n + j) = Nat.ofDigitChars 10 t 0 / 10 ^ n := by
  rw [Nat.ofDigitChars_append, Nat.ofDigitChars_replicate_zero, pow_add]
  push_cast
  rw [mul_comm ((10 : ℚ) ^ n), mul_div_mul_left _ _ (by positivity)]

/-- **The number with a point**, which stands behind the first `i` of its digits. Without digits behind it, the point
    is not written. -/
theorem unsigned?_pointed (h : IsDecimal digits) (h0 : 0 < i) (hi : i ≤ digits.length) :
    unsigned? (pointed digits i) = some ((Nat.ofDigitChars 10 digits 0 : ℚ) / 10 ^ (digits.length - i)) := by
  have hdigit : ∀ c ∈ digits, c.isDigit = true := fun c hc => List.all_eq_true.mp h.2 c hc
  obtain ⟨j, hj⟩ := exists_zeros (digits.drop i)
  unfold pointed
  generalize (digits.drop i).rdropWhile (· == '0') = fraction at hj
  have hwhole : digits.take i ≠ [] := by
    intro hnil
    have hlen := congrArg List.length hnil
    rw [List.length_take, min_eq_left hi] at hlen
    exact h0.ne' hlen
  have hsplit : digits = (digits.take i ++ fraction) ++ List.replicate j '0' := by
    rw [List.append_assoc, ← hj, List.take_append_drop]
  have hlen : digits.length - i = fraction.length + j := by
    have hdrop := congrArg List.length hj
    rw [List.length_drop, List.length_append, List.length_replicate] at hdrop
    exact hdrop
  have hdecimal : IsDecimal (digits.take i ++ fraction) := by
    refine ⟨List.append_ne_nil_of_left_ne_nil hwhole _, List.all_eq_true.mpr fun c hc => hdigit c ?_⟩
    rw [hsplit]
    exact List.mem_append_left _ hc
  have hvalue : (Nat.ofDigitChars 10 digits 0 : ℚ) / 10 ^ (digits.length - i) =
      (Nat.ofDigitChars 10 (digits.take i ++ fraction) 0 : ℚ) / 10 ^ fraction.length := by
    have hzeros := value_append_zeros (digits.take i ++ fraction) fraction.length j
    rwa [← hsplit, ← hlen] at hzeros
  rw [hvalue]
  by_cases hnil : fraction = []
  · rw [if_pos hnil]
    subst hnil
    rw [List.append_nil] at hdecimal ⊢
    rw [unsigned?_of_isDecimal hdecimal, List.length_nil, pow_zero, div_one]
  · rw [if_neg hnil]
    have hpoint : '.' ∉ digits.take i ++ fraction := notMem_of_isDecimal hdecimal (by decide)
    rw [List.mem_append, not_or] at hpoint
    unfold unsigned?
    rw [splitOn_eq_pair_iff.mpr ⟨rfl, hpoint⟩]
    exact congrArg (Option.map _) (ofDecimal_of_isDecimal hdecimal)

end Point

/-! ## The exponent

An exponent is printed with its sign and read as the integer that it is. -/

theorem integer?_exponentText (e : ℤ) : integer? (exponentText e) = some e := by
  have hread : ofDecimal ((if e.natAbs < 10 then ['0'] else []) ++ Nat.toDigits 10 e.natAbs) = some e.natAbs := by
    have hdigits := isDecimal_toDigits e.natAbs
    split_ifs
    · have hdecimal : IsDecimal ('0' :: Nat.toDigits 10 e.natAbs) :=
        ⟨List.cons_ne_nil _ _, by rw [List.all_cons, hdigits.2]; rfl⟩
      show ofDecimal ('0' :: Nat.toDigits 10 e.natAbs) = _
      rw [ofDecimal_of_isDecimal hdecimal, Nat.ofDigitChars_cons]
      exact congrArg some Nat.ofDigitChars_ten_toDigits
    · rw [List.nil_append, ofDecimal_of_isDecimal hdigits, Nat.ofDigitChars_ten_toDigits]
  unfold exponentText integer?
  by_cases he : e < 0
  · rw [if_pos he]
    show ((ofDecimal _).map fun n : ℕ => (n : ℤ)).map Neg.neg = some e
    rw [hread, Option.map_some, Option.map_some]
    exact congrArg some (by omega)
  · rw [if_neg he]
    show (ofDecimal _).map (fun n : ℕ => (n : ℤ)) = some e
    rw [hread, Option.map_some]
    exact congrArg some (by omega)

theorem mark_of_exponentText (e : ℤ) : ∀ c ∈ exponentText e, isExponentMark c = false := by
  have hdigits : ∀ c ∈ Nat.toDigits 10 e.natAbs, isExponentMark c = false :=
    mark_of_plain (plain_of_isDecimal (isDecimal_toDigits _))
  intro c hc
  rcases List.mem_cons.mp hc with rfl | hc
  · split_ifs <;> rfl
  · rcases List.mem_append.mp hc with hzero | hdigit
    · split_ifs at hzero
      · rw [List.mem_singleton.mp hzero]
        rfl
      · cases hzero
    · exact hdigits c hdigit

/-! ## What is printed

The three forms of the layout, each read by the lemmas above; the powers of ten are compared at the end. -/

/-- A number between two powers of ten has as many digits as the larger one has zeros. -/
theorem length_toDigits {p m : ℕ} (hp : 0 < p) (hlow : 10 ^ (p - 1) ≤ m) (hhigh : m < 10 ^ p) :
    (Nat.toDigits 10 m).length = p := by
  have hle : (Nat.toDigits 10 m).length ≤ p := (Nat.length_toDigits_le_iff (by decide) hp).mpr hhigh
  have hge : ¬ (Nat.toDigits 10 m).length ≤ p - 1 := by
    by_cases h1 : p - 1 = 0
    · have hpos : 0 < (Nat.toDigits 10 m).length := Nat.length_toDigits_pos
      omega
    · exact fun hle => absurd ((Nat.length_toDigits_le_iff (by decide) (by omega)).mp hle) (by omega)
  omega

/-- What is laid out reads as the number, in all three forms: with an exponent, with a point inside, and with zeros in
    front. -/
theorem numeral?_layout {p m : ℕ} (hp : 0 < p) (hlow : 10 ^ (p - 1) ≤ m) (hhigh : m < 10 ^ p) (k : ℤ) :
    numeral? (layout p m k) = some ((m : ℚ) * 10 ^ k) := by
  have hlen := length_toDigits hp hlow hhigh
  have hdigits := isDecimal_toDigits m
  have hvalue : Nat.ofDigitChars 10 (Nat.toDigits 10 m) 0 = m := Nat.ofDigitChars_ten_toDigits
  unfold layout
  dsimp only
  split_ifs with hexp hneg
  · rw [numeral?_exponent (plain_pointed hdigits 1) (unsigned?_pointed hdigits one_pos (by omega))
      (mark_of_exponentText _) (integer?_exponentText _), hvalue, hlen]
    refine congrArg some ?_
    rw [div_mul_eq_mul_div, mul_div_assoc, ← zpow_natCast, ← zpow_sub₀ (by norm_num)]
    congr 2
    omega
  · have hzeros : IsDecimal (List.replicate (-(k + p - 1)).toNat '0' ++ Nat.toDigits 10 m) := by
      refine ⟨List.append_ne_nil_of_right_ne_nil _ hdigits.1, List.all_eq_true.mpr fun c hc => ?_⟩
      rcases List.mem_append.mp hc with hzero | hdigit
      · rw [List.eq_of_mem_replicate hzero]
        rfl
      · exact List.all_eq_true.mp hdigits.2 c hdigit
    have hlen' : (List.replicate (-(k + p - 1)).toNat '0' ++ Nat.toDigits 10 m).length = (-(k + p - 1)).toNat + p := by
      rw [List.length_append, List.length_replicate, hlen]
    rw [numeral?_of_plain (plain_pointed hzeros 1), unsigned?_pointed hzeros one_pos (by omega), hlen',
      Nat.ofDigitChars_append, Nat.ofDigitChars_replicate_zero, mul_zero, hvalue]
    refine congrArg some ?_
    rw [div_eq_mul_inv, ← zpow_natCast, ← zpow_neg]
    congr 2
    omega
  · rw [numeral?_of_plain (plain_pointed hdigits _), unsigned?_pointed hdigits (by omega) (by omega), hlen, hvalue]
    refine congrArg some ?_
    rw [div_eq_mul_inv, ← zpow_natCast, ← zpow_neg]
    congr 2
    omega

/-- **What is printed reads as the rounded number.** -/
theorem numeral?_format {p : ℕ} {x : ℚ} (hx : 0 < x) (hp : 0 < p) : numeral? (format p x) = some (rounded p x) := by
  obtain ⟨hlow, hhigh, hspec⟩ := significand_spec hx hp
  rw [format, numeral?_layout hp hlow hhigh, hspec]

example : format 6 (1 / 1048576) = "9.53674e-07".toList := by decide +kernel

end Numeral
end StgEnvironment
