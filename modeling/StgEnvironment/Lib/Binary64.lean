import Mathlib

/-!
# `Lib.Binary64`: numbers rounded to double precision

`nearest` is the double nearest to a rational number, ties to even, as the exact number that it stands for. The doubles
around a number are the multiples of its `spacing`. `ofRat` is without a result where the double is out of range.

## Contents
- **Rounding to a multiple**: rounding is monotone towards each multiple of the spacing (`nearest_le`, `le_nearest`),
  and moves a number by less than the spacing (`abs_nearest_sub_le`).
- **The exponent**: numbers of moderate size are in range (`ofRat_eq_some`), and a power of two bounds the nearest
  double as it bounds the number (`abs_nearest_le`, `zpow_le_nearest`).
- **Doubles**: what has 53 binary digits is a double itself (`nearest_eq_self`), so dividing a double by a power of two
  is exact (`nearest_div_two_pow`). The nearest double of any positive integer is as close as its 52nd binary digit
  (`spacing_natCast_le`).
- **Comparing with an integer**: a double compares with a small integer as the number that was rounded does, unless
  that one is closer to the integer than the doubles are (`lt_nearest_iff`).

There are no infinities, no signed zero and no NaN: an operation that would give one of them has no result.
-/

namespace StgEnvironment
namespace Binary64

/-- The nearest integer, the even one of two that are equally near. -/
def roundEven (x : ℚ) : ℤ :=
  if Int.fract x < 1 / 2 ∨ (Int.fract x = 1 / 2 ∧ Even ⌊x⌋) then ⌊x⌋ else ⌊x⌋ + 1

/-- The exponent of the distance between two doubles around a number: 53 binary digits fit above it, unless the number
    is subnormal. -/
def exponent (x : ℚ) : ℤ := max (Int.log 2 |x| - 52) (-1074)

/-- The distance between two doubles around a number. -/
def spacing (x : ℚ) : ℚ := 2 ^ exponent x

/-- The nearest double, ties to even, if exponents had no upper bound. -/
def nearest (x : ℚ) : ℚ := roundEven (x / spacing x) * spacing x

/-- The nearest double, if it is finite. A number that would be rounded to infinity has none. -/
def ofRat (x : ℚ) : Option ℚ := if |nearest x| < 2 ^ 1024 then some (nearest x) else none

/-! ## Rounding to an integer -/

theorem roundEven_le {x : ℚ} {n : ℤ} (h : x ≤ n) : roundEven x ≤ n := by
  unfold roundEven
  split_ifs with hfract
  · exact Int.cast_le.mp ((Int.floor_le x).trans h)
  · have hpos : 0 < Int.fract x := by
      by_contra hzero
      exact hfract (Or.inl (by linarith))
    have hlt : (⌊x⌋ : ℚ) < n := by
      have hsum := Int.floor_add_fract x
      linarith
    exact Int.cast_lt.mp hlt

theorem le_roundEven {x : ℚ} {n : ℤ} (h : n ≤ x) : n ≤ roundEven x := by
  have hfloor : n ≤ ⌊x⌋ := Int.le_floor.mpr h
  unfold roundEven
  split_ifs <;> omega

/-- The floor and its successor are the only candidates. -/
theorem floor_le_roundEven (x : ℚ) : ⌊x⌋ ≤ roundEven x ∧ roundEven x ≤ ⌊x⌋ + 1 := by
  unfold roundEven
  split_ifs <;> omega

/-- Rounding moves a number by one at most. -/
theorem abs_roundEven_sub_le (x : ℚ) : |(roundEven x : ℚ) - x| ≤ 1 := by
  obtain ⟨hlow, hhigh⟩ := floor_le_roundEven x
  have hlow' : (⌊x⌋ : ℚ) ≤ roundEven x := by exact_mod_cast hlow
  have hhigh' : (roundEven x : ℚ) ≤ ⌊x⌋ + 1 := by exact_mod_cast hhigh
  have hfloor := Int.floor_le x
  have hnext := Int.lt_floor_add_one x
  exact abs_le.mpr ⟨by linarith, by linarith⟩

/-- **Whatever is closer than a half to an integer is rounded to it.** The integer is the floor or the one above it,
    by the side on which the number is. -/
theorem roundEven_of_abs_sub_lt {x : ℚ} {n : ℤ} (h : |x - n| < 1 / 2) : roundEven x = n := by
  obtain ⟨hlow, hhigh⟩ := abs_lt.mp h
  have hsum := Int.floor_add_fract x
  by_cases hle : (n : ℚ) ≤ x
  · -- the integer is the floor
    have hfloor : ⌊x⌋ = n := Int.floor_eq_iff.mpr ⟨hle, by linarith⟩
    rw [hfloor] at hsum
    unfold roundEven
    rw [if_pos (Or.inl (by linarith)), hfloor]
  · -- the floor is the integer below
    rw [not_le] at hle
    have hfloor : ⌊x⌋ = n - 1 := Int.floor_eq_iff.mpr ⟨by push_cast; linarith, by push_cast; linarith⟩
    rw [hfloor] at hsum
    push_cast at hsum
    have hfract : 1 / 2 < Int.fract x := by linarith
    unfold roundEven
    rw [if_neg (not_or.mpr ⟨not_lt.mpr hfract.le, fun hhalf => hfract.ne' hhalf.1⟩), hfloor, sub_add_cancel]

/-! ## Rounding to a multiple of the spacing -/

theorem spacing_pos (x : ℚ) : 0 < spacing x := zpow_pos (by norm_num) _

/-- Rounding does not go past a multiple of the spacing. -/
theorem nearest_le {x : ℚ} {m : ℤ} (h : x ≤ m * spacing x) : nearest x ≤ m * spacing x := by
  have hdiv : x / spacing x ≤ m := (div_le_iff₀ (spacing_pos x)).mpr h
  exact mul_le_mul_of_nonneg_right (Int.cast_le.mpr (roundEven_le hdiv)) (spacing_pos x).le

theorem le_nearest {x : ℚ} {m : ℤ} (h : m * spacing x ≤ x) : m * spacing x ≤ nearest x := by
  have hdiv : (m : ℚ) ≤ x / spacing x := (le_div_iff₀ (spacing_pos x)).mpr h
  exact mul_le_mul_of_nonneg_right (Int.cast_le.mpr (le_roundEven hdiv)) (spacing_pos x).le

theorem nearest_nonpos {x : ℚ} (h : x ≤ 0) : nearest x ≤ 0 := by
  have hle := nearest_le (x := x) (m := 0) (by simpa using h)
  simpa using hle

/-- The nearest double is not farther away than the spacing. -/
theorem abs_nearest_sub_le (x : ℚ) : |nearest x - x| ≤ spacing x := by
  have hscale : nearest x - x = (roundEven (x / spacing x) - x / spacing x) * spacing x := by
    rw [sub_mul, div_mul_cancel₀ _ (spacing_pos x).ne']
    rfl
  rw [hscale, abs_mul, abs_of_pos (spacing_pos x)]
  exact mul_le_of_le_one_left (spacing_pos x).le (abs_roundEven_sub_le _)

/-- A power of two that is not below the spacing is a multiple of it. -/
theorem exists_mul_spacing {x : ℚ} {k : ℤ} (h : exponent x ≤ k) : ∃ m : ℤ, (2 : ℚ) ^ k = m * spacing x := by
  refine ⟨2 ^ (k - exponent x).toNat, ?_⟩
  have hexp : k = ((k - exponent x).toNat : ℤ) + exponent x := by omega
  calc (2 : ℚ) ^ k = 2 ^ (((k - exponent x).toNat : ℤ) + exponent x) := by rw [← hexp]
    _ = 2 ^ ((k - exponent x).toNat : ℤ) * 2 ^ exponent x := zpow_add₀ (by norm_num) _ _
    _ = _ := by rw [zpow_natCast, spacing]; push_cast; rfl

/-- Where doubles are not farther apart than one, an integer is a multiple of the spacing. -/
theorem exists_intCast_eq {x : ℚ} (h : exponent x ≤ 0) (n : ℤ) : ∃ m : ℤ, (n : ℚ) = m * spacing x := by
  obtain ⟨m, hm⟩ := exists_mul_spacing h
  refine ⟨n * m, ?_⟩
  rw [zpow_zero] at hm
  push_cast
  rw [mul_assoc, ← hm, mul_one]

/-! ## The exponent -/

/-- The logarithm of a number is not above that of a power of two that bounds it. -/
theorem log_le_of_abs_le {x : ℚ} {k : ℤ} (h : |x| ≤ 2 ^ k) (h0 : 0 ≤ k ∨ x ≠ 0) : Int.log 2 |x| ≤ k := by
  by_cases hx : x = 0
  · subst hx
    have hk : 0 ≤ k := h0.resolve_right (by simp)
    simpa using hk
  · have hlt : |x| < (2 : ℕ) ^ (k + 1) := by
      refine lt_of_le_of_lt h ?_
      push_cast
      exact zpow_lt_zpow_right₀ (by norm_num) (by omega)
    have hlog := (Int.lt_zpow_iff_log_lt (by norm_num) (abs_pos.mpr hx)).mp hlt
    omega

/-- The exponent around a number that is bounded by a power of two, unless the number is subnormal. -/
theorem exponent_le {x : ℚ} {k : ℤ} (hk : 0 ≤ k) (h : |x| ≤ 2 ^ k) : exponent x ≤ k - 52 ∨ exponent x = -1074 := by
  have hlog := log_le_of_abs_le h (Or.inl hk)
  unfold exponent
  omega

/-- Rounding does not leave the interval between a power of two and its negative. -/
theorem abs_nearest_le {x : ℚ} {k : ℤ} (hk : 0 ≤ k) (h : |x| ≤ 2 ^ k) : |nearest x| ≤ 2 ^ k := by
  have hexp : exponent x ≤ k := by
    rcases exponent_le hk h with hle | hmin <;> omega
  obtain ⟨m, hm⟩ := exists_mul_spacing hexp
  obtain ⟨hlow, hhigh⟩ := abs_le.mp h
  have hneg : -((2 : ℚ) ^ k) = ((-m : ℤ) : ℚ) * spacing x := by rw [hm]; push_cast; ring
  refine abs_le.mpr ⟨?_, ?_⟩
  · rw [hneg] at hlow ⊢; exact le_nearest hlow
  · rw [hm] at hhigh ⊢; exact nearest_le hhigh

/-- **A number of moderate size has a nearest double.** -/
theorem ofRat_eq_some {x : ℚ} {k : ℕ} (hk : k < 1024) (h : |x| ≤ 2 ^ k) : ofRat x = some (nearest x) := by
  have hle : |nearest x| ≤ 2 ^ (k : ℤ) := abs_nearest_le (Int.natCast_nonneg k) (by rwa [zpow_natCast])
  refine if_pos (lt_of_le_of_lt hle ?_)
  rw [zpow_natCast]
  exact pow_lt_pow_right₀ (by norm_num) hk

/-- The first power of two below a number is below its nearest double. -/
theorem zpow_le_nearest {x : ℚ} {k : ℤ} (hk : 0 ≤ k) (h : 2 ^ k ≤ x) : 2 ^ k ≤ nearest x := by
  have hpos : 0 < x := lt_of_lt_of_le (zpow_pos (by norm_num) k) h
  have habs : |x| = x := abs_of_pos hpos
  have hlog : k ≤ Int.log 2 |x| := by
    rw [habs]
    exact (Int.zpow_le_iff_le_log (by norm_num) hpos).mp (by exact_mod_cast h)
  have hself : (2 : ℚ) ^ Int.log 2 |x| ≤ x := by
    rw [habs]
    exact_mod_cast Int.zpow_log_le_self (b := 2) (by norm_num) hpos
  obtain ⟨m, hm⟩ := exists_mul_spacing (x := x) (k := Int.log 2 |x|) (by unfold exponent; omega)
  calc (2 : ℚ) ^ k ≤ 2 ^ Int.log 2 |x| := zpow_le_zpow_right₀ (by norm_num) hlog
    _ = m * spacing x := hm
    _ ≤ nearest x := le_nearest (by rw [← hm]; exact hself)

/-! ## Doubles -/

/-- A multiple of the spacing is its own nearest double. -/
theorem nearest_of_multiple {x : ℚ} {m : ℤ} (h : x = m * spacing x) : nearest x = x :=
  le_antisymm ((nearest_le h.le).trans_eq h.symm) (h.le.trans (le_nearest h.ge))

/-- **A number of 53 binary digits is its own nearest double.** Its last place is that of the double, or one below it
    for a power of two; in both cases nothing is rounded. -/
theorem nearest_eq_self {x : ℚ} {m k : ℤ} (hx : x = m * 2 ^ k) (hm : |m| ≤ 2 ^ 53) (hk : -1074 ≤ k) :
    nearest x = x := by
  by_cases hzero : x = 0
  · exact nearest_of_multiple (m := 0) (by rw [hzero]; push_cast; ring)
  have habs : |x| = |m| * 2 ^ k := by
    rw [hx, abs_mul, abs_of_pos (zpow_pos (by norm_num) k : (0 : ℚ) < 2 ^ k), Int.cast_abs]
  have hle : |x| ≤ 2 ^ (k + 53) := by
    have hcast : ((|m| : ℤ) : ℚ) ≤ 2 ^ 53 := by exact_mod_cast hm
    rw [habs, zpow_add₀ (by norm_num), mul_comm]
    exact mul_le_mul_of_nonneg_left (by exact_mod_cast hcast) (zpow_pos (by norm_num) k).le
  have hlog := log_le_of_abs_le hle (Or.inr hzero)
  by_cases htop : Int.log 2 |x| = k + 53
  · -- the number is a power of two
    have hself : (2 : ℚ) ^ (k + 53) ≤ |x| := by
      rw [← htop]
      exact_mod_cast Int.zpow_log_le_self (b := 2) (by norm_num) (abs_pos.mpr hzero)
    obtain ⟨j, hj⟩ := exists_mul_spacing (x := x) (k := k + 53) (by unfold exponent; omega)
    rcases abs_choice x with hpos | hneg
    · exact nearest_of_multiple (m := j) (by rw [← hj, ← hpos]; exact le_antisymm hle hself)
    · refine nearest_of_multiple (m := -j) ?_
      push_cast
      rw [neg_mul, ← hj, ← le_antisymm hle hself, hneg, neg_neg]
  · obtain ⟨j, hj⟩ := exists_mul_spacing (x := x) (k := k) (by unfold exponent; omega)
    refine nearest_of_multiple (m := m * j) ?_
    push_cast
    rw [mul_assoc, ← hj]
    exact hx

theorem exists_nearest_eq (x : ℚ) : ∃ m : ℤ, |m| ≤ 2 ^ 53 ∧ nearest x = m * 2 ^ exponent x := by
  have hbound : |x| ≤ 2 ^ 53 * spacing x := by
    have hlt : |x| < 2 ^ (Int.log 2 |x| + 1) := by
      exact_mod_cast Int.lt_zpow_succ_log_self (b := 2) (by norm_num) |x|
    calc |x| ≤ 2 ^ (Int.log 2 |x| + 1) := hlt.le
      _ ≤ 2 ^ ((53 : ℕ) + exponent x) := zpow_le_zpow_right₀ (by norm_num) (by unfold exponent; omega)
      _ = 2 ^ 53 * spacing x := by rw [zpow_add₀ (by norm_num), zpow_natCast]; rfl
  have hquot : |x / spacing x| ≤ 2 ^ 53 := by
    rw [abs_div, abs_of_pos (spacing_pos x)]
    exact (div_le_iff₀ (spacing_pos x)).mpr hbound
  obtain ⟨hlow, hhigh⟩ := abs_le.mp hquot
  exact ⟨roundEven (x / spacing x),
    abs_le.mpr ⟨le_roundEven (by push_cast; exact hlow), roundEven_le (by push_cast; exact hhigh)⟩, rfl⟩

/-- **Dividing a double by a power of two is exact**, unless the quotient is too small. -/
theorem nearest_div_two_pow {x : ℚ} {j : ℕ} (h : (j : ℤ) - 1074 ≤ exponent x) :
    nearest (nearest x / 2 ^ j) = nearest x / 2 ^ j := by
  obtain ⟨m, hm, hnearest⟩ := exists_nearest_eq x
  refine nearest_eq_self (m := m) (k := exponent x - j) ?_ hm (by omega)
  rw [hnearest, zpow_sub₀ (by norm_num), zpow_natCast, mul_div_assoc]

/-- A double that is finite is the nearest one, and in range. -/
theorem nearest_of_ofRat {x y : ℚ} (h : ofRat x = some y) : nearest x = y ∧ |y| < 2 ^ 1024 := by
  unfold ofRat at h
  split_ifs at h with hlt
  obtain rfl := Option.some.inj h
  exact ⟨rfl, hlt⟩

theorem ofRat_div_two_pow {x y : ℚ} {j : ℕ} (h : (j : ℤ) - 1074 ≤ exponent x) (hy : ofRat x = some y) :
    ofRat (y / 2 ^ j) = some (y / 2 ^ j) := by
  obtain ⟨rfl, hlt⟩ := nearest_of_ofRat hy
  have hle : |nearest x / 2 ^ j| ≤ |nearest x| := by
    rw [abs_div, abs_of_pos (by positivity : (0 : ℚ) < 2 ^ j)]
    exact div_le_self (abs_nonneg _) (one_le_pow₀ (by norm_num))
  unfold ofRat
  rw [nearest_div_two_pow h, if_pos (hle.trans_lt hlt)]

/-- The doubles around an integer are not closer than `2 ^ -52`, so none of them is subnormal. -/
theorem le_exponent_natCast (n : ℕ) : -52 ≤ exponent n := by
  have hlog : 0 ≤ Int.log 2 |(n : ℚ)| := by
    rw [Nat.abs_cast, Int.log_natCast]
    exact Int.natCast_nonneg _
  unfold exponent
  omega

/-- The doubles around a positive integer are closer to each other than its 52nd binary digit. -/
theorem spacing_natCast_le {n : ℕ} (hn : 0 < n) : spacing n ≤ n / 2 ^ 52 := by
  have hpos : (0 : ℚ) < n := Nat.cast_pos.mpr hn
  have hexp : exponent n = Int.log 2 (n : ℚ) - 52 := by
    have hlog : 0 ≤ Int.log 2 (n : ℚ) := by
      rw [Int.log_natCast]
      exact Int.natCast_nonneg _
    unfold exponent
    rw [Nat.abs_cast]
    omega
  have hself : (2 : ℚ) ^ Int.log 2 (n : ℚ) ≤ n := by exact_mod_cast Int.zpow_log_le_self (b := 2) (by norm_num) hpos
  rw [spacing, hexp, zpow_sub₀ (by norm_num)]
  exact div_le_div_of_nonneg_right hself (by positivity)

/-! ## Comparing with an integer -/

/-- **A number compares with a small integer as its nearest double does**, if it is not just above it. -/
theorem lt_nearest_iff {x : ℚ} {n : ℤ} {k : ℕ} (h0 : 0 ≤ n) (hn : n < 2 ^ k) (hk : k ≤ 50)
    (hgap : n < x → n + 2 ^ ((k : ℤ) - 51) ≤ x) : n < nearest x ↔ n < x := by
  have hnk : (n : ℚ) < 2 ^ (k : ℤ) := by rw [zpow_natCast]; exact_mod_cast hn
  have hstep : (2 : ℚ) ^ (k : ℤ) ≤ 2 ^ ((k : ℤ) + 1) := zpow_le_zpow_right₀ (by norm_num) (by omega)
  have hexp : |x| ≤ 2 ^ ((k : ℤ) + 1) → exponent x ≤ (k : ℤ) - 51 := by
    intro habs
    rcases exponent_le (by omega) habs with hle | hmin <;> omega
  constructor
  · -- up to `n`, rounding does not go past `n`
    intro hlt
    by_contra hle
    rw [not_lt] at hle
    by_cases hx : x ≤ 0
    · have hnonpos := nearest_nonpos hx
      have hn0 : (0 : ℚ) ≤ n := by exact_mod_cast h0
      linarith
    · have habs : |x| ≤ 2 ^ ((k : ℤ) + 1) := by
        rw [abs_of_pos (not_le.mp hx)]
        linarith
      obtain ⟨m, hm⟩ := exists_intCast_eq (x := x) ((hexp habs).trans (by omega)) n
      rw [hm] at hlt hle
      exact absurd (nearest_le hle) (not_le.mpr hlt)
  · intro hlt
    have hpos : 0 < x := lt_of_le_of_lt (by exact_mod_cast h0) hlt
    by_cases hbig : x ≤ 2 ^ ((k : ℤ) + 1)
    -- the next double above `n` is not above `x`
    · have hle : exponent x ≤ (k : ℤ) - 51 := hexp (by rwa [abs_of_pos hpos])
      obtain ⟨m, hm⟩ := exists_intCast_eq (x := x) (hle.trans (by omega)) n
      have hspacing : spacing x ≤ 2 ^ ((k : ℤ) - 51) := zpow_le_zpow_right₀ (by norm_num) hle
      have hnext : ((m + 1 : ℤ) : ℚ) * spacing x ≤ x := by
        have hadd := hgap hlt
        push_cast
        rw [add_mul, one_mul, ← hm]
        linarith
      have hround := le_nearest hnext
      push_cast at hround
      rw [add_mul, one_mul, ← hm] at hround
      have hspos := spacing_pos x
      linarith
    · have hround := zpow_le_nearest (k := (k : ℤ) + 1) (by omega) (not_le.mp hbig).le
      linarith

end Binary64
end StgEnvironment
