import StgEnvironment.Nrpe.Correctness.CheckIo
import StgEnvironment.Nrpe.CheckIoVerdict

/-!
# `Nrpe.Correctness.CheckIoVerdict`: when the verdict is one that Nagios knows

The percentage is a number exactly where there is a state file and the clock has gone on. The tests of a number that is
negative, or that does not fit 64 bits, fail like those of no number at all, and the run ends with status 4
(`validVerdict_iff`).

## Contents
- **What is read**: the values of the last run, or nothing.
- **The percentage**: its three cases, as `bc` has them (`Shell.Bc`).
- **The comparisons**: what `[` makes of the words that `bc` has printed (`Shell.Test`).
- **The verdict**: `Measurable` is the condition on the file, the counters and the clock.
-/

namespace StgEnvironment
namespace Nrpe.CheckIo

/-! ## What is read -/

theorem LastValues.fst_labelled (v : LastValues) : v.labelled.map Prod.fst = check_io.labels := rfl

theorem value_decimal (n : ℤ) : Value (decimal n) := by
  refine ⟨isWord_decimal n, fun c hc => ?_⟩
  rcases mem_decimal hc with rfl | hdigit
  · rfl
  · exact isUpper_of_isDigit hdigit

section Probe
variable (p : Probe)

/-- The clock of the run. -/
def Probe.now : ℤ := Bc.read p.run.CURRENTPROBESECONDS

/-- The I/O milliseconds that the run measures. -/
def Probe.io : ℤ := Bc.read ((((measured check_io p.run).map Prod.snd)[3]?).getD [])

variable {p}

theorem Probe.readings_some {v : LastValues} (h : p.last = some v) :
    readings check_io p.files p.run.path = v.labelled.map Prod.snd := by
  refine readings_content readable_check_io v.fst_labelled (fun w hw => ?_) (by rw [p.stored, h]; rfl)
  simp only [LastValues.labelled, List.mem_cons, List.not_mem_nil, or_false] at hw
  rcases hw with rfl | rfl | rfl | rfl <;> exact value_decimal _

/-- A run without one reads nothing, once for each label. -/
theorem Probe.readings_none (h : p.last = none) :
    readings check_io p.files p.run.path = check_io.labels.map fun _ => [] :=
  readings_absent readable_check_io (by rw [p.stored, h]; rfl)

/-- **Without a state file there are no differences.** -/
theorem Probe.DIFF_none (h : p.last = none) (k : ℕ) : p.DIFF k = .error .syntaxError := by
  have hempty : ((readings check_io p.files p.run.path)[k]?).getD [] = [] := by
    rw [p.readings_none h, List.getElem?_map]
    cases check_io.labels[k]? <;> rfl
  rw [Probe.DIFF, hempty, Bc.minus, if_pos rfl]

theorem Probe.DIFF_some {v : LastValues} (h : p.last = some v) {k : ℕ} {n : ℤ}
    (hk : (v.labelled.map Prod.snd)[k]? = some (decimal n)) :
    p.DIFF k = .ok (Bc.read ((((measured check_io p.run).map Prod.snd)[k]?).getD []) - n) := by
  rw [Probe.DIFF, p.readings_some h, hk, Option.getD_some, Bc.minus, if_neg (decimal_ne_nil n), Bc.read_decimal]

theorem Probe.DIFFSECONDS_some {v : LastValues} (h : p.last = some v) : p.DIFFSECONDS = .ok (p.now - v.SECONDS) :=
  p.DIFF_some h rfl

theorem Probe.DIFFIOMILISEC_some {v : LastValues} (h : p.last = some v) :
    p.DIFFIOMILISEC = .ok (p.io - v.IOMILISEC) := p.DIFF_some h rfl

/-! ## The percentage -/

/-- Without a file `bc` has no second number, and its error goes on to the percentage. -/
theorem Probe.PERSENTAGEUSAGE_none (h : p.last = none) : p.PERSENTAGEUSAGE = .error .syntaxError := by
  rw [Probe.PERSENTAGEUSAGE, Probe.DIFFIOMILISEC, p.DIFF_none h, Bc.divide]
  intro a b ha
  cases ha

theorem Probe.PERSENTAGEUSAGE_zero {v : LastValues} (h : p.last = some v) (hzero : v.SECONDS = p.now) :
    p.PERSENTAGEUSAGE = .error .divideByZero := by
  have helapsed : p.now - v.SECONDS = 0 := by omega
  rw [Probe.PERSENTAGEUSAGE, p.DIFFIOMILISEC_some h, p.DIFFSECONDS_some h, helapsed]
  exact Bc.divide_zero

theorem Probe.PERSENTAGEUSAGE_some {v : LastValues} (h : p.last = some v) (hlater : v.SECONDS < p.now) :
    p.PERSENTAGEUSAGE = .ok ((p.io - v.IOMILISEC).tdiv (10 * (p.now - v.SECONDS))) := by
  have hne : (p.now - v.SECONDS) * 10 ≠ 0 := by omega
  rw [Probe.PERSENTAGEUSAGE, p.DIFFIOMILISEC_some h, p.DIFFSECONDS_some h]
  show Bc.divide 0 (.ok (p.io - v.IOMILISEC)) (.ok ((p.now - v.SECONDS) * 10)) = _
  rw [Bc.divide_ok hne, pow_zero, mul_one, mul_comm 10]

/-- No rate is divided by zero while the clock goes on. -/
theorem Probe.rate_ne_divideByZero (sectors : Bc.Result) (h : p.DIFFSECONDS ≠ .ok 0) :
    p.rate sectors ≠ .error .divideByZero := by
  refine Bc.divide_ne_divideByZero fun hzero => h ?_
  cases hseconds : p.DIFFSECONDS with
  | error e => rw [hseconds, Bc.unquoted] at hzero; cases hzero
  | ok n =>
      rw [hseconds, Bc.unquoted] at hzero
      split_ifs at hzero
      exact hzero

/-! ## The tests -/

/-- What `bc` prints holds no operator of `[`, and neither does the comparison: each operator has a character that no
    number has. -/
theorem isOperator_printed (n : ℤ) (limit : ℕ) :
    ∀ w ∈ words (Bc.wrap (decimal n)) ++ ["-ge".toList, Nat.toDigits 10 limit], Shell.isOperator w = false := by
  -- each operator has one of these characters
  have hnot : ∀ w : Word, (∀ c ∈ w, c ∉ "!(ao".toList) → Shell.isOperator w = false := by
    intro w hchars
    rw [Shell.isOperator, List.any_eq_false]
    intro o ho heq
    obtain rfl := beq_iff_eq.mp heq
    fin_cases ho
    · exact hchars '!' (by decide) (by decide)
    · exact hchars '(' (by decide) (by decide)
    · exact hchars 'a' (by decide) (by decide)
    · exact hchars 'o' (by decide) (by decide)
  have hdigit : ∀ c : Char, c.isDigit = true → c ∉ "!(ao".toList := by
    intro c hc hmem
    fin_cases hmem <;> exact absurd hc (by decide)
  intro w hw
  rcases List.mem_append.mp hw with hw | hw
  · refine hnot w fun c hc => ?_
    rcases Bc.mem_wrap (mem_of_mem_words hw c hc) with hmem | rfl | rfl
    · rcases mem_decimal hmem with rfl | hc
      · decide
      · exact hdigit c hc
    · decide
    · decide
  · rcases List.mem_cons.mp hw with rfl | hw
    · decide
    · rw [List.mem_singleton.mp hw]
      exact hnot _ fun c hc => hdigit c (Nat.isDigit_of_mem_toDigits (by omega) (by omega) hc)

/-- **`[` compares a number that fits 64 bits, and fails on any other.** A longer one may even be printed on two
    lines, and then is two arguments. -/
theorem Probe.atLeast_ok (fs : Shell.Files) {n : ℤ} (h : p.PERSENTAGEUSAGE = .ok n) (limit : ℕ)
    (hlimit : limit < 2 ^ 63) : p.atLeast fs limit = true ↔ (limit : ℤ) ≤ n ∧ n < 2 ^ 63 := by
  rw [Probe.atLeast, h, decide_eq_true_iff, Bc.printed]
  by_cases hline : (decimal n).length ≤ 69
  · rw [Bc.wrap_of_length_le hline, words_word (isWord_decimal n), List.singleton_append]
    exact Shell.test_ge_decimal fs n hlimit
  · have htwo := Bc.two_le_words_wrap (isWord_decimal n) (by omega)
    have herror : Shell.test fs (words (Bc.wrap (decimal n)) ++ ["-ge".toList, Nat.toDigits 10 limit]) = .error :=
      Shell.test_of_no_operator fs
        (by simp only [List.length_append, List.length_cons, List.length_nil]; omega)
        fun w hw => isOperator_printed n limit w (List.mem_of_mem_take hw)
    rw [herror]
    constructor
    · intro h
      cases h
    · rintro ⟨hge, hfits⟩
      -- a number that fits 64 bits fits a line
      have hdigits : (Nat.toDigits 10 n.natAbs).length ≤ 69 :=
        (Nat.length_toDigits_le_iff (by omega) (by omega)).mpr (by omega)
      rw [decimal_of_nonneg (by omega)] at hline
      exact absurd hdigits hline

/-- `[` gets one argument too few, and no comparison succeeds. -/
theorem Probe.atLeast_error (fs : Shell.Files) {e : Bc.Failure} (h : p.PERSENTAGEUSAGE = .error e) (limit : ℕ) :
    p.atLeast fs limit = false := by
  have hnil : words (Bc.printed (.error e)) = [] := wordsBy_nil
  rw [Probe.atLeast, h, hnil, List.nil_append, Shell.test_ge_nil]
  rfl

/-- What the status says of a percentage. -/
def severity (n : ℤ) : ℕ := if 90 ≤ n then 2 else if 80 ≤ n then 1 else 0

/-- A number that is not negative and fits 64 bits is compared. -/
theorem Probe.code_ok (fs : Shell.Files) {n : ℤ} (h : p.PERSENTAGEUSAGE = .ok n) (hlow : 0 ≤ n) (hhigh : n < 2 ^ 63) :
    (p.verdict fs).code = severity n := by
  have hcritical := p.atLeast_ok fs h 90 (by omega)
  have hwarning := p.atLeast_ok fs h 80 (by omega)
  have hnormal := p.atLeast_ok fs h 0 (by omega)
  unfold Probe.verdict severity
  by_cases h90 : (90 : ℤ) ≤ n
  · rw [if_pos (hcritical.mpr ⟨h90, hhigh⟩), if_pos h90]
  · rw [if_neg fun hge => h90 (hcritical.mp hge).1, if_neg h90]
    by_cases h80 : (80 : ℤ) ≤ n
    · rw [if_pos (hwarning.mpr ⟨h80, hhigh⟩), if_pos h80]
    · rw [if_neg fun hge => h80 (hwarning.mp hge).1, if_neg h80, if_pos (hnormal.mpr ⟨hlow, hhigh⟩)]

/-- **A run that no test lets pass ends with a status that Nagios does not know.** -/
theorem Probe.code_four (fs : Shell.Files) (h : ∀ limit : ℕ, limit < 2 ^ 63 → p.atLeast fs limit = false) :
    (p.verdict fs).code = 4 := by
  unfold Probe.verdict
  rw [h 90 (by omega), h 80 (by omega), h 0 (by omega)]
  rfl

/-! ## Verdicts -/

/-- A quotient that is cut off at the point, against a bound above zero. -/
theorem tdiv_lt_iff {a b m : ℤ} (hb : 0 < b) (hm : 0 < m) : a.tdiv b < m ↔ a < m * b := by
  constructor
  · exact Int.lt_mul_of_tdiv_lt hb
  · intro h
    by_cases ha : 0 ≤ a
    · rw [Int.tdiv_eq_ediv_of_nonneg ha]
      exact Int.ediv_lt_of_lt_mul hb h
    · have hneg := Int.tdiv_nonneg (a := -a) (b := b) (by omega) (by omega)
      rw [Int.neg_tdiv] at hneg
      omega

/-- Division rounds towards zero, so a small negative quotient is no negative percentage. -/
theorem tdiv_nonneg_iff {a b : ℤ} (hb : 0 < b) : 0 ≤ a.tdiv b ↔ -b < a := by
  have hlt := tdiv_lt_iff (a := -a) hb Int.one_pos
  rw [Int.neg_tdiv, one_mul] at hlt
  omega

/-- **The intended behaviour.** The run divides by no zero, its status is one of Nagios', and it is that of the
    percentage where there is one: the last probe is older, and the counter has not gone back. -/
structure ValidVerdict (fs : Shell.Files) (p : Probe) : Prop where
  divides : p.PERSENTAGEUSAGE ≠ .error .divideByZero ∧ p.SECREADRATE ≠ .error .divideByZero ∧
    p.SECWRITERATE ≠ .error .divideByZero
  code : (p.verdict fs).code ∈ [0, 1, 2, 3]
  judged : ∀ v, p.last = some v → v.SECONDS < p.now → v.IOMILISEC ≤ p.io →
    (p.verdict fs).code = severity ((p.io - v.IOMILISEC).tdiv (10 * (p.now - v.SECONDS)))

/-- There is a state file, the clock has gone on, and the percentage is not negative and fits 64 bits. -/
def Probe.Measurable (p : Probe) : Prop :=
  ∃ v, p.last = some v ∧ v.SECONDS < p.now ∧ -(10 * (p.now - v.SECONDS)) < p.io - v.IOMILISEC ∧
    p.io - v.IOMILISEC < 2 ^ 63 * (10 * (p.now - v.SECONDS))

/-- Where there is something to measure, the verdict is valid: no divisor is 0, and the percentage passes through `bc`
    and `[` as the number that it is. -/
theorem Probe.Measurable.validVerdict (fs : Shell.Files) (h : p.Measurable) : ValidVerdict fs p := by
  obtain ⟨v, hlast, hlater, hlow, hhigh⟩ := h
  have hpos : 0 < 10 * (p.now - v.SECONDS) := by omega
  have hcode := p.code_ok fs (p.PERSENTAGEUSAGE_some hlast hlater) ((tdiv_nonneg_iff hpos).mpr hlow)
    ((tdiv_lt_iff hpos (by omega)).mpr hhigh)
  have hgone : p.DIFFSECONDS ≠ .ok 0 := by
    rw [p.DIFFSECONDS_some hlast]
    intro hzero
    have helapsed : p.now - v.SECONDS = 0 := Except.ok.inj hzero
    omega
  refine ⟨⟨?_, p.rate_ne_divideByZero _ hgone, p.rate_ne_divideByZero _ hgone⟩, ?_, ?_⟩
  · rw [p.PERSENTAGEUSAGE_some hlast hlater]
    intro herror
    cases herror
  · rw [hcode, severity]
    split_ifs <;> decide
  · intro v' hlast' _ _
    obtain rfl := Option.some.inj (hlast.symm.trans hlast')
    exact hcode

theorem ValidVerdict.measurable {fs : Shell.Files} (h : ValidVerdict fs p) : p.Measurable := by
  have hfour : ¬ (p.verdict fs).code = 4 := by
    intro heq
    have hcode := h.code
    rw [heq] at hcode
    exact absurd hcode (by decide)
  cases hlast : p.last with
  | none => exact absurd (p.code_four fs fun limit _ => p.atLeast_error fs (p.PERSENTAGEUSAGE_none hlast) limit) hfour
  | some v =>
      rcases eq_or_lt_of_le (p.clock v hlast) with hzero | hlater
      · exact absurd (p.PERSENTAGEUSAGE_zero hlast hzero) h.divides.1
      · have hpos : 0 < 10 * (p.now - v.SECONDS) := by
          have hlater' : v.SECONDS < p.now := hlater
          omega
        have husage := p.PERSENTAGEUSAGE_some hlast hlater
        refine ⟨v, hlast, hlater, (tdiv_nonneg_iff hpos).mp ?_, (tdiv_lt_iff hpos (by omega)).mp ?_⟩
        · by_contra hneg
          refine hfour (p.code_four fs fun limit hlimit => Bool.eq_false_iff.mpr fun hge => hneg ?_)
          exact le_trans (by omega) ((p.atLeast_ok fs husage limit hlimit).mp hge).1
        · by_contra hwide
          exact hfour (p.code_four fs fun limit hlimit => Bool.eq_false_iff.mpr fun hge =>
            hwide ((p.atLeast_ok fs husage limit hlimit).mp hge).2)

/-- **A run has a valid verdict exactly when there is something to compare with**: a state file, a clock that has gone
    on, and a percentage that is neither negative nor too large for `[`. Otherwise `bc` divides by zero, or no test
    lets the run pass. -/
theorem validVerdict_iff (fs : Shell.Files) : ValidVerdict fs p ↔ p.Measurable :=
  ⟨ValidVerdict.measurable, Probe.Measurable.validVerdict fs⟩

end Probe

/-- The first run for a device. -/
def firstProbe : Probe where
  run := vg0Root
  SECSIZE := 512
  files := fun _ => []
  last := none
  stored := rfl
  clock := fun _ h => by cases h

/-- The first run for a device ends with status 4. -/
theorem not_validVerdict_first : ¬ ValidVerdict Shell.Files.empty firstProbe := by
  intro h
  obtain ⟨v, hlast, -⟩ := h.measurable
  cases hlast

end Nrpe.CheckIo
end StgEnvironment
