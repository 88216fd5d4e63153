import StgEnvironment.Nrpe.CheckIoPy

/-!
# `Nrpe.Correctness.CheckIoPy`: what `check_io.py` accepts and measures

The first part says what is true of the arguments that `main` accepts (`Config`): the lemmas about the limits of a
device rest on it. The second part is about the samples. A counter that wraps around between them is corrected by
`sys.maxsize`, which is neither the modulus of the sector counters nor that of the time counter: the measured progress
is exact when the counter does not wrap, and never when it does (`measures_iff`).

The three counters are the values of `Measure`, and what is proved of one is proved of all: each has a column and a
width in bits. The true progress of a counter is a number that does not wrap; what a sample shows of it is that number
modulo two to its width.
-/

namespace StgEnvironment
namespace Nrpe.CheckIoPy
open Python

/-! ## Accepted arguments

What `main` has established about its arguments when it starts to measure: ranges by the validators of the options,
and relations between them by its own conditions. -/

/-- What the validator lets through is in its range. -/
theorem IntRangeValidator.call_ok {v : IntRangeValidator} {string : Text} {n : ℤ} (h : v.call string = .ok n) :
    (∀ lower ∈ v.lower_range, lower < n) ∧ ∀ upper ∈ v.upper_range, n < upper := by
  unfold IntRangeValidator.call at h
  split at h
  · cases h
  · rename_i val _
    split_ifs at h with hlower hupper
    obtain rfl := Except.ok.inj h
    refine ⟨fun lower hl => ?_, fun upper hu => ?_⟩
    · rw [Option.mem_def.mp hl, Option.any_some, decide_eq_true_iff] at hlower
      omega
    · rw [Option.mem_def.mp hu, Option.any_some, decide_eq_true_iff] at hupper
      omega

theorem option_ok {v : IntRangeValidator} {default n : ℤ} {o : Option Text} (h : option v default o = .ok n) :
    n = default ∨ ((∀ lower ∈ v.lower_range, lower < n) ∧ ∀ upper ∈ v.upper_range, n < upper) := by
  cases o with
  | none => exact Or.inl (Except.ok.inj h).symm
  | some string => exact Or.inr (IntRangeValidator.call_ok h)

theorem limit_pos {o : Option Text} {r : Option ℤ} (h : limit ⟨some 0, none⟩ o = .ok r) : ∀ n ∈ r, 0 < n := by
  cases o with
  | none => obtain rfl := Except.ok.inj h; exact fun n hn => by cases hn
  | some string =>
      cases hcall : IntRangeValidator.call ⟨some 0, none⟩ string with
      | error text => rw [limit, hcall] at h; cases h
      | ok val =>
          rw [limit, hcall] at h
          obtain rfl := Except.ok.inj h
          intro n hn
          obtain rfl := Option.some.inj hn
          exact (IntRangeValidator.call_ok hcall).1 0 rfl

/-- What the validators leave to `main`: a positive averaging period, positive limits of the throughput, and for the
    utilization a warning limit above 0 and a critical one below 100. -/
structure Args.Ranged (args : Args) : Prop where
  averaging_period : 0 < args.averaging_period
  util_warn : 0 < args.util_warn
  util_crit : args.util_crit < 100
  sread_warn : ∀ n ∈ args.sread_warn, 0 < n
  sread_crit : ∀ n ∈ args.sread_crit, 0 < n
  swrite_warn : ∀ n ∈ args.swrite_warn, 0 < n
  swrite_crit : ∀ n ∈ args.swrite_crit, 0 < n

theorem parse_args_ranged {o : Options} {diskstats : Snapshot} {args : Args} (h : parse_args o diskstats = .ok args) :
    args.Ranged := by
  obtain ⟨timeout, -, h⟩ := bind_eq_ok.mp h
  obtain ⟨averaging_period, hperiod, h⟩ := bind_eq_ok.mp h
  obtain ⟨sread_warn, hsread_warn, h⟩ := bind_eq_ok.mp h
  obtain ⟨sread_crit, hsread_crit, h⟩ := bind_eq_ok.mp h
  obtain ⟨swrite_warn, hswrite_warn, h⟩ := bind_eq_ok.mp h
  obtain ⟨swrite_crit, hswrite_crit, h⟩ := bind_eq_ok.mp h
  obtain ⟨util_warn, hutil_warn, h⟩ := bind_eq_ok.mp h
  obtain ⟨util_crit, hutil_crit, h⟩ := bind_eq_ok.mp h
  obtain ⟨devices, -, h⟩ := bind_eq_ok.mp h
  obtain rfl := pure_eq_ok.mp h
  refine ⟨?_, ?_, ?_, limit_pos hsread_warn, limit_pos hsread_crit, limit_pos hswrite_warn, limit_pos hswrite_crit⟩
  · rcases option_ok hperiod with rfl | ⟨hlower, -⟩
    · show 0 < DEFAULT_AVERAGING_PERIOD; decide
    · exact hlower 0 rfl
  · rcases option_ok hutil_warn with rfl | ⟨hlower, -⟩
    · show 0 < DEFAULT_UTIL_WARN; decide
    · exact hlower 0 rfl
  · rcases option_ok hutil_crit with rfl | ⟨-, hupper⟩
    · show DEFAULT_UTIL_CRIT < 100; decide
    · exact hupper 100 rfl

/-- Throughput limits, all four of them, as `validate` lets them pass: positive, and a warning below the critical
    limit. -/
structure Limits where
  sread_warn : ℤ
  sread_crit : ℤ
  swrite_warn : ℤ
  swrite_crit : ℤ
  sread : 0 < sread_warn ∧ sread_warn < sread_crit
  swrite : 0 < swrite_warn ∧ swrite_warn < swrite_crit

/-- The arguments have these throughput limits, or none. An accepted configuration has all four or none
    (`Config.limits`). -/
structure Args.Limited (args : Args) (l : Option Limits) : Prop where
  sread_warn : args.sread_warn = l.map Limits.sread_warn
  sread_crit : args.sread_crit = l.map Limits.sread_crit
  swrite_warn : args.swrite_warn = l.map Limits.swrite_warn
  swrite_crit : args.swrite_crit = l.map Limits.swrite_crit

/-- A limit that is not zero is a condition by whether it is given. -/
theorem truthy_eq_isSome {o : Option ℤ} (h : ∀ n ∈ o, 0 < n) : truthy o = o.isSome := by
  cases o with
  | none => rfl
  | some n =>
      have hpos := h n rfl
      rw [truthy, Option.isSome_some, bne_iff_ne]
      omega

theorem validate_none {args : Args} (hr : args.Ranged) (h : validate args = none) :
    args.averaging_period ≤ args.timeout ∧ args.util_warn < args.util_crit ∧ ∃ l, args.Limited l := by
  unfold validate at h
  rw [truthy_eq_isSome hr.sread_warn, truthy_eq_isSome hr.sread_crit, truthy_eq_isSome hr.swrite_warn,
    truthy_eq_isSome hr.swrite_crit] at h
  split_ifs at h with hperiod hutil hsome hwarn hread hwrite
  · -- all limits are there, and in order
    refine ⟨by omega, by omega, ?_⟩
    rw [Bool.and_eq_true, not_and, Bool.not_eq_true', Bool.not_eq_false] at hsome
    have hall := hsome (by simp [hwarn])
    simp only [Bool.and_eq_true, Option.isSome_iff_exists] at hall
    obtain ⟨⟨⟨⟨sw, hrw⟩, sc, hrc⟩, ww, hww⟩, wc, hwc⟩ := hall
    rw [hrw, hrc, atLeast, decide_eq_true_iff] at hread
    rw [hww, hwc, atLeast, decide_eq_true_iff] at hwrite
    have hsread : 0 < sw ∧ sw < sc := ⟨hr.sread_warn _ hrw, by omega⟩
    have hswrite : 0 < ww ∧ ww < wc := ⟨hr.swrite_warn _ hww, by omega⟩
    exact ⟨some ⟨sw, sc, ww, wc, hsread, hswrite⟩, hrw, hrc, hww, hwc⟩
  · refine ⟨by omega, by omega, none, ?_⟩
    rw [Bool.not_eq_true, Option.isSome_eq_false_iff, Option.isNone_iff_eq_none] at hwarn
    rw [hwarn] at hsome
    have hnone : args.sread_crit = none ∧ args.swrite_warn = none ∧ args.swrite_crit = none := by
      simpa [hwarn, and_assoc] using hsome
    exact ⟨hwarn, hnone.1, hnone.2.1, hnone.2.2⟩

namespace Config
variable (c : Config)

/-- The arguments of an accepted configuration are in range. -/
theorem ranged : c.args.Ranged := parse_args_ranged c.parsed

/-- The averaging period is not above the timeout, which may be all of it. -/
theorem averaging_period_le : c.args.averaging_period ≤ c.args.timeout := (validate_none c.ranged c.valid).1

/-- The warning limit of the utilization is below the critical one. -/
theorem util_lt : c.args.util_warn < c.args.util_crit := (validate_none c.ranged c.valid).2.1

/-- The throughput limits are given all or not at all, each warning limit below its critical one. -/
theorem limits : ∃ l, c.args.Limited l := (validate_none c.ranged c.valid).2.2

end Config

/-- A device of a configuration, with its samples. -/
def Args.device (args : Args) (name : Text) (performance_data : List Row) : Device :=
  { newDevice args name with performance_data := performance_data }

/-! ## Counters

The kernel shows a counter modulo its width. The source corrects a negative difference by `sys.maxsize`, which would
have to be the modulus. -/

/-- The correction of lines 111 to 113. -/
def corrected (difference : ℤ) : ℤ := if difference < 0 then difference + maxsize else difference

theorem item_eq {x : Row} {i : ℕ} {o : Obj} (h : x[i]? = some o) : item x i = .ok o := by rw [item, h]

/-- A difference of two numbers, corrected if it is negative. -/
theorem difference_eq {first second : Row} {column : ℕ} {a b : ℤ} (h₀ : first[column]? = some (.int a))
    (h₁ : second[column]? = some (.int b)) : difference first second column = .ok (corrected (b - a)) := by
  rw [difference, item_eq h₀, item_eq h₁]
  rfl

/-- The three counters that the plugin looks at. -/
inductive Measure where
  | sread | swrite | tbusy
deriving DecidableEq

/-- Where the counter is in a sample. -/
def Measure.column : Measure → ℕ
  | .sread => 2
  | .swrite => 6
  | .tbusy => 9

/-- The number of bits of the counter in the kernel of a 64-bit host. -/
def Measure.width : Measure → ℕ
  | .sread => 64
  | .swrite => 64
  | .tbusy => 32

/-- The difference of a measure. -/
def Differences.of (Δ : Differences) : Measure → ℤ
  | .sread => Δ.sread
  | .swrite => Δ.swrite
  | .tbusy => Δ.tbusy

/-- What `checkLimits` compares with the limits are the differences of the first two samples. -/
theorem checkLimits_eq {d : Device} {first second : Row} {rest : List Row}
    (h : d.performance_data = first :: second :: rest) :
    d.checkLimits = differences first second >>= d.judge := by
  rw [Device.checkLimits, h]

/-- The differences of two samples with these columns. -/
theorem differences_eq {first second : Row} {a b : Measure → ℤ}
    (h₀ : ∀ m : Measure, first[m.column]? = some (.int (a m)))
    (h₁ : ∀ m : Measure, second[m.column]? = some (.int (b m))) :
    ∃ Δ, differences first second = .ok Δ ∧ ∀ m, Δ.of m = corrected (b m - a m) := by
  refine ⟨⟨corrected (b .sread - a .sread), corrected (b .swrite - a .swrite), corrected (b .tbusy - a .tbusy)⟩, ?_, ?_⟩
  · have hsread : difference first second 2 = _ := difference_eq (h₀ .sread) (h₁ .sread)
    have hswrite : difference first second 6 = _ := difference_eq (h₀ .swrite) (h₁ .swrite)
    have htbusy : difference first second 9 = _ := difference_eq (h₀ .tbusy) (h₁ .tbusy)
    rw [differences, hsread, hswrite, htbusy]
    rfl
  · rintro (_ | _ | _) <;> rfl

/-- The true values of the counters at two times, which only grow, and by less than the range of the counter. -/
structure Progress where
  before : Measure → ℕ
  after : Measure → ℕ
  monotone : ∀ m, before m ≤ after m
  bounded : ∀ m, after m - before m < 2 ^ m.width

/-- The sample that the kernel shows of these values. -/
def Exposes (sample : Row) (counters : Measure → ℕ) : Prop :=
  ∀ m : Measure, sample[m.column]? = some (.int (counters m % 2 ^ m.width : ℕ))

/-- The first two samples of a device are taken at these times. -/
def Device.Sampled (d : Device) (p : Progress) : Prop :=
  ∃ first second rest, d.performance_data = first :: second :: rest ∧ Exposes first p.before ∧ Exposes second p.after

/-- **The intended behaviour**: the difference that `checkLimits` compares with the limits is the progress. -/
def Device.MeasuresProgress (d : Device) (p : Progress) (m : Measure) : Prop :=
  ∃ first second rest Δ, d.performance_data = first :: second :: rest ∧ differences first second = .ok Δ ∧
    d.checkLimits = d.judge Δ ∧ Δ.of m = p.after m - p.before m

/-- The counter passes no multiple of its modulus. -/
def Progress.NoWrap (p : Progress) (m : Measure) : Prop := p.before m / 2 ^ m.width = p.after m / 2 ^ m.width

instance (p : Progress) (m : Measure) : Decidable (p.NoWrap m) := inferInstanceAs (Decidable (_ = _))

/-- The difference of the residues, with and without a wrap. The quotients are equal or one apart, as the difference
    is less than the modulus. -/
theorem residues_sub (p : Progress) (m : Measure) :
    (p.NoWrap m ∧ ((p.after m % 2 ^ m.width : ℕ) : ℤ) - (p.before m % 2 ^ m.width : ℕ) = p.after m - p.before m) ∨
      (¬ p.NoWrap m ∧ ((p.after m % 2 ^ m.width : ℕ) : ℤ) - (p.before m % 2 ^ m.width : ℕ) =
        p.after m - p.before m - 2 ^ m.width) := by
  have hle := p.monotone m
  have hlt := p.bounded m
  unfold Progress.NoWrap
  generalize p.before m = a at *
  generalize p.after m = b at *
  have hpow : ((2 ^ m.width : ℕ) : ℤ) = 2 ^ m.width := by push_cast; rfl
  rw [← hpow]
  have hpos : 0 < 2 ^ m.width := by positivity
  generalize 2 ^ m.width = w at *
  have ha := Nat.div_add_mod a w
  have hb := Nat.div_add_mod b w
  have hma := Nat.mod_lt a hpos
  have hmb := Nat.mod_lt b hpos
  by_cases hwrap : a / w = b / w
  · refine Or.inl ⟨hwrap, ?_⟩
    rw [hwrap] at ha
    omega
  · -- the quotients are one apart, as the difference is less than the modulus
    have hdiv : a / w ≤ b / w := Nat.div_le_div_right hle
    have hone : b / w = a / w + 1 := by
      have hnext : b / w < a / w + 2 := by
        rw [Nat.div_lt_iff_lt_mul hpos, Nat.add_mul, Nat.mul_comm (a / w)]
        omega
      omega
    rw [hone, Nat.mul_add, Nat.mul_one] at hb
    refine Or.inr ⟨hwrap, ?_⟩
    omega

/-- **The progress of a counter is measured exactly if it does not wrap.** The difference of the two samples is the
    progress, or the progress less the modulus of the counter; in the second case it is negative, and what is added to
    it is `maxsize`, which is the modulus of none of the three counters. -/
theorem measuresProgress_iff {d : Device} {p : Progress} (h : d.Sampled p) (m : Measure) :
    d.MeasuresProgress p m ↔ p.NoWrap m := by
  obtain ⟨first, second, rest, hdata, h₀, h₁⟩ := h
  obtain ⟨Δ, hΔ, hof⟩ := differences_eq h₀ h₁
  have hcompared : d.MeasuresProgress p m ↔ Δ.of m = p.after m - p.before m := by
    constructor
    · rintro ⟨first', second', rest', Δ', hdata', hΔ', -, hm⟩
      obtain ⟨rfl, hcons⟩ := List.cons.inj (hdata.symm.trans hdata')
      obtain ⟨rfl, -⟩ := List.cons.inj hcons
      obtain rfl := Except.ok.inj (hΔ.symm.trans hΔ')
      exact hm
    · intro hm
      exact ⟨first, second, rest, Δ, hdata, hΔ, by rw [checkLimits_eq hdata, hΔ]; rfl, hm⟩
  rw [hcompared, hof m]
  have hle := p.monotone m
  have hlt := p.bounded m
  rcases residues_sub p m with ⟨hno, hsub⟩ | ⟨hwrap, hsub⟩
  · rw [hsub, corrected, if_neg (by omega)]
    simp [hno]
  · -- the correction is not the modulus
    have hneg : (p.after m : ℤ) - p.before m - 2 ^ m.width < 0 := by
      have hcast : ((2 ^ m.width : ℕ) : ℤ) = 2 ^ m.width := by push_cast; rfl
      omega
    have hmodulus : (2 : ℤ) ^ m.width ≠ maxsize := by cases m <;> decide
    rw [hsub, corrected, if_pos hneg]
    simp only [hwrap, iff_false]
    omega

/-! ## A device of the default configuration

A counter before and after a second, once without and once with a wrap of the 32 bits of the time counter. -/

/-- The configuration of a command line without options. -/
def Config.unlimited : Config where
  options := .none
  listed := .empty
  args := ⟨6, 2, none, none, none, none, 80, 90, none⟩
  parsed := rfl
  armed := by decide
  valid := by decide

/-- A sample with these counters. -/
def row (sread swrite tbusy : ℤ) : Row :=
  [0, 0, sread, 0, 0, 0, swrite, 0, 0, tbusy, 0].map .int

/-- The clocks of a device that goes on for a second, from a number of milliseconds on. -/
def secondFrom (tbusy : ℕ) : Progress where
  before := fun m => if m = .tbusy then tbusy else 0
  after := fun m => if m = .tbusy then tbusy + 1000 else 0
  monotone := by intro m; split_ifs <;> omega
  bounded := by intro m; cases m <;> simp [Measure.width]

/-- Without a wrap, the second is measured. -/
theorem measuresProgress_second :
    (Config.unlimited.args.device "sda".toList [row 0 0 4000, row 0 0 5000]).MeasuresProgress
      (secondFrom 4000) .tbusy :=
  (measuresProgress_iff
    ⟨row 0 0 4000, row 0 0 5000, [], rfl, by rintro (_ | _ | _) <;> rfl, by rintro (_ | _ | _) <;> rfl⟩
    .tbusy).mpr (by decide)

/-- At the wrap of the time counter, the second is measured as 292 million years. -/
theorem not_measuresProgress_wrap :
    (Config.unlimited.args.device "sda".toList [row 0 0 (2 ^ 32 - 500), row 0 0 500]).Sampled
      (secondFrom (2 ^ 32 - 500)) ∧
      ¬ (Config.unlimited.args.device "sda".toList [row 0 0 (2 ^ 32 - 500), row 0 0 500]).MeasuresProgress
        (secondFrom (2 ^ 32 - 500)) .tbusy := by
  refine ⟨⟨row 0 0 (2 ^ 32 - 500), row 0 0 500, [], rfl, ?_, ?_⟩, ?_⟩
  · rintro (_ | _ | _) <;> decide
  · rintro (_ | _ | _) <;> decide
  · rintro ⟨first, second, rest, Δ, hdata, hΔ, -, hm⟩
    obtain ⟨rfl, hcons⟩ := List.cons.inj hdata
    obtain ⟨rfl, -⟩ := List.cons.inj hcons
    obtain rfl := Except.ok.inj hΔ
    exact absurd hm (by decide)

end Nrpe.CheckIoPy
end StgEnvironment
