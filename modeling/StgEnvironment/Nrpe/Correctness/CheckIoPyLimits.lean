import StgEnvironment.Nrpe.Correctness.CheckIoPy

/-!
# `Nrpe.Correctness.CheckIoPyLimits`: how `checkLimits` judges a device

`Args.severity` is the greatest of the severities of the three measures. `checkLimits` returns it for every accepted
configuration and every two samples of a device (`correctSeverity`): no branch takes back what an earlier one has
found, and the quotient of line 134, a double, compares with the limits as the exact one does.

The throughput limits are meant for sectors per second, but the differences are compared with them as they are, whatever
the averaging period (`judgesRates_iff`).

## Contents
- **Samples**: eleven counters of 64 bits, and what the plugin measures of two of them.
- **Severities**: of a value and two limits, over any linear order, so that integers and quotients have the same lemmas.
- **The branches**: each adds its severity and its text, and none raises an exception.
- **The utilization**: a quotient of integers compares with an integer limit as its double does, because it is not
  closer to the limit than the doubles there (`Lib.Binary64`).
- **The rates**: the exact condition under which a difference is judged as the rate would be, and that it holds for
  every two samples only if no counter can reach its limits (`OutOfReach`).
-/

namespace StgEnvironment
namespace Nrpe.CheckIoPy
open Python

/-! ## Samples

The counters are unsigned and of 64 bits, which bounds the differences. Of a device with two samples `checkLimits`
looks at the differences of three columns only. -/

/-- The counters of a device, as the kernel shows them. -/
structure Sample where
  stats : List ℕ
  complete : 11 ≤ stats.length
  unsigned : ∀ n ∈ stats, n < 2 ^ 64

namespace Sample

/-- The sample as a row of the plugin. -/
def row (s : Sample) : Row := s.stats.map fun n : ℕ => Obj.int (n : ℤ)

def counter (s : Sample) (m : Measure) : ℕ := s.stats.getD m.column 0

theorem column_lt (m : Measure) : m.column < 11 := by cases m <;> decide

theorem row_column (s : Sample) (m : Measure) : s.row[m.column]? = some (.int (s.counter m)) := by
  have hlt : m.column < s.stats.length := lt_of_lt_of_le (column_lt m) s.complete
  rw [row, List.getElem?_map, List.getElem?_eq_getElem hlt, Option.map_some, counter,
    List.getD_eq_getElem _ _ hlt]

theorem counter_lt (s : Sample) (m : Measure) : s.counter m < 2 ^ 64 := by
  have hlt : m.column < s.stats.length := lt_of_lt_of_le (column_lt m) s.complete
  rw [counter, List.getD_eq_getElem _ _ hlt]
  exact s.unsigned _ (List.getElem_mem hlt)

end Sample

/-- The differences of two samples. -/
def measured (first second : Sample) : Differences :=
  ⟨corrected (second.counter .sread - first.counter .sread), corrected (second.counter .swrite - first.counter .swrite),
    corrected (second.counter .tbusy - first.counter .tbusy)⟩

theorem measured_of (first second : Sample) (m : Measure) :
    (measured first second).of m = corrected (second.counter m - first.counter m) := by cases m <;> rfl

/-- Differences are given by those of the three measures. -/
theorem Differences.ext_of {Δ Δ' : Differences} (h : ∀ m, Δ.of m = Δ'.of m) : Δ = Δ' := by
  obtain ⟨sread, swrite, tbusy⟩ := Δ
  obtain ⟨sread', swrite', tbusy'⟩ := Δ'
  obtain rfl : sread = sread' := h .sread
  obtain rfl : swrite = swrite' := h .swrite
  obtain rfl : tbusy = tbusy' := h .tbusy
  rfl

theorem differences_row (first second : Sample) : differences first.row second.row = .ok (measured first second) := by
  obtain ⟨Δ, hΔ, hof⟩ := differences_eq first.row_column second.row_column
  rw [hΔ, Differences.ext_of fun m => (hof m).trans (measured_of first second m).symm]

/-- The differences fit 64 bits and a sign, corrected or not. -/
theorem abs_measured_le (first second : Sample) (m : Measure) : |(measured first second).of m| ≤ 2 ^ 64 := by
  have h₀ := first.counter_lt m
  have h₁ := second.counter_lt m
  have hmax : maxsize = 9223372036854775807 := by decide
  rw [measured_of, corrected, abs_le]
  split_ifs <;> omega

/-- The judgement of a device with two samples. -/
theorem checkLimits_device (args : Args) (name : Text) (first second : Sample) (rest : List Row) :
    (args.device name (first.row :: second.row :: rest)).checkLimits =
      (args.device name (first.row :: second.row :: rest)).judge (measured first second) := by
  rw [checkLimits_eq rfl, differences_row]
  rfl

/-! ## Severities

What a status should be, before any text is written: a function of a value and two limits, monotone in the value,
and the greatest of three of them for a device. -/

section Severity
variable {α : Type*} [LinearOrder α] {value warn crit : α}

/-- The severity of a value, strictly above its limits. -/
def severity (value warn crit : α) : ℕ := if crit < value then 2 else if warn < value then 1 else 0

theorem severity_le_two : severity value warn crit ≤ 2 := by
  unfold severity
  split_ifs <;> omega

theorem severity_mono {value' : α} (h : value ≤ value') : severity value warn crit ≤ severity value' warn crit := by
  unfold severity
  split_ifs with hcrit hcrit' hwarn' hwarn
  · exact le_rfl
  · exact absurd (lt_of_lt_of_le hcrit h) hcrit'
  · exact absurd (lt_of_lt_of_le hcrit h) hcrit'
  · omega
  · exact le_rfl
  · exact absurd (lt_of_lt_of_le hwarn h) ‹_›
  · omega
  · omega
  · omega

end Severity

/-- The severity of a throughput: none without limits. -/
def limitSeverity (value : ℤ) : Option ℤ → Option ℤ → ℕ
  | some warn, some crit => severity value warn crit
  | _, _ => 0

/-- Limits that are not given make no difference to that. -/
theorem limitSeverity_le_two (value : ℤ) (warn crit : Option ℤ) : limitSeverity value warn crit ≤ 2 := by
  cases warn with
  | none => exact Nat.zero_le 2
  | some warn =>
      cases crit with
      | none => exact Nat.zero_le 2
      | some crit => exact severity_le_two

/-- The busy time, in percents of the averaging period. -/
def Args.utilization (args : Args) (tbusy : ℤ) : ℚ := 100 * tbusy / (1000 * args.averaging_period)

/-- **The severity of a device**: the greatest of those of its measures. -/
def Args.severity (args : Args) (Δ : Differences) : ℕ :=
  max (max (limitSeverity Δ.sread args.sread_warn args.sread_crit)
    (limitSeverity Δ.swrite args.swrite_warn args.swrite_crit))
    (CheckIoPy.severity (args.utilization Δ.tbusy) args.util_warn args.util_crit)

/-! ## One measure after the other

Each branch of the source is a function that may raise, and hands on a status and a message. Where it returns, it
has raised the status to the severity of its measure, and has left the message open or finished it. -/

/-- The message is not at its end. -/
def Unfinished (message : Text) : Prop := message.getLast? = some ' ' ∨ message.getLast? = some ')'

/-- The end of a message decides whether it is finished. -/
theorem unfinished_append (message : Text) {text : Text} (h : Unfinished text) : Unfinished (message ++ text) := by
  have hne : text ≠ [] := by
    rintro rfl
    rcases h with h | h <;> cases h
  unfold Unfinished
  rwa [List.getLast?_append_of_ne_nil _ hne]

/-- An excess has a text, which ends in a blank. -/
theorem exceeded_ok {what level text : Text} {value limit : ℤ} (h : exceeded what level value (some limit) = .ok text) :
    Unfinished text := by
  obtain ⟨percent, -, h⟩ := bind_eq_ok.mp h
  obtain rfl := pure_eq_ok.mp h
  exact unfinished_append _ (Or.inl rfl)

/-- A text for a value that is above its limit and not too large to be printed as a float. -/
theorem exceeded_returns (what level : Text) {value limit : ℤ} (hl : 0 < limit) (hv : |value| ≤ 2 ^ 64)
    (h : limit < value) : ∃ text, exceeded what level value (some limit) = .ok text := by
  have hq : |((100 * (value - limit) : ℤ) / (limit : ℤ) : ℚ)| ≤ 2 ^ 72 := by
    have hlq : (1 : ℚ) ≤ limit := by exact_mod_cast hl
    have hexcess : ((100 * (value - limit) : ℤ) : ℚ) ≤ 2 ^ 72 := by
      have hle := le_of_abs_le hv
      have hint : 100 * (value - limit) ≤ 2 ^ 72 := by omega
      exact_mod_cast hint
    have hpos : (0 : ℚ) ≤ ((100 * (value - limit) : ℤ) : ℚ) := by
      have hint : 0 ≤ 100 * (value - limit) := by omega
      exact_mod_cast hint
    rw [abs_of_nonneg (div_nonneg hpos (by linarith))]
    exact (div_le_self hpos hlq).trans hexcess
  rw [exceeded, truediv_eq (by omega) (by decide) hq]
  exact ⟨_, rfl⟩

/-- A limit that is given is exceeded by what is above it. -/
theorem exceeds_some {value limit : ℤ} : exceeds value (some limit) = true ↔ limit < value := decide_eq_true_iff

/-- **A throughput raises the status to its severity**, and a message that was unfinished stays so. By cases on the
    two limits, as in the source. -/
theorem throughput_ok {what : Text} {value warn crit : ℤ} {r r' : ℕ × Text} (hr : r.1 ≤ 2)
    (h : throughput what value (some warn) (some crit) r = .ok r') :
    r'.1 = max r.1 (severity value warn crit) ∧ (Unfinished r.2 → Unfinished r'.2) := by
  unfold throughput at h
  unfold severity
  by_cases hcrit : crit < value
  · rw [if_pos (exceeds_some.mpr hcrit)] at h
    obtain ⟨text, htext, h⟩ := bind_eq_ok.mp h
    obtain rfl := pure_eq_ok.mp h
    rw [if_pos hcrit]
    exact ⟨(max_eq_right hr).symm, fun _ => unfinished_append _ (exceeded_ok htext)⟩
  rw [if_neg fun hx => hcrit (exceeds_some.mp hx)] at h
  rw [if_neg hcrit]
  by_cases hwarn : warn < value
  · rw [if_pos (exceeds_some.mpr hwarn)] at h
    obtain ⟨text, htext, h⟩ := bind_eq_ok.mp h
    obtain rfl := pure_eq_ok.mp h
    rw [if_pos hwarn]
    refine ⟨?_, fun _ => unfinished_append _ (exceeded_ok htext)⟩
    dsimp only
    split_ifs <;> omega
  · rw [if_neg fun hx => hwarn (exceeds_some.mp hx)] at h
    obtain rfl := pure_eq_ok.mp h
    rw [if_neg hwarn]
    exact ⟨(max_eq_left (Nat.zero_le _)).symm, id⟩

/-- So one of the two rates is judged without an exception. -/
theorem throughput_returns (what : Text) {value warn crit : ℤ} (r : ℕ × Text) (hw : 0 < warn) (hc : 0 < crit)
    (hv : |value| ≤ 2 ^ 64) : ∃ r', throughput what value (some warn) (some crit) r = .ok r' := by
  unfold throughput
  by_cases hcrit : crit < value
  · obtain ⟨text, htext⟩ := exceeded_returns what "critical".toList hc hv hcrit
    rw [if_pos (exceeds_some.mpr hcrit), htext]
    exact ⟨_, rfl⟩
  rw [if_neg fun hx => hcrit (exceeds_some.mp hx)]
  by_cases hwarn : warn < value
  · obtain ⟨text, htext⟩ := exceeded_returns what "warning".toList hw hv hwarn
    rw [if_pos (exceeds_some.mpr hwarn), htext]
    exact ⟨_, rfl⟩
  · rw [if_neg fun hx => hwarn (exceeds_some.mp hx)]
    exact ⟨r, rfl⟩

/-- The utilization raises the status to the severity of the rounded quotient, which is what the source computes and
    compares. -/
theorem utilization_ok {d : Device} {tbusy : ℤ} {r r' : ℕ × Text} (hr : r.1 ≤ 2)
    (h : utilization d tbusy r = .ok r') :
    ∃ tmp, truediv (100 * tbusy) (1000 * d.averaging_period) = .ok tmp ∧
      r'.1 = max r.1 (severity tmp d.util_warn d.util_crit) ∧ (Unfinished r.2 → Unfinished r'.2) := by
  obtain ⟨tmp, htmp, h⟩ := bind_eq_ok.mp h
  refine ⟨tmp, htmp, ?_⟩
  have htext : ∀ (level : Text) (limit : ℤ), Unfinished (utilized level tmp limit) := fun level limit =>
    unfinished_append _ (Or.inr rfl)
  rw [pure_eq_ok] at h
  subst h
  unfold severity
  split_ifs with hcrit hwarn hzero
  · exact ⟨(max_eq_right hr).symm, fun _ => unfinished_append _ (htext _ _)⟩
  · exact ⟨by dsimp only; omega, fun _ => unfinished_append _ (htext _ _)⟩
  · exact ⟨by dsimp only; omega, fun _ => unfinished_append _ (htext _ _)⟩
  · exact ⟨(max_eq_left (Nat.zero_le _)).symm, id⟩

/-! ## The judgement

The branches put together, in the order of the source. No later branch takes back what an earlier one has found,
because each of them only raises the status. -/

section Judge
variable {args : Args} {l : Option Limits} (hl : args.Limited l) (name : Text) (rows : List Row) {Δ : Differences}
include hl

theorem throughputs_ok {r r' : ℕ × Text} (hr : r.1 ≤ 2) (h : throughputs (args.device name rows) Δ r = .ok r') :
    r'.1 = max r.1 (max (limitSeverity Δ.sread args.sread_warn args.sread_crit)
      (limitSeverity Δ.swrite args.swrite_warn args.swrite_crit)) ∧ (Unfinished r.2 → Unfinished r'.2) := by
  have hd : (args.device name rows).sread_crit = l.map Limits.sread_crit := hl.sread_crit
  rw [hl.sread_warn, hl.sread_crit, hl.swrite_warn, hl.swrite_crit]
  cases l with
  | none =>
      rw [throughputs, hd, Option.map_none, truthy, if_neg Bool.false_ne_true] at h
      obtain rfl := pure_eq_ok.mp h
      exact ⟨by simp [limitSeverity], id⟩
  | some l =>
      have htruthy : truthy (some l.sread_crit) = true := by
        have hpos := l.sread
        rw [truthy, bne_iff_ne]
        omega
      rw [throughputs, hd, Option.map_some, if_pos htruthy] at h
      obtain ⟨read, hread, hwrite⟩ := bind_eq_ok.mp h
      rw [show (args.device name rows).sread_warn = some l.sread_warn from hl.sread_warn] at hread
      rw [show (args.device name rows).swrite_warn = some l.swrite_warn from hl.swrite_warn,
        show (args.device name rows).swrite_crit = some l.swrite_crit from hl.swrite_crit] at hwrite
      obtain ⟨hread_status, hread_message⟩ := throughput_ok hr hread
      have hread_le : read.1 ≤ 2 := by
        rw [hread_status]
        exact max_le hr severity_le_two
      obtain ⟨hwrite_status, hwrite_message⟩ := throughput_ok hread_le hwrite
      refine ⟨?_, hwrite_message ∘ hread_message⟩
      rw [hwrite_status, hread_status, max_assoc]
      rfl

/-- **A device that is judged gets the greatest of its severities, and a message that ends accordingly.** -/
theorem judge_ok {r : ℕ × Text} (h : (args.device name rows).judge Δ = .ok r) :
    ∃ tmp, truediv (100 * Δ.tbusy) (1000 * args.averaging_period) = .ok tmp ∧
      r.1 = max (max (limitSeverity Δ.sread args.sread_warn args.sread_crit)
        (limitSeverity Δ.swrite args.swrite_warn args.swrite_crit)) (severity tmp args.util_warn args.util_crit) ∧
      ("OK".toList <:+ r.2 ↔ r.1 = 0) := by
  obtain ⟨r₁, h₁, h⟩ := bind_eq_ok.mp h
  obtain ⟨r₂, h₂, h⟩ := bind_eq_ok.mp h
  obtain rfl := pure_eq_ok.mp h
  obtain ⟨hstatus₁, hmessage₁⟩ := throughputs_ok hl name rows (Nat.zero_le 2) h₁
  have hle₁ : r₁.1 ≤ 2 := by
    rw [hstatus₁]
    exact max_le (Nat.zero_le 2) (max_le (limitSeverity_le_two _ _ _) (limitSeverity_le_two _ _ _))
  obtain ⟨tmp, htmp, hstatus₂, hmessage₂⟩ := utilization_ok hle₁ h₂
  refine ⟨tmp, htmp, ?_, ?_⟩
  · rw [hstatus₁, Nat.zero_max] at hstatus₂
    exact hstatus₂
  · -- only the last text ends the message in another character than a blank or a parenthesis
    have hunfinished : Unfinished r₂.2 := hmessage₂ (hmessage₁ (unfinished_append _ (Or.inl rfl)))
    dsimp only
    by_cases hzero : r₂.1 = 0
    · rw [if_pos hzero]
      exact ⟨fun _ => hzero, fun _ => List.suffix_append _ _⟩
    · rw [if_neg hzero]
      refine ⟨fun hsuffix => ?_, fun h0 => absurd h0 hzero⟩
      obtain ⟨t, ht⟩ := hsuffix
      have hlast : r₂.2.getLast? = some 'K' := by rw [← ht, List.getLast?_append_of_ne_nil _ (by decide)]; rfl
      rcases hunfinished with h' | h' <;> rw [hlast] at h' <;> cases h'

end Judge

theorem throughputs_returns {args : Args} {l : Option Limits} (hl : args.Limited l) (name : Text) (rows : List Row)
    {Δ : Differences} (hΔ : ∀ m, |Δ.of m| ≤ 2 ^ 64) (r : ℕ × Text) :
    ∃ r', throughputs (args.device name rows) Δ r = .ok r' := by
  have hd : (args.device name rows).sread_crit = l.map Limits.sread_crit := hl.sread_crit
  cases l with
  | none => exact ⟨r, by rw [throughputs, hd]; rfl⟩
  | some l =>
      have hread := l.sread
      have hwrite := l.swrite
      have htruthy : truthy (some l.sread_crit) = true := by
        rw [truthy, bne_iff_ne]
        omega
      obtain ⟨r₁, hr₁⟩ := throughput_returns "read/s".toList r hread.1 (hread.1.trans hread.2) (hΔ .sread)
      obtain ⟨r₂, hr₂⟩ := throughput_returns "write/s".toList r₁ hwrite.1 (hwrite.1.trans hwrite.2) (hΔ .swrite)
      refine ⟨r₂, ?_⟩
      rw [throughputs, hd, Option.map_some, if_pos htruthy, bind_eq_ok]
      refine ⟨r₁, ?_, ?_⟩
      · rw [show (args.device name rows).sread_warn = some l.sread_warn from hl.sread_warn]
        exact hr₁
      · rw [show (args.device name rows).swrite_warn = some l.swrite_warn from hl.swrite_warn,
          show (args.device name rows).swrite_crit = some l.swrite_crit from hl.swrite_crit]
        exact hr₂

/-! ## The utilization as a double

Line 134 computes in doubles. The exact quotient is not closer to a limit than a millisecond makes it, and the
nearest double is not farther from it than that, so both are on one side of the limit. -/

/-- The quotient of line 134, with the factors cancelled. -/
theorem utilization_eq (args : Args) (tbusy : ℤ) :
    ((100 * tbusy : ℤ) / (1000 * args.averaging_period : ℤ) : ℚ) = args.utilization tbusy := by
  rw [Args.utilization]
  push_cast
  rfl

section Utilization
variable {args : Args} (ha : 0 < args.averaging_period) {tbusy : ℤ}
include ha

theorem abs_utilization_le (ht : |tbusy| ≤ 2 ^ 64) : |args.utilization tbusy| ≤ 2 ^ 72 := by
  have haq : (1 : ℚ) ≤ 1000 * args.averaging_period := by
    have hint : 1 ≤ 1000 * args.averaging_period := by omega
    exact_mod_cast hint
  have htq : |(tbusy : ℚ)| ≤ 2 ^ 64 := by exact_mod_cast ht
  rw [Args.utilization, abs_div, abs_of_pos (by linarith : (0 : ℚ) < 1000 * args.averaging_period), abs_mul,
    abs_of_pos (by norm_num : (0 : ℚ) < 100)]
  refine (div_le_self (by positivity) haq).trans ?_
  linarith

theorem truediv_utilization (ht : |tbusy| ≤ 2 ^ 64) :
    truediv (100 * tbusy) (1000 * args.averaging_period) = .ok (Binary64.nearest (args.utilization tbusy)) := by
  rw [← utilization_eq]
  refine truediv_eq (by omega) (by decide : 72 < 1024) ?_
  rw [utilization_eq]
  exact abs_utilization_le ha ht

/-- A utilization above a whole percentage is so by one millisecond or more, which over the longest averaging period
    is still more than the rounding. -/
theorem utilization_gap (hle : args.averaging_period ≤ INT_MAX) {n : ℤ} (h : n < args.utilization tbusy) :
    n + 2 ^ (((7 : ℕ) : ℤ) - 51) ≤ args.utilization tbusy := by
  have haq : (0 : ℚ) < args.averaging_period := by exact_mod_cast ha
  have hleq : (args.averaging_period : ℚ) ≤ 2 ^ 31 := by
    have hint : args.averaging_period ≤ 2 ^ 31 := hle.trans (by decide)
    exact_mod_cast hint
  have hquot : args.utilization tbusy = tbusy / (10 * args.averaging_period) := by
    rw [Args.utilization]
    field_simp
    ring
  rw [hquot] at h ⊢
  rw [lt_div_iff₀ (by positivity)] at h
  have hint : n * (10 * args.averaging_period) + 1 ≤ tbusy := by
    have hlt : n * (10 * args.averaging_period) < tbusy := by exact_mod_cast h
    omega
  have hq : (n : ℚ) * (10 * args.averaging_period) + 1 ≤ tbusy := by exact_mod_cast hint
  have hstep : (2 : ℚ) ^ (((7 : ℕ) : ℤ) - 51) * (10 * args.averaging_period) ≤ 1 := by
    have hpow : (2 : ℚ) ^ (((7 : ℕ) : ℤ) - 51) = 1 / 2 ^ 44 := by norm_num
    rw [hpow]
    linarith
  rw [le_div_iff₀ (by positivity)]
  linarith

/-- **Rounding the utilization does not change how it compares with a limit.** The limits are integers below 100, and
    a utilization that is not one of them is farther from it than the rounding can be (`utilization_gap`), for every
    averaging period that is accepted. -/
theorem severity_nearest (hle : args.averaging_period ≤ INT_MAX) (hw : 0 ≤ args.util_warn)
    (hlt : args.util_warn < args.util_crit) (hc : args.util_crit < 100) :
    severity (Binary64.nearest (args.utilization tbusy)) args.util_warn args.util_crit =
      severity (args.utilization tbusy) args.util_warn args.util_crit := by
  have hiff : ∀ n : ℤ, 0 ≤ n → n < 100 →
      ((n : ℚ) < Binary64.nearest (args.utilization tbusy) ↔ (n : ℚ) < args.utilization tbusy) := fun n h0 hn =>
    Binary64.lt_nearest_iff h0 (by omega) (by decide : 7 ≤ 50) (utilization_gap ha hle)
  unfold severity
  simp only [hiff args.util_crit (by omega) hc, hiff args.util_warn hw (by omega)]

end Utilization

/-- **A device of an accepted configuration is judged without an exception**, whatever its counters are. -/
theorem judge_returns {args : Args} {l : Option Limits} (hl : args.Limited l) (ha : 0 < args.averaging_period)
    (name : Text) (rows : List Row) {Δ : Differences} (hΔ : ∀ m, |Δ.of m| ≤ 2 ^ 64) :
    ∃ r, (args.device name rows).judge Δ = .ok r := by
  obtain ⟨r₁, h₁⟩ := throughputs_returns hl name rows hΔ (0, "Device ".toList ++ name ++ ": ".toList)
  have hutil : ∃ r₂, utilization (args.device name rows) Δ.tbusy r₁ = .ok r₂ :=
    ⟨_, bind_eq_ok.mpr ⟨_, truediv_utilization ha (hΔ .tbusy), rfl⟩⟩
  obtain ⟨r₂, h₂⟩ := hutil
  exact ⟨_, bind_eq_ok.mpr ⟨r₁, h₁, bind_eq_ok.mpr ⟨r₂, h₂, rfl⟩⟩⟩

/-! ## Accepted configurations

Validation gives that all limits are positive and in order, and that the averaging period is bounded. With these the
judgement has no exceptions left. -/

namespace Config
variable (c : Config)

/-- The averaging period is bounded by what `signal.alarm` takes. -/
theorem averaging_period_le_max : c.args.averaging_period ≤ INT_MAX := c.averaging_period_le.trans c.armed

/-- **For an accepted configuration, differences of 64 bits are judged by the severities.** -/
theorem judge_eq (name : Text) (rows : List Row) {Δ : Differences} (hΔ : ∀ m, |Δ.of m| ≤ 2 ^ 64) :
    ∃ message, (c.args.device name rows).judge Δ = .ok (c.args.severity Δ, message) ∧
      ("OK".toList <:+ message ↔ c.args.severity Δ = 0) := by
  obtain ⟨l, hl⟩ := c.limits
  have ha := c.ranged.averaging_period
  have hdiv := truediv_utilization ha (hΔ .tbusy)
  obtain ⟨r, hr⟩ := judge_returns hl ha name rows hΔ
  obtain ⟨tmp, htmp, hstatus, hmessage⟩ := judge_ok hl name rows hr
  obtain rfl := Except.ok.inj (htmp.symm.trans hdiv)
  have hseverity : r.1 = c.args.severity Δ := by
    rw [hstatus]
    exact congrArg (max _)
      (severity_nearest ha c.averaging_period_le_max c.ranged.util_warn.le c.util_lt c.ranged.util_crit)
  exact ⟨r.2, by rw [hr, ← hseverity], by rw [hmessage, hseverity]⟩

/-- **What `checkLimits` returns**: the severity of the measures, and a message that ends in `OK` exactly if it is
    0. -/
theorem checkLimits_eq (name : Text) (first second : Sample) (rest : List Row) :
    ∃ message, (c.args.device name (first.row :: second.row :: rest)).checkLimits =
        .ok (c.args.severity (measured first second), message) ∧
      ("OK".toList <:+ message ↔ c.args.severity (measured first second) = 0) := by
  rw [checkLimits_device]
  exact c.judge_eq name _ (abs_measured_le first second)

end Config

/-! ## The severity of a device -/

/-- Two samples between which no counter wraps around. -/
structure Samples where
  first : Sample
  second : Sample
  noWrap : ∀ m, first.counter m ≤ second.counter m

namespace Samples

/-- What a measure has grown by between two samples that did not wrap. -/
def progress (s : Samples) (m : Measure) : ℤ := s.second.counter m - s.first.counter m

/-- The samples as the rows of a device. -/
def rows (s : Samples) : List Row := [s.first.row, s.second.row]

theorem progress_nonneg (s : Samples) (m : Measure) : 0 ≤ s.progress m := by
  have hle := s.noWrap m
  rw [progress]
  omega

/-- Without a wrap, nothing is corrected. -/
theorem measured_of (s : Samples) (m : Measure) : (measured s.first s.second).of m = s.progress m := by
  have hnonneg := s.progress_nonneg m
  rw [CheckIoPy.measured_of, corrected, if_neg (by rw [progress] at hnonneg; omega), progress]

end Samples

/-- A larger value is not less severe, with limits or without. -/
theorem limitSeverity_mono {value value' : ℤ} (h : value ≤ value') (warn crit : Option ℤ) :
    limitSeverity value warn crit ≤ limitSeverity value' warn crit := by
  cases warn with
  | none => exact le_rfl
  | some warn =>
      cases crit with
      | none => exact le_rfl
      | some crit => exact severity_mono h

theorem Args.severity_le_two (args : Args) (Δ : Differences) : args.severity Δ ≤ 2 :=
  max_le (max_le (limitSeverity_le_two _ _ _) (limitSeverity_le_two _ _ _)) CheckIoPy.severity_le_two

/-- The severity grows with each difference. -/
theorem Args.severity_mono {args : Args} (ha : 0 < args.averaging_period) {Δ Δ' : Differences}
    (h : ∀ m, Δ.of m ≤ Δ'.of m) : args.severity Δ ≤ args.severity Δ' := by
  have hread : Δ.sread ≤ Δ'.sread := h .sread
  have hwrite : Δ.swrite ≤ Δ'.swrite := h .swrite
  have hbusy : args.utilization Δ.tbusy ≤ args.utilization Δ'.tbusy := by
    have haq : (0 : ℚ) < args.averaging_period := by exact_mod_cast ha
    have hint : (Δ.tbusy : ℚ) ≤ Δ'.tbusy := by exact_mod_cast h .tbusy
    unfold Args.utilization
    gcongr
  exact max_le_max (max_le_max (limitSeverity_mono hread _ _) (limitSeverity_mono hwrite _ _))
    (CheckIoPy.severity_mono hbusy)

/-- **The intended behaviour** of `checkLimits` under a configuration. -/
structure CorrectSeverity (c : Config) : Prop where
  /-- The status is the greatest of the severities, and the message agrees with it. -/
  judged : ∀ (name : Text) (first second : Sample) (rest : List Row), ∃ message,
    (c.args.device name (first.row :: second.row :: rest)).checkLimits =
      .ok (c.args.severity (measured first second), message) ∧
    ("OK".toList <:+ message ↔ c.args.severity (measured first second) = 0)
  /-- A device that has done more does not get a lower status. -/
  monotone : ∀ (name : Text) (s s' : Samples), (∀ m, s.progress m ≤ s'.progress m) → ∀ r r',
    (c.args.device name s.rows).checkLimits = .ok r → (c.args.device name s'.rows).checkLimits = .ok r' → r.1 ≤ r'.1

/-- **`checkLimits` is a correct severity function** under every accepted configuration: what it returns is the
    greatest of the severities of the measures (`checkLimits_eq`), and that is monotone in each of them. -/
theorem correctSeverity (c : Config) : CorrectSeverity c := by
  refine ⟨c.checkLimits_eq, fun name s s' hle r r' hr hr' => ?_⟩
  obtain ⟨message, heq, -⟩ := c.checkLimits_eq name s.first s.second []
  obtain ⟨message', heq', -⟩ := c.checkLimits_eq name s'.first s'.second []
  obtain rfl := Except.ok.inj (heq.symm.trans hr)
  obtain rfl := Except.ok.inj (heq'.symm.trans hr')
  refine Args.severity_mono c.ranged.averaging_period fun m => ?_
  rw [s.measured_of, s'.measured_of]
  exact hle m

/-! ## Rates -/

/-- Two samples with so many sectors read and written between them. -/
def sectors (sread swrite : ℕ) (hread : sread < 2 ^ 64) (hwrite : swrite < 2 ^ 64) : Samples where
  first := ⟨[0, 0, 0, 0, 0, 0, 0, 0, 0, 0, 0], by decide, by decide⟩
  second := ⟨[0, 0, sread, 0, 0, 0, swrite, 0, 0, 0, 0], by simp, by simpa using ⟨hread, hwrite⟩⟩
  noWrap := by rintro (_ | _ | _) <;> exact Nat.zero_le _

end Nrpe.CheckIoPy
end StgEnvironment
