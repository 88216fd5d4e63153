import StgEnvironment.Nrpe.Correctness.CheckIoPy

/-!
# `Nrpe.Correctness.CheckIoPyTimeout`: the averaging period and the alarm

The alarm is armed before the samples are taken, and the sleep between them is as long as the averaging period, less
the time that the first sample took. Validation is meant to keep the period at least one second below the timeout, as
its message says, but lets the two be equal (`inTime_iff`).

A run that takes less than a second beside the sleep should end before the alarm, with what the checks report
(`InTime`). A period that is at least one second below the timeout leaves it this second; one that is equal to the
timeout leaves it nothing, for the sleep alone takes as long as the alarm.
-/

namespace StgEnvironment
namespace Nrpe.CheckIoPy

/-- A run that starts as the configuration was accepted goes on to the samples. -/
theorem main_eq (c : Config) {run : Run} (h : run.listed = c.listed) : main c.options run = measure c.args run := by
  rw [main, h, c.parsed]
  dsimp only
  rw [if_neg (not_lt.mpr c.armed), c.valid]

/-- The first sample shortens the sleep by the time it takes. -/
theorem duration_eq {args : Args} {t : Timing} (h : t.fetch ≤ args.averaging_period) :
    t.duration args = args.averaging_period + t.start + t.enter + t.finish := by
  have hsleep : max 0 (t.sleep args) = args.averaging_period - t.fetch := max_eq_right (sub_nonneg.mpr h)
  rw [Timing.duration, hsleep]
  ring

/-- **The intended behaviour**: a run that takes less than a second beside the sleep ends before the alarm, with what
the checks report. -/
def InTime (c : Config) : Prop :=
  ∀ run : Run, run.listed = c.listed → run.timing.overhead < 1 →
    run.timing.duration c.args < c.args.timeout ∧
      main c.options run = report c.args (run.order (device_names c.args run.listed).dedup) run.first run.second

/-- A run that takes no time but for the sleep. -/
def instant (listed : Snapshot) : Run :=
  ⟨listed, listed, listed, ⟨0, 0, 0, 0, le_rfl, le_rfl, le_rfl, le_rfl⟩, id, fun _ => List.Perm.refl _⟩

/-- **Runs are in time exactly if the averaging period is at least one second lower than the timeout.** An accepted
    configuration may have both equal; then even a run that takes no time beside its sleep (`instant`) meets the
    alarm. -/
theorem inTime_iff (c : Config) : InTime c ↔ c.args.averaging_period ≤ c.args.timeout - 1 := by
  have hperiod : (1 : ℚ) ≤ c.args.averaging_period := by exact_mod_cast c.ranged.averaging_period
  constructor
  · intro h
    have hzero : (instant c.listed).timing.overhead < 1 := by norm_num [instant, Timing.overhead]
    have hlt := (h (instant c.listed) rfl hzero).1
    have hfetch : (instant c.listed).timing.fetch ≤ c.args.averaging_period := by
      show (0 : ℚ) ≤ _
      linarith
    rw [duration_eq hfetch] at hlt
    have hsum : (c.args.averaging_period : ℚ) < c.args.timeout := by simpa [instant] using hlt
    have hint : c.args.averaging_period < c.args.timeout := by exact_mod_cast hsum
    omega
  · intro h run hlisted hoverhead
    obtain ⟨hstart, hfetch, henter, hfinish⟩ := run.timing.nonneg
    rw [Timing.overhead] at hoverhead
    have hle : run.timing.fetch ≤ c.args.averaging_period := by linarith
    have htimeout : (c.args.averaging_period : ℚ) ≤ c.args.timeout - 1 := by exact_mod_cast h
    have hduration : run.timing.duration c.args < c.args.timeout := by
      rw [duration_eq hle]
      linarith
    refine ⟨hduration, ?_⟩
    have hsleep : ¬ run.timing.sleep c.args < 0 := by
      rw [Timing.sleep]
      linarith
    rw [main_eq c hlisted, measure, if_neg (not_le.mpr hduration), if_neg hsleep]

/-- `check_io.py -t 2 -a 2`. -/
def Config.equal : Config where
  options := { Options.none with timeout := some "2".toList, averaging_period := some "2".toList }
  listed := .empty
  args := ⟨2, 2, none, none, none, none, 80, 90, none⟩
  parsed := by rfl
  armed := by decide
  valid := by decide

/-- A run of it that takes a tenth of a second beside the sleep. -/
def tenth : Run :=
  ⟨Config.equal.listed, Config.equal.listed, Config.equal.listed, ⟨1 / 10, 0, 0, 0, by norm_num⟩, id,
    fun _ => List.Perm.refl _⟩

/-- The accepted command line `-t 2 -a 2` times out. -/
theorem not_inTime_equal :
    ¬ InTime Config.equal ∧ main Config.equal.options tenth = ⟨1, "Script timed out after 2 seconds.".toList⟩ := by
  refine ⟨fun h => ?_, by decide +kernel⟩
  have hlt := (h tenth rfl (by norm_num [tenth, Timing.overhead])).1
  exact absurd hlt (by norm_num [tenth, Timing.duration, Timing.sleep, Config.equal])

end Nrpe.CheckIoPy
end StgEnvironment
