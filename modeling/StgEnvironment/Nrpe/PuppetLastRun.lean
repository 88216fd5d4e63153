import StgEnvironment.Nrpe.FlinkContainers
import StgEnvironment.Python.YamlValue

/-!
# `Nrpe.PuppetLastRun`: the plugin `check_puppet_agent_last_run.py`

The plugin reads the summary of the last run of Puppet and judges it by its age and its failures. An exception that
nothing handles ends it with the exit status 1 and no output but a traceback (`uncaught`).

The summary is any value that YAML can have (`Python.YamlValue`), and a look-up in it may fail in all the ways of
Python 2. The time of the clock is a number of seconds with a fraction, as a double; differences and comparisons are
those of doubles and of Python's mixed types (`Python.Number`).
-/

namespace StgEnvironment
namespace Nrpe.PuppetLastRun
open Python
open FlinkContainers (Verdict)

/-- The file, and what `open`, `read` and `yaml.load` make of it. Only the first and the third failure are caught. -/
inductive Summary
  /-- `open` raises `IOError`, with this text. -/
  | absent (e : Text)
  /-- `read` raises. -/
  | unreadable
  /-- `yaml.load` raises, with this text. -/
  | unparsable (e : Text)
  | parsed (lrs : Text) (last_run_status : Value)

/-- The options, in seconds. -/
structure Thresholds where
  time_delta_warning : ℤ
  time_delta_critical : ℤ

/-- Where Puppet leaves its summary. -/
def last_run_summary_file : Text := "/opt/puppetlabs/puppet/cache/state/last_run_summary.yaml".toList

/-- The end of a Python script by an exception. -/
def uncaught : Verdict := ⟨[], 1⟩

/-- What lines 48 to 50 look up. -/
structure Found where
  last_run_time : Value
  resources_failures : Value
  events_failures : Value

/-- `last_run_status[outer][inner]`. -/
def lookup (last_run_status : Value) (outer inner : Text) : Except SubscriptError Value := do
  let v ← getitem last_run_status outer
  getitem v inner

/-- Lines 48 to 50: three values, in this order, the first that is missing raises. -/
def lookups (last_run_status : Value) : Except SubscriptError Found := do
  let last_run_time ← lookup last_run_status "time".toList "last_run".toList
  let resources_failures ← lookup last_run_status "resources".toList "failed".toList
  let events_failures ← lookup last_run_status "events".toList "failure".toList
  return ⟨last_run_time, resources_failures, events_failures⟩

section
variable (t : Thresholds) (now : ℚ)

/-- `Time since last run is ... (more than ... threshold ...)`. -/
def late (times_delta : Option Number) (label : Text) (threshold : ℤ) : Except Exception Text := do
  let shown ← percentD times_delta
  return "Time since last run is ".toList ++ shown ++ " (more than ".toList ++ label ++ " threshold ".toList
    ++ decimal threshold ++ ")".toList

/-- `resources_failures > 0 or events_failures > 0`. -/
def failures (found : Found) : Except Exception Bool := do
  if ← positive found.resources_failures then return true
  else positive found.events_failures

/-- Lines 55 to 69: the age first, in seconds, then the failures. Both comparisons of the age are strict. -/
def judge (lrs : Text) (found : Found) : Except Exception Verdict := do
  let times_delta ← subtract now found.last_run_time
  if floatExceeds times_delta t.time_delta_critical then
    return ⟨[← late times_delta "CRITICAL".toList t.time_delta_critical], 2⟩
  else if floatExceeds times_delta t.time_delta_warning then
    return ⟨[← late times_delta "WARNING".toList t.time_delta_warning], 1⟩
  else if ← failures found then
    return ⟨["There were some failures logged, check it!".toList, lrs], 1⟩
  else return ⟨["OK".toList], 0⟩

/-- `check_puppet_agent_last_run.py`, with its options parsed: a verdict for every summary, where an exception that
    nobody catches is one too. -/
def check_puppet_agent_last_run (summary : Summary) : Verdict :=
  match summary with
  | .absent e => ⟨["Can't read ".toList ++ last_run_summary_file, e], 2⟩
  | .unreadable => uncaught
  | .unparsable e => ⟨["Encountered problem with loading content of ".toList ++ last_run_summary_file, e], 2⟩
  | .parsed lrs last_run_status =>
      match lookups last_run_status with
      | .error .TypeError =>
          ⟨["Can't find all necessary data in ".toList ++ last_run_summary_file
            ++ "\\This might indicate Puppet Agent failing completly!".toList], 2⟩
      | .error .KeyError => uncaught
      | .ok found => match judge t now lrs found with
          | .ok verdict => verdict
          | .error _ => uncaught

end

end Nrpe.PuppetLastRun
end StgEnvironment
