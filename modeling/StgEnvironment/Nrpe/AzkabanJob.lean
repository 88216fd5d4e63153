import StgEnvironment.Lib.Decimal
import StgEnvironment.Nrpe.FlinkContainers
import StgEnvironment.Shell.Arithmetic

/-!
# `Nrpe.AzkabanJob`: the plugin `check_azkaban_job.sh`

The plugin asks Azkaban about one flow. With `duration` it judges how long the flow has been running, with `failures`
how many of its last runs have failed. The answers of Azkaban are an argument of the model: the start of the running
execution, in milliseconds, and the history of the flow, newest execution first.

## Contents
- **`duration`**: several executions of the flow can run at a time (`Running`). `getRunning` lists their numbers in an
  order of its own, and the plugin asks for the start of the first one (`Running.job_start`).
- **`failures`**: the window of statuses (`last_jobs`), what is cut from it (`trim`), and the count.

## What is assumed
Shell arithmetic has 64 bits (`Shell.wrap`). Times are whole numbers that `jq` prints in digits (`Shell.Timestamp`),
and thresholds are such that one more is still a number of the shell. No file of the working directory is called as
`last_jobs[0]` or `last_jobs[3]` describe.
-/

namespace StgEnvironment
namespace Nrpe.AzkabanJob
open FlinkContainers (Verdict)
open Shell (Timestamp wrap)

/-- The status of an execution: one word, since Azkaban's names have no blanks. -/
structure Status where
  text : Text
  nonempty : text ≠ []
  letters : text.all (fun c => c.isUpper || c == '_') = true
deriving DecidableEq

/-- The flow is being executed. -/
def RUNNING : Status := ⟨"RUNNING".toList, by decide, by decide⟩
/-- The flow is about to be executed. -/
def PREPARING : Status := ⟨"PREPARING".toList, by decide, by decide⟩
/-- The execution came to a good end. -/
def SUCCEEDED : Status := ⟨"SUCCEEDED".toList, by decide, by decide⟩
def FAILED : Status := ⟨"FAILED".toList, by decide, by decide⟩

/-- The execution is over. -/
def Status.Finished (s : Status) : Prop := s ≠ RUNNING ∧ s ≠ PREPARING

instance (s : Status) : Decidable s.Finished := inferInstanceAs (Decidable (_ ∧ _))

/-- The executions of a flow, newest first: at most the newest is not over. -/
structure History where
  executions : List Status
  finished : ∀ s ∈ executions.tail, s.Finished

/-- What Azkaban answers to the requests of one run, and the clock. -/
structure Answers where
  /-- `startTime` of the execution that `getRunning` names, if it names one. -/
  startTime : Option Timestamp
  history : History
  current_timestamp : Timestamp

/-- The arguments behind the check type. Thresholds are such that one more is still a number of the shell. -/
structure Flow where
  azk_project : Text
  azk_flow : Text
  warning_threshold : ℕ
  critical_threshold : ℕ
  warning_bounded : warning_threshold < 2 ^ 63
  /-- One more execution is asked for. -/
  critical_bounded : critical_threshold + 1 < 2 ^ 63

@[simp] theorem Flow.wrap_warning (f : Flow) : wrap f.warning_threshold = f.warning_threshold := by
  have hlt := f.warning_bounded
  exact Shell.wrap_eq_self ⟨by omega, by omega⟩

@[simp] theorem Flow.wrap_critical (f : Flow) : wrap f.critical_threshold = f.critical_threshold := by
  have hlt := f.critical_bounded
  exact Shell.wrap_eq_self ⟨by omega, by omega⟩

/-- The flow, as all messages name it. -/
def Flow.name (f : Flow) : Text := f.azk_project ++ '/' :: f.azk_flow

/-! ## `duration` -/

/-- Lines 23 to 43: the branch that judges how long the flow has been running. -/
def duration (f : Flow) (a : Answers) : Verdict :=
  match a.startTime with
  | none => ⟨["OK ".toList ++ f.name ++ " is not running now".toList], 0⟩
  | some job_start =>
      let job_duration := wrap (a.current_timestamp.val - job_start.val.tdiv 1000)
      let executing := f.name ++ " is executing for ".toList ++ decimal job_duration
      if wrap f.critical_threshold ≤ job_duration then
        ⟨["CRITICAL ".toList ++ executing ++ " seconds (threshold: ".toList ++ decimal f.critical_threshold
          ++ "s).".toList], 2⟩
      else if wrap f.warning_threshold ≤ job_duration then
        ⟨["WARNING ".toList ++ executing ++ " seconds (threshold: ".toList ++ decimal f.warning_threshold
          ++ "s).".toList], 1⟩
      else
        ⟨["OK ".toList ++ executing ++ " seconds  which is below warning and critical thresholds".toList], 0⟩

/-- An execution that is running, with its number. -/
structure Execution where
  execid : ℕ
  /-- In milliseconds. -/
  startTime : Timestamp
deriving DecidableEq

/-- The running executions of a flow, as `getRunning` lists them. -/
structure Running where
  executions : List Execution
  distinct : (executions.map Execution.execid).Nodup

/-- What `getRunning` lists: the numbers of the executions, in no order that is promised. -/
def getRunning (running : Running) : List ℕ := running.executions.map Execution.execid

/-- What `fetchexecflow` finds under a number. -/
def fetchexecflow (running : Running) (execid : ℕ) : Option Execution :=
  running.executions.find? fun e => e.execid == execid

/-- Lines 23 and 26: `.execIds[0]`, and `.startTime` of that execution. -/
def Running.job_start (running : Running) : Option Timestamp :=
  match (getRunning running).head? with
  | none => none
  | some job_running => (fetchexecflow running job_running).map Execution.startTime

/-- The answers to `duration`. -/
def Running.answers (running : Running) (history : History) (current_timestamp : Timestamp) : Answers :=
  ⟨running.job_start, history, current_timestamp⟩

/-! ## `failures` -/

/-- `fetchFlowExecutions` with `start=0`: the newest executions, as many as were asked for. -/
def fetchFlowExecutions (h : History) (length : ℕ) : List Status := h.executions.take length

/-- Line 47: `jq` joins the statuses with blanks, and the array is made of the words. -/
def last_jobs (h : History) (failures_check_jobs_query_no : ℕ) : List Word :=
  words (unwords ((fetchFlowExecutions h (wrap (failures_check_jobs_query_no + 1)).toNat).map Status.text))

/-- Lines 48 to 54. The second branch removes the element of index 3, whatever the number of elements is. -/
def trim (last_jobs : List Word) : List Word :=
  if last_jobs[0]? = some "RUNNING".toList then last_jobs.eraseIdx 0 else last_jobs.eraseIdx 3

/-- Lines 56 to 61: the loop over the elements that are left. -/
def countFailures (last_jobs : List Word) : ℕ :=
  last_jobs.foldl (fun failures_count job_status =>
    if job_status = "FAILED".toList then failures_count + 1 else failures_count) 0

/-- The number that the plugin judges. -/
def failures_count (f : Flow) (h : History) : ℕ := countFailures (trim (last_jobs h f.critical_threshold))

/-- Lines 46 to 72: the branch that judges how many of the last runs have failed. -/
def failures (f : Flow) (h : History) : Verdict :=
  let failures_count := failures_count f h
  if wrap f.critical_threshold ≤ wrap failures_count then
    ⟨["CRITICAL ".toList ++ f.name ++ " failed ".toList ++ decimal failures_count ++ " times in last ".toList
      ++ decimal f.critical_threshold ++ " finished runs (threshold: ".toList ++ decimal f.critical_threshold
      ++ ")".toList], 2⟩
  else if wrap f.warning_threshold ≤ wrap failures_count then
    ⟨["WARNING ".toList ++ f.name ++ " failed ".toList ++ decimal failures_count ++ " in last ".toList
      ++ decimal f.critical_threshold ++ " finished runs (threshold: ".toList ++ decimal f.warning_threshold
      ++ ")".toList], 1⟩
  else
    ⟨["OK ".toList ++ f.name ++ " have not failed in last ".toList ++ decimal f.critical_threshold
      ++ " runs".toList], 0⟩

/-- `check_azkaban_job.sh` with five arguments, the first of which is the check type. -/
def check_azkaban_job (check_type : Text) (f : Flow) (a : Answers) : Verdict :=
  if check_type = "duration".toList then duration f a
  else if check_type = "failures".toList then failures f a.history
  else ⟨["UNKNOWN First argument must be duration or failures".toList], 3⟩

end Nrpe.AzkabanJob
end StgEnvironment
