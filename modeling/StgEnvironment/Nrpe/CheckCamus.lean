import StgEnvironment.Lib.Decimal
import StgEnvironment.Nrpe.FlinkContainers
import StgEnvironment.Shell.Arithmetic

/-!
# `Nrpe.CheckCamus`: the plugin `check_camus.sh`

The plugin asks Azkaban for the running execution of the Camus flow (`getRunning`), and then twice for the data of
that execution (`fetchexecflow`): once for its start and once for its end. Between the requests the execution may come
to its end, so what Azkaban answers depends on the number of the request. Times are in milliseconds, and whole numbers
that `jq` prints in digits (`Shell.Timestamp`).

Azkaban is not in the repository. What is used of it is that `endTime` is `-1` of an execution that has not come to its
end, and the time of its end afterwards.
-/

namespace StgEnvironment
namespace Nrpe.CheckCamus
open FlinkContainers (Verdict)
open Shell (Timestamp wrap)

/-- The execution that `getRunning` names, and when it comes to its end: at which request that is found, and with
    which time. -/
structure Execution where
  execid : ℕ
  startTime : Timestamp
  /-- If it comes to its end: how many of the requests behind `getRunning` still find it running, and its end. -/
  finish : Option (ℕ × ℕ)

/-- The execution still runs at the request `n`, counted from 0 behind `getRunning`. -/
def Execution.Runs (e : Execution) (n : ℕ) : Prop := ∀ found ended, e.finish = some (found, ended) → n < found

/-- The field `endTime` in the answer to the request `n`: `-1` as long as the execution runs. -/
def Execution.endTime (e : Execution) (n : ℕ) : ℤ :=
  match e.finish with
  | none => -1
  | some (found, ended) => if n < found then -1 else ended

/-- The answer to `fetchexecflow`, as far as the plugin reads it. -/
structure Flow where
  startTime : Timestamp
  endTime : ℤ

/-- The answer to the request `n`. -/
def fetchexecflow (e : Execution) (n : ℕ) : Flow := ⟨e.startTime, e.endTime n⟩

/-- `Camus Job $RUNNING_ID running $DURATION seconds`. -/
def runningFor (RUNNING_ID : ℕ) (DURATION : ℤ) : Text :=
  " Camus Job ".toList ++ decimal RUNNING_ID ++ " running ".toList ++ decimal DURATION ++ " seconds".toList

/-- Lines 21 to 32. A duration of exactly 300 seconds is in neither of the first two ranges, and so is critical. -/
def judge (RUNNING_ID : ℕ) (DURATION : ℤ) : Verdict :=
  if DURATION < 300 then ⟨["OK".toList ++ runningFor RUNNING_ID DURATION], 0⟩
  else if DURATION > 300 ∧ DURATION < 3600 then ⟨["WARNING".toList ++ runningFor RUNNING_ID DURATION], 1⟩
  else ⟨["CRITICAL".toList ++ runningFor RUNNING_ID DURATION], 2⟩

/-- `check_camus.sh`. An `if` without a branch that is taken has the exit status 0. -/
def check_camus (getRunning : Option Execution) (CURRENT_TIME : Timestamp) : Verdict :=
  match getRunning with
  | none => ⟨["OK There is no running Camus job".toList], 0⟩
  | some e =>
      let START_TIME := (fetchexecflow e 0).startTime
      let END_TIME := (fetchexecflow e 1).endTime
      if END_TIME = -1 then
        let EXEC_TIME := wrap (CURRENT_TIME.val - START_TIME.val)
        let DURATION := EXEC_TIME.tdiv 1000
        judge e.execid DURATION
      else ⟨[], 0⟩

end Nrpe.CheckCamus
end StgEnvironment
