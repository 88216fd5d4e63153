import StgEnvironment.Nrpe.FlinkContainers
import StgEnvironment.Shell.Arithmetic
import StgEnvironment.Shell.Read
import StgEnvironment.Shell.Test

/-!
# `Nrpe.LongRunningJobs`: the plugin `check_long_running_jobs.sh`

The plugin asks for the export jobs that are not over, which `jq` prints as one line for each job, and counts in a
loop over these lines how many jobs there are and how many of them have been running for too long.

## Contents
- **The list of jobs**: a job of the service (`Job`), and the text that `jq` makes of the list.
- **The loop**: `read` takes line by line, `awk` the columns, and arithmetic and `[` decide (`turn`).
- **The verdict** of the two counters.

## What is assumed
The service is not in the repository. What it says of a job is a `Job`, whose `creationTime` and `customerId` are whole
numbers that `jq` prints in digits: fractions are left out, and numbers so large that `jq` would round them or print
them with an exponent. Shell arithmetic has 64 bits.
-/

namespace StgEnvironment
namespace Nrpe.LongRunningJobs
open Shell
open FlinkContainers (Verdict)

/-! ## The list of jobs -/

/-- An export job, as far as `jq` prints it. What would break a line of the CSV into other columns is excluded,
    backslashes are not. -/
structure Job where
  /-- In milliseconds: a whole number, printed in digits. -/
  creationTime : ℤ
  status : Text
  customerId : Option ℤ
  type : Text
  statusField : status.all (fun c => c != ',' && c != '\n') = true
  typeField : type.all (fun c => c != ',' && !isBlank c) = true

/-- The third element: `join` renders `null` as the empty text. -/
def Job.customer (j : Job) : Text := j.customerId.elim [] decimal

def Job.line (j : Job) : Text :=
  decimal j.creationTime ++ ',' :: (j.status ++ ',' :: (j.customer ++ ',' :: j.type))

/-- What `jq` prints: one line for each job, and an empty line without jobs. -/
def jq (jobs : List Job) : Text := unlines (jobs.map Job.line) ++ ['\n']

/-! ## The loop -/

/-- The two counters of the loop. -/
structure Counters where
  RUNNING_JOBS : ℕ
  LONG_RUNNING_JOBS : ℕ

def CRITICAL_RUNNING_MS : Text := "9000000".toList
/-- So many long running jobs are a warning. -/
def WARN_JOBS_COUNT : ℕ := 10
/-- So many of them are critical. -/
def CRIT_JOBS_COUNT : ℕ := 20

/-- `echo "$LINE" | awk -F',' '{print $i}'`, in a command substitution. -/
def column (i : ℕ) (LINE : Text) : Text := ((LINE.splitOn ',')[i - 1]?).getD []

/-- A decimal constant in `$(( ))`, with a sign or without. Other texts are no such constants. -/
def constant (t : Text) : Option ℤ :=
  match t with
  | '-' :: digits => (ofDecimal digits).map fun n : ℕ => wrap (-(n : ℤ))
  | digits => (ofDecimal digits).map fun n : ℕ => wrap (n : ℤ)

section Loop
variable (fs : Files) (g : Globbing) (CURRENT_MS : ℤ)

/-- The condition of line 23 behind the duration: which jobs are allowed to run for long. A customer that is no number
    makes `[` fail, which is false. -/
def countsAsLong (CUSTOMER_ID JOB_TYPE : Text) : Bool :=
  let ne (n : Word) := decide (test fs [CUSTOMER_ID, "-ne".toList, n] = .yes)
  ne "30014".toList && ne "0".toList && !decide (Occurs "SWEEPER".toList JOB_TYPE) &&
    decide (JOB_TYPE ≠ "SC_MONTHLY".toList) && ne "8827".toList && ne "13109".toList

/-- The body of the loop. There is no next turn if the arithmetic fails. -/
def turn (c : Counters) (LINE : Text) : Option Counters :=
  let CREATION_TIME := column 1 LINE
  let CUSTOMER_ID := column 3 LINE
  let JOB_TYPE := column 4 LINE
  if test fs ("-z".toList :: g.unquoted CREATION_TIME) = .yes then some { c with RUNNING_JOBS := 0 }
  else
    (constant CREATION_TIME).map fun creation =>
      let CREATION_ELAPSED_MS := wrap (CURRENT_MS - creation)
      if test fs [decimal CREATION_ELAPSED_MS, "-ge".toList, CRITICAL_RUNNING_MS] = .yes then
        { RUNNING_JOBS := c.RUNNING_JOBS + 1
          LONG_RUNNING_JOBS :=
            if countsAsLong fs CUSTOMER_ID JOB_TYPE then c.LONG_RUNNING_JOBS + 1 else c.LONG_RUNNING_JOBS }
      else { c with RUNNING_JOBS := c.RUNNING_JOBS + 1 }

/-- The loop over what `jq` prints. -/
def countJobs (jobs : List Job) : Option Counters := (reads (jq jobs)).foldlM (turn fs g CURRENT_MS) ⟨0, 0⟩

/-- Lines 36 to 45: the verdict of the counters. The number of running jobs appears in the text for OK only. -/
def verdict (c : Counters) : Verdict :=
  let long := "There are ".toList ++ decimal c.LONG_RUNNING_JOBS ++ " running jobs, RUNNING more than ".toList
    ++ CRITICAL_RUNNING_MS ++ " milliseconds".toList
  if c.LONG_RUNNING_JOBS < WARN_JOBS_COUNT then
    ⟨["OK There are ".toList ++ decimal c.RUNNING_JOBS ++ " running jobs".toList], 0⟩
  else if WARN_JOBS_COUNT ≤ c.LONG_RUNNING_JOBS ∧ c.LONG_RUNNING_JOBS < CRIT_JOBS_COUNT then
    ⟨["WARNING ".toList ++ long], 1⟩
  else ⟨["CRITICAL ".toList ++ long], 2⟩

/-- `check_long_running_jobs.sh`: the counters at its end, and the verdict. -/
def check_long_running_jobs (jobs : List Job) : Option (Counters × Verdict) :=
  (countJobs fs g CURRENT_MS jobs).map fun c => (c, verdict c)

end Loop

end Nrpe.LongRunningJobs
end StgEnvironment
