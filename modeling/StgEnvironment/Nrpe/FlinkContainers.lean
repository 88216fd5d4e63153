import StgEnvironment.Shell.Expansion

/-!
# `Nrpe.FlinkContainers`: the plugin `check_flink_containers.sh`

The script asks `flink-manager.sh` for the state of one Flink container and, when it runs, for its jobs;
it then looks for every job of its third argument among them. `ContainerReport` is what lines 14 to 27
read from the first answer; the job table and the matching loop (lines 34 to 84) are translated line by
line.

Arrays are filled from unquoted expansions, so that what is in them depends on blanks and on the files of the working
directory (`Shell.Expansion`); the third argument is read by `IFS=';' read -ra` (`Shell.Read`).

`Verdict` is here because this is the first of the plugins in the shell; all of them use it.
-/

namespace StgEnvironment
namespace Nrpe.FlinkContainers
open Shell

/-- What the script reads from `flink-manager.sh -r`. -/
structure ContainerReport where
  /-- The line after `This container is disabled!`, empty when there is none. -/
  is_container_disabled : Text
  /-- The trimmed text behind the colon of the `State :` line, if such a line is printed. -/
  container_status : Option Text
deriving DecidableEq

/-- The container is in state `RUNNING`. -/
def ContainerReport.running : ContainerReport := ⟨[], some "RUNNING".toList⟩

/-- What a plugin run shows to Nagios: the lines that it prints, and its exit status. -/
structure Verdict where
  output : List Text
  code : Nat
deriving DecidableEq

/-- Two verdicts agree where they agree about the critical threshold and, below it, about the warning. -/
theorem verdicts_eq_iff (crit warn crit' warn' : Prop) [Decidable crit] [Decidable warn] [Decidable crit']
    [Decidable warn'] :
    (if crit then 2 else if warn then 1 else 0) = (if crit' then 2 else if warn' then 1 else 0) ↔
      (crit ↔ crit') ∧ (¬ crit' → (warn ↔ warn')) := by
  by_cases hc : crit <;> by_cases hc' : crit' <;> by_cases hw : warn <;> by_cases hw' : warn' <;>
    simp only [hc, hc', hw, hw', if_true, if_false] <;> decide

/-- `awk '$2=="RUNNING" {print $3}'` on one line of the job table. -/
def awkRunning (line : Text) : Option Text :=
  match words line with
  | _ :: state :: rest => if state = "RUNNING".toList then some (rest.head?.getD []) else none
  | _ => none

/-- The column that `awk` prints: one line for each running job. -/
def runningColumn (table : List Text) : List Text := table.filterMap awkRunning

/-- The array `jobs_in_container`: an unquoted command substitution. -/
def jobs_in_container (g : Globbing) (table : List Text) : List Word :=
  g.unquoted (unlines (runningColumn table))

/-- The two arrays the matching loop fills. -/
structure Found where
  jobs_found : List Word
  jobs_not_found : List Word
deriving DecidableEq

/-- The test of line 62: a quoted pattern is a substring, and `[*]` joins the array with spaces, so that a match may
    lie in two jobs. -/
def matchesJobs (jobs : List Word) (searching_for_job : Text) : Bool :=
  decide (Occurs searching_for_job (unwords jobs))

/-- One turn of the matching loop; both appends expand the name unquoted. -/
def matchStep (g : Globbing) (jobs : List Word) (acc : Found) (searching_for_job : Text) : Found :=
  if matchesJobs jobs searching_for_job then
    { acc with jobs_found := acc.jobs_found ++ g.unquoted searching_for_job }
  else
    { acc with jobs_not_found := acc.jobs_not_found ++ g.unquoted searching_for_job }

/-- The matching loop. -/
def matchLoop (g : Globbing) (jobs : List Word) (searching : List Text) : Found :=
  searching.foldl (matchStep g jobs) ⟨[], []⟩

/-- `for job in ${array[@]}; do echo "* ${job}"; done`, with the array expanded unquoted. -/
def bullets (g : Globbing) (array : List Word) : List Text :=
  (array.flatMap g.unquoted).map ("* ".toList ++ ·)

/-- Lines 56 to 82: the container runs jobs and jobs are searched for. -/
def searchJobs (g : Globbing) (jobs : List Word) (searching_for_jobs : Text) : Verdict :=
  let searching_for_jobs_array := readArray ';' searching_for_jobs
  let acc := matchLoop g jobs searching_for_jobs_array
  if acc.jobs_found.length = searching_for_jobs_array.length then
    ⟨["Container is running and all jobs were found".toList], 0⟩
  else
    ⟨["Container is running but not all jobs were found!".toList, "Jobs not found:".toList]
        ++ bullets g acc.jobs_not_found ++ ["Jobs found:".toList] ++ bullets g acc.jobs_found, 2⟩

/-- Lines 34 to 84: the container is in state `RUNNING`. Without a job the verdict does not depend on what is searched
    for. -/
def checkJobs (g : Globbing) (table : List Text) (searching_for_jobs : Text) : Verdict :=
  let jobs := jobs_in_container g table
  if jobs.length = 0 then
    if searching_for_jobs = [] then
      ⟨["Container is running and there are no jobs (but we're not looking for them).".toList], 0⟩
    else
      ⟨["Container is running but there are no jobs (and we're looking for them)!".toList], 2⟩
  else if searching_for_jobs = [] then
    ⟨["Container is running and there are jobs (not checking specific jobs).".toList], 0⟩
  else
    searchJobs g jobs searching_for_jobs

/-- `check_flink_containers.sh`, from the two answers of `flink-manager.sh` and the third argument. -/
def check_flink_containers (g : Globbing) (report : ContainerReport) (table : List Text)
    (searching_for_jobs : Text) : Verdict :=
  if report.is_container_disabled ≠ [] then
    ⟨["Container is disabled: ".toList ++ report.is_container_disabled], 0⟩
  else
    match report.container_status with
    | none => ⟨["Flink Manager can't find container's state, probably it's dead.".toList], 2⟩
    | some container_status =>
        if container_status ≠ "RUNNING".toList then
          ⟨["Flink container is in status ".toList ++ container_status], 2⟩
        else checkJobs g table searching_for_jobs

end Nrpe.FlinkContainers
end StgEnvironment
