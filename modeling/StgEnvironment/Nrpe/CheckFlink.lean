import StgEnvironment.Lib.Decimal
import StgEnvironment.Nrpe.FlinkContainers

/-!
# `Nrpe.CheckFlink`: the plugin `check_flink.sh`

`flink list` prints a line for each running job (`Job.line`), `dd.MM.yyyy HH:mm:ss : id : name (RUNNING)`, among other
lines. The plugin takes the lines with `RUNNING`, of these what is behind the fourth colon, and joins it all to one
text, in which it looks for each topology of its argument.

## Contents
- **What `flink list` prints**: running jobs, and other lines, which do not have the word `RUNNING`.
- **The plugin**: its pipe (`all_running`), its loop over the topologies (`status`), and its verdict.

`flink` is not in the repository. The format of its lines is the documented one: four colons in
the line of a job, none of them in its name.
-/

namespace StgEnvironment
namespace Nrpe.CheckFlink
open Shell
open FlinkContainers (Verdict)

/-! ## What `flink list` prints -/

/-- A running job. No column of its line has a colon, and its name has no blank. -/
structure Job where
  /-- The date and the hour, without the colon behind them. -/
  hour : Text
  minute : Text
  second : Text
  id : Text
  name : Text
  colonless : [hour, minute, second, id, name].all (fun t => t.all (· != ':')) = true
  blankless : name.all (fun c => !isBlank c) = true

/-- The parts of the line, between the colons. -/
def Job.columns (j : Job) : List Text :=
  [j.hour, j.minute, j.second ++ " ".toList, ' ' :: j.id ++ " ".toList, ' ' :: j.name ++ " (RUNNING)".toList]

/-- The line of a job, with the colons between its columns. -/
def Job.line (j : Job) : Text := [':'].intercalate j.columns

/-- A line of the output. -/
inductive Line
  | job (j : Job)
  /-- A heading, a rule, or a job in another state. -/
  | other (text : Text) (idle : ¬ Occurs "RUNNING".toList text)

def Line.text : Line → Text
  | .job j => j.line
  | .other text _ => text

/-- The name of the job, if the line is one of a running job. -/
def Line.name? : Line → Option Text
  | .job j => some j.name
  | .other _ _ => none

/-- The names of the running jobs, in the order of the output. -/
def names (list : List Line) : List Text := list.filterMap Line.name?

/-! ## The plugin -/

/-- `grep RUNNING` keeps the line. -/
def grepRunning (line : Text) : Bool := decide (Occurs "RUNNING".toList line)

/-- `awk -F":" '{print $5}'` on one line: what is behind the fourth colon, up to the next one. -/
def awk5 (line : Text) : Text := ((line.splitOn ':')[4]?).getD []

/-- Line 3: `tr` deletes the newlines behind the fields, and those that are left. -/
def all_running (list : List Line) : Text :=
  (endLines (((list.map Line.text).filter grepRunning).map awk5)).filter (· != '\n')

/-- Lines 6 to 13: a quoted pattern is looked for as it is. -/
def status (g : Globbing) (topologies : Text) (list : List Line) : ℕ :=
  (g.unquoted topologies).foldl (fun status topology =>
    if Occurs topology (all_running list) then status + 0 else status + 1) 0

/-- `check_flink.sh`, on its argument and the output of `flink list`. -/
def check_flink (g : Globbing) (topologies : Text) (list : List Line) : Verdict :=
  let status := status g topologies list
  if status = 0 then ⟨["OK, ".toList ++ topologies ++ " are RUNNING ".toList ++ decimal status], 0⟩
  else ⟨["CRITICAL, ".toList ++ topologies ++ " are NOT RUNNING ".toList ++ decimal status], 2⟩

end Nrpe.CheckFlink
end StgEnvironment
