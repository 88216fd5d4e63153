import StgEnvironment.Nrpe.CheckIo
import StgEnvironment.Nrpe.FlinkContainers
import StgEnvironment.Shell.Bc
import StgEnvironment.Shell.Test

/-!
# `Nrpe.CheckIoVerdict`: what `check_io.sh` says of a device

The verdict of a run follows from what it measures and from the state file, which may not exist yet. All numbers are
computed by `bc`; the thresholds are compared by `[`, which gets the words that `bc` has printed.

## Contents
- **A run and what it finds**: a measurement, and the file of the run before (`Probe`).
- **Difference** and **calculations**: the pipes to `bc`, each with what it prints when something is missing or is zero
  (`Shell.Bc`).
- **Output**: the two `sed` of the rates, the message, and the branches.

The status of the last branch is the one of the source, which Nagios does not know.
-/

namespace StgEnvironment
namespace Nrpe.CheckIo
open FlinkContainers (Verdict)

/-! ## A run and what it finds -/

/-- The values of a state file, under the names that they are stored with. -/
structure LastValues where
  SECONDS : ℤ
  SECREAD : ℤ
  SECWRITE : ℤ
  IOMILISEC : ℤ
deriving DecidableEq

/-- The values with their names, in the order of the file. -/
def LastValues.labelled (v : LastValues) : List (Text × Text) :=
  [("SECONDS".toList, decimal v.SECONDS), ("SECREAD".toList, decimal v.SECREAD),
    ("SECWRITE".toList, decimal v.SECWRITE), ("IOMILISEC".toList, decimal v.IOMILISEC)]

def LastValues.content (v : LastValues) : Text := endLines (v.labelled.map storeLine)

/-- A run, with the file that it finds, if there is one. The clock has not been set back since. -/
structure Probe where
  run : Invocation
  SECSIZE : ℕ
  files : Files
  last : Option LastValues
  stored : files (fileName check_io run.path) = (last.map LastValues.content).getD []
  clock : ∀ v, last = some v → v.SECONDS ≤ Bc.read run.CURRENTPROBESECONDS

section Probe
variable (p : Probe)

/-! ## Difference -/

/-- `echo "$current - $last" | bc`, for the value with this number. -/
def Probe.DIFF (k : ℕ) : Bc.Result :=
  Bc.minus ((((measured check_io p.run).map Prod.snd)[k]?).getD [])
    (((readings check_io p.files p.run.path)[k]?).getD [])

/-- The seconds since the run before. -/
def Probe.DIFFSECONDS : Bc.Result := p.DIFF 0
/-- The sectors that were read since then. -/
def Probe.DIFFSECREAD : Bc.Result := p.DIFF 1
/-- The sectors that were written since then. -/
def Probe.DIFFSECWRITE : Bc.Result := p.DIFF 2
/-- The milliseconds of input and output since then. -/
def Probe.DIFFIOMILISEC : Bc.Result := p.DIFF 3

/-! ## Calculations -/

/-- `echo "$DIFFIOMILISEC/($DIFFSECONDS*10)"|bc`, a whole number of percent, rounded towards zero. Within one second
    it is a division by zero. -/
def Probe.PERSENTAGEUSAGE : Bc.Result := Bc.divide 0 p.DIFFIOMILISEC (p.DIFFSECONDS.map (· * 10))

/-- `echo $sectors/$DIFFSECONDS|bc -l`. -/
def Probe.rate (sectors : Bc.Result) : Bc.Result := Bc.divide 20 (Bc.unquoted sectors) (Bc.unquoted p.DIFFSECONDS)

def Probe.SECREADRATE : Bc.Result := p.rate p.DIFFSECREAD
/-- Sectors written in a second. -/
def Probe.SECWRITERATE : Bc.Result := p.rate p.DIFFSECWRITE

/-- The two `sed` of lines 49 and 50, on a line. -/
def sedRate (line : Text) : Text :=
  let line := match line with
    | '.' :: digits => '0' :: '.' :: digits
    | line => line
  if line = ['0'] then "0.000".toList else line

/-- Lines 49 and 50, of a rate that has twenty digits behind the point. -/
def Probe.megabytes (rate : Bc.Result) : Text :=
  let output := Bc.printed3 (match rate with
    | .ok r => .ok ((r * p.SECSIZE * 10 ^ 3).tdiv (1048576 * 10 ^ 20))
    | .error _ => .error .syntaxError)
  unlines ((output.splitOn '\n').map sedRate)

/-- The rate of reads, as it is printed. -/
def Probe.MBREADRATE : Text := p.megabytes p.SECREADRATE
/-- The rate of writes, as it is printed. -/
def Probe.MBWRITERATE : Text := p.megabytes p.SECWRITERATE

/-! ## Output -/

/-- What is printed in a state. -/
def Probe.message (state : Text) : Text :=
  let usage := Bc.printed p.PERSENTAGEUSAGE
  echo ("UTILIZATION ".toList ++ state ++ ": ".toList ++ usage ++ "%|mbread=".toList ++ p.MBREADRATE ++
    " mbwrite=".toList ++ p.MBWRITERATE ++ " utilization=".toList ++ usage)

/-- `[ $PERSENTAGEUSAGE -ge limit ]`. -/
def Probe.atLeast (fs : Shell.Files) (limit : ℕ) : Bool :=
  decide (Shell.test fs (words (Bc.printed p.PERSENTAGEUSAGE) ++ ["-ge".toList, Nat.toDigits 10 limit]) = .yes)

/-- Lines 61 to 77: the first comparison that succeeds decides. With no number to compare none does. -/
def Probe.verdict (fs : Shell.Files) : Verdict :=
  if p.atLeast fs 90 then ⟨[p.message "CRITICAL".toList], 2⟩
  else if p.atLeast fs 80 then ⟨[p.message "WARNING".toList], 1⟩
  else if p.atLeast fs 0 then ⟨[p.message "NORMAL".toList], 0⟩
  else ⟨[p.message "UNKNWOWN".toList], 4⟩

end Probe

end Nrpe.CheckIo
end StgEnvironment
