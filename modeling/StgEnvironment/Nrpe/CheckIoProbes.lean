import StgEnvironment.Lib.Transition
import StgEnvironment.Nrpe.CheckIo

/-!
# `Nrpe.CheckIoProbes`: overlapping runs of `check_io.sh` for one device

Each run reads the state file four times, and then stores its own values with one write that truncates the file and
three that append to it. Nothing keeps another run from acting in between. A label of a run of the system says which
probe takes its next step.

There may be any number of probes (`Probes`), each with a measurement of its own, and they start from a file that a
complete run has stored. A single `cat`, and a single `echo` with its redirection, are taken to be one step each.
-/

namespace StgEnvironment
namespace Nrpe.CheckIo

/-- Runs for one device, and the run that stored the file they start from. -/
structure Probes (ι : Type*) where
  device : DevicePath
  first : Invocation
  probe : ι → Invocation
  first_path : first.path = device
  probe_path : ∀ i, (probe i).path = device

/-- How far a run is: it first reads all values, then stores its own. -/
inductive Pc where
  /-- So many values are read. -/
  | reading (k : ℕ)
  /-- All values are read, and so many lines are stored. -/
  | storing (k : ℕ)
deriving DecidableEq

/-- A run: how far it is, and what it has read by now. -/
structure Proc where
  pc : Pc
  read : List Text

/-- The files, which all runs share, and the runs. -/
structure State (ι : Type*) where
  files : Files
  procs : ι → Proc

/-- The lines that a run stores. -/
def linesOf (x : Invocation) : List Text := (measured check_io x).map storeLine

section System
variable {ι : Type*} (P : Probes ι)

def Probes.file : Text := fileName check_io P.device

/-- A complete state file, and no probe that has begun. -/
def Probes.start : State ι := ⟨store check_io (fun _ => []) P.first, fun _ => ⟨.reading 0, []⟩⟩

variable [DecidableEq ι]

def State.setProc (σ : State ι) (i : ι) (p : Proc) : State ι := { σ with procs := Function.update σ.procs i p }

/-- The next step of a probe. It reads one value, or writes one line; a probe at its end has no step. -/
def next (σ : State ι) (i : ι) : Option (State ι) :=
  match (σ.procs i).pc with
  | .reading k =>
      (check_io.labels[k]?).map fun label =>
        σ.setProc i ⟨if k + 1 < check_io.labels.length then .reading (k + 1) else .storing 0,
          (σ.procs i).read ++ [lastValue (σ.files (fileName check_io (P.probe i).path)) label]⟩
  | .storing k =>
      ((linesOf (P.probe i))[k]?).map fun line =>
        let file := fileName check_io (P.probe i).path
        let files := if k = 0 then truncate σ.files file line else append σ.files file line
        { σ.setProc i ⟨.storing (k + 1), (σ.procs i).read⟩ with files := files }

end System

/-! ## Where a probe is -/

/-- It has read some of the values. -/
def Pc.midRead : Pc → Bool
  | .reading k => decide (0 < k)
  | .storing _ => false

/-- It has stored some of the lines. -/
def Pc.midStore : Pc → Bool
  | .reading _ => false
  | .storing k => decide (0 < k ∧ k < check_io.labels.length)

/-- It has read all values. -/
def Pc.hasRead : Pc → Bool
  | .reading _ => false
  | .storing _ => true

/-- It has come to its end. -/
def Pc.finished : Pc → Bool
  | .reading _ => false
  | .storing k => decide (check_io.labels.length ≤ k)

/-- The next step of a probe reads, or truncates the file. Between two of these the probe only appends. -/
def Pc.opens : Pc → Bool
  | .reading _ => true
  | .storing k => decide (k = 0)

end Nrpe.CheckIo
end StgEnvironment
