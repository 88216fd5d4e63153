import StgEnvironment.Lib.Text
import StgEnvironment.Lib.Transition

/-!
# `Datastore.Init`: the init scripts `user-read-batch` and `relateddata-read-batch`

The two scripts are one text with different paths (`Script`). They keep the PID of the daemon in a file and
decide by it alone. Each command of a script that touches the file or the process table is a step of its
own (`Pc`, `Thread.step`), so that the steps of several invocations, daemons that die and processes that
come and go can interleave at any point (`Sys`, `Label`, `next`).

## Contents
- **The world** (`World`): the process table, and the PID file with what has become of its descriptors.
- **PIDs as text**: what is written to the file, and what `ps` and `kill` make of what is read.
- **The steps of an invocation** (`Thread.step`), with the places that call `is_running` (`Site`).
- **The system** (`Sys`): any number of invocations on one machine, and the labels of a run.

## What is left out
The sudo wrapper and the daemon it runs are one process. Writes to the PID file succeed. The logs, directories and the
user are not modelled, and neither is time, which `Datastore.Shutdown` adds.
-/

namespace StgEnvironment
namespace Datastore

abbrev Pid := Nat

/-- Who runs under a PID: an instance launched by a `start`, or anything else on the machine. The scripts cannot tell
    the two apart. -/
inductive Owner where
  | daemon | other
deriving DecidableEq

/-- The state the scripts share: the process table and `$pid_file`. A descriptor of the file is known by the
    number `gen` of removals before it was opened: it is one of the present file if none has come since. -/
structure World where
  procs : Pid → Option Owner
  pid_file : Option Text
  gen : Nat

/-- The names and paths of one script, and the number of words `{1..10}` stands for in its shell: one in
    a POSIX shell, ten where braces are expanded. -/
structure Script where
  name : Text
  dir : Text
  logs : Text
  turns : Nat

/-- `user-read-batch/init.erb` under dash. -/
def userReadBatch : Script :=
  ⟨"datastore-user-read-batch".toList, "/opt/datastore-user-read-batch".toList, "logs".toList, 1⟩

/-- `relateddata-read-batch/init.erb` under dash. -/
def relateddataReadBatch : Script :=
  ⟨"datastore-relateddata-read-batch".toList, "/opt/datastore-relateddata-read-batch".toList,
    "log".toList, 1⟩

/-- `$stdout_log`, with the two slashes that the script has. -/
def Script.stdout_log (sc : Script) : Text :=
  sc.dir ++ "/".toList ++ sc.logs ++ "//".toList ++ sc.name ++ ".log".toList

def Script.stderr_log (sc : Script) : Text :=
  sc.dir ++ "/".toList ++ sc.logs ++ "//".toList ++ sc.name ++ ".err".toList

/-! ## PIDs as text

The file has a PID as the text that `echo` writes. What the commands get of it are words, which may be no PIDs. -/

/-- What `echo $!` writes: the PID in digits, and a newline. -/
def pidLine (p : Pid) : Text := Nat.toDigits 10 p ++ ['\n']

/-- A write of `line` from the start of the file that the descriptor `fd` was opened on: over the bytes that
    are there by now, and without effect on the present file if that is another one. -/
def World.write (w : World) (fd : Nat) (line : Text) : World :=
  if fd = w.gen then { w with pid_file := w.pid_file.map fun old => line ++ old.drop line.length } else w

/-- A word that is a PID. Other words are what `ps` and `kill` complain about. -/
def pidOf (w : Word) : Option Pid :=
  if w ≠ [] ∧ w.all Char.isDigit = true then some (Nat.ofDigitChars 10 w 0) else none

/-- The PIDs of a list of arguments, if it is a list of PIDs. -/
def pidsOf (args : List Word) : Option (List Pid) := args.mapM pidOf

/-- `get_pid` in backquotes: the words of the file, none if it cannot be read. The script uses them unquoted. -/
def World.get_pid (w : World) : List Word := words (w.pid_file.getD [])

/-- The world in which the process under `p` is `x`. -/
def World.setProc (w : World) (p : Pid) (x : Option Owner) : World :=
  { w with procs := Function.update w.procs p x }

/-- An instance of the daemon is live under `p`. -/
def World.Live (w : World) (p : Pid) : Prop := w.procs p = some .daemon

instance (w : World) (p : Pid) : Decidable (w.Live p) := inferInstanceAs (Decidable (_ = _))

/-- No instance of the daemon is live. -/
def World.NoneLive (w : World) : Prop := ∀ p, ¬ w.Live p

/-- `ps` with a list of PIDs succeeds if one of them exists. What it does with other arguments, or with
    none, is left to `other`. -/
def ps (w : World) (other : Bool) (args : List Word) : Bool :=
  match pidsOf args with
  | some (p :: ps) => (p :: ps).any fun q => (w.procs q).isSome
  | _ => other

/-! ## The steps of an invocation

A step is one command. What the kernel decides, such as the PID of a new process, is an input of the step. -/

/-- The places that call `is_running`. The function is the same everywhere, so what follows its answer is a function
    of the place (`decided`). -/
inductive Site where
  /-- Line 40. -/
  | startGuard
  /-- Line 48. -/
  | startCheck
  /-- Line 55. -/
  | stopGuard
  /-- Line 60, with the number of turns of the loop left after this one. -/
  | stopPoll (left : Nat)
  /-- Line 69. -/
  | stopFinal
  /-- Line 84. -/
  | restart
  /-- Line 91. -/
  | status
deriving DecidableEq

/-- The next command of an invocation. A function of the shell that reads the file or the process table is as many
    steps as it has commands, between which other invocations may step. -/
inductive Pc where
  /-- `[ -f "$pid_file" ]` of `is_running`. -/
  | test (k : Site)
  /-- The command substitution of `is_running`. -/
  | cat (k : Site)
  /-- `ps` with the substituted arguments. -/
  | ps (k : Site) (args : List Word)
  /-- Lines 44 to 46: the daemon is launched. -/
  | fork
  /-- The redirection of line 47 opens the file. -/
  | truncate (pid : Pid)
  /-- `echo` of line 47 writes to the open file. -/
  | write (pid : Pid) (fd : Nat)
  /-- The command substitution of line 57. -/
  | killCat
  /-- `kill` with the substituted arguments. -/
  | kill (args : List Word)
  /-- `sleep 1` of line 65. -/
  | sleep (left : Nat)
  /-- `[ -f "$pid_file" ]` of line 74. -/
  | testFile
  /-- `rm "$pid_file"`. -/
  | rm
  /-- The script has ended with this status. -/
  | exit (code : Nat)
deriving DecidableEq

/-- The four arguments a script understands. -/
inductive Command where
  | start | stop | restart | status
deriving DecidableEq

/-- Which script call an invocation is in: the one it was started as, or the `$0 stop` or `$0 start` of a
    `restart`. -/
inductive Call where
  | top | restartStop | restartStart
deriving DecidableEq

/-- An invocation in progress. -/
structure Thread where
  pc : Pc
  call : Call
deriving DecidableEq

/-- Where an invocation starts: `restart` calls the script again with `stop` first. -/
def Thread.init : Command → Thread
  | .start => ⟨.test .startGuard, .top⟩
  | .stop => ⟨.test .stopGuard, .top⟩
  | .restart => ⟨.test .stopGuard, .restartStop⟩
  | .status => ⟨.test .status, .top⟩

/-- What an invocation does besides changing the world: the texts it prints, and the signals it sends to whatever
    process has the PID by then. -/
inductive Event where
  | echo (text : Text)
  /-- SIGTERM is delivered to the process under `p`. -/
  | signal (p : Pid) (owner : Owner)
deriving DecidableEq

/-- The loop of lines 58 to 66, with `left` turns to go. -/
def pollLoop : Nat → Pc
  | 0 => .test .stopFinal
  | left + 1 => .test (.stopPoll left)

/-- What follows `is_running` at each of its places: the next command, and the texts that are printed before it. -/
def decided (sc : Script) : Site → Bool → Pc × List Text
  | .startGuard, true => (.exit 0, ["Already started".toList])
  | .startGuard, false => (.fork, ["Starting ".toList ++ sc.name])
  | .startCheck, true => (.exit 0, [])
  | .startCheck, false =>
      (.exit 1, ["Unable to start, see ".toList ++ sc.stdout_log ++ " and ".toList ++ sc.stderr_log])
  | .stopGuard, true => (.killCat, ["Stopping ".toList ++ sc.name ++ "..".toList])
  | .stopGuard, false => (.exit 0, ["Not running".toList])
  | .stopPoll left, true => (.sleep left, [".".toList])
  | .stopPoll _, false => (.test .stopFinal, [])
  | .stopFinal, true =>
      (.exit 1, ["Not stopped; may still be shutting down or shutdown may have failed".toList])
  | .stopFinal, false => (.testFile, ["Stopped".toList])
  | .restart, true => (.exit 1, ["Unable to stop, will not attempt to start".toList])
  | .restart, false => (.test .startGuard, [])
  | .status, true => (.exit 0, ["Running".toList])
  | .status, false => (.exit 1, ["Stopped".toList])

/-- The call an invocation is in after a decision: only the one of line 84 starts another call. -/
def Call.after (c : Call) : Site → Bool → Call
  | .restart, false => .restartStart
  | _, _ => c

/-- What the environment decides in one step: the PID of a new process, and `ps` without PIDs. -/
structure Choice where
  newPid : Pid
  psOther : Bool
deriving DecidableEq

/-- The invocation goes on after `is_running` at `k` has answered, and prints what belongs to the answer. -/
def Thread.decide (sc : Script) (t : Thread) (k : Site) (running : Bool) : Thread × List Event :=
  (⟨(decided sc k running).1, t.call.after k running⟩, (decided sc k running).2.map .echo)

/-- The processes that `kill` reaches: those that exist among the PIDs it is given. -/
def signals (w : World) (args : List Word) : List Event :=
  (args.filterMap pidOf).filterMap fun p => (w.procs p).map (.signal p)

/-- One step of an invocation. It is stuck when it has ended, or when the kernel's choice of a PID is not a
    free one. -/
def Thread.step (sc : Script) (o : Choice) (t : Thread) (w : World) :
    Option (Thread × World × List Event) :=
  match t.pc with
  | .test k =>
      if w.pid_file.isSome then some (⟨.cat k, t.call⟩, w, [])
      else some ((t.decide sc k false).1, w, (t.decide sc k false).2)
  | .cat k => some (⟨.ps k w.get_pid, t.call⟩, w, [])
  | .ps k args =>
      let d := t.decide sc k (ps w o.psOther args)
      some (d.1, w, d.2)
  | .fork =>
      if w.procs o.newPid = none then
        some (⟨.truncate o.newPid, t.call⟩, w.setProc o.newPid (some .daemon), [])
      else none
  | .truncate p => some (⟨.write p w.gen, t.call⟩, { w with pid_file := some [] }, [])
  | .write p fd => some (⟨.test .startCheck, t.call⟩, w.write fd (pidLine p), [])
  | .killCat => some (⟨.kill w.get_pid, t.call⟩, w, [])
  | .kill args => some (⟨pollLoop sc.turns, t.call⟩, w, signals w args)
  | .sleep left => some (⟨pollLoop left, t.call⟩, w, [])
  | .testFile => if w.pid_file.isSome then some (⟨.rm, t.call⟩, w, []) else some (⟨.exit 0, t.call⟩, w, [])
  | .rm =>
      if w.pid_file.isSome then
        some (⟨.exit 0, t.call⟩, { w with pid_file := none, gen := w.gen + 1 }, [])
      else some (⟨.exit 1, t.call⟩, w, [])
  | .exit code =>
      match t.call with
      | .top => none
      -- `restart` does not look at the status of `$0 stop`
      | .restartStop => some (⟨.test .restart, .top⟩, w, [])
      | .restartStart => some (⟨.exit code, .top⟩, w, [])

/-! ## The system

Any number of invocations with their places, and the world that they share. There is no lock: whatever invocation is
in progress may take the next step. -/

/-- The world and the invocation, if any, in each slot of `ι`. -/
structure Sys (ι : Type) where
  world : World
  slot : ι → Option Thread

/-- What can happen next: the script is invoked, an invocation takes its next step or ends, or the machine does
    something by itself. -/
inductive Label (ι : Type) where
  /-- The script is invoked in a free slot. -/
  | invoke (i : ι) (c : Command)
  /-- The invocation in a slot takes a step. -/
  | step (i : ι) (o : Choice)
  /-- The invocation in a slot is over. -/
  | finish (i : ι) (code : Nat)
  /-- A daemon instance exits or crashes. -/
  | die (p : Pid)
  /-- An unrelated process is created, or ends. -/
  | spawn (p : Pid)
  | reap (p : Pid)
deriving DecidableEq

section System
variable {ι : Type} [DecidableEq ι]

/-- The state after a label, if the label is possible at all. Besides the steps of the invocations there are those of
    their surroundings: a daemon dies, and unrelated processes come under free PIDs and go. -/
def next (sc : Script) (s : Sys ι) : Label ι → Option (Sys ι)
  | .invoke i c =>
      if s.slot i = none then
        some { s with slot := Function.update s.slot i (some (Thread.init c)) }
      else none
  | .step i o =>
      match s.slot i with
      | none => none
      | some t =>
          (t.step sc o s.world).map fun r => ⟨r.2.1, Function.update s.slot i (some r.1)⟩
  | .finish i code =>
      if s.slot i = some ⟨.exit code, .top⟩ then
        some { s with slot := Function.update s.slot i none }
      else none
  | .die p =>
      if s.world.procs p = some .daemon then
        some { s with world := s.world.setProc p none }
      else none
  | .spawn p =>
      if s.world.procs p = none then
        some { s with world := s.world.setProc p (some .other) }
      else none
  | .reap p =>
      if s.world.procs p = some .other then
        some { s with world := s.world.setProc p none }
      else none

/-- What a label shows to the outside: the lines an invocation prints, and the signals it sends. -/
def events (sc : Script) (s : Sys ι) : Label ι → List Event
  | .step i o =>
      match (s.slot i).bind fun t => t.step sc o s.world with
      | some r => r.2.2
      | none => []
  | _ => []

/-- No invocation is in progress. It is between invocations that the scripts are to keep their promise. -/
def Sys.Idle (s : Sys ι) : Prop := ∀ i, s.slot i = none

/-- A machine on which nothing runs, with no PID file. -/
def Sys.blank : Sys ι := ⟨⟨fun _ => none, none, 0⟩, fun _ => none⟩

end System

end Datastore
end StgEnvironment
