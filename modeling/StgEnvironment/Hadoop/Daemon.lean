import StgEnvironment.Datastore.Init
import StgEnvironment.Lib.Rotation

/-!
# `Hadoop.Daemon`: the script `hadoop-daemon.sh`

The script keeps the PID of a daemon in a file, refuses to start a daemon whose PID is in use, and moves the outputs
of earlier launches out of the way first (`hadoop_rotate_log`). Its invocations come one after the other; in between,
daemons write and end, and other processes come and go (`Label`, `next`).

## Contents
- **`hadoop_rotate_log`**: the function, with its loop and its second argument.
- **The state of the machine**: files and processes, and the guard of the script (`World.running`).
- **`bin/hadoop`**: a parameter (`Bin`), and what its documentation says of it (`Documented`).
- **The script**: its two branches, with what they print and their status.
- **Runs**: labels in any order.
- **What the outputs are for**: the record of the outputs, kept beside a run (`record`).

## What is assumed
The values of the variables and the command are taken to be single words without pattern characters, as the script
expands them unquoted. Directories, and the copy from `$HADOOP_MASTER`, are left out.

`bin/hadoop` is not in the repository. Its documentation says that with `_HADOOP_DAEMON_DETACHED` it launches the daemon
with its output in `$_HADOOP_DAEMON_OUT` and its PID in `$_HADOOP_DAEMON_PIDFILE`, or it fails before that. Which of
them, and the PID, is part of the label. What it prints itself is not modelled.
-/

namespace StgEnvironment
namespace Hadoop.Daemon

open Datastore (Pid pidLine pidOf)
open Rotation (mv)

/-- The regular files, by path. -/
abbrev Files := Text → Option Text

/-- The variables that the script gets from its caller, `hadoop-config.sh` and `hadoop-env.sh`. An unset variable and
    an empty one are the same to the script. -/
structure Env where
  HADOOP_HOME : Text
  HADOOP_LOG_DIR : Text
  HADOOP_PID_DIR : Text
  HADOOP_IDENT_STRING : Text
  USER : Text
  HOSTNAME : Text

section Variables
variable (e : Env)

/-- `if [ "$v" = "" ]; then v=default; fi`. -/
def defaultsTo (v default : Text) : Text := if v = [] then default else v

/-- `$HADOOP_IDENT_STRING`, or the user. -/
def Env.ident : Text := defaultsTo e.HADOOP_IDENT_STRING e.USER

/-- `$HADOOP_LOG_DIR`, or the directory `logs` under the home of Hadoop. -/
def Env.logDir : Text := defaultsTo e.HADOOP_LOG_DIR (e.HADOOP_HOME ++ "/logs".toList)

/-- `$HADOOP_PID_DIR`, or `/tmp`. -/
def Env.pidDir : Text := defaultsTo e.HADOOP_PID_DIR "/tmp".toList

/-- `$_HADOOP_DAEMON_OUT`, for a command: where the daemon writes to. -/
def Env.daemonOut (command : Text) : Text :=
  e.logDir ++ '/' :: e.ident ++ '-' :: command ++ '-' :: e.HOSTNAME ++ ".out".toList

/-- `$_HADOOP_DAEMON_PIDFILE`, for a command. Its name has neither the host nor an index. -/
def Env.daemonPidfile (command : Text) : Text :=
  e.pidDir ++ "/hadoop-".toList ++ e.ident ++ '-' :: command ++ ".pid".toList

end Variables

/-! ## `hadoop_rotate_log` -/

/-- `"$_HADOOP_DAEMON_OUT.$num"`: the output of an earlier launch. -/
def dotted (out : Text) (num : ℕ) : Text := out ++ '.' :: Nat.toDigits 10 num

/-- The `while` loop, and what `$num` is after it. A place without a file is left as it is, since the script asks with
    `[ -f … ]`. -/
def rotateLoop (out : Text) : ℕ → Files → Files × ℕ
  | num + 2, fs =>
      rotateLoop out (num + 1) <|
        if (fs (dotted out (num + 1))).isSome then mv (dotted out (num + 1)) (dotted out (num + 2)) fs else fs
  | num, fs => (fs, num)

/-- `hadoop_rotate_log`, with its second argument, if there is one. The first is not used: `$log` occurs nowhere. -/
def hadoop_rotate_log (out : Text) (second : Option ℕ) (fs : Files) : Files :=
  if (fs out).isSome then
    let (fs, num) := rotateLoop out (second.getD 5) fs
    mv out (dotted out num) fs
  else fs

/-! ## The state of the machine -/

/-- Who runs under a PID: a daemon of the command, or another process, which the user of the script may signal
    or not. -/
inductive Owner where
  | daemon (command : Text)
  | other (ours : Bool)
deriving DecidableEq

/-- The files, and who runs under each PID. No PID has two processes. -/
@[ext]
structure World where
  files : Files
  procs : Pid → Option Owner

/-- `kill -0` may signal the process. For a process of another user it fails, though the process is there. -/
def World.signalable (w : World) (p : Pid) : Bool :=
  match w.procs p with
  | some (.daemon _) => true
  | some (.other ours) => ours
  | none => false

/-- ``kill -0 `cat file` ``: it is enough that one of the arguments is the PID of a process. -/
def World.kill0 (w : World) (args : List Word) : Bool :=
  args.any fun a => (pidOf a).any w.signalable

/-- The guard of both commands: there is a PID file, and what it names runs. -/
def World.running (w : World) (pidfile : Text) : Bool :=
  match w.files pidfile with
  | none => false
  | some t => w.kill0 (words t)

/-! ## `bin/hadoop` -/

/-- What a run of `bin/hadoop` comes to: the PID of the daemon and the first that it writes, if it gets so far. -/
abbrev Launch := Option (Pid × Text)

/-- `bin/hadoop`, on `$_HADOOP_DAEMON_OUT`, `$_HADOOP_DAEMON_PIDFILE`, `$command` and the other arguments: the world
after it, and its exit status. -/
abbrev Bin := (out pidfile command : Text) → List Text → Launch → World → World × ℕ

/-- **What `bin/hadoop` does according to its documentation.** The launcher is not part of the repository: whether it
    launches, under which PID and with what output is an input of each start, and these properties say which files and
    processes it then leaves. -/
structure Documented (b : Bin) : Prop where
  /-- A run that fails leaves no trace. -/
  failed : ∀ out pidfile command args w, (b out pidfile command args none w).1 = w
  failed_status : ∀ out pidfile command args w, (b out pidfile command args none w).2 ≠ 0
  /-- The output of the daemon replaces that of the one before. -/
  out : ∀ out pidfile command args p t w, out ≠ pidfile →
    (b out pidfile command args (some (p, t)) w).1.files out = some t
  pidfile : ∀ out pidfile command args p t w,
    (b out pidfile command args (some (p, t)) w).1.files pidfile = some (pidLine p)
  others : ∀ out pidfile command args p t w path, path ≠ out → path ≠ pidfile →
    (b out pidfile command args (some (p, t)) w).1.files path = w.files path
  procs : ∀ out pidfile command args p t w,
    (b out pidfile command args (some (p, t)) w).1.procs = Function.update w.procs p (some (.daemon command))
  status : ∀ out pidfile command args p t w, (b out pidfile command args (some (p, t)) w).2 = 0

/-! ## The script -/

/-- The world after an invocation, what the script printed, and its exit status. -/
structure Result where
  world : World
  said : Text
  status : ℕ

/-- What the script says without a command, or with a first word that is neither `start` nor `stop`. -/
def usage : Text :=
  ("Usage: hadoop-daemon.sh [--config <conf-dir>] [--hosts hostlistfile] (start|stop) <hadoop-command> <args...>"
    |>.toList)

/-- The branch `(start)`: the guard, the rotation, and `bin/hadoop`, with whose status it ends. -/
def start (b : Bin) (e : Env) (command : Text) (args : List Text) (l : Launch) (w : World) : Result :=
  if w.running (e.daemonPidfile command) then
    ⟨w, unwords ([command] ++ words "running as process".toList ++
      words (((w.files (e.daemonPidfile command)).getD []).rdropWhile (· == '\n') ++ ".  Stop it first.".toList)), 1⟩
  else
    let w' : World := { w with files := hadoop_rotate_log (e.daemonOut command) none w.files }
    let (w'', status) := b (e.daemonOut command) (e.daemonPidfile command) command args l w'
    ⟨w'', "starting ".toList ++ command ++ ", logging to ".toList ++ e.daemonOut command, status⟩

/-- The branch `(stop)`. The signal is a request: the process may end at any time after it. -/
def stop (e : Env) (command : Text) (w : World) : Result :=
  if w.running (e.daemonPidfile command) then ⟨w, "stopping ".toList ++ command, 0⟩
  else ⟨w, "no ".toList ++ command ++ " to stop".toList, 0⟩

/-- The whole script, on its arguments: an action and a command, or the usage. -/
def invoke (b : Bin) (e : Env) (args : List Text) (l : Launch) (w : World) : Result :=
  match args with
  | startStop :: command :: args =>
      if startStop = "start".toList then start b e command args l w
      else if startStop = "stop".toList then stop e command w
      else ⟨w, usage, 1⟩
  | _ => ⟨w, usage, 1⟩

/-! ## Runs -/

/-- What happens on the machine. Nothing happens in the middle of an invocation. -/
inductive Label where
  /-- An invocation of the script, with what `bin/hadoop` would do. -/
  | invoke (args : List Text) (l : Launch)
  /-- A daemon writes to its output. -/
  | output (p : Pid) (t : Text)
  /-- A process ends. -/
  | exit (p : Pid)
  /-- A process that is no daemon gets a free PID. -/
  | spawn (p : Pid) (ours : Bool)
deriving DecidableEq

/-- A new process gets a PID that is free, whatever ran under it before. -/
def World.free (w : World) : Launch → Bool
  | none => true
  | some (p, _) => (w.procs p).isNone

/-- One label. It is `none` where the label cannot happen, such as an output of a process that is no daemon. -/
def next (b : Bin) (e : Env) (w : World) : Label → Option World
  | .invoke args l => if w.free l then some (invoke b e args l w).world else none
  | .output p t =>
      match w.procs p with
      | some (.daemon command) =>
          let out := e.daemonOut command
          some { w with files := Function.update w.files out ((w.files out).map (· ++ t)) }
      | _ => none
  | .exit p => if (w.procs p).isSome then some { w with procs := Function.update w.procs p none } else none
  | .spawn p ours =>
      if (w.procs p).isNone then some { w with procs := Function.update w.procs p (some (.other ours)) } else none

/-- No file and no process. -/
def World.blank : World := ⟨fun _ => none, fun _ => none⟩

/-! ## What the outputs are for -/

/-- The outputs of the starts of a command that got past the guard: that of the last one, if it launched a daemon,
    and the earlier ones, the latest first. `pid` is that of the last daemon that was launched. -/
structure Outputs where
  current : Option Text
  earlier : List Text
  pid : Option Pid

/-- What happened to the outputs of a command, as the log of a run has it. -/
inductive Entry where
  /-- A start got past its guard. -/
  | started (command : Text) (l : Launch)
  | wrote (command : Text) (t : Text)

/-- The outputs of every command. It is kept beside the world and is no part of it: no script reads it. -/
abbrev Record := Text → Outputs

/-- A start moves the output of the one before it to the earlier ones; what a daemon writes goes to the end of the
    current one. -/
def Record.add (r : Record) : Entry → Record
  | .started c l =>
      Function.update r c
        ⟨l.map Prod.snd, (r c).current.toList ++ (r c).earlier, (l.map Prod.fst).or (r c).pid⟩
  | .wrote c t => Function.update r c { r c with current := (r c).current.map (· ++ t) }

/-- What a label adds to the record. A start that is refused adds nothing. -/
def World.entries (w : World) (e : Env) : Label → List Entry
  | .invoke (startStop :: command :: _) l =>
      if startStop = "start".toList ∧ w.running (e.daemonPidfile command) = false then [.started command l] else []
  | .output p t =>
      match w.procs p with
      | some (.daemon command) => [.wrote command t]
      | _ => []
  | _ => []

/-- The record after a run, label by label along the worlds of the run. -/
def record (b : Bin) (e : Env) : World → Record → List Label → Record
  | _, r, [] => r
  | w, r, l :: ls =>
      match next b e w l with
      | none => r
      | some w' => record b e w' ((w.entries e l).foldl Record.add r) ls

def Record.blank : Record := fun _ => ⟨none, [], none⟩

end Hadoop.Daemon
end StgEnvironment
