import StgEnvironment.Lib.Transition
import StgEnvironment.Reporting.GetReport

/-!
# `Reporting.Sshcmd`: `sshcmd` and its child

The child is the list of the bytes it will write, each to one of its two streams, before it closes both; a write of
several bytes is that many writes. A write into a full pipe waits. The parent reads one pipe to its end before it
looks at the other (`Parent`). `next` is what can happen to the two of them, one byte at a time.

The pipes are finite (`Capacities`), and hold one byte at least. What the child writes does not depend on what happens
to it, and it ends by itself when it has written everything. A run is a list of labels; which of them comes first is
left open, so that a statement about all runs is one about all schedules.
-/

namespace StgEnvironment
namespace Reporting.Sshcmd
open Python GetReport

/-- The two streams of the child. -/
inductive Stream where
  | stdout
  | stderr
deriving DecidableEq

/-- How many bytes each pipe holds. -/
structure Capacities where
  cap : Stream → Nat
  pos : ∀ s, 0 < cap s

/-- Where the parent is. It reads one pipe to its end before it looks at the other. -/
inductive Parent where
  /-- In `ssh.stderr.readlines()`, with what it has read. -/
  | readErr (err : Text)
  /-- In `ssh.stdout.readlines()`. -/
  | readOut (out : Text)
  | returned (result : SshResult)
deriving DecidableEq

/-- The two processes and the pipes between them. The content of a pipe is what has been written and not yet read. -/
structure State where
  /-- What the child has yet to write. -/
  todo : List (Stream × Char)
  /-- The ends that the child has not closed. -/
  isOpen : Stream → Bool
  pipe : Stream → Text
  parent : Parent

/-- What can happen: the child writes a byte or closes an end, the parent reads a byte or the end of a pipe. -/
inductive Label where
  | write
  | close (s : Stream)
  | read
  | eof
deriving DecidableEq

/-- The pipe that the parent reads. -/
def Parent.reads : Parent → Option Stream
  | .readErr _ => some .stderr
  | .readOut _ => some .stdout
  | .returned _ => none

def Parent.got (c : Char) : Parent → Parent
  | .readErr err => .readErr (err ++ [c])
  | .readOut out => .readOut (out ++ [c])
  | .returned result => .returned result

/-- The pipe is at its end. -/
def Parent.ended : Parent → Parent
  | .readErr err => if (fileLines err).isEmpty then .readOut [] else .returned none
  | .readOut out => .returned (some (fileLines out))
  | .returned result => .returned result

def next (C : Capacities) (σ : State) : Label → Option State
  | .write =>
      match σ.todo with
      | [] => none
      | (s, c) :: todo =>
          if (σ.pipe s).length < C.cap s then
            some { σ with todo := todo, pipe := Function.update σ.pipe s (σ.pipe s ++ [c]) }
          else none
  | .close s =>
      if σ.todo.isEmpty && σ.isOpen s then some { σ with isOpen := Function.update σ.isOpen s false } else none
  | .read =>
      σ.parent.reads.bind fun s =>
        match σ.pipe s with
        | [] => none
        | c :: rest => some { σ with pipe := Function.update σ.pipe s rest, parent := σ.parent.got c }
  | .eof =>
      σ.parent.reads.bind fun s =>
        if (σ.pipe s).isEmpty && !σ.isOpen s then some { σ with parent := σ.parent.ended } else none

/-- Parent and child as they start. -/
def init (todo : List (Stream × Char)) : State := ⟨todo, fun _ => true, fun _ => [], .readErr []⟩

/-- Both have come to their end. -/
def Terminated (σ : State) : Prop :=
  σ.todo = [] ∧ (∀ s, σ.isOpen s = false) ∧ ∃ result, σ.parent = .returned result

/-- Nothing can happen any more. -/
def Stuck (C : Capacities) (σ : State) : Prop := ∀ l, next C σ l = none

/-- What a child writes to a stream. -/
def output (s : Stream) (todo : List (Stream × Char)) : Text := (todo.filter (·.1 = s)).map Prod.snd

end Reporting.Sshcmd
end StgEnvironment
