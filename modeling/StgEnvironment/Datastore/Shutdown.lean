import StgEnvironment.Datastore.Init

/-!
# `Datastore.Shutdown`: an init script and a daemon that takes its time

One invocation of a script by itself, on a machine whose daemon ends a number of seconds after SIGTERM (`latency`, which
may be infinite). Only `sleep` takes time: a second each. The daemon is gone when its time has come, before the next
command looks for it.

The steps are those of `Datastore.Init`; a `Watch` adds the clock and what the invocation has shown. As nothing else is
going on, an invocation has one course (`Situation.Ends`).
-/

namespace StgEnvironment
namespace Datastore

/-- A machine with a live instance whose PID is in the file, and the seconds that the instance takes to end, which may
    be without bound. -/
structure Situation where
  world : World
  pid : Pid
  /-- The file holds the PID, and no other word. -/
  tracked : ∃ t, world.pid_file = some t ∧ pidsOf (words t) = some [pid]
  live : world.Live pid
  /-- The seconds from SIGTERM to the end of the daemon. -/
  latency : ℕ∞
  choice : Choice
  /-- The PID that the kernel has for a new process is not in use, or that of the daemon, once it has ended. -/
  free : choice.newPid = pid ∨ world.procs choice.newPid = none

/-- An invocation on such a machine: how far it is, the seconds since SIGTERM, and what it has shown so far. -/
structure Watch where
  world : World
  thread : Thread
  /-- The seconds since SIGTERM, if the daemon has got it. -/
  elapsed : Option ℕ
  shown : List Event

section Situation
variable (sc : Script) (x : Situation)

/-- The invocation of a command, before its first step. -/
def Situation.start (c : Command) : Watch := ⟨x.world, Thread.init c, none, []⟩

/-- The seconds since SIGTERM after a step. -/
def Situation.clock (s : Watch) (events : List Event) : Option ℕ :=
  match s.thread.pc with
  | .sleep _ => s.elapsed.map (· + 1)
  | _ => if .signal x.pid .daemon ∈ events then some 0 else s.elapsed

/-- The world after a step that ends at this time: the daemon ends when the clock comes to its latency. -/
def Situation.passed (before after : Option ℕ) (w : World) : World :=
  if after ≠ before ∧ after.map (fun n : ℕ => (n : ℕ∞)) = some x.latency then w.setProc x.pid none else w

/-- One step of the invocation, and what the time that passes with it does to the daemon. -/
def Situation.step (s : Watch) : Option Watch :=
  (s.thread.step sc x.choice s.world).map fun r =>
    ⟨x.passed s.elapsed (x.clock s r.2.2) r.2.1, r.1, x.clock s r.2.2, s.shown ++ r.2.2⟩

/-- The invocation of a command comes to its end in this state. -/
def Situation.Ends (c : Command) (t : Watch) : Prop :=
  Relation.ReflTransGen (fun s s' => x.step sc s = some s') (x.start c) t ∧ x.step sc t = none

end Situation

end Datastore
end StgEnvironment
