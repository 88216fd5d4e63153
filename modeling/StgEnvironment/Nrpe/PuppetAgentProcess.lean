import StgEnvironment.Lib.Decimal
import StgEnvironment.Nrpe.FlinkContainers
import StgEnvironment.Shell.Read
import StgEnvironment.Shell.Redirection

/-!
# `Nrpe.PuppetAgentProcess`: the plugin `check_puppet_agent_process.sh`

The plugin reads a PID from the PID file of the Puppet agent and asks `ps` for it. Without a PID it looks for the agent
among the children of the process 1. The arguments of `ps` are what the shell makes of the command line
(`psCommand`). `ps` itself is known by one fact: with a list of PIDs it succeeds if at least one of them exists.

The command line is taken apart by the tokens of the shell (`Shell.Redirection`): `2&>` in it is no redirection of the
stream 2 but an argument and the redirection of both streams.
-/

namespace StgEnvironment
namespace Nrpe.PuppetAgentProcess
open Shell
open FlinkContainers (Verdict)

/-- A running process. -/
structure Process where
  pid : ℕ
  ppid : ℕ
  cmdline : Text
deriving DecidableEq

/-- The running processes. -/
structure ProcessTable where
  processes : List Process
  distinct : (processes.map Process.pid).Nodup

/-- There is a process of this PID. -/
def ProcessTable.Has (table : ProcessTable) (pid : ℕ) : Prop := pid ∈ table.processes.map Process.pid

instance (table : ProcessTable) (pid : ℕ) : Decidable (table.Has pid) := inferInstanceAs (Decidable (_ ∈ _))

/-- The text in front of the first newline. -/
def firstLine (content : Text) : Text := content.takeWhile (· != '\n')

/-- The PID file of the agent, which the agent writes a number to. -/
inductive PidFile
  | absent
  | unreadable
  /-- The first line is empty or a number. -/
  | readable (content : Text) (number : firstLine content = [] ∨ IsDecimal (firstLine content))

/-- `ps` with arguments, by whether it succeeds. -/
structure Ps (table : ProcessTable) where
  succeeds : List Word → Bool
  succeeds_iff : ∀ args, args ≠ [] → (∀ a ∈ args, IsDecimal a) →
    (succeeds args = true ↔ ∃ a ∈ args, ∃ pid, ofDecimal a = some pid ∧ table.Has pid)

/-- What the plugin finds on a host. -/
structure Host where
  pid_file : PidFile
  table : ProcessTable
  ps : Ps table

/-- What the agent calls itself. -/
def agent_process_name : Text := "puppet agent".toList

def agent_pid (h : Host) : Text :=
  match h.pid_file with
  | .absent => []
  | .unreadable => []
  | .readable content _ => read content

/-- The word `"${agent_pid}"`. -/
def agentPidWord : Word := "\"$\x7bagent_pid\x7d\"".toList

/-- The command of line 13. -/
def psCommand : Text := "ps ".toList ++ agentPidWord ++ " 2&>/dev/null".toList

/-- The arguments of `ps`. -/
def psArguments (h : Host) : List Word :=
  (wordsOfCommand (lex psCommand)).tail.map fun w => if w = agentPidWord then agent_pid h else w

/-- `pgrep -f "${agent_process_name}" -P 1`: the pattern has no special characters. -/
def found (h : Host) : List Process :=
  h.table.processes.filter fun p => decide (p.ppid = 1) && decide (Occurs agent_process_name p.cmdline)

/-- What `pgrep` prints. -/
def found_pid (h : Host) : Text := unlines ((found h).map fun p => decimal p.pid)

/-- `check_puppet_agent_process.sh`. The two ways to find the agent are tried one or the other, by whether there is a
    PID. -/
def check_puppet_agent_process (h : Host) : Verdict :=
  let pid_file := "/var/run/puppetlabs/agent.pid".toList
  if agent_pid h ≠ [] then
    if h.ps.succeeds (psArguments h) = false then
      ⟨["There's PID file with ".toList ++ agent_pid h ++ " PID but no process running".toList], 2⟩
    else ⟨["Puppet Agent is running under PID ".toList ++ agent_pid h], 0⟩
  else if found h ≠ [] then
    ⟨["Can't read ".toList ++ pid_file ++ " but Puppet Agent is running under PID ".toList ++ found_pid h
      ++ " - check it!".toList], 1⟩
  else
    ⟨["Can't read ".toList ++ pid_file ++ " and can't find Puppet Agent process by its name".toList], 2⟩

end Nrpe.PuppetAgentProcess
end StgEnvironment
