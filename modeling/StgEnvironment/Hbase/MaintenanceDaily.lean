import StgEnvironment.Shell.Expansion
import StgEnvironment.Shell.Test

/-!
# `Hbase.MaintenanceDaily`: the cron job `maintenance_daily.sh`

Every HBase master runs the job; the guard in front of the compaction is to let only the active master
through. The job runs under `set -e`, from which the condition of an `if` is exempt, and the guard
`[ $ACTIVE_MASTER != $CURRENT_HOST ]` expands both variables unquoted.

## Contents
- **A host**: its name (`Fqdn`), and what the commands of the job do on it (`Site`).
- **The job**: `maintenance_daily`, with the guard as `Shell.Test` evaluates it on the words that `Shell.Expansion`
  makes of the variables.
- **A cluster**: the job on all hosts, in any order (`clusterRun`), and the compactions among its effects.
-/

namespace StgEnvironment
namespace Hbase
open Shell

/-- The characters of a host name. None of them means anything to the shell. -/
def isHostChar (c : Char) : Bool := c.isAlphanum || c == '-' || c == '.' || c == '_'

/-- What `hostname --fqdn` prints: a name, which is not empty. -/
structure Fqdn where
  name : Word
  ne_nil : name ≠ []
  host : name.all isHostChar = true
deriving DecidableEq

/-- What the commands of the job do on one host (`hostname` and `logger` succeed). Hosts may differ in all of it. -/
structure Site where
  /-- The working directory of the job, for pathname expansion. -/
  globbing : Globbing
  /-- The file system, for the file primaries of `[`. -/
  files : Files
  /-- Exit status and output of `hbase org.jruby.Main /usr/lib/hbase/bin/get-active-master.rb`. -/
  get_active_master : Nat × Text
  /-- Exit status of `hbase shell`. -/
  hbase_shell : Nat

/-- The effects of the job: what it logs, and what it has the HBase shell do. -/
inductive Action where
  | logger (message : Text)
  | hbase_shell (script : Text)
deriving DecidableEq

/-- What a command substitution keeps of an output: all but the newlines at its end. -/
def commandSubst (output : Text) : Text := output.rdropWhile (· == '\n')

/-- `ACTIVE_MASTER`: what the script `get-active-master.rb` printed, be it a name, nothing or a sentence. -/
def Site.activeMaster (s : Site) : Text := commandSubst s.get_active_master.2

/-- The condition of line 10, with both variables unquoted. It has three outcomes, of which `if` takes two for
    false. -/
def guard (s : Site) (CURRENT_HOST : Text) : Status :=
  test s.files (s.globbing.unquoted s.activeMaster ++ ["!=".toList] ++ s.globbing.unquoted CURRENT_HOST)

/-- `maintenance_daily.sh` on host `h`: its effects and its exit status. If the command behind `ACTIVE_MASTER` fails,
    `set -e` ends the job there. -/
def maintenance_daily (h : Fqdn) (s : Site) : List Action × Nat :=
  let started := [Action.logger "Executing HBASE daily maintenance".toList]
  if s.get_active_master.1 ≠ 0 then (started, s.get_active_master.1)
  else
    match guard s h.name with
    | .yes =>
        (started ++ [.logger ("Current host (".toList ++ h.name ++ ") is not the hbase master (".toList
          ++ s.activeMaster ++ "). Terminating.".toList)], 0)
    -- a false condition and one that `[` rejects both fall through
    | .no | .error =>
        let compacted := started ++ [.logger "Triggering major compaction".toList,
          .hbase_shell "/etc/hbase/scripts/major_compaction.hql".toList]
        if s.hbase_shell ≠ 0 then (compacted, s.hbase_shell)
        else (compacted ++ [.logger "Finished HBASE daily maintenance".toList], 0)

/-- The job on all hosts of a cluster, one after the other, with the host of each effect. -/
def clusterRun (site : Fqdn → Site) (order : List Fqdn) : List (Fqdn × Action) :=
  order.flatMap fun h => (maintenance_daily h (site h)).1.map (h, ·)

/-- The action of line 18, the compaction of all tables. -/
def Action.isCompaction : Action → Bool
  | .hbase_shell _ => true
  | .logger _ => false

/-- The compactions of a run, with the hosts they run on. -/
def compactions (site : Fqdn → Site) (order : List Fqdn) : List (Fqdn × Action) :=
  (clusterRun site order).filter (·.2.isCompaction)

end Hbase
end StgEnvironment
