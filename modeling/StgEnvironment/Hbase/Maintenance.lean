import StgEnvironment.Puppet.Value
import StgEnvironment.Shell.Sed

/-!
# `Hbase.Maintenance`: the classes `hbase::maintenance::master` and `hbase::maintenance::regionserver`

Both classes have the same body. It takes the hash `hbase::maintenance`, deploys the maintenance scripts and runs one
of them daily with `cron`, and it can replace the command that `hbase` runs when it is out of memory.

The strings of the two commands are evaluated by `Puppet.Value`, which has Puppet's rules for a variable in a string:
without braces only the name belongs to it. What the commands do is not said here: `cron` gets a string, and what
`sed` makes of the other is modelled by `Shell.Sed`.
-/

namespace StgEnvironment
namespace Hbase.Maintenance
open Puppet

/-- The hash `hbase::maintenance`. Three of its values are strings. -/
structure Hash where
  entries : List (Text × Value)
  location : Text
  daily_script : Text
  oom_action_script : Text
  get_location : Value.get entries "location".toList = .str location
  get_daily_script : Value.get entries "daily_script".toList = .str daily_script
  get_oom_action_script : Value.get entries "oom_action_script".toList = .str oom_action_script

def Hash.get (maintenance : Hash) (key : Text) : Value := Value.get maintenance.entries key

/-- `hbase::maintenance` as a value. -/
def Hash.value (maintenance : Hash) : Value := .hash maintenance.entries

/-- `ensure`, as the resources here have it. -/
inductive Ensure where
  | present
  | absent
  | directory
deriving DecidableEq

/-- What the classes declare, with the attributes that differ between the resources. -/
inductive Resource where
  | file (path : Text) (ensure : Ensure) (purge recurse : Bool) (source : Option Text)
  | cron (title : Text) (ensure : Ensure) (command user : Option Text) (hour minute : Value)
  | exec (title command : Text) (path : List Text) (onlyif : Text)

/-- The variables of the classes: the hash, and no other that their strings name. -/
def Hash.scope (maintenance : Hash) (name : Text) : Value :=
  if name = "maintenance".toList then maintenance.value else .undefined

/-- A double-quoted string of the classes. In it a variable without braces ends with its name, so that the key in
    brackets after it is text. -/
def Hash.string (maintenance : Hash) (t : Text) : Text := interpolate maintenance.scope t

/-- The string behind `command` of the cron job, as it stands in the manifest. -/
def cronString : Text := "$maintenance['location']/$maintenance['daily_script']".toList

/-- The string behind `command` of `override_OOM_action`, as it stands in the manifest. -/
def oomString : Text :=
  "sed -i.bak -e 's|kill -9 %p|$maintenance['oom_action_script'] %p|g' /usr/lib/hbase/bin/hbase".toList

/-- The body of the classes: with `daily` the scripts are deployed and run by `cron`, without it both are removed. The
    override is there if the hash asks for it. -/
def catalog (maintenance : Hash) : List Resource :=
  (if (maintenance.get "daily".toList).truthy then
    [.file maintenance.location .directory true true (some "puppet:///modules/hbase/maintenance".toList),
      .cron "hbase_maintenance_daily".toList .present (some (maintenance.string cronString)) (some "root".toList)
        (maintenance.get "daily_hour".toList) (maintenance.get "daily_minute".toList)]
  else
    [.file maintenance.location .absent false false none,
      .cron "hbase_maintenance_daily".toList .absent none none .undefined .undefined]) ++
  if (maintenance.get "oom_action_override".toList).truthy then
    [.exec "override_OOM_action".toList (maintenance.string oomString)
      ["/usr/bin".toList, "/usr/sbin".toList, "/bin".toList]
      "grep -q \"kill -9 %p\" /usr/lib/hbase/bin/hbase".toList]
  else []

/-- `hbase::maintenance::master`. -/
def master (maintenance : Hash) : List Resource := catalog maintenance

/-- `hbase::maintenance::regionserver`. -/
def regionserver (maintenance : Hash) : List Resource := catalog maintenance

end Hbase.Maintenance
end StgEnvironment
