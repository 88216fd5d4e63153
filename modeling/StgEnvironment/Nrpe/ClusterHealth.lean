import StgEnvironment.Lib.Text

/-!
# `Nrpe.ClusterHealth`: the plugin `check_cluster_health.py`

A node is what the plugin sees of it: the outputs of the commands it runs, the mount table and the text of
`/etc/fstab`. The plugin keeps a status and a message (`Check`) that its steps extend one after the other.
`dataMounts` is the step that compares the mount table with `/etc/fstab`.

## Contents
- **Commands**: the pipes of the plugin, from what they are given to the lines that they print.
- **The checks**: one definition for each, in the order of the plugin, and the whole plugin (`main`).
- **What the plugin is about**: the data disks of `/etc/fstab` and whether they are mounted (`Mounted`), said without
  the plugin, as the kernel and `fstab` have it.
-/

namespace StgEnvironment
namespace Nrpe.ClusterHealth

/-- An entry of the mount table, with the four fields that are printed on its line. -/
structure Mount where
  device : Text
  point : Text
  type : Text
  options : Text
  oneLine : (device ++ point ++ type ++ options).all (· != '\n') = true

/-- The line that `mount -v` prints. -/
def Mount.line (mt : Mount) : Text :=
  mt.device ++ ' ' :: ("on".toList ++ ' ' :: (mt.point ++ ' ' :: ("type".toList ++ ' ' :: (mt.type ++
    ' ' :: ('(' :: (mt.options ++ [')']))))))

/-- A node, as the plugin sees it: what the commands print that it calls, and what it looks at in the file system. -/
structure Node where
  /-- The output of `ps -aux`. -/
  ps : Text
  /-- `/etc/sysctl.d/ipv6off.conf` exists. -/
  ipv6off : Bool
  /-- The output of `grep ipv6` on a file. -/
  grepIpv6 : Text → Text
  /-- The output of `cat /proc/sys/net/ipv6/bindv6only`. -/
  bindv6only : Text
  /-- The mode of `/tmp`. -/
  st_mode : Nat
  mounts : List Mount
  fstab : Text
  /-- The output of the last command. -/
  ipnumber : Text

/-! ## Commands -/

/-- `commands.getoutput` of a command that prints these lines. -/
abbrev getoutput (lines : List Text) : Text := unlines lines

/-- `grep -i /data`: the line has the pattern, in capitals or not. -/
def mentionsData (line : Text) : Bool := decide (Occurs "/data".toList (line.map Char.toLower))

/-- `split()` of Python. -/
def isSpace (c : Char) : Bool := isBlank c || c == '\r' || c == '\x0b' || c == '\x0c'

/-- `split()` of Python, whose blanks are more than those of the shell. -/
def split (line : Text) : List Word := wordsBy isSpace line

/-- `awk '{print $2}'` on a line. -/
def awk2 (line : Text) : Text := ((words line)[1]?).getD []

/-- `mount -v | grep -i /data`. -/
def mountData (n : Node) : List Text := (n.mounts.map Mount.line).filter mentionsData

/-- `cat /etc/fstab | grep -v "#" | grep -i /data`. -/
def fstabData (n : Node) : List Text :=
  ((n.fstab.splitOn '\n').filter fun line => !line.contains '#').filter mentionsData

/-! ## The checks -/

/-- The status and the message, as they stand. -/
structure Check where
  status : Nat
  errorMsg : Text
deriving DecidableEq

/-- A check that does not pass. The status is the worst one from then on. -/
def Check.fail (c : Check) (text : Text) : Check := ⟨2, c.errorMsg ++ text⟩

/-- The first check: `avahi-daemon` must not run. -/
def avahi (n : Node) (c : Check) : Check :=
  if Occurs "avahi-daemon".toList n.ps then c.fail "Avahi daemon running".toList else c

/-- Which of two files has the setting for IPv6. -/
def ipv6_conf_file (n : Node) : Text :=
  if n.ipv6off then "/etc/sysctl.d/ipv6off.conf".toList else "/etc/sysctl.conf".toList

/-- The second check, of that file. One of two settings is enough. -/
def bindv6onlyConfig (n : Node) (c : Check) : Check :=
  if ¬ Occurs "net.ipv6.bindv6only = 0".toList (n.grepIpv6 (ipv6_conf_file n)) ∧
      ¬ Occurs "net.ipv6.conf.all.disable_ipv6=1".toList (n.grepIpv6 (ipv6_conf_file n)) then
    c.fail "net.ipv6.bindv6only config not set to 0".toList
  else c

/-- The third check, of what the kernel says. -/
def bindv6onlyProc (n : Node) (c : Check) : Check :=
  if ¬ Occurs "0".toList n.bindv6only then c.fail "net.ipv6.bindv6only proc not set to 0".toList else c

/-- The fourth check: the mode of `/tmp`, which is `41777` in octal. -/
def tmpMode (n : Node) (c : Check) : Check :=
  if n.st_mode ≠ 17407 then c.fail "/tmp not set to 41777".toList else c

/-- The checks before the mounts. -/
def earlier (n : Node) : Check := tmpMode n (bindv6onlyProc n (bindv6onlyConfig n (avahi n ⟨0, []⟩)))

/-- `entry not in points` for each entry: the text that is collected, and how often `status` is raised. -/
def failedStep (points : List Word) (acc : Nat × Text) (entry : Text) : Nat × Text :=
  if entry ∈ points then acc else (acc.1 + 1, acc.2 ++ ' ' :: entry)

/-- `line.split()[2]` for each line; there is no value when a line has fewer words. -/
def points (lines : List Text) : Option (List Word) := lines.mapM fun line => (split line)[2]?

/-- The step that checks the data mounts, from the state of the checks before it. It has no value when the
    plugin stops with an `IndexError`. -/
def dataMounts (n : Node) (c : Check) : Option Check :=
  let mount := getoutput (mountData n)
  if mount = [] then some c
  else
    (points (mount.splitOn '\n')).map fun points =>
      let entries := (getoutput ((fstabData n).map awk2)).splitOn '\n'
      let (status, failed) := entries.foldl (failedStep points) (c.status, [])
      if status ≠ 0 then ⟨2, c.errorMsg ++ failed ++ " not mounted".toList⟩ else ⟨status, c.errorMsg⟩

/-- What the plugin prints, and its exit status. -/
structure Report where
  output : Text
  code : Nat

/-- What is printed at the end. Without a failure there is the address of the node. -/
def report (n : Node) (c : Check) : Report :=
  if c.status = 0 then ⟨"Cluster node Ok.".toList ++ n.ipnumber, 0⟩ else ⟨c.errorMsg, c.status⟩

/-- The plugin. It has no report if it stops with an exception. -/
def main (n : Node) : Option Report := (dataMounts n (earlier n)).map (report n)

/-! ## What the plugin is about -/

/-- A blank in a path is written as an octal code in `/etc/fstab`, and so are three more characters. -/
def mangleChar (c : Char) : Text :=
  if c = ' ' then "\\040".toList else if c = '\t' then "\\011".toList
  else if c = '\n' then "\\012".toList else if c = '\\' then "\\134".toList else [c]

/-- A path, as `/etc/fstab` has it. -/
def mangle (path : Text) : Text := path.flatMap mangleChar

/-- The line is a comment. -/
def isComment (line : Text) : Bool := (line.dropWhile isBlank).head? == some '#'

/-- The path is one of a data disk, such as `/DATA1`. -/
def isDataPoint (point : Text) : Bool := "/data".toList.isPrefixOf (point.map Char.toLower)

/-- The mount points of the data disks in `/etc/fstab`. -/
def dataEntries (n : Node) : List Text :=
  (((n.fstab.splitOn '\n').filter fun line => !isComment line).filterMap fun line => (words line)[1]?).filter
    isDataPoint

/-- The mount point, as `/etc/fstab` has it, is one of the mount table. -/
def Mounted (n : Node) (entry : Text) : Prop := entry ∈ n.mounts.map fun mt => mangle mt.point

instance (n : Node) (entry : Text) : Decidable (Mounted n entry) := inferInstanceAs (Decidable (_ ∈ _))

end Nrpe.ClusterHealth
end StgEnvironment
