import StgEnvironment.Lib.Dict
import StgEnvironment.Python.Text

/-!
# `Hadoop.Topology`: the rack topology file and the script that reads it

`topologyCsv` is the template `topology.csv.erb`. The rest is `topology.py`: `load_topology` fills the mapping,
`rack_of` looks a host up, `main` prints the rack of each argument. A file that cannot be opened is `none`.

`Load` adds the reads that fail after the file was opened: the lines before the failure have been through the loop
then, and `except: pass` keeps what they left (`load_topology_raising`). Where nothing fails, or the file is not even
opened, both functions are the same, and the results about one hold of the other.
-/

namespace StgEnvironment
namespace Hadoop.Topology
open Python

/-- The template `topology.csv.erb`: the entries of the topology, a line each, as they are. -/
def topologyCsv (topology : List Text) : Text := endLines topology

/-- A rack for each host that the file names. -/
abbrev Mapping := Dict Text Text

/-- The rack of a host that the file does not name. -/
def DEFAULT_RACK : Text := "/rack0".toList

/-- One turn of the loop of `_load_topology`. A line that has not exactly one comma is discarded. -/
def loadLine (mapping : Mapping) (line : Text) : Mapping :=
  match line.splitOn ',' with
  | [host, rack] => mapping.set (strip host) (strip rack)
  | _ => mapping

/-- `load_topology` of a file that is read to its end, or that cannot be opened. -/
def load_topology (file : Option Text) : Mapping :=
  match file with
  | some f => (fileLines f).foldl loadLine Dict.empty
  | none => Dict.empty

/-- `rack_of`: a look-up with a default. -/
def rack_of (mapping : Mapping) (host : Text) : Text :=
  match mapping.get? host with
  | some rack => rack
  | none => DEFAULT_RACK

/-- The output of the script run on `args`: one rack a line, in the order of the arguments. -/
def main (file : Option Text) (args : List Text) : Text := endLines (args.map (rack_of (load_topology file)))

/-! ## Files that fail -/

/-- How opening and reading the file goes. It can fail at the start or after any line. -/
inductive Load
  /-- `file(filename, 'r')` raises. -/
  | unopened
  /-- Reading raises once `k` lines have been delivered. -/
  | interrupted (content : Text) (k : ℕ)
  | complete (content : Text)

/-- The lines that the loop gets. -/
def Load.delivered : Load → List Text
  | .unopened => []
  | .interrupted content k => (fileLines content).take k
  | .complete content => fileLines content

/-- Loading ends in an exception. -/
def Load.fails : Load → Bool
  | .complete _ => false
  | _ => true

/-- The `try` block: the mapping that it leaves, and whether an exception ended it. -/
def tryBlock (load : Load) (mapping : Mapping) : Mapping × Bool :=
  (load.delivered.foldl loadLine mapping, load.fails)

/-- `_load_topology`, where `except: pass` drops the exception and leaves the mapping as it is. -/
def load_topology_raising (load : Load) : Mapping := (tryBlock load Dict.empty).1

end Hadoop.Topology
end StgEnvironment
