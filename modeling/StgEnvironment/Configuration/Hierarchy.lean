import StgEnvironment.Roles.HostRoles

/-!
# `Configuration.Hierarchy`: the hierarchy of `hiera.yaml`, and the monitoring that comes from it

The levels of the hierarchy are paths under the data directory, made from the facts of a node and the module for which
a key is looked up; two levels have a path for each role of the node. The class `profiles::nrpe` looks up its checks
there and declares an NRPE command for each of them.

The data directory is what the files hold once they are decrypted and their texts are interpolated. Of the catalog, the
classes of the roles and the NRPE commands are modelled, and nothing of what the classes declare besides.
-/

namespace StgEnvironment
namespace Configuration
open Puppet Puppet.Hiera Roles

/-- The facts of a node on which the hierarchy depends. All paths of `hiera.yaml` are made of them and of the module
    that looks up. -/
structure Node where
  certname : Text
  /-- `facts.virtual`. -/
  virtual : Text
  /-- `facts.os.family`. -/
  family : Text
  /-- `facts.os.distro.codename`. -/
  codename : Text
  hostroles : HostRoles

/-- The files, by their paths under the data directory. A path without a file is passed over. -/
abbrev Datadir := Text → Option File

/-! ## `hiera.yaml` -/

/-- The values that `mapped_paths` runs through: a text is a list of one, and an empty one is none. -/
def mapped : HostRoles → List Text
  | .list roles => roles
  | .string s => if s = [] then [] else [s]

/-- The file with the secrets of a role. -/
def secretsOf (role : Text) : Text := "secrets/roles/".toList ++ role ++ ".eyaml".toList

/-- The file with the data of a role. -/
def dataOf (role : Text) : Text := "roles/".toList ++ role ++ ".yaml".toList

/-- The levels above those of the roles: `Secrets`. -/
def secrets (module_name : Text) : List Text :=
  ["secrets/modules/".toList ++ module_name ++ ".eyaml".toList, "secrets/common.eyaml".toList]

/-- The levels between the two of the roles: the host, its virtualization and the like. -/
def machine (n : Node) : List (List Text) :=
  [["hosts/".toList ++ n.certname],
   ["virtualization/".toList ++ n.virtual ++ ".yaml".toList],
   ["os/".toList ++ n.family ++ "/common.yaml".toList],
   ["os/".toList ++ n.family ++ '/' :: n.codename ++ ".yaml".toList]]

/-- The levels below those of the roles. -/
def general (module_name : Text) : List (List Text) :=
  [["modules/".toList ++ module_name ++ ".yaml".toList], ["hadoop.yaml".toList], ["common.yaml".toList]]

/-- The paths, level by level, from the one that decides first to the one that decides last. -/
def hierarchy (n : Node) (module_name : Text) : List (List Text) :=
  [secrets module_name] ++ [(mapped n.hostroles).map secretsOf] ++ machine n ++
    [(mapped n.hostroles).map dataOf] ++ general module_name

/-- The files that are there. -/
def levels (d : Datadir) (n : Node) (module_name : Text) : List (List File) :=
  (hierarchy n module_name).map fun paths => paths.filterMap d

/-- A lookup of a key for a module, in the files of the node. -/
def lookup (d : Datadir) (n : Node) (module_name key : Text) : Except Failure (Option Value) :=
  Hiera.lookup (levels d n module_name) key

/-! ## `profiles::nrpe` -/

/-- The default of `$checks`: one check called `undef` without attributes. -/
def defaultChecks : List (Text × Value) :=
  [("undef".toList,
    .hash [("ensure".toList, .undefined), ("command".toList, .undefined), ("sudo".toList, .undefined)])]

/-- The parameter `$checks`: what is looked up, or the default. A value of `undef` counts as none. -/
def checks (d : Datadir) (n : Node) : Except Failure Value :=
  (lookup d n "profiles".toList "profiles::nrpe::checks".toList).map fun
    | none => .hash defaultChecks
    | some .undefined => .hash defaultChecks
    | some v => v

/-- The attributes of a resource that is created from a hash. -/
def isAttributes : Value → Bool
  | .hash _ => true
  | .undefined => true
  | _ => false

/-- `create_resources('nrpe::command', …)`: the titles and the attributes of the resources. -/
def create_resources (instances : Value) : Except Failure (List (Text × Value)) :=
  (entries instances).bind fun es => if es.all fun e => isAttributes e.2 then .ok es else .error .evaluation

/-! ## The catalog -/

/-- What is declared for a node, of which only the classes of its roles and the NRPE commands are modelled. -/
structure Catalog where
  classes : List Text
  commands : List (Text × Value)

/-- `nrpe.pp` is evaluated if a role includes it; without it there are no commands. -/
def commandsOf (d : Datadir) (n : Node) (classes : List Text) : Except Failure (List (Text × Value)) :=
  if classes.contains "profiles::nrpe".toList then (checks d n).bind create_resources else .ok []

/-- What is declared for a node: `site.pp` fails, or includes the classes of its roles. -/
def catalog (d : Datadir) (n : Node) : Except Failure Catalog :=
  (site n.hostroles).bind fun classes => (commandsOf d n classes).map fun commands => ⟨classes, commands⟩

end Configuration
end StgEnvironment
