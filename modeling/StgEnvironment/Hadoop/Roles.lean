import StgEnvironment.Lib.Dict
import StgEnvironment.Lib.Text

/-!
# `Hadoop.Roles`: the worker roles `dfsslave`, `nodemanager` and `mapredslave`

A role declares `file` resources: its configuration files and its data directories, each unless the file is defined
already, and in `mapredslave` the entries of `files_and_dirs`, of which a second declaration is an error. The catalog
holds the attributes of the files that were declared so far, by the roles and by whatever was evaluated before them.

## What is left out
Which titles Puppet takes for one file is a parameter (`key`), and so are the rendered templates. The roles also
register with `motd` and declare packages, and neither is a file. That the three classes are the same for a long
stretch is the repository's doing; they are one definition here (`worker`), with what `mapredslave` has more.
-/

namespace StgEnvironment
namespace Hadoop.Roles

/-- A hash of attributes, such as `owner` and `mode`. -/
abbrev Attributes := List (Text × Text)

/-- The declared files, each under what its title is known by. -/
abbrev Catalog (κ : Type*) := Dict κ Attributes

/-- The parameters that the three classes share. Each class has values of its own for them. -/
structure Params where
  /-- By type, then by path. -/
  configuration_files : List (Text × List (Text × Attributes))
  data_mounts : List Text
  data_mounts_attr : Attributes
  data_mounts_subdirs : List Text

section Evaluation
variable {κ : Type*} [DecidableEq κ] (key : Text → κ) (template : Text → Text)

/-- `if ! defined(File[$n]) { file { $n: * => $a } }`: a file that is there keeps the attributes it has. -/
def declareNew (catalog : Catalog κ) (n : Text) (a : Attributes) : Catalog κ :=
  if (catalog.get? (key n)).isSome then catalog else catalog.set (key n) a

/-- `file { $n: * => $a }`: there must be no such file yet. -/
def declare (catalog : Catalog κ) (n : Text) (a : Attributes) : Option (Catalog κ) :=
  if (catalog.get? (key n)).isSome then none else some (catalog.set (key n) a)

/-- The attributes of a configuration file: the two fixed ones, then those of its entry. -/
def fileAttributes (n : Text) (a : Attributes) : Attributes :=
  ("ensure".toList, "present".toList) :: ("content".toList, template n) :: a

/-- The loop over `$configuration_files`, type by type and path by path. -/
def declareFiles (configuration_files : List (Text × List (Text × Attributes))) (catalog : Catalog κ) :
    Catalog κ :=
  configuration_files.foldl (fun catalog tc =>
    tc.2.foldl (fun catalog na => declareNew key catalog na.1 (fileAttributes template na.1 na.2)) catalog) catalog

/-- `$dirs`, for one mount: the mount itself and its subdirectories. -/
def dirs (data_mounts_subdirs : List Text) (dm : Text) : List Text :=
  ([] :: data_mounts_subdirs).map fun sd => dm ++ '/' :: sd

/-- The loop over `$data_mounts`. All directories have the same attributes. -/
def declareDirs (p : Params) (catalog : Catalog κ) : Catalog κ :=
  p.data_mounts.foldl (fun catalog dm =>
    (dirs p.data_mounts_subdirs dm).foldl (fun catalog dir => declareNew key catalog dir p.data_mounts_attr) catalog)
    catalog

/-- What the three classes have in common. -/
def worker (p : Params) (catalog : Catalog κ) : Catalog κ :=
  declareDirs key p (declareFiles key template p.configuration_files catalog)

/-- `hadoop::roles::dfsslave`. It cannot fail. -/
def dfsslave (p : Params) (catalog : Catalog κ) : Option (Catalog κ) := some (worker key template p catalog)

/-- `hadoop::roles::nodemanager`, in the words of `dfsslave`. -/
def nodemanager (p : Params) (catalog : Catalog κ) : Option (Catalog κ) := some (worker key template p catalog)

/-- `hadoop::roles::mapredslave`, whose last loop has no guard. -/
def mapredslave (p : Params) (files_and_dirs : List (Text × Attributes)) (catalog : Catalog κ) :
    Option (Catalog κ) :=
  files_and_dirs.foldlM (fun catalog na => declare key catalog na.1 na.2) (worker key template p catalog)

/-! ## A node -/

/-- The three roles. Puppet evaluates a class once, whichever node definition asks for it first. -/
inductive Class where
  | dfsslave
  | nodemanager
  | mapredslave
deriving DecidableEq

/-- The parameters of the classes. -/
structure Node where
  params : Class → Params
  /-- Of `mapredslave`. -/
  files_and_dirs : List (Text × Attributes)

/-- One class on the catalog so far. It is `none` where Puppet reports a duplicate declaration. -/
def evaluate (node : Node) (catalog : Catalog κ) : Class → Option (Catalog κ)
  | .dfsslave => dfsslave key template (node.params .dfsslave) catalog
  | .nodemanager => nodemanager key template (node.params .nodemanager) catalog
  | .mapredslave => mapredslave key template (node.params .mapredslave) node.files_and_dirs catalog

end Evaluation

/-- The data directories that a class lists, mount by mount. -/
def dataDirs (p : Params) : List Text := p.data_mounts.flatMap (dirs p.data_mounts_subdirs)

end Hadoop.Roles
end StgEnvironment
