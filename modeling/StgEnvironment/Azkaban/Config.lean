import StgEnvironment.Lib.Convergence
import StgEnvironment.Lib.Text

/-!
# `Azkaban.Config`: the catalog of `azkaban::config`, and a Puppet run on it

The class turns the hash of projects into packages, configuration files, schedule files and three kinds of
`exec`, which it declares through the defined types `azkaban::upload` and `azkaban::schedule` (`config`). A
relationship with a defined type is one with each resource inside it. `engine` says what each resource does to
a machine and to the Azkaban server, and a `Run` is one Puppet run: a hash, an order that the edges of its
catalog allow, and the resources whose application fails.

## Contents
- **The hash** (`Projects`) and the **catalog** (`config`), loop by loop as in the manifest; `Accepted` is that no
  resource is declared twice.
- **Edges**: who notifies whom, and what a file requires (`Resource.before`).
- **The machine and the server** (`State`), and what a resource does to them (`Resource.apply`).

## What is left out
What an archive contains is a parameter: `build project disk`, for the files that `zip` finds. The resources of
`motd::register` have no relationship with any other. Packages, database and services of Azkaban itself are in other
classes.
-/

namespace StgEnvironment
namespace Azkaban
open Convergence

/-! ## The hash -/

/-- The configuration of a flow: the package it comes from, if there is one, what is to be on the disk for it, and how
    often it is to run. -/
structure Conf where
  package_name : Option Text
  package_version : Text
  /-- Paths, with the contents that their templates render to. -/
  files : List (Text × Text)
  templates : List (Text × Text)
  schedule : Option Text
deriving DecidableEq

/-- What the hash says of one project: the packages of its jobs, and the configurations of its flows. -/
structure Components where
  /-- Packages, with their versions. -/
  jobs : List (Text × Text)
  configuration : List (Text × Conf)
deriving DecidableEq

/-- `azkaban::config::projects`, in the order of its entries. That no resource is declared twice is asked for
    separately (`Accepted`). -/
abbrev Projects := List (Text × Components)

/-! ## The catalog -/

/-- The defined types that are notified. A notification of one reaches every resource inside it. -/
inductive Target where
  /-- `Azkaban::Upload[project]`. -/
  | upload (project : Text)
  /-- `Azkaban::Schedule[flow]`. -/
  | schedule (flow : Text)
deriving DecidableEq

/-- A declared resource, with the attributes that decide what it does and what it notifies. -/
inductive Resource where
  | package (name ensure : Text) (notify : Option Target)
  /-- `require` lists the packages. -/
  | file (path content : Text) (require : List Text) (notify : Target)
  /-- `Create archive - project`. -/
  | archive (project : Text)
  /-- `Upload project - project`. -/
  | upload (project : Text)
  /-- `Schedule - flow`. -/
  | schedule (project flow : Text) (span : Option Text)
deriving DecidableEq

/-- What a resource is declared under. -/
inductive Title where
  | package (name : Text)
  | file (path : Text)
  | archive (project : Text)
  | upload (project : Text)
  | schedule (flow : Text)
deriving DecidableEq

/-- The title is what Puppet tells resources apart by; two resources of a catalog never have the same. -/
def Resource.title : Resource → Title
  | .package name _ _ => .package name
  | .file path _ _ _ => .file path
  | .archive project => .archive project
  | .upload project => .upload project
  | .schedule _ flow _ => .schedule flow

/-- What a change of the resource notifies: a package of a job and the files of a flow notify the upload of their
    project, the schedule file notifies the schedule of its flow. -/
def Resource.notify : Resource → Option Target
  | .package _ _ t => t
  | .file _ _ _ t => some t
  | _ => none

/-- The defined type that a resource is declared in. It is the three kinds of `exec` that are inside one. -/
def Resource.inside : Resource → Option Target
  | .archive project => some (.upload project)
  | .upload project => some (.upload project)
  | .schedule _ flow _ => some (.schedule flow)
  | _ => none

/-- `azkaban::upload`: the archive and the upload of a project. There is no edge between the two. -/
def azkaban_upload (project : Text) : List Resource := [.archive project, .upload project]

/-- `azkaban::schedule`: the one command that schedules a flow. -/
def azkaban_schedule (project flow : Text) (span : Option Text) : List Resource :=
  [.schedule project flow span]

/-- The file whose change reschedules a flow. -/
def scheduleFile (schedulefolder flow : Text) : Text :=
  schedulefolder ++ "/".toList ++ flow ++ "_schedule".toList

/-- One turn of the loop over the jobs. -/
def jobPackage (project : Text) (job : Text × Text) : Resource :=
  .package job.1 job.2 (some (.upload project))

/-- One turn of the loops over files and templates. `Package[undef, ..]` drops the `undef`. -/
def confFile (project : Text) (packages : List Text) (conf : Conf) (file : Text × Text) : Resource :=
  .file file.1 file.2 (conf.package_name.toList ++ packages) (.upload project)

/-- One turn of the loop over the configurations: the package, files and templates of a flow, its schedule file, and
    the command that sends the span. -/
def confResources (schedulefolder project : Text) (packages : List Text) (flow : Text) (conf : Conf) :
    List Resource :=
  (conf.package_name.toList.map fun name => .package name conf.package_version none) ++
    (conf.files.map (confFile project packages conf) ++
      (conf.templates.map (confFile project packages conf) ++
        ((conf.schedule.toList.map fun span =>
            .file (scheduleFile schedulefolder flow) span [] (.schedule flow)) ++
          azkaban_schedule project flow conf.schedule)))

/-- One turn of the loop over the projects. -/
def projectResources (schedulefolder project : Text) (components : Components) : List Resource :=
  components.jobs.map (jobPackage project) ++
    (components.configuration.flatMap (fun c =>
      confResources schedulefolder project (components.jobs.map Prod.fst) c.1 c.2) ++ azkaban_upload project)

/-- `azkaban::config`: the resources of all projects, in the order in which the manifest declares them. -/
def config (schedulefolder : Text) (projects : Projects) : List Resource :=
  projects.flatMap fun p => projectResources schedulefolder p.1 p.2

/-- No resource is declared twice. Puppet refuses every other catalog, so that a run is always one on an accepted
    hash. -/
def Accepted (schedulefolder : Text) (projects : Projects) : Prop :=
  ((config schedulefolder projects).map Resource.title).Nodup

instance (schedulefolder : Text) (projects : Projects) : Decidable (Accepted schedulefolder projects) :=
  inferInstanceAs (Decidable (List.Nodup _))

/-! ## Edges -/

/-- A change of `x` notifies `y`, which is inside what `x` notifies. -/
def Resource.notifies (x y : Resource) : Bool := x.notify.isSome && x.notify == y.inside

/-- `y` requires the package `x`. -/
def Resource.requiredBy : Resource → Resource → Bool
  | .package name _ _, .file _ _ require _ => require.contains name
  | _, _ => false

/-- An edge of the catalog: `x` has to be applied before `y`. -/
def Resource.before (x y : Resource) : Bool := x.notifies y || x.requiredBy y

/-! ## The machine and the server -/

/-- What is on the machine: the versions of the packages that are installed, and the contents of the files. -/
structure Disk where
  packages : Text → Option Text
  files : Text → Option Text

/-- A machine, and the server it uploads to. The server holds the content of each project, and spans by project and
    flow. -/
structure State (γ : Type) where
  disk : Disk
  /-- `/tmp/project.zip`. -/
  archives : Text → Option γ
  content : Text → Option γ
  span : Text × Text → Option Text

/-- Nothing is installed, and the server is empty. -/
def State.blank {γ : Type} : State γ :=
  ⟨⟨fun _ => none, fun _ => none⟩, fun _ => none, fun _ => none, fun _ => none⟩

section Engine
variable {γ : Type} (build : Text → Disk → γ)

/-- What is on the disk after a resource is applied. Only packages and files write there. -/
def Resource.write : Resource → Disk → Disk
  | .package name ensure _, d => { d with packages := Function.update d.packages name (some ensure) }
  | .file path content _ _, d => { d with files := Function.update d.files path (some content) }
  | _, d => d

/-- The resource is as it is declared. An `exec` never is: whether it runs depends on notifications alone. -/
def Resource.inSync (s : State γ) : Resource → Bool
  | .package name ensure _ => s.disk.packages name == some ensure
  | .file path content _ _ => s.disk.files path == some content
  | _ => false

/-- There is no upload without an archive. -/
def Resource.runnable (s : State γ) : Resource → Bool
  | .upload project => (s.archives project).isSome
  | _ => true

/-- What a resource does to the machine and to the server. The upload sends the archive as it is at that moment. -/
def Resource.apply (x : Resource) (s : State γ) : State γ :=
  match x with
  | .archive project =>
      { s with archives := Function.update s.archives project (some (build project s.disk)) }
  | .upload project => { s with content := Function.update s.content project (s.archives project) }
  | .schedule project flow span => { s with span := Function.update s.span (project, flow) span }
  | x => { s with disk := x.write s.disk }

/-- Puppet on these resources. The three kinds of `exec` are `refreshonly`, so that they run when something that
    notifies them has changed, and never else. -/
def engine : Engine Resource (State γ) where
  before := Resource.before
  notifies := Resource.notifies
  refreshonly x := x.inside.isSome
  inSync := Resource.inSync
  runnable := Resource.runnable
  apply := Resource.apply build

end Engine

/-- A Puppet run: a hash that is accepted, an order of its resources that the edges allow, and the resources whose
    application fails. Puppet does not promise more about the order. -/
structure Run (schedulefolder : Text) where
  projects : Projects
  accepted : Accepted schedulefolder projects
  order : List Resource
  perm : order.Perm (config schedulefolder projects)
  consistent : Consistent Resource.before order
  fails : Resource → Bool

/-- What a run does, from a state: what has changed, what was executed and what was blocked, and the state in the
    end. -/
def Run.result {γ : Type} {schedulefolder : Text} (r : Run schedulefolder) (build : Text → Disk → γ)
    (s : State γ) : Progress Resource (State γ) :=
  transaction (engine build) r.fails r.order s

end Azkaban
end StgEnvironment
