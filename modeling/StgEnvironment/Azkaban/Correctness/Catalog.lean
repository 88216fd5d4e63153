import StgEnvironment.Azkaban.Config

/-!
# `Azkaban.Correctness.Catalog`: what the catalog of an accepted hash holds

The catalog by its members: which resources a project and a flow put into it, who notifies whom, and what the
titles being distinct gives. The edges grow with the rank of a resource (`rank`), so there are orders that they
allow.

## Contents
- **Members**: the loops of the manifest as memberships (`mem_config`, `mem_projectResources`, `mem_confResources`), and
  what notifies an upload or a schedule (`upload_mem_of_notify`, `scheduleFile_of_notify`).
- **Titles**: in an accepted catalog a title has one resource (`eq_of_title`), and a project one entry
  (`components_unique`).
- **Edges**: `rank_lt_of_before`.
-/

namespace StgEnvironment
namespace Azkaban
open Convergence

variable {schedulefolder : Text} {projects : Projects}

/-! ## Members -/

/-- A resource of the catalog is one of the resources of some project. -/
theorem mem_config {x : Resource} :
    x ∈ config schedulefolder projects ↔
      ∃ project components, (project, components) ∈ projects ∧
        x ∈ projectResources schedulefolder project components := by
  simp [config]

/-- The resources of a project are the packages of its jobs, those of its flows, and the two of its upload. -/
theorem mem_projectResources {project : Text} {components : Components} {x : Resource} :
    x ∈ projectResources schedulefolder project components ↔
      x ∈ components.jobs.map (jobPackage project) ∨
      (∃ flow conf, (flow, conf) ∈ components.configuration ∧
        x ∈ confResources schedulefolder project (components.jobs.map Prod.fst) flow conf) ∨
      x = .archive project ∨ x = .upload project := by
  simp [projectResources, azkaban_upload]

/-- A flow has its own package, its files and templates, its schedule file, if it has a span, and the schedule itself,
    which is there in any case. -/
theorem mem_confResources {project flow : Text} {packages : List Text} {conf : Conf} {x : Resource} :
    x ∈ confResources schedulefolder project packages flow conf ↔
      (∃ name, conf.package_name = some name ∧ x = .package name conf.package_version none) ∨
      (∃ file ∈ conf.files ++ conf.templates, x = confFile project packages conf file) ∨
      (∃ span, conf.schedule = some span ∧
        x = .file (scheduleFile schedulefolder flow) span [] (.schedule flow)) ∨
      x = .schedule project flow conf.schedule := by
  simp only [confResources, azkaban_schedule, List.mem_append, List.mem_map, Option.mem_toList,
    List.mem_singleton]
  constructor
  · rintro (⟨name, hn, rfl⟩ | ⟨f, hf, rfl⟩ | ⟨f, hf, rfl⟩ | ⟨span, hs, rfl⟩ | rfl)
    · exact Or.inl ⟨name, hn, rfl⟩
    · exact Or.inr (Or.inl ⟨f, Or.inl hf, rfl⟩)
    · exact Or.inr (Or.inl ⟨f, Or.inr hf, rfl⟩)
    · exact Or.inr (Or.inr (Or.inl ⟨span, hs, rfl⟩))
    · exact Or.inr (Or.inr (Or.inr rfl))
  · rintro (⟨name, hn, rfl⟩ | ⟨f, hf | hf, rfl⟩ | ⟨span, hs, rfl⟩ | rfl)
    · exact Or.inl ⟨name, hn, rfl⟩
    · exact Or.inr (Or.inl ⟨f, hf, rfl⟩)
    · exact Or.inr (Or.inr (Or.inl ⟨f, hf, rfl⟩))
    · exact Or.inr (Or.inr (Or.inr (Or.inl ⟨span, hs, rfl⟩)))
    · exact Or.inr (Or.inr (Or.inr (Or.inr rfl)))

/-- A resource that notifies an upload is a job package, a file or a template of that project. -/
def Components.Notifies (components : Components) : Prop :=
  components.jobs ≠ [] ∨
    ∃ flow conf, (flow, conf) ∈ components.configuration ∧ conf.files ++ conf.templates ≠ []

/-- **What makes an upload run.** Something in the catalog notifies it exactly if the project has a job package, a
    file or a template. -/
theorem exists_notifying_iff {project : Text} {components : Components} :
    (∃ x ∈ projectResources schedulefolder project components, x.notify = some (.upload project)) ↔
      components.Notifies := by
  constructor
  · rintro ⟨x, hx, hn⟩
    rcases mem_projectResources.mp hx with hx | ⟨flow, conf, hmem, hx⟩ | rfl | rfl
    · obtain ⟨job, hjob, rfl⟩ := List.mem_map.mp hx
      exact Or.inl (List.ne_nil_of_mem hjob)
    · rcases mem_confResources.mp hx with ⟨_, -, rfl⟩ | ⟨file, hfile, rfl⟩ | ⟨_, -, rfl⟩ | rfl
      · cases hn
      · exact Or.inr ⟨flow, conf, hmem, List.ne_nil_of_mem hfile⟩
      · cases hn
      · cases hn
    · cases hn
    · cases hn
  · rintro (hjobs | ⟨flow, conf, hmem, hfiles⟩)
    · obtain ⟨job, hjob⟩ := List.exists_mem_of_ne_nil _ hjobs
      refine ⟨jobPackage project job, mem_projectResources.mpr (Or.inl ?_), rfl⟩
      exact List.mem_map.mpr ⟨job, hjob, rfl⟩
    · obtain ⟨file, hfile⟩ := List.exists_mem_of_ne_nil _ hfiles
      exact ⟨_, mem_projectResources.mpr (Or.inr (Or.inl ⟨flow, conf, hmem,
        mem_confResources.mpr (Or.inr (Or.inl ⟨file, hfile, rfl⟩))⟩)), rfl⟩

/-- The notification of an upload stays within the project. -/
theorem project_of_notify {project project' : Text} {components : Components} {x : Resource}
    (hx : x ∈ projectResources schedulefolder project' components) (hn : x.notify = some (.upload project)) :
    project' = project := by
  rcases mem_projectResources.mp hx with hx | ⟨flow, conf, hmem, hx⟩ | rfl | rfl
  · obtain ⟨job, -, rfl⟩ := List.mem_map.mp hx
    cases hn; rfl
  · rcases mem_confResources.mp hx with ⟨_, -, rfl⟩ | ⟨file, -, rfl⟩ | ⟨_, -, rfl⟩ | rfl
    · cases hn
    · cases hn; rfl
    · cases hn
    · cases hn
  · cases hn
  · cases hn

/-- A resource that notifies an upload comes with the archive and the upload. -/
theorem upload_mem_of_notify {project : Text} {x : Resource} (hx : x ∈ config schedulefolder projects)
    (hn : x.notify = some (.upload project)) :
    Resource.archive project ∈ config schedulefolder projects ∧
      Resource.upload project ∈ config schedulefolder projects := by
  obtain ⟨project', components, hmem, hx⟩ := mem_config.mp hx
  obtain rfl := project_of_notify hx hn
  exact ⟨mem_config.mpr ⟨_, _, hmem, mem_projectResources.mpr (Or.inr (Or.inr (Or.inl rfl)))⟩,
    mem_config.mpr ⟨_, _, hmem, mem_projectResources.mpr (Or.inr (Or.inr (Or.inr rfl)))⟩⟩

/-- A resource that notifies a schedule is the schedule file of a flow, next to which the schedule is
    declared. -/
theorem scheduleFile_of_notify {flow : Text} {x : Resource} (hx : x ∈ config schedulefolder projects)
    (hn : x.notify = some (.schedule flow)) :
    ∃ project components conf span, (project, components) ∈ projects ∧
      (flow, conf) ∈ components.configuration ∧ conf.schedule = some span ∧
      x = .file (scheduleFile schedulefolder flow) span [] (.schedule flow) ∧
      Resource.schedule project flow (some span) ∈ config schedulefolder projects := by
  obtain ⟨project, components, hmem, hx⟩ := mem_config.mp hx
  rcases mem_projectResources.mp hx with hx | ⟨flow', conf, hconf, hx⟩ | rfl | rfl
  · obtain ⟨job, -, rfl⟩ := List.mem_map.mp hx
    cases hn
  · rcases mem_confResources.mp hx with ⟨_, -, rfl⟩ | ⟨file, -, rfl⟩ | ⟨span, hspan, rfl⟩ | rfl
    · cases hn
    · cases hn
    · cases hn
      refine ⟨project, components, conf, span, hmem, hconf, hspan, rfl, ?_⟩
      refine mem_config.mpr ⟨project, components, hmem, ?_⟩
      refine mem_projectResources.mpr (Or.inr (Or.inl ⟨flow, conf, hconf, ?_⟩))
      exact mem_confResources.mpr (Or.inr (Or.inr (Or.inr (by rw [hspan]))))
    · cases hn
  · cases hn
  · cases hn

/-! ## Titles -/

/-- Two resources of an accepted catalog with one title are the same. -/
theorem eq_of_title (h : Accepted schedulefolder projects) {x y : Resource}
    (hx : x ∈ config schedulefolder projects) (hy : y ∈ config schedulefolder projects)
    (ht : x.title = y.title) : x = y :=
  List.inj_on_of_nodup_map h hx hy ht

/-- What is declared under the title of a schedule is inside the defined type. -/
theorem inside_of_title {x : Resource} {flow : Text} (h : x.title = .schedule flow) :
    x.inside = some (.schedule flow) := by
  cases x with
  | schedule project flow' span => cases h; rfl
  | _ => cases h

theorem components_unique (h : Accepted schedulefolder projects) {project : Text} {c c' : Components}
    (hc : (project, c) ∈ projects) (hc' : (project, c') ∈ projects) : c = c' := by
  by_contra hne
  -- both entries would declare the archive of the project
  have hnd : (projects.flatMap fun p =>
      (projectResources schedulefolder p.1 p.2).map Resource.title).Nodup := by
    have := h
    unfold Accepted config at this
    rwa [List.map_flatMap] at this
  have hdisj := (List.nodup_flatMap.mp hnd).2
  have harchive : ∀ c,
      Title.archive project ∈ (projectResources schedulefolder project c).map Resource.title :=
    fun c => List.mem_map.mpr ⟨.archive project, mem_projectResources.mpr (Or.inr (Or.inr (Or.inl rfl))), rfl⟩
  have : Std.Symm (Function.onFun List.Disjoint fun p : Text × Components =>
      (projectResources schedulefolder p.1 p.2).map Resource.title) := ⟨fun a b hab => List.Disjoint.symm hab⟩
  have hpair := hdisj.forall hc hc' fun heq => hne (Prod.mk.inj heq).2
  exact hpair (harchive c) (harchive c')

/-! ## Edges -/

/-- A notification goes through a defined type: `x` notifies the type that `y` is inside. -/
theorem notifies_iff {x y : Resource} : x.notifies y = true ↔ ∃ t, x.notify = some t ∧ y.inside = some t := by
  unfold Resource.notifies
  rw [Bool.and_eq_true, Option.isSome_iff_exists, beq_iff_eq]
  constructor
  · rintro ⟨⟨t, ht⟩, heq⟩
    exact ⟨t, ht, heq ▸ ht⟩
  · rintro ⟨t, hx, hy⟩
    exact ⟨⟨t, hx⟩, hx.trans hy.symm⟩

theorem inside_of_notify {x : Resource} {t : Target} (h : x.notify = some t) : x.inside = none := by
  cases x with
  | package => rfl
  | file => rfl
  | _ => cases h

theorem before_of_notifies {x y : Resource} (h : x.notifies y = true) : x.before y = true := by
  simp [Resource.before, h]

/-- Packages, then files, then schedules, then uploads, then archives: an order that no edge forbids. -/
def rank : Resource → Nat
  | .package .. => 0
  | .file .. => 1
  | .schedule .. => 2
  | .upload _ => 3
  | .archive _ => 4

theorem rank_of_notify {x : Resource} {t : Target} (h : x.notify = some t) : rank x ≤ 1 := by
  cases x with
  | package => exact Nat.zero_le 1
  | file => exact Nat.le_refl 1
  | _ => cases h

/-- What is inside a defined type is one of the three kinds of `exec`. -/
theorem rank_of_inside {x : Resource} {t : Target} (h : x.inside = some t) : 2 ≤ rank x := by
  cases x with
  | package => cases h
  | file => cases h
  | _ => simp [rank]

/-- **No edge goes against the rank**, so that sorting by it gives an order that all edges allow. -/
theorem rank_lt_of_before {x y : Resource} (h : x.before y = true) : rank x < rank y := by
  rcases Bool.or_eq_true_iff.mp h with h | h
  · obtain ⟨t, hx, hy⟩ := notifies_iff.mp h
    exact Nat.lt_of_le_of_lt (rank_of_notify hx) (rank_of_inside hy)
  · unfold Resource.requiredBy at h
    split at h
    · exact Nat.zero_lt_one
    · cases h

end Azkaban
end StgEnvironment
