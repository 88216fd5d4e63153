import StgEnvironment.Azkaban.Correctness.Catalog

/-!
# `Azkaban.Correctness.Order`: in which order a project is archived, uploaded and scheduled

No edge of the catalog leads from one `exec` to another. Where a project has all three to run, an order that
the edges allow can schedule its flows before the upload and upload before the archive is made
(`inOrder_iff`); the order of the manifest itself schedules first. Where a project has no scheduled flow, or
nothing that triggers an upload, the three never run together.

## Contents
- **A run, from the catalog**: an `exec` that runs has been notified (`Run.exists_notifier`), and one that is notified
  and not blocked runs at its turn.
- **The run that goes by rank** (`rankRun`): from a fresh disk all that is notified runs, and against the order that was
  meant, which gives one direction of `inOrder_iff`; the other is that the three never meet (`inOrder_of_separate`).
- **A first deployment**, in the order of the manifest (`manifestRun_schedules_first`).
-/

namespace StgEnvironment
namespace Azkaban
open Convergence

variable {schedulefolder : Text} {γ : Type} {build : Text → Disk → γ}

/-! ## A run, from the catalog

What a run executes is in the order of its resources, and what is notified in a run has what notifies it before
it. -/

section Run
variable {r : Run schedulefolder} {s : State γ} {x y z : Resource}

theorem Run.nodup (r : Run schedulefolder) : r.order.Nodup :=
  r.perm.nodup_iff.mpr (List.Nodup.of_map _ r.accepted)

/-- A run is over all resources of its catalog, and no others. -/
theorem Run.mem_order : x ∈ r.order ↔ x ∈ config schedulefolder r.projects := r.perm.mem_iff

theorem Run.eq_of_title (hx : x ∈ r.order) (hy : y ∈ r.order) (ht : x.title = y.title) : x = y :=
  Azkaban.eq_of_title r.accepted (Run.mem_order.mp hx) (Run.mem_order.mp hy) ht

/-- What was executed in a run is one of its resources. -/
theorem Run.mem_of_executed (h : x ∈ (r.result build s).executed) : x ∈ r.order :=
  (executed_sublist r.order s).subset h

/-- What has changed in a run is one of its resources. -/
theorem Run.mem_of_changed (h : x ∈ (r.result build s).changed) : x ∈ r.order :=
  Run.mem_of_executed (executed_of_changed h)

/-- What has changed after a part of the order has changed in the end. -/
theorem Run.changed_of_part {l rest : List Resource} (horder : r.order = l ++ rest)
    (h : x ∈ (transaction (engine build) r.fails l s).changed) : x ∈ (r.result build s).changed := by
  unfold Run.result transaction at *
  rw [horder, process_append]
  exact mem_changed_of_mem h

theorem Run.exists_notifier (hz : z ∈ (r.result build s).executed) {t : Target} (ht : z.inside = some t) :
    ∃ y ∈ (r.result build s).changed, y.notify = some t := by
  have hr : (engine build).refreshonly z = true := by show z.inside.isSome = true; rw [ht]; rfl
  rcases Convergence.exists_notifier hr hz with h | ⟨y, hy, hyz⟩
  · cases h
  · obtain ⟨t', hyt, hzt⟩ := notifies_iff.mp hyz
    rw [ht] at hzt
    cases hzt
    exact ⟨y, hy, hyt⟩

/-- What comes after an `exec` does not notify it. -/
theorem Run.not_notify_of_later {pre post : List Resource} {t : Target} (horder : r.order = pre ++ z :: post)
    (ht : z.inside = some t) (hy : y ∈ post) : y.notify ≠ some t := by
  intro hn
  have hcons := r.consistent
  rw [horder] at hcons
  have hlater := (List.pairwise_cons.mp (List.pairwise_append.mp hcons).2.1).1 y hy
  exact absurd (before_of_notifies (notifies_iff.mpr ⟨t, hn, ht⟩)) (by simp [hlater])

/-- An `exec` that is notified and not blocked is applied at its turn. What notifies it comes first in every run, so
    that it has changed by then. -/
theorem Run.outcome_of_notified {pre post : List Resource} {t : Target} (horder : r.order = pre ++ z :: post)
    (ht : z.inside = some t) (hb : z ∉ (r.result build s).blocked) (hx : x ∈ (r.result build s).changed)
    (hn : x.notify = some t) :
    outcome (engine build) r.fails (transaction (engine build) r.fails pre s) z = .apply := by
  have hnotify : x.notifies z = true := notifies_iff.mpr ⟨t, hn, ht⟩
  have hxz : x ≠ z := by rintro rfl; rw [inside_of_notify hn] at ht; cases ht
  have hmem := Run.mem_of_changed hx
  have hcons := r.consistent
  have hnd := r.nodup
  unfold Run.result at hb hx
  rw [horder] at hmem hcons hnd hb hx
  -- what notifies it comes first, so it has changed by then
  have hpre := hcons.mem_of_before (before_of_notifies hnotify) hmem hxz
  refine outcome_eq_apply (not_blocked_at_turn hb) (fun _ => ⟨x, changed_of_mem_pre hnd hpre hx, hnotify⟩) ?_
  cases z <;> first | rfl | cases ht

end Run

/-! ## When the three run in order

If nothing both schedules a flow and notifies the upload, then no run executes all three commands, and every order
of them is kept. -/

/-- In every run on the hash, from any state, in which a flow is scheduled and its project is archived and
    uploaded, this happens in the order archive, upload, schedule. -/
def InOrder (schedulefolder : Text) (build : Text → Disk → γ) (projects : Projects) : Prop :=
  ∀ (r : Run schedulefolder) (s : State γ), r.projects = projects →
    ∀ project components flow conf, (project, components) ∈ projects →
      (flow, conf) ∈ components.configuration →
      .schedule project flow conf.schedule ∈ (r.result build s).executed →
      .archive project ∈ (r.result build s).executed → .upload project ∈ (r.result build s).executed →
        [.archive project, .upload project].Sublist (r.result build s).executed ∧
          [.upload project, .schedule project flow conf.schedule].Sublist (r.result build s).executed

/-- A flow of the project is scheduled. -/
def Components.Scheduled (components : Components) : Prop :=
  ∃ flow conf, (flow, conf) ∈ components.configuration ∧ conf.schedule ≠ none

/-- **Where no project has both a scheduled flow and something that notifies its upload**, the three never run
    together, and there is no order to keep. -/
theorem inOrder_of_separate {projects : Projects}
    (h : ∀ project components, (project, components) ∈ projects →
      ¬ (components.Scheduled ∧ components.Notifies)) :
    InOrder schedulefolder build projects := by
  intro r s hr project components flow conf hmem hconf hschedule harchive _
  subst hr
  exfalso
  -- each of the two that run was notified by a resource that only such a project has
  refine h project components hmem ⟨⟨flow, conf, hconf, ?_⟩, ?_⟩
  · obtain ⟨y, hy, hn⟩ := Run.exists_notifier hschedule rfl
    have hconfig := Run.mem_order.mp (Run.mem_of_changed hy)
    obtain ⟨project', _, _, span, -, -, -, -, hsched⟩ := scheduleFile_of_notify hconfig hn
    have heq := eq_of_title r.accepted (Run.mem_order.mp (Run.mem_of_executed hschedule)) hsched rfl
    simp [(Resource.schedule.inj heq).2.2]
  · obtain ⟨y, hy, hn⟩ := Run.exists_notifier harchive rfl
    obtain ⟨project', components', hmem', hy'⟩ := mem_config.mp (Run.mem_order.mp (Run.mem_of_changed hy))
    obtain rfl := project_of_notify hy' hn
    obtain rfl := components_unique r.accepted hmem hmem'
    exact exists_notifying_iff.mp ⟨y, hy', hn⟩

/-! ## The run that goes by rank

A project with both has a run in which nothing fails and which goes by a rank that puts the schedule before the
archive. On a fresh disk everything changes, so that all three commands are executed. -/

/-- Nothing is on the disk, but every project has an archive from before. -/
def State.fresh (build : Text → Disk → γ) : State γ :=
  let disk : Disk := ⟨fun _ => none, fun _ => none⟩
  ⟨disk, fun project => some (build project disk), fun _ => none, fun _ => none⟩

/-- The run on a hash that goes by rank, in which nothing fails. -/
def rankRun {projects : Projects} (h : Accepted schedulefolder projects) : Run schedulefolder where
  projects := projects
  accepted := h
  order := byRank rank (config schedulefolder projects)
  perm := List.mergeSort_perm _ _
  consistent := consistent_byRank (fun _ _ h => rank_lt_of_before h) _
  fails _ := false

theorem Resource.apply_archives (x : Resource) {s : State γ}
    (h : ∀ project, (s.archives project).isSome = true) (project : Text) :
    ((x.apply build s).archives project).isSome = true := by
  cases x with
  | archive p =>
      by_cases hp : project = p
      · simp [Resource.apply, hp]
      · simpa [Resource.apply, Function.update_of_ne hp] using h project
  | _ => exact h project

/-- In the run by rank nothing is blocked, since nothing fails and every upload finds an archive. -/
theorem rankRun_blocked (build : Text → Disk → γ) {projects : Projects}
    (h : Accepted schedulefolder projects) {s : State γ} (hs : ∀ project, (s.archives project).isSome = true)
    (l : List Resource) :
    (transaction (engine build) (rankRun h).fails l s).blocked = [] := by
  refine blocked_eq_nil (Q := fun s : State γ => ∀ project, (s.archives project).isSome = true)
    (fun _ => rfl) ?_ ?_ hs rfl
  · intro s x hq
    cases x with
    | upload project => exact hq project
    | _ => rfl
  · exact fun s x hq project => x.apply_archives hq project

/-! ### The disk -/

/-- The version, or the content, that is on the disk under the title of a package or a file. -/
def Resource.current (d : Disk) : Resource → Option Text
  | .package name _ _ => d.packages name
  | .file path _ _ _ => d.files path
  | _ => none

/-- Of the state, the disk changes as `Resource.write` says. -/
theorem Resource.apply_disk (x : Resource) (s : State γ) : (x.apply build s).disk = x.write s.disk := by
  cases x <;> rfl

/-- A resource writes under its own title only: what another one finds of itself on the disk stays as it was. -/
theorem Resource.current_write {x y : Resource} (h : y.title ≠ x.title) (d : Disk) :
    x.current (y.write d) = x.current d := by
  cases x with
  | package name =>
      cases y with
      | package name' =>
          have hne : name ≠ name' := fun heq => h (by rw [Resource.title, Resource.title, heq])
          simp [Resource.current, Resource.write, Function.update_of_ne hne]
      | _ => rfl
  | file path =>
      cases y with
      | file path' =>
          have hne : path ≠ path' := fun heq => h (by rw [Resource.title, Resource.title, heq])
          simp [Resource.current, Resource.write, Function.update_of_ne hne]
      | _ => rfl
  | _ => rfl

theorem Resource.inSync_of_absent {x : Resource} {s : State γ} (h : x.current s.disk = none) :
    x.inSync s = false := by
  cases x <;> simp_all [Resource.current, Resource.inSync]

theorem title_ne_of_mem {r : Run schedulefolder} {pre post : List Resource} {x y : Resource}
    (horder : r.order = pre ++ x :: post) (hy : y ∈ pre ∨ y ∈ post) : y.title ≠ x.title := by
  intro ht
  have hnd := r.nodup
  rw [horder] at hnd
  have hmem : y ∈ r.order := by
    rw [horder]
    exact hy.elim (List.mem_append_left _) fun h => List.mem_append_right _ (List.mem_cons_of_mem x h)
  obtain rfl := Run.eq_of_title hmem (by rw [horder]; simp) ht
  obtain ⟨-, hpost, hpre⟩ := List.nodup_append.mp hnd
  rcases hy with hy | hy
  · exact hpre y hy y (List.mem_cons_self ..) rfl
  · exact (List.nodup_cons.mp hpost).1 hy

/-! ### What it changes -/

section Fresh
variable {projects : Projects} (h : Accepted schedulefolder projects) {x z : Resource}

theorem fresh_archives (build : Text → Disk → γ) (project : Text) :
    ((State.fresh build).archives project).isSome = true := rfl

/-- From a fresh disk every package and every file is applied, since nothing fails in this run and nothing of them is
    in sync before its turn. -/
theorem rankRun_changed (build : Text → Disk → γ) (hx : x ∈ config schedulefolder projects)
    (hin : x.inside = none) : x ∈ ((rankRun h).result build (State.fresh build)).changed := by
  obtain ⟨pre, post, horder⟩ := List.append_of_mem ((rankRun h).perm.mem_iff.mpr hx)
  have hblocked := rankRun_blocked build h (fresh_archives build) (pre ++ x :: post)
  unfold Run.result
  rw [horder]
  refine mem_changed_of_outcome (outcome_eq_apply ?_ (fun hr => ?_) ?_)
  · exact not_blocked_at_turn (by rw [hblocked]; exact List.not_mem_nil)
  · have hr : x.inside.isSome = true := hr
    simp [hin] at hr
  · refine Resource.inSync_of_absent ?_
    refine process_state (Q := fun t : State γ => x.current t.disk = none) (fun y hy _ t ht => ?_) ?_
    · show x.current (y.apply build t).disk = none
      rw [Resource.apply_disk, Resource.current_write (title_ne_of_mem horder (Or.inl hy)), ht]
    · cases x <;> rfl

/-- And every `exec` that one of them notifies is executed. -/
theorem rankRun_executed (hx : x ∈ config schedulefolder projects) (hz : z ∈ config schedulefolder projects)
    {t : Target} (hxt : x.notify = some t) (hzt : z.inside = some t) :
    z ∈ ((rankRun h).result build (State.fresh build)).executed := by
  have hchanged := rankRun_changed h build hx (inside_of_notify hxt)
  obtain ⟨pre, post, horder⟩ := List.append_of_mem ((rankRun h).perm.mem_iff.mpr hz)
  have hblocked : z ∉ ((rankRun h).result build (State.fresh build)).blocked := by
    unfold Run.result
    rw [rankRun_blocked build h (fresh_archives build)]
    exact List.not_mem_nil
  have hout := Run.outcome_of_notified horder hzt hblocked hchanged hxt
  unfold Run.result
  rw [horder]
  exact executed_of_changed (mem_changed_of_outcome hout)

end Fresh

/-- **The other direction**: a project with both has a run that keeps all edges, and schedules its flow before it
    uploads it. -/
theorem separate_of_inOrder {projects : Projects} (h : Accepted schedulefolder projects)
    (hin : InOrder schedulefolder build projects) :
    ∀ project components, (project, components) ∈ projects →
      ¬ (components.Scheduled ∧ components.Notifies) := by
  rintro project components hmem ⟨⟨flow, conf, hconf, hsched⟩, hnotifies⟩
  obtain ⟨span, hspan⟩ := Option.ne_none_iff_exists'.mp hsched
  obtain ⟨x, hx, hn⟩ := exists_notifying_iff.mpr hnotifies
  have hx : x ∈ config schedulefolder projects := mem_config.mpr ⟨project, components, hmem, hx⟩
  obtain ⟨harchive, hupload⟩ := upload_mem_of_notify hx hn
  have hflow : ∀ y ∈ confResources schedulefolder project (components.jobs.map Prod.fst) flow conf,
      y ∈ config schedulefolder projects := fun y hy => mem_config.mpr ⟨project, components, hmem,
    mem_projectResources.mpr (Or.inr (Or.inl ⟨flow, conf, hconf, hy⟩))⟩
  have hfile := hflow _ (mem_confResources.mpr (Or.inr (Or.inr (Or.inl ⟨span, hspan, rfl⟩))))
  have hschedule := hflow _ (mem_confResources.mpr (Or.inr (Or.inr (Or.inr rfl))))
  have hsub := (hin (rankRun h) (State.fresh build) rfl project components flow conf hmem hconf
    (rankRun_executed h hfile hschedule rfl rfl) (rankRun_executed h hx harchive hn rfl)
    (rankRun_executed h hx hupload hn rfl)).1
  -- by rank, the upload comes first
  have hrank := (pairwise_byRank rank (config schedulefolder projects)).sublist
    (hsub.trans (executed_sublist (rankRun h).order (State.fresh build)))
  exact absurd ((List.pairwise_cons.mp hrank).1 _ (List.mem_singleton_self _)) (by simp [rank])

/-- **When the order is kept.** On an accepted hash it is, in every run, exactly when no project has both a scheduled
    flow and a job package, a file or a template. The two directions are `inOrder_of_separate`, which holds for every
    hash, and `separate_of_inOrder`, which builds a run for the project that has both. -/
theorem inOrder_iff {projects : Projects} (h : Accepted schedulefolder projects) :
    InOrder schedulefolder build projects ↔
      ∀ project components, (project, components) ∈ projects →
        ¬ (components.Scheduled ∧ components.Notifies) :=
  ⟨separate_of_inOrder h, inOrder_of_separate⟩

/-! ## A first deployment

The same happens in the order of the manifest, with the project of the repository. -/

/-- The folder of the schedule files in the examples. -/
def schedules : Text := "/opt/schedules".toList

/-- The components of a project with one job package and one flow. -/
def reportsComponents (span : Option Text) : Components :=
  ⟨[("azkaban-job-reports".toList, "1.0".toList)], [("daily".toList, ⟨none, [], [], [], span⟩)]⟩

/-- A hash with one project, whose flow has this span, if it has one. -/
def reports (span : Option Text) : Projects := [("reports".toList, reportsComponents span)]

/-- The archive of that project has the version of its job package. -/
def jobVersion (_ : Text) (d : Disk) : Option Text := d.packages "azkaban-job-reports".toList

/-- Without a schedule the order is kept. -/
theorem reports_inOrder : InOrder schedules jobVersion (reports none) := by
  refine (inOrder_iff (by decide)).mpr ?_
  rintro project components hmem ⟨⟨flow, conf, hconf, hsched⟩, -⟩
  obtain ⟨rfl, rfl⟩ := Prod.mk.inj (List.mem_singleton.mp hmem)
  obtain ⟨rfl, rfl⟩ := Prod.mk.inj (List.mem_singleton.mp hconf)
  exact hsched rfl

/-- A run on the hash in the order of the manifest, in which these fail. -/
def manifestRun (fails : Resource → Bool) : Run schedules where
  projects := reports (some "1d".toList)
  accepted := by decide
  order := config schedules (reports (some "1d".toList))
  perm := List.Perm.refl _
  consistent := by decide
  fails := fails

/-- **The manifest schedules first.** On the first deployment of a scheduled flow, in the order of the manifest, the
    flow is scheduled before its project is uploaded: the run is listed in full, and the order that is asked for is
    not a sublist of it. -/
theorem manifestRun_schedules_first :
    ((manifestRun fun _ => false).result jobVersion State.blank).executed =
        [.package "azkaban-job-reports".toList "1.0".toList (some (.upload "reports".toList)),
          .file (scheduleFile schedules "daily".toList) "1d".toList [] (.schedule "daily".toList),
          .schedule "reports".toList "daily".toList (some "1d".toList), .archive "reports".toList,
          .upload "reports".toList] ∧
      ¬ InOrder schedules jobVersion (reports (some "1d".toList)) := by
  refine ⟨by decide, fun h => ?_⟩
  have hsub := (h (manifestRun fun _ => false) State.blank rfl "reports".toList
    (reportsComponents (some "1d".toList)) "daily".toList ⟨none, [], [], [], some "1d".toList⟩ (by decide)
    (by decide) (by decide) (by decide) (by decide)).2
  exact absurd hsub (by decide)

end Azkaban
end StgEnvironment
