import StgEnvironment.Azkaban.Correctness.Order
import StgEnvironment.Lib.Transition

/-!
# `Azkaban.Correctness.Updates`: what the server holds after a sequence of runs

The trigger of an update is a change on the disk, and a change happens once: when the `exec` it notifies fails
or is skipped, no later run tries again. So the server is up to date as long as each run that changes
something for a project also delivers it (`Delivers`), and as long as each change of a schedule file reaches
the server (`Reschedules`). Both conditions are about single runs; `upToDate_result` and `synced_result` are the step
lemmas, and `updates_kept` is the statement about sequences.

## Contents
- **One run, for a project**: the archive is made of the disk as it is (`packed_of_archive`), it is what the upload
  sends (`upToDate_of_upload`), and a run without changes leaves both alone.
- **One run, for a flow**: files stay as declared (`file_content`), spans as sent (`span_of_schedule`).
- **Sequences of runs**: `updates_kept`, for any hashes, orders and failures.
- **Two deployments of one hash**: a first run that cannot write the schedule file, and a second one that repairs it;
  and an upload that fails once and is never tried again (`upload_lost`).
-/

namespace StgEnvironment
namespace Azkaban
open Convergence

variable {schedulefolder : Text} {γ : Type} {build : Text → Disk → γ}

/-- The server has the content that the project has on the disk now. Nothing is said of the archive, which may be
    older. -/
def UpToDate (build : Text → Disk → γ) (s : State γ) (project : Text) : Prop :=
  s.content project = some (build project s.disk)

/-- The run changes a job package, a file or a template of the project, and so notifies its upload. -/
def Notified (build : Text → Disk → γ) (s : State γ) (r : Run schedulefolder) (project : Text) : Prop :=
  ∃ x ∈ (r.result build s).changed, x.notify = some (.upload project)

/-- **The condition for a project**: what the run changes for it, the run also sends. -/
structure Delivers (build : Text → Disk → γ) (project : Text) (s : State γ) (r : Run schedulefolder) :
    Prop where
  /-- When the run changes something that notifies the upload, the archive is made, and uploaded thereafter. -/
  delivered : Notified build s r project → .archive project ∉ (r.result build s).blocked ∧
    .upload project ∉ (r.result build s).blocked ∧ [.archive project, .upload project].Sublist r.order
  /-- Nothing else that it changes is part of the archive. -/
  others : ∀ x ∈ (r.result build s).changed, x.notify ≠ some (.upload project) →
    ∀ d, build project (x.write d) = build project d

/-- The server has the span that is in the schedule file of the flow, if there is one. -/
def Synced (schedulefolder : Text) (s : State γ) (project flow : Text) : Prop :=
  ∀ span, s.disk.files (scheduleFile schedulefolder flow) = some span → s.span (project, flow) = some span

/-- **The condition for a flow**: what the run changes in its schedule file, the run also sends. -/
structure Reschedules (build : Text → Disk → γ) (project flow : Text) (s : State γ) (r : Run schedulefolder) :
    Prop where
  /-- The hash has the flow in no other project. -/
  home : ∀ p c conf, (p, c) ∈ r.projects → (flow, conf) ∈ c.configuration → p = project
  /-- No other file has the path of its schedule file. -/
  own : ∀ x ∈ r.order, x.title = .file (scheduleFile schedulefolder flow) → x.notify = some (.schedule flow)
  /-- When the schedule file changes, the flow is scheduled with success. -/
  succeeds : (∃ x ∈ (r.result build s).changed, x.notify = some (.schedule flow)) →
    ∀ span, .schedule project flow span ∉ (r.result build s).blocked

/-! ## One run, for a project

The archive is made from the disk and the upload sends the archive. What comes between and behind them in a run
leaves both alone, since every resource writes only what is its own. -/

section Project
variable {r : Run schedulefolder} {s : State γ} {project : Text} {x : Resource}

/-- Only the upload of a project changes what the server has of it. -/
theorem Resource.apply_content (hx : x ≠ .upload project) (t : State γ) :
    (x.apply build t).content project = t.content project := by
  cases x with
  | upload p =>
      have hne : project ≠ p := fun h => hx (by rw [h])
      simp [Resource.apply, Function.update_of_ne hne]
  | _ => rfl

/-- Only the archive of a project changes what is in it. -/
theorem Resource.apply_archives_of_ne (hx : x ≠ .archive project) (t : State γ) :
    (x.apply build t).archives project = t.archives project := by
  cases x with
  | archive p =>
      have hne : project ≠ p := fun h => hx (by rw [h])
      simp [Resource.apply, Function.update_of_ne hne]
  | _ => rfl

/-- The archive has the content that the project has on the disk. -/
def Packed (build : Text → Disk → γ) (s : State γ) (project : Text) : Prop :=
  s.archives project = some (build project s.disk)

/-- A resource that is no part of the archive leaves it, and what it was made of, alone. -/
theorem Packed.apply {t : State γ} (h : Packed build t project) (hx : x ≠ .archive project)
    (hb : build project (x.apply build t).disk = build project t.disk) :
    Packed build (x.apply build t) project := by
  unfold Packed
  rw [Resource.apply_archives_of_ne hx, hb]
  exact h

/-- What neither uploads the project nor changes its files leaves the server up to date. -/
theorem UpToDate.apply {t : State γ} (h : UpToDate build t project) (hx : x ≠ .upload project)
    (hb : build project (x.apply build t).disk = build project t.disk) :
    UpToDate build (x.apply build t) project := by
  unfold UpToDate
  rw [Resource.apply_content hx, hb]
  exact h

/-- A run that changes nothing for the project. -/
theorem upToDate_of_not_notified (h : Delivers build project s r) (hn : ¬ Notified build s r project)
    (hup : UpToDate build s project) : UpToDate build (r.result build s).state project := by
  refine process_state (Q := fun t : State γ => UpToDate build t project) (fun x _ hx t ht => ?_) hup
  have hx : x ∈ (r.result build s).changed := hx
  refine ht.apply ?_ ?_
  · rintro rfl
    obtain ⟨y, hy, hyn⟩ := Run.exists_notifier (executed_of_changed hx) rfl
    exact hn ⟨y, hy, hyn⟩
  · rw [Resource.apply_disk]
    exact h.others x hx (fun hxn => hn ⟨x, hx, hxn⟩) t.disk

/-- From the archive on, nothing changes what the project has on the disk. -/
theorem build_of_later {pre post : List Resource} (h : Delivers build project s r)
    (horder : r.order = pre ++ .archive project :: post) (hx : x ∈ post)
    (hc : x ∈ (r.result build s).changed) (t : State γ) :
    build project (x.apply build t).disk = build project t.disk := by
  rw [Resource.apply_disk]
  exact h.others x hc (Run.not_notify_of_later horder rfl hx) t.disk

/-- The archive is made of the disk as it is at its turn, and nothing touches it until the upload. -/
theorem packed_of_archive {pre mid post : List Resource} (h : Delivers build project s r)
    (horder : r.order = pre ++ .archive project :: (mid ++ post))
    (ho : outcome (engine build) r.fails (transaction (engine build) r.fails pre s)
      (.archive project) = .apply) :
    Packed build (transaction (engine build) r.fails (pre ++ .archive project :: mid) s).state project := by
  have hpart : r.order = (pre ++ .archive project :: mid) ++ post := by rw [horder]; simp
  rw [transaction_split]
  refine process_state (Q := fun t : State γ => Packed build t project) (fun x hx hc t ht => ?_) ?_
  · have hc : x ∈ (r.result build s).changed := by
      refine Run.changed_of_part hpart ?_
      rw [transaction_split]
      exact hc
    refine ht.apply ?_ (build_of_later h horder (List.mem_append_left _ hx) hc t)
    rintro rfl
    exact title_ne_of_mem horder (Or.inr (List.mem_append_left _ hx)) rfl
  · rw [step_apply ho]
    exact Function.update_self ..

/-- The upload sends what the archive has, and nothing touches the project thereafter. -/
theorem upToDate_of_upload {pre mid post : List Resource} (h : Delivers build project s r)
    (horder : r.order = pre ++ .archive project :: (mid ++ .upload project :: post))
    (ho : outcome (engine build) r.fails
      (transaction (engine build) r.fails (pre ++ .archive project :: mid) s) (.upload project) = .apply)
    (hp : Packed build (transaction (engine build) r.fails (pre ++ .archive project :: mid) s).state project) :
    UpToDate build (r.result build s).state project := by
  have hpart : r.order = (pre ++ .archive project :: mid) ++ .upload project :: post := by rw [horder]; simp
  have hresult : r.result build s = process (engine build) r.fails post (step (engine build) r.fails
      (transaction (engine build) r.fails (pre ++ .archive project :: mid) s) (.upload project)) := by
    unfold Run.result
    rw [hpart, transaction_split]
  rw [hresult]
  refine process_state (Q := fun t : State γ => UpToDate build t project) (fun x hx hc t ht => ?_) ?_
  · have hc : x ∈ (r.result build s).changed := by rw [hresult]; exact hc
    refine ht.apply ?_ (build_of_later h horder ?_ hc t)
    · rintro rfl
      exact title_ne_of_mem hpart (Or.inr hx) rfl
    · exact List.mem_append_right _ (List.mem_cons_of_mem _ hx)
  · rw [step_apply ho]
    exact (Function.update_self ..).trans hp

/-- A run that changes something for the project, and delivers it. In its order the archive comes before the upload,
    and neither is blocked. -/
theorem upToDate_of_notified (h : Delivers build project s r) (hn : Notified build s r project) :
    UpToDate build (r.result build s).state project := by
  obtain ⟨harchive, hupload, hsub⟩ := h.delivered hn
  obtain ⟨x, hx, hxn⟩ := hn
  -- the order is `pre`, the archive, `mid₁ ++ mid₂`, the upload, `post`
  obtain ⟨l₁, l₂, horder, hmem₁, hmem₂⟩ := List.cons_sublist_iff.mp hsub
  obtain ⟨pre, mid₁, rfl⟩ := List.append_of_mem hmem₁
  obtain ⟨mid₂, post, rfl⟩ := List.append_of_mem (List.singleton_sublist.mp hmem₂)
  have hsplit₁ : r.order = pre ++ .archive project :: ((mid₁ ++ mid₂) ++ .upload project :: post) := by
    rw [horder]; simp
  have hsplit₂ : r.order = (pre ++ .archive project :: (mid₁ ++ mid₂)) ++ .upload project :: post := by
    rw [horder]; simp
  have hpacked := packed_of_archive h hsplit₁ (Run.outcome_of_notified hsplit₁ rfl harchive hx hxn)
  exact upToDate_of_upload h hsplit₁ (Run.outcome_of_notified hsplit₂ rfl hupload hx hxn) hpacked

/-- **One run, for a project**: if the run delivers what it changes, the server is up to date after it, provided that
    it was so before or that the run notifies the upload. The two cases are whether the run notifies the upload or
    not. -/
theorem upToDate_result (h : Delivers build project s r)
    (hup : UpToDate build s project ∨ Notified build s r project) :
    UpToDate build (r.result build s).state project := by
  by_cases hn : Notified build s r project
  · exact upToDate_of_notified h hn
  · exact upToDate_of_not_notified h hn (hup.resolve_right hn)

end Project

/-! ## One run, for a flow

The span is sent by a command that is notified by the schedule file. If the file changes and the command succeeds,
both have the content that is declared; if the file does not change, neither does. -/

section Flow
variable {r : Run schedulefolder} {s : State γ} {project flow : Text}

/-- A file that is in sync at its turn, or applied, stays as declared: nothing behind it in the run writes under its
    title. -/
theorem file_content {pre post : List Resource} {path content : Text} {require : List Text} {t : Target}
    (horder : r.order = pre ++ .file path content require t :: post)
    (ho : outcome (engine build) r.fails (transaction (engine build) r.fails pre s)
        (.file path content require t) = .idle ∨
      outcome (engine build) r.fails (transaction (engine build) r.fails pre s)
        (.file path content require t) = .apply) :
    (r.result build s).state.disk.files path = some content := by
  unfold Run.result
  rw [horder, transaction_split]
  refine process_state (Q := fun t : State γ => t.disk.files path = some content) (fun y hy _ u hu => ?_) ?_
  · have hkeep := Resource.current_write (title_ne_of_mem horder (Or.inr hy)) u.disk
    show (y.apply build u).disk.files path = _
    rw [Resource.apply_disk]
    exact hkeep.trans hu
  · rcases ho with ho | ho
    · have hsync : (transaction (engine build) r.fails pre s).state.disk.files path = some content := by
        have := inSync_of_idle ho rfl
        exact beq_iff_eq.mp this
      have hne : outcome (engine build) r.fails (transaction (engine build) r.fails pre s)
          (.file path content require t) ≠ .apply := by rw [ho]; exact nofun
      rw [(step_of_ne_apply hne).1]
      exact hsync
    · rw [step_apply ho]
      exact Function.update_self ..

/-- A file that has changed in a run has the content that is declared for it when the run ends. -/
theorem file_of_changed {path content : Text} {require : List Text} {t : Target}
    (h : .file path content require t ∈ (r.result build s).changed) :
    (r.result build s).state.disk.files path = some content := by
  obtain ⟨pre, post, horder⟩ := List.append_of_mem (Run.mem_of_changed h)
  have hnd := r.nodup
  refine file_content horder (Or.inr ?_)
  unfold Run.result at h
  rw [horder] at h hnd
  exact outcome_of_changed hnd h

/-- So has one that was not blocked: either it was in sync, or it was written. -/
theorem file_of_not_blocked {path content : Text} {require : List Text} {t : Target}
    (hmem : .file path content require t ∈ r.order)
    (hb : .file path content require t ∉ (r.result build s).blocked) :
    (r.result build s).state.disk.files path = some content := by
  obtain ⟨pre, post, horder⟩ := List.append_of_mem hmem
  refine file_content horder ?_
  unfold Run.result at hb
  rw [horder] at hb
  exact outcome_of_not_blocked (not_blocked_at_turn hb)

theorem Resource.apply_span {x : Resource} (hx : x.title ≠ .schedule flow) (t : State γ) :
    (x.apply build t).span (project, flow) = t.span (project, flow) := by
  cases x with
  | schedule p f sp =>
      have hne : (project, flow) ≠ (p, f) := fun h => hx (by rw [Resource.title, (Prod.mk.inj h).2])
      simp [Resource.apply, Function.update_of_ne hne]
  | _ => rfl

theorem span_of_schedule {pre post : List Resource} {span : Option Text}
    (horder : r.order = pre ++ .schedule project flow span :: post)
    (ho : outcome (engine build) r.fails (transaction (engine build) r.fails pre s)
      (.schedule project flow span) = .apply) :
    (r.result build s).state.span (project, flow) = span := by
  unfold Run.result
  rw [horder, transaction_split]
  refine process_state (Q := fun t : State γ => t.span (project, flow) = span) (fun y hy _ u hu => ?_) ?_
  · exact (Resource.apply_span (title_ne_of_mem horder (Or.inr hy)) u).trans hu
  · rw [step_apply ho]
    exact Function.update_self ..

/-- **One run, for a flow**: if each change of the schedule file reaches the server, span and file agree after the run
    if they did before. Either the file changes, and its content is the span that is sent, or it stays and the span
    with it. -/
theorem synced_result (h : Reschedules build project flow s r) (hs : Synced schedulefolder s project flow) :
    Synced schedulefolder (r.result build s).state project flow := by
  by_cases hx : ∃ x ∈ (r.result build s).changed, x.notify = some (.schedule flow)
  -- the file is new, and its content is the span that is sent
  · obtain ⟨x, hx, hn⟩ := hx
    obtain ⟨p, c, conf, span, hmem, hconf, -, rfl, hsched⟩ :=
      scheduleFile_of_notify (Run.mem_order.mp (Run.mem_of_changed hx)) hn
    obtain rfl := h.home p c conf hmem hconf
    obtain ⟨pre, post, horder⟩ := List.append_of_mem (Run.mem_order.mpr hsched)
    have hout := Run.outcome_of_notified horder rfl (h.succeeds ⟨_, hx, hn⟩ _) hx hn
    have hspan := span_of_schedule horder hout
    have hfile := file_of_changed hx
    intro span' hspan'
    rw [hfile] at hspan'
    obtain rfl := Option.some.inj hspan'
    exact hspan
  -- nothing notifies the flow: both the file and the span stay
  · have hkeep : (r.result build s).state.disk.files (scheduleFile schedulefolder flow) =
          s.disk.files (scheduleFile schedulefolder flow) ∧
        (r.result build s).state.span (project, flow) = s.span (project, flow) := by
      refine process_state (Q := fun t : State γ => t.disk.files (scheduleFile schedulefolder flow) =
          s.disk.files (scheduleFile schedulefolder flow) ∧
        t.span (project, flow) = s.span (project, flow)) (fun y _ hy t ht => ?_) ⟨rfl, rfl⟩
      have hy : y ∈ (r.result build s).changed := hy
      have hfile : y.title ≠ .file (scheduleFile schedulefolder flow) := fun htitle =>
        hx ⟨y, hy, h.own y (Run.mem_of_changed hy) htitle⟩
      have hsched : y.title ≠ .schedule flow := fun htitle =>
        hx (Run.exists_notifier (executed_of_changed hy) (inside_of_title htitle))
      refine ⟨?_, (Resource.apply_span hsched t).trans ht.2⟩
      show (y.apply build t).disk.files _ = _
      rw [Resource.apply_disk]
      exact (Resource.current_write (x := .file (scheduleFile schedulefolder flow) [] [] (.schedule flow))
        hfile t.disk).trans ht.1
    intro span hspan
    rw [hkeep.1] at hspan
    rw [hkeep.2]
    exact hs span hspan

end Flow

/-! ## Sequences of runs

Runs one after the other are a transition system, and both facts on one run are step lemmas of it. The hash, the
order and what fails may be different in every run. -/

/-- One run after the other. -/
def next (build : Text → Disk → γ) (s : State γ) (r : Run schedulefolder) : Option (State γ) :=
  some (r.result build s).state

section Sequences
variable {s s' : State γ} {rs : List (Run schedulefolder)}

/-- A sequence of such runs keeps the server up to date, by induction on the sequence. -/
theorem upToDate_of_run {project : Text} (hrun : Transition.run (next build) s rs = some s')
    (hok : Transition.Along (next build) (Delivers build project) s rs)
    (hup : UpToDate build s project ∨ ∃ r ∈ rs.head?, Notified build s r project) :
    UpToDate build s' project := by
  cases rs with
  | nil =>
      obtain rfl := Option.some.inj hrun
      exact hup.resolve_right (by simp)
  | cons r rs =>
      obtain ⟨s₁, hfirst, hrest⟩ := Transition.run_cons_iff.mp hrun
      obtain rfl := Option.some.inj hfirst
      -- the first run brings the server up to date, the others keep it so
      have hfirst := upToDate_result hok.1 (hup.imp id (by simp))
      refine Transition.run_invariant (I := fun t => UpToDate build t project) ?_ hfirst (hok.2 _ rfl) hrest
      intro t r' t' ht hr' hnext
      obtain rfl := Option.some.inj hnext
      exact upToDate_result hr' (Or.inl ht)

/-- A sequence of such runs keeps span and schedule file together. -/
theorem synced_of_run {project flow : Text} (hrun : Transition.run (next build) s rs = some s')
    (hok : Transition.Along (next build) (Reschedules build project flow) s rs)
    (hs : Synced schedulefolder s project flow) : Synced schedulefolder s' project flow := by
  refine Transition.run_invariant (I := fun t => Synced schedulefolder t project flow) ?_ hs hok hrun
  intro t r t' ht hr hnext
  obtain rfl := Option.some.inj hnext
  exact synced_result hr ht

/-- **What is kept.** After a sequence of runs, with any hash, any order and any failures in each:
    the server has the content of a project as it is on the disk, if it had it before or the first run notifies
    the upload, and each run that changes something for the project delivers it; and it has the span of a flow
    as in the hash of the last run, if that run has applied the schedule file, and each change of the file in a
    run has reached the server. -/
theorem updates_kept (build : Text → Disk → γ) (s : State γ) (rs : List (Run schedulefolder))
    (last : Run schedulefolder) {s₁ : State γ} (hrun : Transition.run (next build) s rs = some s₁) :
    (∀ project, Transition.Along (next build) (Delivers build project) s (rs ++ [last]) →
      (UpToDate build s project ∨ ∃ r ∈ (rs ++ [last]).head?, Notified build s r project) →
        UpToDate build (last.result build s₁).state project) ∧
    ∀ project flow, Transition.Along (next build) (Reschedules build project flow) s (rs ++ [last]) →
      Synced schedulefolder s project flow → ∀ components conf span, (project, components) ∈ last.projects →
        (flow, conf) ∈ components.configuration → conf.schedule = some span →
          .file (scheduleFile schedulefolder flow) span [] (.schedule flow) ∉ (last.result build s₁).blocked →
            (last.result build s₁).state.span (project, flow) = some span := by
  have hrun' : Transition.run (next build) s (rs ++ [last]) = some (last.result build s₁).state :=
    (Transition.run_append hrun).trans rfl
  refine ⟨fun project hok hup => upToDate_of_run hrun' hok hup, ?_⟩
  intro project flow hok hs components conf span hmem hconf hspan hb
  refine synced_of_run hrun' hok hs span (file_of_not_blocked ?_ hb)
  refine Run.mem_order.mpr (mem_config.mpr ⟨project, components, hmem, mem_projectResources.mpr ?_⟩)
  refine Or.inr (Or.inl ⟨flow, conf, hconf, mem_confResources.mpr ?_⟩)
  exact Or.inr (Or.inr (Or.inl ⟨span, hspan, rfl⟩))

end Sequences

/-! ## Two deployments of one hash

The manifest of the repository with one project, deployed twice. What a command fails to deliver in the first run is
not delivered by the second, which finds everything in sync. -/

/-- The schedule file cannot be written. -/
def fileFails : Resource → Bool :=
  (· == .file (scheduleFile schedules "daily".toList) "1d".toList [] (.schedule "daily".toList))

/-- What the first deployment leaves if the schedule file cannot be written. -/
def firstDeployed : State (Option Text) := ((manifestRun fileFails).result jobVersion State.blank).state

section Deployments
variable {fails : Resource → Bool} {s : State (Option Text)}

/-- Only the job package is part of the archive, and it notifies the upload. -/
theorem manifestRun_delivers
    (h : Notified jobVersion s (manifestRun fails) "reports".toList →
      .archive "reports".toList ∉ ((manifestRun fails).result jobVersion s).blocked ∧
        .upload "reports".toList ∉ ((manifestRun fails).result jobVersion s).blocked) :
    Delivers jobVersion "reports".toList s (manifestRun fails) := by
  have horder : [.archive "reports".toList, .upload "reports".toList].Sublist
      (config schedules (reports (some "1d".toList))) := by decide
  refine ⟨fun hn => ⟨(h hn).1, (h hn).2, horder⟩, fun x hx hn d => ?_⟩
  have hrank : ∀ x ∈ config schedules (reports (some "1d".toList)),
      x.notify ≠ some (.upload "reports".toList) → rank x ≠ 0 := by decide
  have hx := hrank x (Run.mem_of_changed hx) hn
  cases x with
  | package => exact absurd rfl hx
  | _ => rfl

/-- If nothing is blocked once the schedule file has changed, the change reaches the server. -/
theorem manifestRun_reschedules
    (h : (∃ x ∈ ((manifestRun fails).result jobVersion s).changed, x.notify = some (.schedule "daily".toList)) →
      ((manifestRun fails).result jobVersion s).blocked = []) :
    Reschedules jobVersion "reports".toList "daily".toList s (manifestRun fails) := by
  have hown : ∀ x ∈ config schedules (reports (some "1d".toList)),
      x.title = .file (scheduleFile schedules "daily".toList) → x.notify = some (.schedule "daily".toList) := by decide
  refine ⟨fun p c conf hmem _ => ?_, hown, fun hx span hblocked => ?_⟩
  · exact (Prod.mk.inj (List.mem_singleton.mp hmem)).1
  · rw [h hx] at hblocked
    cases hblocked

end Deployments

/-- A first deployment uploads the project, but cannot write the schedule file. After a second one without failures
    the server has the project and the span. -/
theorem manifestRun_updates :
    ((manifestRun fileFails).result jobVersion State.blank).blocked ≠ [] ∧
      UpToDate jobVersion ((manifestRun fun _ => false).result jobVersion firstDeployed).state "reports".toList ∧
      ((manifestRun fun _ => false).result jobVersion firstDeployed).state.span
        ("reports".toList, "daily".toList) = some "1d".toList := by
  have hfirst : Transition.run (next jobVersion) State.blank [manifestRun fileFails] = some firstDeployed := rfl
  have h := updates_kept jobVersion State.blank [manifestRun fileFails] (manifestRun fun _ => false) hfirst
  refine ⟨by decide, h.1 "reports".toList ⟨?_, ?_⟩ (Or.inr ⟨_, rfl, ?_⟩), ?_⟩
  · exact manifestRun_delivers fun _ => ⟨by decide, by decide⟩
  · rintro t ht
    obtain rfl := Option.some.inj ht
    exact ⟨manifestRun_delivers fun _ => ⟨by decide, by decide⟩, fun _ _ => trivial⟩
  · exact ⟨.package "azkaban-job-reports".toList "1.0".toList (some (.upload "reports".toList)), by decide, rfl⟩
  · refine h.2 "reports".toList "daily".toList ⟨?_, ?_⟩ nofun
      (reportsComponents (some "1d".toList)) _ "1d".toList (by decide) (List.mem_singleton_self _) rfl (by decide)
    · exact manifestRun_reschedules fun hx => absurd hx (by decide)
    · rintro t ht
      obtain rfl := Option.some.inj ht
      exact ⟨manifestRun_reschedules fun _ => by decide, fun _ _ => trivial⟩

/-- **A lost update.** The first run fails to upload the project. The second has nothing to do, since the package is
    installed by then, so that no command of it fails, and the server still has nothing. -/
theorem upload_lost :
    ∃ s₁ : State (Option Text),
      Transition.run (next jobVersion) State.blank [manifestRun (· == .upload "reports".toList)] = some s₁ ∧
      ((manifestRun fun _ => false).result jobVersion s₁).blocked = [] ∧
      ((manifestRun fun _ => false).result jobVersion s₁).executed = [] ∧
      (manifestRun fun _ => false).projects = reports (some "1d".toList) ∧
      ¬ UpToDate jobVersion ((manifestRun fun _ => false).result jobVersion s₁).state "reports".toList :=
  ⟨_, rfl, by decide, by decide, rfl, by unfold UpToDate; decide⟩

end Azkaban
end StgEnvironment
