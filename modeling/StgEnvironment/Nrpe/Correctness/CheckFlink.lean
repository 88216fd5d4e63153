import StgEnvironment.Nrpe.CheckFlink

/-!
# `Nrpe.Correctness.CheckFlink`: a topology is looked for among the running jobs

The plugin should be OK exactly if each topology is the name of a running job (`OkWhenRunning`). It finds a topology
that is only a piece of a name, or of the `(RUNNING)` behind one; a blank in front of each name keeps it from finding
what lies across two of them (`occurs_all_running_iff`). So it is right as long as that does not make up for the
topologies that do not run, and the order of the lists makes no difference (`okWhenRunning_iff`).

## Contents
- **The pipe**: from the lines of `flink list` to the text that is searched (`all_running_eq`).
- **A piece of that text**: by induction on the names, a blank being in none of the topologies.
- **The verdict**: the loop, and the condition.
-/

namespace StgEnvironment
namespace Nrpe.CheckFlink
open Shell
open FlinkContainers (Verdict)

/-- The first argument of the plugin, in a working directory in which no topology stands for a file. -/
structure Topologies (g : Globbing) where
  text : Text
  noFile : ∀ t ∈ words text, g.expand t = [t]

/-- **The intended behaviour**: OK exactly if every topology is the name of a running job, critical exactly if one is
    not, and the same for every order of the topologies and of the jobs. -/
structure OkWhenRunning (g : Globbing) (topologies : Topologies g) (list : List Line) : Prop where
  ok : (check_flink g topologies.text list).code = 0 ↔ ∀ t ∈ words topologies.text, t ∈ names list
  critical : (check_flink g topologies.text list).code = 2 ↔ ¬ ∀ t ∈ words topologies.text, t ∈ names list
  /-- The verdict does not depend on the order of the lists. -/
  perm : ∀ (topologies' : Topologies g) (list' : List Line), (words topologies'.text).Perm (words topologies.text) →
    (names list').Perm (names list) →
    (check_flink g topologies'.text list').code = (check_flink g topologies.text list).code

/-- The topology is a piece of the name of a running job, or of what is behind it. -/
def Within (running : List Text) (topology : Text) : Prop :=
  ∃ name ∈ running, Occurs topology name ∨ Occurs topology "(RUNNING)".toList

instance (running : List Text) (topology : Text) : Decidable (Within running topology) :=
  inferInstanceAs (Decidable (∃ name ∈ running, _))

/-! ## The joined text -/

/-- The line of a running job gives its name, between a blank and its state. -/
theorem awk5_line (j : Job) : awk5 j.line = ' ' :: j.name ++ " (RUNNING)".toList := by
  have hcolumns : ∀ t ∈ j.columns, ':' ∉ t := by
    have hnone : ∀ t ∈ [j.hour, j.minute, j.second, j.id, j.name], ':' ∉ t := fun t ht hmem =>
      absurd (List.all_eq_true.mp (List.all_eq_true.mp j.colonless t ht) _ hmem) (by decide)
    simp only [List.forall_mem_cons] at hnone
    obtain ⟨hhour, hminute, hsecond, hid, hname, -⟩ := hnone
    simp [Job.columns, hhour, hminute, hsecond, hid, hname]
  rw [awk5, Job.line, List.splitOn_intercalate ':' hcolumns (List.cons_ne_nil _ _)]
  rfl

theorem occurs_running_line (j : Job) : Occurs "RUNNING".toList j.line := by
  have hcolumn : Occurs "RUNNING".toList (' ' :: j.name ++ " (RUNNING)".toList) :=
    occurs_append_left _ (by decide)
  exact hcolumn.trans (occurs_intercalate [':'] (by simp [Job.columns]))

/-- What line 3 collects for the names. -/
def joined (running : List Text) : Text := running.flatMap fun name => ' ' :: name ++ " (RUNNING)".toList

/-- What the pipe makes of the list: the names of the running jobs, each with a blank in front and the word
    `(RUNNING)` behind. -/
theorem all_running_eq (list : List Line) : all_running list = joined (names list) := by
  unfold all_running
  induction list with
  | nil => rfl
  | cons line list ih =>
      cases line with
      | job j =>
          have hname : (' ' :: j.name ++ " (RUNNING)".toList).filter (· != '\n') =
              ' ' :: j.name ++ " (RUNNING)".toList := by
            refine List.filter_eq_self.mpr fun c hc => bne_iff_ne.mpr ?_
            rintro rfl
            rw [List.cons_append, List.mem_cons, List.mem_append] at hc
            rcases hc with hc | hc | hc
            · exact absurd hc (by decide)
            · exact absurd (List.all_eq_true.mp j.blankless _ hc) (by decide)
            · exact absurd hc (by decide)
          have hline : grepRunning (Line.job j).text = true := decide_eq_true (occurs_running_line j)
          rw [List.map_cons, List.filter_cons_of_pos hline, List.map_cons, endLines_cons, List.filter_append,
            List.filter_cons_of_neg (by decide), ih]
          show (awk5 j.line).filter (· != '\n') ++ joined (names list) = joined (j.name :: names list)
          rw [awk5_line, hname]
          rfl
      | other text idle =>
          have hline : ¬ grepRunning (Line.other text idle).text = true := fun h => idle (of_decide_eq_true h)
          rw [List.map_cons, List.filter_cons_of_neg hline, ih]
          rfl

section Blank
variable {t : Text} (hblank : ' ' ∉ t) (hne : t ≠ [])
include hblank

/-- What has no blank in it lies on one side of a blank. -/
theorem occurs_append_blank_iff (a u : Text) : Occurs t (a ++ ' ' :: u) ↔ Occurs t a ∨ Occurs t u := by
  constructor
  · exact occurs_append_cons hblank
  · rintro (h | h)
    · exact h.trans (List.prefix_append a _).isInfix
    · exact h.trans ((List.suffix_cons ' ' u).trans (List.suffix_append a _)).isInfix

include hne

theorem occurs_blank_cons_iff (u : Text) : Occurs t (' ' :: u) ↔ Occurs t u := by
  have hnil : ¬ Occurs t [] := fun h => hne (List.infix_nil.mp h)
  exact (occurs_append_blank_iff hblank [] u).trans (or_iff_right hnil)

/-- Behind the state there is nothing, or the blank in front of the next name. -/
theorem occurs_state_iff (running : List Text) :
    Occurs t ("(RUNNING)".toList ++ joined running) ↔ Occurs t "(RUNNING)".toList ∨ Occurs t (joined running) := by
  cases running with
  | nil =>
      have hnil : ¬ Occurs t (joined []) := fun h => hne (List.infix_nil.mp h)
      rw [or_iff_left hnil, show joined [] = [] from rfl, List.append_nil]
  | cons name running =>
      have hjoined : joined (name :: running) = ' ' :: (name ++ " (RUNNING)".toList ++ joined running) := by
        simp [joined]
      rw [hjoined, occurs_append_blank_iff hblank, occurs_blank_cons_iff hblank hne]

/-- What has no blank lies in one name, in the word behind it, or in the rest. -/
theorem occurs_joined_cons_iff (name : Text) (running : List Text) :
    Occurs t (joined (name :: running)) ↔
      Occurs t name ∨ Occurs t "(RUNNING)".toList ∨ Occurs t (joined running) := by
  have hjoined : joined (name :: running) = ' ' :: (name ++ ' ' :: ("(RUNNING)".toList ++ joined running)) := by
    simp [joined]
  rw [hjoined, occurs_blank_cons_iff hblank hne, occurs_append_blank_iff hblank, occurs_state_iff hblank hne]

end Blank

/-- **A word is found in the joined text exactly if it is found within one job.** -/
theorem occurs_joined_iff {topology : Word} (hword : IsWord topology) (running : List Text) :
    Occurs topology (joined running) ↔ Within running topology := by
  have hblank : ' ' ∉ topology := fun hmem => absurd (hword.2 _ hmem) (by decide)
  induction running with
  | nil => exact iff_of_false (fun h => hword.1 (List.infix_nil.mp h)) (fun ⟨_, h, _⟩ => List.not_mem_nil h)
  | cons name running ih =>
      have hwithin : Within (name :: running) topology ↔
          (Occurs topology name ∨ Occurs topology "(RUNNING)".toList) ∨ Within running topology :=
        List.exists_mem_cons_iff (fun n => Occurs topology n ∨ Occurs topology "(RUNNING)".toList) name running
      rw [occurs_joined_cons_iff hblank hword.1, ← or_assoc, hwithin]
      exact or_congr_right ih

/-- **When a topology is found**: it is a piece of one of the names, or of the word behind them. -/
theorem occurs_all_running_iff {topology : Word} (hword : IsWord topology) (list : List Line) :
    Occurs topology (all_running list) ↔ Within (names list) topology := by
  rw [all_running_eq, occurs_joined_iff hword]

/-! ## The verdict -/

/-- The loop counts the topologies that are not found. -/
theorem foldl_status_eq_zero_iff (running : Text) (ws : List Word) (k : ℕ) :
    ws.foldl (fun status topology => if Occurs topology running then status + 0 else status + 1) k = 0 ↔
      k = 0 ∧ ∀ w ∈ ws, Occurs w running := by
  induction ws generalizing k with
  | nil => simp
  | cons w ws ih =>
      rw [List.foldl_cons, ih, List.forall_mem_cons]
      by_cases hw : Occurs w running
      · simp [hw]
      · simp [hw]

variable {g : Globbing}

/-- The argument names no file, so it is split into words and no more. -/
theorem Topologies.unquoted (topologies : Topologies g) : g.unquoted topologies.text = words topologies.text := by
  have hsingle : (words topologies.text).flatMap g.expand = (words topologies.text).flatMap fun w => [w] :=
    List.flatMap_congr topologies.noFile
  rw [Globbing.unquoted, hsingle, List.flatMap_singleton']

/-- The loop finds nothing to complain of exactly if every topology is found. -/
theorem status_eq_zero_iff (topologies : Topologies g) (list : List Line) :
    status g topologies.text list = 0 ↔ ∀ t ∈ words topologies.text, Within (names list) t := by
  rw [status, topologies.unquoted, foldl_status_eq_zero_iff]
  constructor
  · rintro ⟨-, h⟩ t ht
    exact (occurs_all_running_iff (isWord_of_mem_words ht) list).mp (h t ht)
  · intro h
    exact ⟨rfl, fun t ht => (occurs_all_running_iff (isWord_of_mem_words ht) list).mpr (h t ht)⟩

/-- **The exit code**: whether every topology is found within a job. The loop counts the topologies that are not found
    in the joined text, and none is found across two jobs there (`occurs_all_running_iff`). -/
theorem check_flink_code (topologies : Topologies g) (list : List Line) :
    (check_flink g topologies.text list).code =
      if ∀ t ∈ words topologies.text, Within (names list) t then 0 else 2 := by
  have hstatus := status_eq_zero_iff topologies list
  unfold check_flink
  by_cases hfound : ∀ t ∈ words topologies.text, Within (names list) t
  · rw [if_pos (hstatus.mpr hfound), if_pos hfound]
  · rw [if_neg fun h => hfound (hstatus.mp h), if_neg hfound]

/-- Where a topology is found does not depend on the order of the jobs. -/
theorem Within.perm {running running' : List Text} (hperm : running'.Perm running) {topology : Text}
    (h : Within running' topology) : Within running topology := by
  obtain ⟨name, hmem, hname⟩ := h
  exact ⟨name, hperm.mem_iff.mp hmem, hname⟩

/-- **The order of the lists makes no difference.** -/
theorem check_flink_perm {topologies topologies' : Topologies g} {list list' : List Line}
    (htopologies : (words topologies'.text).Perm (words topologies.text)) (hlist : (names list').Perm (names list)) :
    (check_flink g topologies'.text list').code = (check_flink g topologies.text list).code := by
  have hfound : (∀ t ∈ words topologies'.text, Within (names list') t) ↔
      ∀ t ∈ words topologies.text, Within (names list) t :=
    ⟨fun h t ht => (h t (htopologies.mem_iff.mpr ht)).perm hlist,
      fun h t ht => (h t (htopologies.mem_iff.mp ht)).perm hlist.symm⟩
  rw [check_flink_code, check_flink_code, if_congr hfound rfl rfl]

theorem within_of_mem {running : List Text} {topology : Text} (h : topology ∈ running) : Within running topology :=
  ⟨topology, h, Or.inl List.infix_rfl⟩

/-- **The plugin is right exactly if every topology runs, or one is not found within any running job.** A topology
    that is a piece of another job's name, or of the word `(RUNNING)`, is found though it does not run; this does no
    harm as long as some other topology is not found at all. -/
theorem okWhenRunning_iff (g : Globbing) (topologies : Topologies g) (list : List Line) :
    OkWhenRunning g topologies list ↔
      (∀ t ∈ words topologies.text, t ∈ names list) ∨ ∃ t ∈ words topologies.text, ¬ Within (names list) t := by
  have hcode := check_flink_code topologies list
  constructor
  · intro h
    by_cases hfound : ∀ t ∈ words topologies.text, Within (names list) t
    · rw [if_pos hfound] at hcode
      exact Or.inl (h.ok.mp hcode)
    · push Not at hfound
      exact Or.inr hfound
  · intro h
    have hruns : (∀ t ∈ words topologies.text, Within (names list) t) ↔
        ∀ t ∈ words topologies.text, t ∈ names list := by
      refine ⟨fun hfound => ?_, fun hall t ht => within_of_mem (hall t ht)⟩
      rcases h with h | ⟨t, ht, hnot⟩
      · exact h
      · exact absurd (hfound t ht) hnot
    rw [if_congr hruns rfl rfl] at hcode
    refine ⟨?_, ?_, fun _ _ htopologies hlist => check_flink_perm htopologies hlist⟩
    · rw [hcode]
      split_ifs with hall
      · exact ⟨fun _ => hall, fun _ => rfl⟩
      · exact ⟨fun h2 => absurd h2 (by decide), fun h => absurd h hall⟩
    · rw [hcode]
      split_ifs with hall
      · exact ⟨fun h0 => absurd h0 (by decide), fun h => absurd hall h⟩
      · exact ⟨fun _ => hall, fun _ => rfl⟩

/-- The topology `events` while only `events-v2` is running. -/
def eventsV2 : List Line :=
  [.job ⟨"01.03.2017 10".toList, "00".toList, "00".toList, "5e3a".toList, "events-v2".toList,
    by decide +kernel, by decide +kernel⟩]

/-- The topology `events` passes for running while `events-v2` is. -/
theorem not_okWhenRunning_events : ¬ OkWhenRunning Globbing.empty ⟨"events".toList, fun _ _ => rfl⟩ eventsV2 := by
  intro h
  exact absurd (h.ok.mp (by decide +kernel)) (by decide +kernel)

end Nrpe.CheckFlink
end StgEnvironment
