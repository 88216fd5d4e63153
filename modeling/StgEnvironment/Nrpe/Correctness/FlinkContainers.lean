import StgEnvironment.Nrpe.FlinkContainers

/-!
# `Nrpe.Correctness.FlinkContainers`: when the verdict reports the presence of the searched jobs

The script is meant to answer one question: is every searched name the name of a running job? It answers
another one, in two respects. A name is looked up as a *substring* of the joined array, so a job whose name
merely contains it, or two neighbours across the join, pass for it. And the matching loop counts the
*words* that a found name expands to, not the found names.

`ReportsPresence` is the intended answer, `NoConfusion` the condition on the running jobs and the argument
under which the script gives it. `reportsPresence_iff` shows that the condition is exact.
-/

namespace StgEnvironment
namespace Nrpe.FlinkContainers
open Shell

/-! ## The matching loop, as a function of the array

The loop appends to two arrays, by whether a name is found in the joined array of running jobs. What a name appends
does not depend on the names before it. -/

/-- What one turn of the loop appends to `jobs_found`. -/
def foundEntries (g : Globbing) (jobs : List Word) (name : Text) : List Word :=
  if matchesJobs jobs name then g.unquoted name else []

/-- What one turn of the loop appends to `jobs_not_found`. -/
def notFoundEntries (g : Globbing) (jobs : List Word) (name : Text) : List Word :=
  if matchesJobs jobs name then [] else g.unquoted name

/-- One turn adds the words of the name to one of the two arrays. -/
theorem matchStep_eq (g : Globbing) (jobs : List Word) (acc : Found) (name : Text) :
    matchStep g jobs acc name =
      ⟨acc.jobs_found ++ foundEntries g jobs name, acc.jobs_not_found ++ notFoundEntries g jobs name⟩ := by
  unfold matchStep foundEntries notFoundEntries
  split <;> simp

/-- The loop from any pair of arrays: every name appends its own entries. -/
theorem foldl_matchStep (g : Globbing) (jobs : List Word) : ∀ (searching : List Text) (acc : Found),
    searching.foldl (matchStep g jobs) acc =
      ⟨acc.jobs_found ++ searching.flatMap (foundEntries g jobs),
       acc.jobs_not_found ++ searching.flatMap (notFoundEntries g jobs)⟩ := by
  intro searching
  induction searching with
  | nil => intro acc; simp
  | cons name rest ih =>
      intro acc
      rw [List.foldl_cons, ih, matchStep_eq]
      simp [List.append_assoc]

theorem matchLoop_jobs_found (g : Globbing) (jobs : List Word) (searching : List Text) :
    (matchLoop g jobs searching).jobs_found = searching.flatMap (foundEntries g jobs) := by
  simp [matchLoop, foldl_matchStep]

/-! ## The array of running jobs

The array is assigned without quotes, so the names are split and expanded. It holds the expansions of the names, in
the order of the table. -/

/-- What `awk` prints of a running job is a word, if it is not empty. -/
theorem isWord_of_mem_runningColumn {table : List Text} {r : Text} (h : r ∈ runningColumn table)
    (hne : r ≠ []) : IsWord r := by
  obtain ⟨line, -, hl⟩ := List.mem_filterMap.mp h
  have hmem : r ∈ words line := by
    unfold awkRunning at hl
    split at hl
    · rename_i f state rest hw
      split at hl
      · cases rest with
        | nil => exact absurd (Option.some.inj hl).symm hne
        | cons a as =>
            obtain rfl : a = r := Option.some.inj hl
            rw [hw]; simp
      · exact absurd hl (by simp)
    · exact absurd hl (by simp)
  exact isWord_of_mem_words hmem

/-- With a name in every `RUNNING` line, the array holds what the names expand to. -/
theorem jobs_in_container_eq (g : Globbing) {table : List Text} (h : ∀ r ∈ runningColumn table, r ≠ []) :
    jobs_in_container g table = (runningColumn table).flatMap g.expand :=
  g.unquoted_unlines fun r hr => isWord_of_mem_runningColumn hr (h r hr)

theorem jobs_in_container_eq_nil_iff (g : Globbing) {table : List Text}
    (h : ∀ r ∈ runningColumn table, r ≠ []) :
    jobs_in_container g table = [] ↔ runningColumn table = [] := by
  rw [jobs_in_container_eq g h, List.flatMap_eq_nil_iff]
  constructor
  · intro hn
    exact List.eq_nil_iff_forall_not_mem.mpr fun r hr => g.expand_ne_nil r (hn r hr)
  · intro hn r hr; simp [hn] at hr

/-! ## The intended answer and the condition for it

Each searched name should be counted once if it is running and not at all if it is not. The exit code compares the
count with the number of names, and `read` drops an empty name at the end. -/

/-- The names of the third argument. -/
def searchedNames (searching_for_jobs : Text) : List Text := searching_for_jobs.splitOn ';'

/-- **The intended answer** for a container in state `RUNNING`: exit code 0 exactly when every searched
    name is the name of a running job, 2 otherwise; no missing name counts as found and every found name
    counts once. -/
structure ReportsPresence (g : Globbing) (table : List Text) (searching_for_jobs : Text) : Prop where
  code : (check_flink_containers g .running table searching_for_jobs).code =
    if ∀ n ∈ searchedNames searching_for_jobs, n ∈ runningColumn table then 0 else 2
  counted : ∀ n ∈ searchedNames searching_for_jobs,
    (foundEntries g (jobs_in_container g table) n).length = if n ∈ runningColumn table then 1 else 0

/-- **The condition**, on the list `R` of running jobs and the argument. It is about the names and the table alone,
    before the script has joined, split or matched anything. -/
structure NoConfusion (g : Globbing) (R : List Word) (searching_for_jobs : Text) : Prop where
  /-- A searched running job is a single word to pathname expansion, and the array holds it as it is. -/
  running : ∀ n ∈ searchedNames searching_for_jobs, n ∈ R →
    (g.expand n).length = 1 ∧ Occurs n (unwords (R.flatMap g.expand))
  /-- A searched name that is not running is blank, or no substring of the joined array. -/
  missing : ∀ n ∈ searchedNames searching_for_jobs, n ∉ R →
    Blank n ∨ ¬ Occurs n (unwords (R.flatMap g.expand))
  /-- Behind a final `;` no name is read, so some other name has to be missing. -/
  trailing : (searchedNames searching_for_jobs).getLast? = some [] →
    ∃ n ∈ splitFields ';' searching_for_jobs, n ∉ R

section Exact
variable (g : Globbing) {table : List Text} {searching_for_jobs : Text}

/-- A name adds nothing to the array if it is blank or not found. -/
theorem length_foundEntries_eq_zero_iff {jobs : List Word} {n : Text} :
    (foundEntries g jobs n).length = 0 ↔ Blank n ∨ ¬ Occurs n (unwords jobs) := by
  unfold foundEntries matchesJobs
  by_cases h : Occurs n (unwords jobs)
  · simp [h, g.unquoted_eq_nil_iff]
  · simp [h]

/-- A word adds one element if it is found and expands to one. -/
theorem length_foundEntries_eq_one_iff {jobs : List Word} {n : Text} (hn : IsWord n) :
    (foundEntries g jobs n).length = 1 ↔ (g.expand n).length = 1 ∧ Occurs n (unwords jobs) := by
  unfold foundEntries matchesJobs
  by_cases h : Occurs n (unwords jobs)
  · simp [h, g.unquoted_word hn]
  · simp [h]

/-- The exit code for a non-empty argument, from the entries of the array. -/
theorem code_eq (hS : searching_for_jobs ≠ []) (hnl : '\n' ∉ searching_for_jobs) :
    (check_flink_containers g .running table searching_for_jobs).code =
      if jobs_in_container g table ≠ [] ∧
          ((splitFields ';' searching_for_jobs).flatMap
            (foundEntries g (jobs_in_container g table))).length
          = (splitFields ';' searching_for_jobs).length
      then 0 else 2 := by
  by_cases hj : jobs_in_container g table = []
  · simp [check_flink_containers, ContainerReport.running, checkJobs, hj, hS]
  · have hlen : (jobs_in_container g table).length ≠ 0 := by simpa using hj
    simp only [check_flink_containers, ContainerReport.running, checkJobs, hS, hj, searchJobs,
      readArray_line hnl, matchLoop_jobs_found, ne_eq, not_true_eq_false, not_false_eq_true, if_false,
      List.length_eq_zero_iff, true_and]
    split <;> rfl

/-- When running names add one entry and missing names none, the count tells whether all are running. -/
theorem length_flatMap_eq_length_iff {f : Text → List Word} {R : List Word} :
    ∀ {ns : List Text}, (∀ n ∈ ns, (f n).length = if n ∈ R then 1 else 0) →
      (ns.flatMap f).length ≤ ns.length ∧ ((ns.flatMap f).length = ns.length ↔ ∀ n ∈ ns, n ∈ R)
  | [], _ => by simp
  | n :: ns, h => by
      obtain ⟨hle, hiff⟩ :=
        length_flatMap_eq_length_iff (fun m hm => h m (List.mem_cons_of_mem n hm))
      have hn := h n (List.mem_cons_self ..)
      rw [List.flatMap_cons, List.length_append, List.length_cons, List.forall_mem_cons, hn]
      by_cases hR : n ∈ R
      · simp only [hR, if_true, true_and]
        exact ⟨by omega, by rw [← hiff]; omega⟩
      · simp only [hR, if_false, false_and, iff_false]
        exact ⟨by omega, by omega⟩

/-- The count of line 71 against the searched names, when every name is counted as it should be. -/
theorem code_eq_of_counted (hS : searching_for_jobs ≠ []) (hnl : '\n' ∉ searching_for_jobs)
    (hR : ∀ r ∈ runningColumn table, r ≠ [])
    (hc : ∀ n ∈ searchedNames searching_for_jobs,
      (foundEntries g (jobs_in_container g table) n).length = if n ∈ runningColumn table then 1 else 0) :
    (check_flink_containers g .running table searching_for_jobs).code =
      if ∀ n ∈ splitFields ';' searching_for_jobs, n ∈ runningColumn table then 0 else 2 := by
  -- the one text without fields is the empty one
  have hfields : splitFields ';' searching_for_jobs ≠ [] := by
    intro hnil
    by_cases hl : (searching_for_jobs.splitOn ';').getLast? = some []
    · have happ := splitOn_eq_splitFields_append hl
      have hj : [';'].intercalate (searching_for_jobs.splitOn ';') = searching_for_jobs :=
        List.intercalate_splitOn ';'
      rw [happ, hnil] at hj
      exact hS (by simpa using hj.symm)
    · rw [splitFields_eq hl] at hnil
      exact List.splitOn_ne_nil ';' searching_for_jobs hnil
  rw [code_eq g hS hnl]
  have hcount := (length_flatMap_eq_length_iff (R := runningColumn table)
    (fun n hn => hc n (mem_splitOn_of_mem_splitFields hn))).2
  by_cases hj : jobs_in_container g table = []
  -- no job runs: the code is 2, and some field is missing
  · have hRnil := (jobs_in_container_eq_nil_iff g hR).mp hj
    obtain ⟨n, hn⟩ := List.exists_mem_of_ne_nil _ hfields
    rw [if_neg (fun h => h.1 hj), if_neg]
    intro hall
    have hmem := hall n hn
    rw [hRnil] at hmem
    exact absurd hmem (by simp)
  · simp only [hj, ne_eq, not_false_eq_true, true_and, hcount]

/-- When a name is counted as it should be. -/
theorem counted_iff (hR : ∀ r ∈ runningColumn table, r ≠ []) (n : Text) :
    (foundEntries g (jobs_in_container g table) n).length = (if n ∈ runningColumn table then 1 else 0) ↔
      (n ∈ runningColumn table →
        (g.expand n).length = 1 ∧ Occurs n (unwords ((runningColumn table).flatMap g.expand))) ∧
      (n ∉ runningColumn table →
        Blank n ∨ ¬ Occurs n (unwords ((runningColumn table).flatMap g.expand))) := by
  rw [jobs_in_container_eq g hR]
  by_cases hmem : n ∈ runningColumn table
  · rw [if_pos hmem, length_foundEntries_eq_one_iff g (isWord_of_mem_runningColumn hmem (hR n hmem))]
    exact ⟨fun h => ⟨fun _ => h, fun hnot => absurd hmem hnot⟩, fun h => h.1 hmem⟩
  · rw [if_neg hmem, length_foundEntries_eq_zero_iff]
    exact ⟨fun h => ⟨fun hyes => absurd hyes hmem, fun _ => h⟩, fun h => h.2 hmem⟩

/-- **The script reports the presence of the searched jobs exactly under `NoConfusion`.** Each name is counted once or
    not at all as it should be exactly if the first two parts of the condition hold (`counted_iff`); the third is
    about an empty name behind a final `;`, which `read` does not deliver. -/
theorem reportsPresence_iff (hR : ∀ r ∈ runningColumn table, r ≠ []) (hS : searching_for_jobs ≠ [])
    (hnl : '\n' ∉ searching_for_jobs) :
    ReportsPresence g table searching_for_jobs ↔ NoConfusion g (runningColumn table) searching_for_jobs := by
  have hempty : ([] : Text) ∉ runningColumn table := fun h => hR [] h rfl
  constructor
  · intro h
    refine ⟨fun n hn => ((counted_iff g hR n).mp (h.counted n hn)).1,
      fun n hn => ((counted_iff g hR n).mp (h.counted n hn)).2, ?_⟩
    intro htrail
    by_contra hcon
    push Not at hcon
    -- every field is running, so the code is 0, though the empty last name is missing
    have hcode := h.code
    rw [code_eq_of_counted g hS hnl hR h.counted, if_pos hcon, if_neg] at hcode
    · exact absurd hcode (by decide)
    · intro hall
      exact hempty (hall [] (List.mem_of_getLast? htrail))
  · intro h
    have hcounted : ∀ n ∈ searchedNames searching_for_jobs,
        (foundEntries g (jobs_in_container g table) n).length =
          if n ∈ runningColumn table then 1 else 0 := fun n hn =>
      (counted_iff g hR n).mpr ⟨h.running n hn, h.missing n hn⟩
    refine ⟨?_, hcounted⟩
    rw [code_eq_of_counted g hS hnl hR hcounted]
    by_cases htrail : (searchedNames searching_for_jobs).getLast? = some []
    · obtain ⟨n, hn, hmissing⟩ := h.trailing htrail
      rw [if_neg (fun hall => hmissing (hall n hn)),
        if_neg (fun hall => hmissing (hall n (mem_splitOn_of_mem_splitFields hn)))]
    · rw [splitFields_eq htrail]; rfl

end Exact

/-- Two of the three searched jobs run, and no name occurs in another. -/
theorem reportsPresence_two_of_three :
    ReportsPresence Globbing.empty ["a1 RUNNING event-engine".toList, "a2 FAILED dmp-events".toList,
      "a3 RUNNING HBase-Locking".toList] "event-engine;HBase-Locking;dmp-events".toList :=
  (reportsPresence_iff Globbing.empty (by decide) (by decide) (by decide)).mpr
    ⟨by decide +kernel, by decide +kernel, by decide +kernel⟩

/-- The job `elasticsearch-user-prime-bigtenants` passes for the missing `elasticsearch-user-prime`. -/
theorem bigtenants_passes_for_prime :
    let table := ["a1 RUNNING elasticsearch-user-prime-bigtenants".toList]
    let searching_for_jobs := "elasticsearch-user-prime".toList
    (check_flink_containers Globbing.empty .running table searching_for_jobs).code = 0 ∧
      searchedNames searching_for_jobs = [searching_for_jobs] ∧
      searching_for_jobs ∉ runningColumn table := by
  decide

end Nrpe.FlinkContainers
end StgEnvironment
