import StgEnvironment.Nrpe.AzkabanJob

/-!
# `Nrpe.Correctness.AzkabanJob`: which executions `failures` counts

The plugin is meant to count the failures among the last `N` finished runs. It fetches one execution more, in case the
newest is not over, and drops one again: the newest if it is `RUNNING`, else the one at the fixed index 3.
`countsFinishedRuns_iff` shows for which histories that is right. The fixed index is the last one for `N = 3` only, and
an execution that is `PREPARING` is taken for a finished one.

The proof goes from words to statuses (`trim_map`), and then compares two counts over the same window, of which one is
without the element at a fixed place and the other without the one at its end.
-/

namespace StgEnvironment
namespace Nrpe.AzkabanJob
open Shell (wrap wrap_eq_self)

/-! ## The array, as statuses -/

/-- Two statuses of one text are the same, so that counting words is counting statuses. -/
theorem Status.text_injective : Function.Injective Status.text := by
  rintro ⟨s, _, _⟩ ⟨t, _, _⟩ h
  obtain rfl : s = t := h
  rfl

theorem Status.isWord (s : Status) : IsWord s.text := by
  refine ⟨s.nonempty, fun c hc => ?_⟩
  have hletter : (c.isUpper || c == '_') = true := List.all_eq_true.mp s.letters c hc
  by_contra hblank
  have hcases : (c = ' ' ∨ c = '\t') ∨ c = '\n' := by
    rw [Bool.not_eq_false, isBlank, Bool.or_eq_true, Bool.or_eq_true] at hblank
    exact hblank.imp (Or.imp eq_of_beq eq_of_beq) eq_of_beq
  rcases hcases with (rfl | rfl) | rfl <;> exact absurd hletter (by decide)

/-- The array holds the window of the history. -/
theorem last_jobs_eq (h : History) {n : ℕ} (hn : n + 1 < 2 ^ 63) :
    last_jobs h n = (fetchFlowExecutions h (n + 1)).map Status.text := by
  have hlength : (wrap (n + 1)).toNat = n + 1 := by rw [wrap_eq_self ⟨by omega, by omega⟩]; omega
  rw [last_jobs, hlength]
  refine words_unwords fun w hw => ?_
  obtain ⟨s, -, rfl⟩ := List.mem_map.mp hw
  exact s.isWord

theorem countFailures_eq (jobs : List Word) : countFailures jobs = jobs.count "FAILED".toList := by
  have hfold : ∀ (jobs : List Word) (k : ℕ), jobs.foldl (fun failures_count job_status =>
      if job_status = "FAILED".toList then failures_count + 1 else failures_count) k =
        k + jobs.count "FAILED".toList := by
    intro jobs
    induction jobs with
    | nil => intro k; rfl
    | cons job jobs ih =>
        intro k
        rw [List.foldl_cons, ih, List.count_cons]
        by_cases hjob : job = "FAILED".toList
        · rw [if_pos hjob, if_pos (beq_iff_eq.mpr hjob)]; omega
        · rw [if_neg hjob, if_neg fun h => hjob (beq_iff_eq.mp h)]; omega
  rw [countFailures, hfold, Nat.zero_add]

/-- What is left of a window. -/
def trimmed (window : List Status) : List Status :=
  if window.head? = some RUNNING then window.tail else window.eraseIdx 3

theorem trim_map (window : List Status) : trim (window.map Status.text) = (trimmed window).map Status.text := by
  have hhead : ((window.map Status.text)[0]? = some "RUNNING".toList) ↔ window.head? = some RUNNING := by
    cases window with
    | nil => simp
    | cons s rest =>
        show some s.text = some RUNNING.text ↔ some s = some RUNNING
        rw [Option.some_inj, Option.some_inj, Status.text_injective.eq_iff]
  unfold trim trimmed
  by_cases hrun : window.head? = some RUNNING
  · rw [if_pos (hhead.mpr hrun), if_pos hrun, List.eraseIdx_zero, List.map_tail]
  · rw [if_neg fun h => hrun (hhead.mp h), if_neg hrun, List.eraseIdx_map]

/-- The number that the plugin judges, of the statuses that it fetched. -/
theorem failures_count_eq (f : Flow) (h : History) :
    failures_count f h = (trimmed (fetchFlowExecutions h (f.critical_threshold + 1))).count FAILED := by
  rw [failures_count, last_jobs_eq h f.critical_bounded, trim_map, countFailures_eq]
  exact List.count_map_of_injective _ Status.text Status.text_injective FAILED

/-- The window has no more executions than were asked for, so the number is one of the shell. -/
theorem wrap_failures_count (f : Flow) (h : History) : wrap (failures_count f h) = failures_count f h := by
  have hsub : ∀ window : List Status, (trimmed window).Sublist window := by
    intro window
    unfold trimmed
    split
    · exact List.tail_sublist window
    · exact List.eraseIdx_sublist window 3
  have hle : failures_count f h ≤ f.critical_threshold + 1 := by
    rw [failures_count_eq]
    calc (trimmed (fetchFlowExecutions h (f.critical_threshold + 1))).count FAILED
        ≤ (trimmed (fetchFlowExecutions h (f.critical_threshold + 1))).length := List.count_le_length
      _ ≤ (fetchFlowExecutions h (f.critical_threshold + 1)).length := (hsub _).length_le
      _ ≤ f.critical_threshold + 1 := List.length_take_le _ _
  have hlt := f.critical_bounded
  exact wrap_eq_self ⟨by omega, by omega⟩

/-- The exit code, by the number that is judged. -/
theorem failures_code (f : Flow) (h : History) :
    (failures f h).code = if f.critical_threshold ≤ failures_count f h then 2
      else if f.warning_threshold ≤ failures_count f h then 1 else 0 := by
  unfold failures
  simp only [Flow.wrap_critical, Flow.wrap_warning, wrap_failures_count, Nat.cast_le]
  split_ifs <;> rfl

/-! ## Counting without one entry -/

/-- An entry that is counted. -/
def counts (a : Option Status) : ℕ := if a = some FAILED then 1 else 0

/-- What is cut out at an index is missing from the count, if it had failed. -/
theorem count_eraseIdx_add (l : List Status) (i : ℕ) : (l.eraseIdx i).count FAILED + counts l[i]? = l.count FAILED := by
  induction l generalizing i with
  | nil => simp [counts]
  | cons s l ih =>
      cases i with
      | zero => simp [counts, List.count_cons]
      | succ i =>
          have htail := ih i
          simp only [List.eraseIdx_cons_succ, List.count_cons, List.getElem?_cons_succ]
          omega

/-- One status more in the window is counted if it has failed. -/
theorem count_take_succ (l : List Status) (n : ℕ) :
    (l.take (n + 1)).count FAILED = (l.take n).count FAILED + counts l[n]? := by
  rw [List.take_add_one, List.count_append]
  cases l[n]? with
  | none => simp [counts]
  | some s => simp [counts, List.count_singleton]

/-! ## The intended count -/

/-- The number of failures among the last `n` executions that are over. -/
def recentFailures (n : ℕ) (h : History) : ℕ :=
  ((h.executions.filter fun s => decide s.Finished).take n).count FAILED

/-- **The intended behaviour** of `failures`. -/
structure CountsFinishedRuns (f : Flow) (a : Answers) : Prop where
  count : failures_count f a.history = recentFailures f.critical_threshold a.history
  code : (check_azkaban_job "failures".toList f a).code =
    if f.critical_threshold ≤ recentFailures f.critical_threshold a.history then 2
    else if f.warning_threshold ≤ recentFailures f.critical_threshold a.history then 1 else 0

/-- **The condition**, on the fetched window: the newest execution is running, or what line 52 drops makes no other
difference than the entry that has to go. -/
def DropsRight (n : ℕ) (window : List Status) : Prop :=
  window.head? = some RUNNING ∨
    (window.head? = some PREPARING ∧ window[3]? ≠ some FAILED) ∨
    (window.head? ≠ some PREPARING ∧ (window[3]? = some FAILED ↔ window[n]? = some FAILED))

instance (n : ℕ) (window : List Status) : Decidable (DropsRight n window) :=
  inferInstanceAs (Decidable (_ ∨ _ ∨ _))

/-- Behind the newest execution everything is over. -/
theorem filter_finished {s : Status} {rest : List Status} (h : ∀ t ∈ rest, t.Finished) :
    (s :: rest).filter (fun t => decide t.Finished) = if s.Finished then s :: rest else rest := by
  have hrest : rest.filter (fun t => decide t.Finished) = rest :=
    List.filter_eq_self.mpr fun t ht => decide_eq_true (h t ht)
  by_cases hs : s.Finished
  · rw [if_pos hs, List.filter_cons, if_pos (decide_eq_true hs), hrest]
  · rw [if_neg hs, List.filter_cons, if_neg fun hd => hs (of_decide_eq_true hd), hrest]

/-- The window with a newest execution that is over: it should lose its last entry. -/
theorem recentFailures_add_of_finished {h : History} (hfin : ∀ s ∈ h.executions, s.Finished) (n : ℕ) :
    recentFailures n h + counts h.executions[n]? = (fetchFlowExecutions h (n + 1)).count FAILED := by
  have hall : h.executions.filter (fun t => decide t.Finished) = h.executions :=
    List.filter_eq_self.mpr fun t ht => decide_eq_true (hfin t ht)
  rw [recentFailures, hall, fetchFlowExecutions, count_take_succ]

/-- The window with a newest execution that is not over: it should lose that one, which is no failure. -/
theorem recentFailures_of_unfinished {h : History} {s : Status} {rest : List Status}
    (hexec : h.executions = s :: rest) (hs : ¬ s.Finished) (n : ℕ) :
    recentFailures n h = (fetchFlowExecutions h (n + 1)).tail.count FAILED := by
  have hrest : ∀ t ∈ rest, t.Finished := fun t ht => h.finished t (by rw [hexec]; exact ht)
  rw [recentFailures, hexec, filter_finished hrest, if_neg hs, fetchFlowExecutions, hexec, List.take_succ_cons,
    List.tail_cons]

/-- Two places count alike if both have failed or neither has. -/
theorem counts_eq_iff {a b : Option Status} : counts a = counts b ↔ (a = some FAILED ↔ b = some FAILED) := by
  unfold counts
  by_cases ha : a = some FAILED <;> by_cases hb : b = some FAILED <;> simp [ha, hb]

/-- Behind a preparing execution, the entry that is dropped counts against the plugin if it is a failure. -/
theorem dropsRight_of_preparing {n : ℕ} {window : List Status} (h : window.head? = some PREPARING) :
    DropsRight n window ↔ counts window[3]? = 0 := by
  have hnotrun : PREPARING ≠ RUNNING := by decide
  have hcounts : counts window[3]? = 0 ↔ window[3]? ≠ some FAILED := by simp [counts]
  rw [hcounts]
  simp [DropsRight, h, hnotrun]

/-- Behind an execution that is over, the entry that is dropped has to count as the last one. -/
theorem dropsRight_of_finished {n : ℕ} {window : List Status} (hrun : window.head? ≠ some RUNNING)
    (hprep : window.head? ≠ some PREPARING) : DropsRight n window ↔ counts window[3]? = counts window[n]? := by
  rw [counts_eq_iff]
  simp [DropsRight, hrun, hprep]

/-- **The count is right exactly if the right entry is dropped.** By the status of the newest execution: a running one
    is dropped, one in preparation should be and counts as no failure, and with a finished one it is the last entry
    that should go. -/
theorem failures_count_iff (f : Flow) (h : History) :
    failures_count f h = recentFailures f.critical_threshold h ↔
      DropsRight f.critical_threshold (fetchFlowExecutions h (f.critical_threshold + 1)) := by
  rw [failures_count_eq]
  generalize f.critical_threshold = n
  have herase := count_eraseIdx_add (fetchFlowExecutions h (n + 1)) 3
  have hget : (fetchFlowExecutions h (n + 1))[n]? = h.executions[n]? := List.getElem?_take_of_succ
  cases hexec : h.executions with
  | nil =>
      have hwindow : fetchFlowExecutions h (n + 1) = [] := by rw [fetchFlowExecutions, hexec, List.take_nil]
      simp [hwindow, trimmed, recentFailures, hexec, DropsRight]
  | cons s rest =>
      have hwindow : fetchFlowExecutions h (n + 1) = s :: rest.take n := by
        rw [fetchFlowExecutions, hexec, List.take_succ_cons]
      have hhead : (fetchFlowExecutions h (n + 1)).head? = some s := by rw [hwindow, List.head?_cons]
      have hother : ∀ {t}, s ≠ t → (fetchFlowExecutions h (n + 1)).head? ≠ some t := fun hne heq =>
        hne (Option.some.inj (hhead.symm.trans heq))
      by_cases hrun : s = RUNNING
      -- the running execution is dropped
      · have hrunning : (fetchFlowExecutions h (n + 1)).head? = some RUNNING := by rw [hhead, hrun]
        rw [trimmed, if_pos hrunning, recentFailures_of_unfinished hexec fun hfin => hfin.1 hrun]
        exact ⟨fun _ => Or.inl hrunning, fun _ => rfl⟩
      rw [trimmed, if_neg (hother hrun)]
      by_cases hprep : s = PREPARING
      -- it would have to go, and counts as no failure
      · have hrecent := recentFailures_of_unfinished hexec (fun hfin => hfin.2 hprep) n
        have htail : (fetchFlowExecutions h (n + 1)).tail.count FAILED =
            (fetchFlowExecutions h (n + 1)).count FAILED := by
          rw [hwindow, List.tail_cons, List.count_cons_of_ne (by rw [hprep]; decide)]
        rw [dropsRight_of_preparing (hhead.trans (congrArg some hprep))]
        omega
      -- the entry behind the last `n` would have to go
      · have hfin : ∀ t ∈ h.executions, t.Finished := by
          rw [hexec]
          exact List.forall_mem_cons.mpr ⟨⟨hrun, hprep⟩, fun t ht => h.finished t (by rw [hexec]; exact ht)⟩
        have hrecent := recentFailures_add_of_finished hfin n
        rw [dropsRight_of_finished (hother hrun) (hother hprep), hget]
        omega

/-- **`failures` judges the last finished runs exactly if the right entry is dropped.** The plugin asks for one run
    more than it judges and drops one entry, which is at a fixed place unless the newest run is running. The exit code
    follows the number of failures (`failures_code`), so that it is right where the number is. -/
theorem countsFinishedRuns_iff (f : Flow) (a : Answers) :
    CountsFinishedRuns f a ↔
      DropsRight f.critical_threshold (fetchFlowExecutions a.history (f.critical_threshold + 1)) := by
  rw [← failures_count_iff]
  constructor
  · intro h; exact h.count
  · intro h
    refine ⟨h, ?_⟩
    have hcheck : check_azkaban_job "failures".toList f a = failures f a.history := by
      rw [check_azkaban_job, if_neg (by decide), if_pos rfl]
    rw [hcheck, ← h, failures_code]

/-- With the threshold 1, the failure before the last run counts as one of it. -/
theorem not_countsFinishedRuns_one :
    ¬ CountsFinishedRuns ⟨"batch".toList, "camus".toList, 1, 1, by decide, by decide⟩
      ⟨none, ⟨[SUCCEEDED, FAILED], by decide⟩, ⟨0, by decide, by decide⟩⟩ := by
  intro h
  exact absurd h.count (by decide)

end Nrpe.AzkabanJob
end StgEnvironment
