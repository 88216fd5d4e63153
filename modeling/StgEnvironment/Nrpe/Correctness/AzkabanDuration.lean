import StgEnvironment.Nrpe.AzkabanJob

/-!
# `Nrpe.Correctness.AzkabanDuration`: which execution `duration` judges

`duration` is meant to judge the execution that has been running longest, in whole seconds of the clock as the
plugin counts them (`Execution.lasted`). It judges the first one of the list. `judgesLongest_iff` says for which lists
the exit code is the intended one, and `judgesLongest_perm_iff` for which sets of executions that is so in every order.

Both conditions speak of the two thresholds only: `Reached` is that some execution has reached one, `FirstReached` that
the first one has.
-/

namespace StgEnvironment
namespace Nrpe.AzkabanJob
open Shell (Timestamp)

/-- For how many seconds the execution has been running at the time `now`. -/
def Execution.lasted (now : Timestamp) (e : Execution) : ℤ := now.val - e.startTime.val.tdiv 1000

/-- Some running execution has lasted at least `threshold` seconds. -/
def Reached (now : Timestamp) (running : Running) (threshold : ℕ) : Prop :=
  ∃ e ∈ running.executions, threshold ≤ e.lasted now

instance (now : Timestamp) (running : Running) (threshold : ℕ) : Decidable (Reached now running threshold) :=
  inferInstanceAs (Decidable (∃ e ∈ running.executions, _))

/-- The first of the list has. -/
def FirstReached (now : Timestamp) (running : Running) (threshold : ℕ) : Prop :=
  ∃ e, running.executions.head? = some e ∧ threshold ≤ e.lasted now

/-- **The intended behaviour** of `duration`. -/
def JudgesLongest (f : Flow) (history : History) (now : Timestamp) (running : Running) : Prop :=
  (check_azkaban_job "duration".toList f (running.answers history now)).code =
    if Reached now running f.critical_threshold then 2
    else if Reached now running f.warning_threshold then 1 else 0

/-- **The condition**: the first of the list has reached the threshold that counts. -/
def FirstDecides (f : Flow) (now : Timestamp) (running : Running) : Prop :=
  (Reached now running f.critical_threshold → FirstReached now running f.critical_threshold) ∧
  (¬ Reached now running f.critical_threshold → Reached now running f.warning_threshold →
    FirstReached now running f.warning_threshold)

variable {f : Flow} {history : History} {now : Timestamp} {running : Running}

/-! ## What the plugin reads -/

/-- The number of the first execution is its own. -/
theorem job_start_eq (running : Running) : running.job_start = running.executions.head?.map Execution.startTime := by
  unfold Running.job_start getRunning
  rw [List.head?_map]
  cases hexec : running.executions with
  | nil => rfl
  | cons e rest =>
      show (fetchexecflow running e.execid).map Execution.startTime = some e.startTime
      simp [fetchexecflow, hexec]

/-- The severity of a duration. -/
def Flow.severity (f : Flow) (seconds : ℤ) : ℕ :=
  if f.critical_threshold ≤ seconds then 2 else if f.warning_threshold ≤ seconds then 1 else 0

/-- Without a running execution there is nothing to judge. -/
theorem code_nil (h : running.executions = []) :
    (check_azkaban_job "duration".toList f (running.answers history now)).code = 0 := by
  rw [check_azkaban_job, if_pos rfl, Running.answers, job_start_eq, h]
  rfl

/-- **The exit code is the severity of the first execution.** -/
theorem code_cons {e : Execution} {rest : List Execution} (h : running.executions = e :: rest) :
    (check_azkaban_job "duration".toList f (running.answers history now)).code = f.severity (e.lasted now) := by
  rw [check_azkaban_job, if_pos rfl, Running.answers, job_start_eq, h]
  show (duration f ⟨some e.startTime, history, now⟩).code = _
  unfold duration Flow.severity Execution.lasted
  simp only [Flow.wrap_critical, Flow.wrap_warning, now.wrap_sub_tdiv]
  by_cases hc : (f.critical_threshold : ℤ) ≤ now.val - e.startTime.val.tdiv 1000
  · simp only [if_pos hc]
  simp only [if_neg hc]
  by_cases hw : (f.warning_threshold : ℤ) ≤ now.val - e.startTime.val.tdiv 1000
  · simp only [if_pos hw]
  · simp only [if_neg hw]

/-! ## One list -/

/-- What the first execution has reached, some execution has. -/
theorem FirstReached.reached {threshold : ℕ} (h : FirstReached now running threshold) :
    Reached now running threshold := by
  obtain ⟨e, hhead, hlasted⟩ := h
  exact ⟨e, List.mem_of_mem_head? hhead, hlasted⟩

/-- **The longest-running execution is judged exactly if the first one decides.** What the first one has reached some
    execution has, so that one half of each equivalence holds anyway. -/
theorem judgesLongest_iff_firstDecides : JudgesLongest f history now running ↔ FirstDecides f now running := by
  unfold JudgesLongest FirstDecides
  cases hexec : running.executions with
  | nil =>
      have hnone : ∀ threshold, ¬ Reached now running threshold := by
        rintro threshold ⟨e, he, -⟩
        rw [hexec] at he
        exact absurd he List.not_mem_nil
      rw [code_nil hexec, if_neg (hnone _), if_neg (hnone _)]
      exact ⟨fun _ => ⟨fun h => absurd h (hnone _), fun _ h => absurd h (hnone _)⟩, fun _ => rfl⟩
  | cons e rest =>
      have hfirst : ∀ threshold : ℕ, FirstReached now running threshold ↔ threshold ≤ e.lasted now := by
        intro threshold
        unfold FirstReached
        rw [hexec, List.head?_cons]
        exact ⟨fun ⟨_, heq, h⟩ => Option.some.inj heq ▸ h, fun h => ⟨e, rfl, h⟩⟩
      have hreached : ∀ {threshold : ℕ}, threshold ≤ e.lasted now → Reached now running threshold := fun h =>
        ((hfirst _).mpr h).reached
      -- what the first one has reached, some execution has, so one half of each equivalence holds
      rw [code_cons hexec, hfirst, hfirst, Flow.severity, FlinkContainers.verdicts_eq_iff]
      constructor
      · rintro ⟨hcrit, hwarn⟩
        exact ⟨hcrit.mpr, fun hnot => (hwarn hnot).mpr⟩
      · rintro ⟨hcrit, hwarn⟩
        exact ⟨⟨hreached, hcrit⟩, fun hnot => ⟨hreached, hwarn hnot⟩⟩

/-! ## All orders of the list -/

/-- The listing does not change what the executions have reached. -/
theorem reached_perm {other : Running} (hperm : other.executions.Perm running.executions) (threshold : ℕ) :
    Reached now other threshold ↔ Reached now running threshold := by
  unfold Reached
  exact ⟨fun ⟨e, he, h⟩ => ⟨e, hperm.mem_iff.mp he, h⟩, fun ⟨e, he, h⟩ => ⟨e, hperm.mem_iff.mpr he, h⟩⟩

/-- Any running execution may be the first of the list. -/
theorem exists_first {e : Execution} (he : e ∈ running.executions) :
    ∃ other : Running, other.executions.Perm running.executions ∧ other.executions.head? = some e := by
  have hperm := List.perm_cons_erase he
  exact ⟨⟨e :: running.executions.erase e, (hperm.map _).nodup_iff.mp running.distinct⟩, hperm.symm, rfl⟩

/-- **The condition for every order**: the executions have all reached the threshold that counts, or none has. -/
def AllDecide (f : Flow) (now : Timestamp) (running : Running) : Prop :=
  (Reached now running f.critical_threshold → ∀ e ∈ running.executions, f.critical_threshold ≤ e.lasted now) ∧
  (¬ Reached now running f.critical_threshold → Reached now running f.warning_threshold →
    ∀ e ∈ running.executions, f.warning_threshold ≤ e.lasted now)

/-- The first one decides in every order exactly if all of them would decide alike, since each can be put first. -/
theorem firstDecides_perm_iff :
    (∀ other : Running, other.executions.Perm running.executions → FirstDecides f now other) ↔
      AllDecide f now running := by
  constructor
  · intro h
    have hall : ∀ e ∈ running.executions, ∀ threshold : ℕ,
        (∀ other : Running, other.executions.Perm running.executions → FirstReached now other threshold) →
          threshold ≤ e.lasted now := by
      intro e he threshold hfirst
      obtain ⟨other, hperm, hhead⟩ := exists_first he
      obtain ⟨e', hhead', hlasted⟩ := hfirst other hperm
      rw [hhead] at hhead'
      exact Option.some.inj hhead' ▸ hlasted
    refine ⟨fun hrc e he => hall e he _ fun other hperm => ?_, fun hrc hrw e he => hall e he _ fun other hperm => ?_⟩
    · exact (h other hperm).1 ((reached_perm hperm _).mpr hrc)
    · exact (h other hperm).2 (fun hr => hrc ((reached_perm hperm _).mp hr)) ((reached_perm hperm _).mpr hrw)
  · intro h other hperm
    have hfirst : ∀ threshold : ℕ, Reached now other threshold →
        (∀ e ∈ running.executions, threshold ≤ e.lasted now) → FirstReached now other threshold := by
      rintro threshold ⟨e, he, -⟩ hall
      cases hexec : other.executions with
      | nil => rw [hexec] at he; exact absurd he List.not_mem_nil
      | cons first rest =>
          have hmem : first ∈ running.executions := hperm.mem_iff.mp (hexec ▸ List.mem_cons_self ..)
          exact ⟨first, by rw [hexec, List.head?_cons], hall first hmem⟩
    refine ⟨fun hrc => hfirst _ hrc (h.1 ((reached_perm hperm _).mp hrc)), fun hrc hrw => hfirst _ hrw ?_⟩
    exact h.2 (fun hr => hrc ((reached_perm hperm _).mpr hr)) ((reached_perm hperm _).mp hrw)

/-- **For which executions the longest-running one is judged**: in this order of the list, and in every order. The
    plugin judges the first of the list, whichever it is; so that one has to have reached the threshold that counts,
    and for every order all of them have to. -/
theorem judgesLongest_iff (f : Flow) (history : History) (now : Timestamp) (running : Running) :
    (JudgesLongest f history now running ↔ FirstDecides f now running) ∧
    ((∀ other : Running, other.executions.Perm running.executions → JudgesLongest f history now other) ↔
      AllDecide f now running) := by
  refine ⟨judgesLongest_iff_firstDecides, ?_⟩
  rw [← firstDecides_perm_iff]
  exact forall_congr' fun _ => imp_congr_right fun _ => judgesLongest_iff_firstDecides

/-- A run of two hours behind one that has just started, with the thresholds of half an hour and an hour. -/
def hidden : Running :=
  ⟨[⟨102, ⟨7199000, by decide, by decide⟩⟩, ⟨101, ⟨0, by decide, by decide⟩⟩], by decide⟩

/-- An execution of two hours is hidden behind one that has just been started. -/
theorem not_judgesLongest_hidden :
    ¬ JudgesLongest ⟨"batch".toList, "camus".toList, 1800, 3600, by decide, by decide⟩ ⟨[], by decide⟩
      ⟨7200, by decide, by decide⟩ hidden := by
  intro h
  unfold JudgesLongest at h
  have hexec : hidden.executions = ⟨102, ⟨7199000, by decide, by decide⟩⟩ :: [⟨101, ⟨0, by decide, by decide⟩⟩] := rfl
  rw [code_cons hexec, if_pos ⟨⟨101, ⟨0, by decide, by decide⟩⟩, by decide, by decide⟩] at h
  exact absurd h (by decide)

end Nrpe.AzkabanJob
end StgEnvironment
