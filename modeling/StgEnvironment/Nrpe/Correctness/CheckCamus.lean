import StgEnvironment.Nrpe.CheckCamus

/-!
# `Nrpe.Correctness.CheckCamus`: one status for each run, and a severity that grows with the running time

Two things are expected of the plugin. It reports: one line, with the exit code of its status (`Reports`). And it
escalates: of two executions that are still running, the one that was started first is judged at least as severely
(`Escalates`). An execution that ends between `getRunning` and the second `fetchexecflow` is not reported, and a
duration of 300 seconds is between `-lt 300` and `-gt 300`; `reports_escalates_iff` shows that this is all.

Times are as long as the arithmetic of the shell has them, and no difference of two of them wraps around
(`Shell.wrap_sub`).
-/

namespace StgEnvironment
namespace Nrpe.CheckCamus
open FlinkContainers (Verdict)
open Shell (Timestamp)

/-- A status line and its exit code. -/
def HasStatus (line : Text) (code : ℕ) : Prop :=
  ∃ message, (line = "OK ".toList ++ message ∧ code = 0) ∨ (line = "WARNING ".toList ++ message ∧ code = 1) ∨
    (line = "CRITICAL ".toList ++ message ∧ code = 2)

/-- **The report**: one status line and its exit code. -/
def Reports (v : Verdict) : Prop := ∃ line, v.output = [line] ∧ HasStatus line v.code

/-- The verdict on an execution that is still running. -/
def stillRunning (execid : ℕ) (startTime now : Timestamp) : Verdict := check_camus (some ⟨execid, startTime, none⟩) now

/-- **The escalation**: the execution that was started first is judged at least as severely. -/
def Escalates (first second : ℕ) (s₁ s₂ now : Timestamp) : Prop :=
  s₁.val ≤ s₂.val → (stillRunning second s₂ now).code ≤ (stillRunning first s₁ now).code

/-- The time from `s` to `now`, in whole seconds. -/
def lasted (now s : Timestamp) : ℤ := (now.val - s.val).tdiv 1000

/-- Whoever was started earlier has lasted at least as long. -/
theorem lasted_antitone (now : Timestamp) {s₁ s₂ : Timestamp} (h : s₁.val ≤ s₂.val) : lasted now s₂ ≤ lasted now s₁ :=
  Int.tdiv_le_tdiv (by decide) (by omega)

/-! ## The report -/

/-- `endTime` is `-1` exactly while the execution runs. -/
theorem endTime_eq_iff (e : Execution) (n : ℕ) : e.endTime n = -1 ↔ e.Runs n := by
  unfold Execution.endTime Execution.Runs
  cases hfin : e.finish with
  | none => simp
  | some p =>
      obtain ⟨found, ended⟩ := p
      show (if n < found then (-1 : ℤ) else ended) = -1 ↔ _
      by_cases hn : n < found
      · simp [hn]
      · have hended : (ended : ℤ) ≠ -1 := by omega
        simp [hn, hended]

theorem reports_judge (execid : ℕ) (seconds : ℤ) : Reports (judge execid seconds) := by
  unfold judge
  split_ifs
  · exact ⟨_, rfl, _, Or.inl ⟨rfl, rfl⟩⟩
  · exact ⟨_, rfl, _, Or.inr (Or.inl ⟨rfl, rfl⟩)⟩
  · exact ⟨_, rfl, _, Or.inr (Or.inr ⟨rfl, rfl⟩)⟩

/-- An execution that still runs is judged by how long it has. -/
theorem check_camus_runs {e : Execution} (h : e.Runs 1) (now : Timestamp) :
    check_camus (some e) now = judge e.execid (lasted now e.startTime) := by
  rw [lasted, ← now.wrap_sub]
  exact if_pos ((endTime_eq_iff e 1).mpr h)

/-- One that has ended meanwhile gets neither a line nor a status other than that of the `if`. -/
theorem check_camus_ended {e : Execution} (h : ¬ e.Runs 1) (now : Timestamp) : check_camus (some e) now = ⟨[], 0⟩ :=
  if_neg fun heq => h ((endTime_eq_iff e 1).mp heq)

/-- **The plugin reports exactly if the execution does not end before the second answer.** -/
theorem reports_iff (getRunning : Option Execution) (now : Timestamp) :
    Reports (check_camus getRunning now) ↔ ∀ e, getRunning = some e → e.Runs 1 := by
  cases getRunning with
  | none => exact ⟨fun _ e he => (by cases he), fun _ => ⟨_, rfl, _, Or.inl ⟨rfl, rfl⟩⟩⟩
  | some e =>
      by_cases hruns : e.Runs 1
      · rw [check_camus_runs hruns]
        exact ⟨fun _ e' he' => Option.some.inj he' ▸ hruns, fun _ => reports_judge _ _⟩
      · rw [check_camus_ended hruns]
        refine ⟨?_, fun h => absurd (h e rfl) hruns⟩
        rintro ⟨line, houtput, -⟩
        cases houtput

/-! ## The escalation -/

/-- The exit code as a function of the seconds. -/
theorem judge_code (execid : ℕ) (seconds : ℤ) :
    (judge execid seconds).code =
      if seconds < 300 then 0 else if seconds > 300 ∧ seconds < 3600 then 1 else 2 := by
  unfold judge
  split_ifs <;> rfl

theorem stillRunning_eq (execid : ℕ) (s now : Timestamp) : stillRunning execid s now = judge execid (lasted now s) :=
  check_camus_runs (fun _ _ h => by cases h) now

/-- **More seconds are judged less severely only against the second in between.** At 300 seconds the script takes its
    last branch, which is the critical one, since neither `-lt` nor `-gt` holds; from 301 seconds on it warns. -/
theorem judge_code_le_iff {a b : ℤ} (h : a ≤ b) (first second : ℕ) :
    (judge second a).code ≤ (judge first b).code ↔ ¬ (a = 300 ∧ 300 < b ∧ b < 3600) := by
  rw [judge_code, judge_code]
  split_ifs <;> omega

/-- The one exception: the later of the two has lasted 300 seconds, and the earlier one less than an hour. -/
theorem escalates_iff (first second : ℕ) (s₁ s₂ now : Timestamp) :
    Escalates first second s₁ s₂ now ↔
      ¬ (lasted now s₂ = 300 ∧ 300 < lasted now s₁ ∧ lasted now s₁ < 3600) := by
  unfold Escalates
  rw [stillRunning_eq, stillRunning_eq]
  constructor
  · rintro h ⟨hyoung, hold, hlimit⟩
    have hle : s₁.val ≤ s₂.val := by
      by_contra hlt
      have := lasted_antitone now (not_le.mp hlt).le
      omega
    exact (judge_code_le_iff (lasted_antitone now hle) first second).mp (h hle) ⟨hyoung, hold, hlimit⟩
  · intro h hle
    exact (judge_code_le_iff (lasted_antitone now hle) first second).mpr h

/-- **When the plugin does what is expected of it.** It reports an execution that it is given as running exactly if
    that still runs at the second request after it, and it judges a longer run less severely than a shorter one only
    if the shorter has lasted just 300 seconds. -/
theorem reports_escalates_iff (getRunning : Option Execution) (first second : ℕ) (s₁ s₂ now : Timestamp) :
    (Reports (check_camus getRunning now) ↔ ∀ e, getRunning = some e → e.Runs 1) ∧
    (Escalates first second s₁ s₂ now ↔
      ¬ (lasted now s₂ = 300 ∧ 300 < lasted now s₁ ∧ lasted now s₁ < 3600)) :=
  ⟨reports_iff getRunning now, escalates_iff first second s₁ s₂ now⟩

/-- An execution that ends behind the first `fetchexecflow`, and two that have run for 301 and for 300 seconds. -/
theorem not_reports_not_escalates :
    ¬ Reports (check_camus (some ⟨7, ⟨0, by decide, by decide⟩, some (1, 60000)⟩) ⟨60000, by decide, by decide⟩) ∧
      ¬ Escalates 7 8 ⟨0, by decide, by decide⟩ ⟨1000, by decide, by decide⟩ ⟨301000, by decide, by decide⟩ := by
  constructor
  · rintro ⟨line, houtput, -⟩
    cases houtput
  · intro h
    exact absurd (h (by decide)) (by decide)

end Nrpe.CheckCamus
end StgEnvironment
