import StgEnvironment.Nrpe.PuppetLastRun

/-!
# `Nrpe.Correctness.PuppetLastRun`: the exit status for every summary

The plugin should be critical on every summary that it cannot use (`intended`). It handles a value that is no mapping
where one is expected, but neither a missing key nor a time that is no number, and an exception that is not handled
is a warning. `rightStatus_iff` says exactly for which summaries the exit status is the intended one.

The exact difference of the times is compared with the thresholds in `intended`, the script compares the float that it
gets for the difference.

## Contents
- **Look-ups**: what of the three values is there, and which exception comes first where one is not.
- **The judgement**: the status for values of every kind, numbers or not.
- **The condition**: `RightlyJudged` for a summary with all three values, and the cases without.
-/

namespace StgEnvironment
namespace Nrpe.PuppetLastRun
open Python
open FlinkContainers (Verdict verdicts_eq_iff)

/-! ## The intended status -/

/-- The value under `outer` and `inner`. -/
def at? (v : Value) (outer inner : Text) : Option Value := (v.entry? outer).bind fun w => w.entry? inner

/-- `time.last_run`, where it is there. -/
def lastRun? (v : Value) : Option Value := at? v "time".toList "last_run".toList
def failed? (v : Value) : Option Value := at? v "resources".toList "failed".toList
def failure? (v : Value) : Option Value := at? v "events".toList "failure".toList

section
variable (t : Thresholds) (now : ℚ)

/-- The status for three numbers. -/
def statusOf (last failed failure : Number) : ℕ :=
  if (last.minus now).exceeds t.time_delta_critical then 2
  else if (last.minus now).exceeds t.time_delta_warning ∨ failed.exceeds 0 ∨ failure.exceeds 0 then 1
  else 0

/-- The status for three values, which may be no numbers. -/
def statusOfValues (l f e : Value) : ℕ :=
  match l.number?, f.number?, e.number? with
  | some last, some failed, some failure => statusOf t now last failed failure
  | _, _, _ => 2

/-- **The intended status**: that of the three values where all are there, and critical in every other case. -/
def intended : Summary → ℕ
  | .parsed _ v => match lastRun? v, failed? v, failure? v with
      | some l, some f, some e => statusOfValues t now l f e
      | _, _, _ => 2
  | _ => 2

/-! ## When the plugin has it -/

/-- There is no mapping where one is expected. -/
def NoMapping (v : Value) (outer : Text) : Prop := ¬ v.IsMapping ∨ ∃ w, v.entry? outer = some w ∧ ¬ w.IsMapping

/-- That is what is wrong with the first of the three lookups that fails. -/
def FirstNoMapping (v : Value) : Prop :=
  NoMapping v "time".toList ∨
    ((lastRun? v).isSome ∧ NoMapping v "resources".toList) ∨
    ((lastRun? v).isSome ∧ (failed? v).isSome ∧ NoMapping v "events".toList)

/-- The float for the difference of the times makes the verdict that the exact difference `delta` makes. Without such
a float, or with the infinite one, the script ends by an exception, which is right for a warning. -/
def RightlyRounded (l : Value) (delta : Number) (failures : Prop) : Prop :=
  (∃ d, subtract now l = .ok (some d) ∧ d ≠ .infinity false ∧
    (d.exceeds t.time_delta_critical ↔ delta.exceeds t.time_delta_critical) ∧
    (¬ delta.exceeds t.time_delta_critical →
      (d.exceeds t.time_delta_warning ∨ failures ↔ delta.exceeds t.time_delta_warning ∨ failures))) ∨
  ((∀ d, subtract now l = .ok (some d) → d = .infinity false) ∧ ¬ delta.exceeds t.time_delta_critical ∧
    (delta.exceeds t.time_delta_warning ∨ failures))

/-- The condition on three values that are there. -/
def RightlyJudged (l f e : Value) : Prop :=
  match l.number?, f.number?, e.number? with
  | some last, some failed, some failure =>
      RightlyRounded t now l (last.minus now) (failed.exceeds 0 ∨ failure.exceeds 0)
  | _, _, _ => ∃ d : ℚ, subtract now l = .ok (some (.finite d)) ∧ t.time_delta_critical < d

/-- **The condition.** A summary that is not there or no YAML is always right, one that cannot be read is never; one
    that is parsed is right if its first lookup fails as the script expects, or the three values are there and rightly
    judged. -/
def RightStatus : Summary → Prop
  | .absent _ => True
  | .unreadable => False
  | .unparsable _ => True
  | .parsed _ v => FirstNoMapping v ∨
      ∃ l f e, lastRun? v = some l ∧ failed? v = some f ∧ failure? v = some e ∧ RightlyJudged t now l f e

/-! ## The lookups -/

theorem lookup_cases (v : Value) (outer inner : Text) :
    (NoMapping v outer ∧ at? v outer inner = none ∧ lookup v outer inner = .error .TypeError) ∨
    (¬ NoMapping v outer ∧ at? v outer inner = none ∧ lookup v outer inner = .error .KeyError) ∨
    ∃ w, ¬ NoMapping v outer ∧ at? v outer inner = some w ∧ lookup v outer inner = .ok w := by
  rcases getitem_cases v outer with ⟨hv, hentry, hget⟩ | ⟨hv, hentry, hget⟩ | ⟨w, hv, hentry, hget⟩
  · exact Or.inl ⟨Or.inl hv, by rw [at?, hentry]; rfl, by rw [lookup, hget]; rfl⟩
  · refine Or.inr (Or.inl ⟨?_, by rw [at?, hentry]; rfl, by rw [lookup, hget]; rfl⟩)
    rintro (hnot | ⟨w, hw, -⟩)
    · exact hnot hv
    · rw [hentry] at hw
      cases hw
  · have hat : at? v outer inner = w.entry? inner := by rw [at?, hentry]; rfl
    have hlookup : lookup v outer inner = getitem w inner := by rw [lookup, hget]; rfl
    have hno : w.IsMapping → ¬ NoMapping v outer := by
      rintro hw (hnot | ⟨w', hw', hnot⟩)
      · exact hnot hv
      · rw [hentry] at hw'
        exact hnot (Option.some.inj hw' ▸ hw)
    rw [hat, hlookup]
    rcases getitem_cases w inner with ⟨hw, hinner, hget'⟩ | ⟨hw, hinner, hget'⟩ | ⟨x, hw, hinner, hget'⟩
    · exact Or.inl ⟨Or.inr ⟨w, hentry, hw⟩, hinner, hget'⟩
    · exact Or.inr (Or.inl ⟨hno hw, hinner, hget'⟩)
    · exact Or.inr (Or.inr ⟨x, hno hw, hinner, hget'⟩)

/-- **How the lookups end**: by the first one that fails, which raises by what it is looked up in, or with three
    values. Whatever fails, one of the three is missing. -/
theorem lookups_cases (v : Value) :
    (FirstNoMapping v ∧ lookups v = .error .TypeError ∧ (lastRun? v = none ∨ failed? v = none ∨ failure? v = none)) ∨
    (¬ FirstNoMapping v ∧ lookups v = .error .KeyError ∧
      (lastRun? v = none ∨ failed? v = none ∨ failure? v = none)) ∨
    ∃ l f e, ¬ FirstNoMapping v ∧ lookups v = .ok ⟨l, f, e⟩ ∧ lastRun? v = some l ∧ failed? v = some f ∧
      failure? v = some e := by
  have hfirst : ∀ {w : Option Value}, w = none → w.isSome = true → False := by
    rintro w rfl h
    cases h
  rcases lookup_cases v "time".toList "last_run".toList with ⟨hno, hat, hl⟩ | ⟨hno, hat, hl⟩ | ⟨l, hno, hat, hl⟩
  · exact Or.inl ⟨Or.inl hno, by rw [lookups, hl]; rfl, Or.inl hat⟩
  · refine Or.inr (Or.inl ⟨?_, by rw [lookups, hl]; rfl, Or.inl hat⟩)
    rintro (h | ⟨h, -⟩ | ⟨h, -⟩)
    · exact hno h
    · exact hfirst hat h
    · exact hfirst hat h
  have hlast : (lastRun? v).isSome = true := by rw [lastRun?, hat]; rfl
  rcases lookup_cases v "resources".toList "failed".toList with
    ⟨hno2, hat2, hf⟩ | ⟨hno2, hat2, hf⟩ | ⟨f, hno2, hat2, hf⟩
  · exact Or.inl ⟨Or.inr (Or.inl ⟨hlast, hno2⟩), by rw [lookups, hl, hf]; rfl, Or.inr (Or.inl hat2)⟩
  · refine Or.inr (Or.inl ⟨?_, by rw [lookups, hl, hf]; rfl, Or.inr (Or.inl hat2)⟩)
    rintro (h | ⟨-, h⟩ | ⟨-, h, -⟩)
    · exact hno h
    · exact hno2 h
    · exact hfirst hat2 h
  have hfailed : (failed? v).isSome = true := by rw [failed?, hat2]; rfl
  rcases lookup_cases v "events".toList "failure".toList with ⟨hno3, hat3, he⟩ | ⟨hno3, hat3, he⟩ | ⟨e, hno3, hat3, he⟩
  · exact Or.inl ⟨Or.inr (Or.inr ⟨hlast, hfailed, hno3⟩), by rw [lookups, hl, hf, he]; rfl, Or.inr (Or.inr hat3)⟩
  · refine Or.inr (Or.inl ⟨?_, by rw [lookups, hl, hf, he]; rfl, Or.inr (Or.inr hat3)⟩)
    rintro (h | ⟨-, h⟩ | ⟨-, -, h⟩)
    · exact hno h
    · exact hno2 h
    · exact hno3 h
  · refine Or.inr (Or.inr ⟨l, f, e, ?_, by rw [lookups, hl, hf, he]; rfl, hat, hat2, hat3⟩)
    rintro (h | ⟨-, h⟩ | ⟨-, -, h⟩)
    · exact hno h
    · exact hno2 h
    · exact hno3 h

/-! ## The verdict on three values -/

/-- The exit status of the rest of the script. -/
def exit (r : Except Exception Verdict) : ℕ :=
  match r with
  | .ok verdict => verdict.code
  | .error _ => 1

/-- Whether `"%d"` can show a float. -/
def isFinite : Option Number → Bool
  | some (.finite _) => true
  | _ => false

/-- A float that is greater than a threshold is finite unless it is the infinite one. -/
theorem isFinite_of_exceeds {d : Number} {threshold : ℤ} (h : d.exceeds threshold) :
    isFinite (some d) = true ↔ d ≠ .infinity false := by
  cases d with
  | finite x => exact iff_of_true rfl (fun heq => by cases heq)
  | infinity negative =>
      obtain rfl : negative = false := h
      exact iff_of_false (fun heq => by cases heq) (fun hne => hne rfl)

/-- A run that is late has the status of its branch, if its age can be printed as an integer. -/
theorem exit_late {x : Option Number} (label : Text) (threshold : ℤ) (code : ℕ) :
    exit (do return ⟨[← late x label threshold], code⟩) = if isFinite x then code else 1 := by
  cases x with
  | none => rfl
  | some x => cases x <;> rfl

/-- A run that is not late is judged by its failures; an exception there counts as a warning. -/
theorem exit_failures (lrs : Text) (found : Found) :
    exit (do
      if ← failures found then return ⟨["There were some failures logged, check it!".toList, lrs], 1⟩
      else return ⟨["OK".toList], 0⟩) = if failures found = .ok false then 0 else 1 := by
  cases failures found with
  | error e => rfl
  | ok b => cases b <;> rfl

/-- **The exit status by the float for the difference**, where there is one: the age decides first, then whether there
    were failures. -/
theorem exit_judge_ok {l f e : Value} {d : Option Number} (lrs : Text) (h : subtract now l = .ok d) :
    exit (judge t now lrs ⟨l, f, e⟩) =
      if floatExceeds d t.time_delta_critical then if isFinite d then 2 else 1
      else if floatExceeds d t.time_delta_warning ∨ failures ⟨l, f, e⟩ ≠ .ok false then 1 else 0 := by
  have hjudge : judge t now lrs ⟨l, f, e⟩ =
      if floatExceeds d t.time_delta_critical then do
        return ⟨[← late d "CRITICAL".toList t.time_delta_critical], 2⟩
      else if floatExceeds d t.time_delta_warning then do
        return ⟨[← late d "WARNING".toList t.time_delta_warning], 1⟩
      else do
        if ← failures ⟨l, f, e⟩ then return ⟨["There were some failures logged, check it!".toList, lrs], 1⟩
        else return ⟨["OK".toList], 0⟩ := by
    rw [judge, h]
    rfl
  rw [hjudge]
  by_cases hcrit : floatExceeds d t.time_delta_critical = true
  · rw [if_pos hcrit, if_pos hcrit, exit_late]
  rw [if_neg hcrit, if_neg hcrit]
  by_cases hwarn : floatExceeds d t.time_delta_warning = true
  · rw [if_pos hwarn, if_pos (Or.inl hwarn), exit_late, ite_self]
  · rw [if_neg hwarn, exit_failures]
    by_cases hfail : failures ⟨l, f, e⟩ = .ok false
    · rw [if_pos hfail, if_neg (by rintro (h | h); exacts [hwarn h, h hfail])]
    · rw [if_neg hfail, if_pos (Or.inr hfail)]

/-- A time that cannot be subtracted ends the script with status 1. -/
theorem exit_judge_error {l f e : Value} {x : Exception} (lrs : Text) (h : subtract now l = .error x) :
    exit (judge t now lrs ⟨l, f, e⟩) = 1 := by
  rw [judge, h]
  rfl

/-! ## Against the intended status -/

theorem failures_of_numbers {l f e : Value} {failed failure : Number} (hf : f.number? = some failed)
    (he : e.number? = some failure) :
    failures ⟨l, f, e⟩ ≠ .ok false ↔ failed.exceeds 0 ∨ failure.exceeds 0 := by
  have hpos : failures ⟨l, f, e⟩ = .ok (decide (failed.exceeds 0 ∨ failure.exceeds 0)) := by
    show (do if ← positive f then return true else positive e) = _
    rw [positive_of_number hf, positive_of_number he]
    by_cases hfailed : failed.exceeds 0
    · rw [decide_eq_true hfailed, decide_eq_true (Or.inl hfailed)]
      rfl
    · rw [decide_eq_false hfailed, decide_eq_decide.mpr (or_iff_right hfailed)]
      rfl
  rw [hpos, Ne, Except.ok.injEq, decide_eq_false_iff_not, not_not]

/-- The exit status where the float for the difference is a number. -/
theorem exit_judge_some {l f e : Value} {d : Number} (lrs : Text) (h : subtract now l = .ok (some d)) :
    exit (judge t now lrs ⟨l, f, e⟩) =
      if d.exceeds t.time_delta_critical then if d = .infinity false then 1 else 2
      else if d.exceeds t.time_delta_warning ∨ failures ⟨l, f, e⟩ ≠ .ok false then 1 else 0 := by
  have hexceeds : ∀ threshold, floatExceeds (some d) threshold = true ↔ d.exceeds threshold := fun _ =>
    decide_eq_true_iff
  rw [exit_judge_ok t now lrs h]
  simp only [hexceeds]
  by_cases hcrit : d.exceeds t.time_delta_critical
  · rw [if_pos hcrit, if_pos hcrit]
    by_cases hinf : d = .infinity false
    · rw [if_pos hinf, if_neg (fun hfin => (isFinite_of_exceeds hcrit).mp hfin hinf)]
    · rw [if_neg hinf, if_pos ((isFinite_of_exceeds hcrit).mpr hinf)]
  · rw [if_neg hcrit, if_neg hcrit]

/-- The exit status 1 is the intended one for a warning only. -/
theorem one_eq_statusOf_iff (last failed failure : Number) :
    1 = statusOf t now last failed failure ↔
      ¬ (last.minus now).exceeds t.time_delta_critical ∧
        ((last.minus now).exceeds t.time_delta_warning ∨ failed.exceeds 0 ∨ failure.exceeds 0) := by
  unfold statusOf
  split_ifs with hcrit hwarn
  · exact iff_of_false (by decide) (fun h => h.1 hcrit)
  · exact iff_of_true rfl ⟨hcrit, hwarn⟩
  · exact iff_of_false (by decide) (fun h => hwarn h.2)

/-- **The verdict on three numbers**: the status is the intended one exactly if the difference that the script
    computes is judged like the exact one, where an exception counts as a warning. -/
theorem exit_judge_numbers {l f e : Value} {last failed failure : Number} (lrs : Text) (hl : l.number? = some last)
    (hf : f.number? = some failed) (he : e.number? = some failure) :
    exit (judge t now lrs ⟨l, f, e⟩) = statusOf t now last failed failure ↔
      RightlyRounded t now l (last.minus now) (failed.exceeds 0 ∨ failure.exceeds 0) := by
  rcases subtract_of_number hl with hsub | ⟨d, hsub⟩
  · -- the integer is too large for a float, and the script ends by an exception
    rw [exit_judge_error t now lrs hsub, one_eq_statusOf_iff]
    refine ⟨fun h => Or.inr ⟨fun d hd => ?_, h⟩, ?_⟩
    · rw [hsub] at hd
      cases hd
    · rintro (⟨d, hd, -⟩ | ⟨-, h⟩)
      · rw [hsub] at hd
        cases hd
      · exact h
  · have honly : ∀ d', subtract now l = .ok (some d') → d' = d := fun d' hd' => by
      rw [hsub] at hd'
      exact (Option.some.inj (Except.ok.inj hd')).symm
    rw [exit_judge_some t now lrs hsub]
    by_cases hinf : d = .infinity false
    · -- the verdict is critical, and its text cannot be written
      have hcrit : d.exceeds t.time_delta_critical := hinf ▸ rfl
      rw [if_pos hcrit, if_pos hinf, one_eq_statusOf_iff]
      refine ⟨fun h => Or.inr ⟨fun d' hd' => (honly d' hd').trans hinf, h⟩, ?_⟩
      rintro (⟨d', hd', hne, -⟩ | ⟨-, h⟩)
      · exact absurd ((honly d' hd').trans hinf) hne
      · exact h
    · rw [if_neg hinf]
      simp only [failures_of_numbers hf he]
      show _ = statusOf t now last failed failure ↔ _
      unfold statusOf
      rw [verdicts_eq_iff]
      constructor
      · rintro ⟨hcrit, hwarn⟩
        exact Or.inl ⟨d, hsub, hinf, hcrit, hwarn⟩
      · rintro (⟨d', hd', -, hcrit, hwarn⟩ | ⟨hall, -⟩)
        · obtain rfl := honly d' hd'
          exact ⟨hcrit, hwarn⟩
        · exact absurd (hall d hsub) hinf

/-- **When the verdict is critical**: only if the difference is a number above the critical threshold. Exceptions end
    with 1. -/
theorem exit_judge_eq_two_iff {l f e : Value} (lrs : Text) :
    exit (judge t now lrs ⟨l, f, e⟩) = 2 ↔
      ∃ d : ℚ, subtract now l = .ok (some (.finite d)) ∧ t.time_delta_critical < d := by
  cases hsub : subtract now l with
  | error x =>
      rw [exit_judge_error t now lrs hsub]
      exact iff_of_false (by decide) (by rintro ⟨d, h, -⟩; cases h)
  | ok x =>
      rw [exit_judge_ok t now lrs hsub]
      cases x with
      | none =>
          have hno : floatExceeds none t.time_delta_critical ≠ true := fun h => by cases h
          refine iff_of_false ?_ (by rintro ⟨d, h, -⟩; cases h)
          rw [if_neg hno]
          split_ifs <;> decide
      | some d =>
          cases d with
          | infinity negative =>
              have hfin : isFinite (some (.infinity negative)) ≠ true := fun h => by cases h
              refine iff_of_false ?_ (by rintro ⟨d, h, -⟩; cases h)
              rw [if_neg hfin]
              split_ifs <;> decide
          | finite d =>
              by_cases hcrit : (t.time_delta_critical : ℚ) < d
              · have hexc : floatExceeds (some (.finite d)) t.time_delta_critical = true := decide_eq_true hcrit
                rw [if_pos hexc]
                exact iff_of_true rfl ⟨d, rfl, hcrit⟩
              · have hexc : floatExceeds (some (.finite d)) t.time_delta_critical ≠ true := fun h =>
                  hcrit (of_decide_eq_true h)
                rw [if_neg hexc]
                refine iff_of_false (by split_ifs <;> decide) ?_
                rintro ⟨d', h, hd'⟩
                cases h
                exact hcrit hd'

/-- **The verdict on three values.** -/
theorem exit_judge_values (l f e : Value) (lrs : Text) :
    exit (judge t now lrs ⟨l, f, e⟩) = statusOfValues t now l f e ↔ RightlyJudged t now l f e := by
  unfold statusOfValues RightlyJudged
  cases hl : l.number? with
  | none => exact exit_judge_eq_two_iff t now lrs
  | some last =>
      cases hf : f.number? with
      | none => exact exit_judge_eq_two_iff t now lrs
      | some failed =>
          cases he : e.number? with
          | none => exact exit_judge_eq_two_iff t now lrs
          | some failure => exact exit_judge_numbers t now lrs hl hf he

end

/-! ## Every summary -/

/-- A summary without one of the three values is critical. -/
theorem intended_of_missing {t : Thresholds} {now : ℚ} {lrs : Text} {v : Value}
    (h : lastRun? v = none ∨ failed? v = none ∨ failure? v = none) : intended t now (.parsed lrs v) = 2 := by
  show (match lastRun? v, failed? v, failure? v with
    | some l, some f, some e => statusOfValues t now l f e
    | _, _, _ => 2) = 2
  split
  · next l f e hl hf he =>
      rcases h with h | h | h
      · exact absurd (hl.symm.trans h) (Option.some_ne_none l)
      · exact absurd (hf.symm.trans h) (Option.some_ne_none f)
      · exact absurd (he.symm.trans h) (Option.some_ne_none e)
  · rfl

/-- **The exit status is the intended one exactly under the condition**: for every summary, time and thresholds. By
    how the summary is read, and for one that is parsed by how the lookups end (`lookups_cases`); on three values it
    is `exit_judge_values`. -/
theorem rightStatus_iff (t : Thresholds) (now : ℚ) (summary : Summary) :
    (check_puppet_agent_last_run t now summary).code = intended t now summary ↔ RightStatus t now summary := by
  cases summary with
  | absent e => exact iff_of_true rfl trivial
  | unreadable => exact iff_of_false (by show ¬ (1 = 2); decide) id
  | unparsable e => exact iff_of_true rfl trivial
  | parsed lrs v =>
      have hmissing : (lastRun? v = none ∨ failed? v = none ∨ failure? v = none) →
          ¬ ∃ l f e, lastRun? v = some l ∧ failed? v = some f ∧ failure? v = some e ∧ RightlyJudged t now l f e := by
        rintro (h | h | h) ⟨l, f, e, hl, hf, he, -⟩
        · exact Option.some_ne_none l (hl.symm.trans h)
        · exact Option.some_ne_none f (hf.symm.trans h)
        · exact Option.some_ne_none e (he.symm.trans h)
      rcases lookups_cases v with ⟨hfirst, hlook, hnone⟩ | ⟨hfirst, hlook, hnone⟩ | ⟨l, f, e, hfirst, hlook, hl, hf, he⟩
      · rw [intended_of_missing hnone, check_puppet_agent_last_run, hlook]
        exact iff_of_true rfl (Or.inl hfirst)
      · rw [intended_of_missing hnone, check_puppet_agent_last_run, hlook]
        exact iff_of_false (by show ¬ (1 = 2); decide) (by rintro (h | h); exacts [hfirst h, hmissing hnone h])
      · have hcode : (check_puppet_agent_last_run t now (.parsed lrs v)).code = exit (judge t now lrs ⟨l, f, e⟩) := by
          rw [check_puppet_agent_last_run, hlook]
          show (match judge t now lrs ⟨l, f, e⟩ with
            | .ok verdict => verdict
            | .error _ => uncaught).code = _
          cases judge t now lrs ⟨l, f, e⟩ <;> rfl
        have hint : intended t now (.parsed lrs v) = statusOfValues t now l f e := by
          rw [intended, hl, hf, he]
        rw [hcode, hint, exit_judge_values]
        constructor
        · exact fun h => Or.inr ⟨l, f, e, hl, hf, he, h⟩
        · rintro (h | ⟨l', f', e', hl', hf', he', h⟩)
          · exact absurd h hfirst
          · obtain rfl := Option.some.inj (hl.symm.trans hl')
            obtain rfl := Option.some.inj (hf.symm.trans hf')
            obtain rfl := Option.some.inj (he.symm.trans he')
            exact h

/-- A run that stopped before it wrote its counts. -/
def stoppedEarly : Value :=
  .mapping [("version".toList, .mapping [("puppet".toList, .str "4.10.1".toList)]),
    ("time".toList, .mapping [("last_run".toList, .int 1500000000)])]

/-- It makes the plugin end by `KeyError`, a warning. -/
theorem not_critical_stoppedEarly :
    (check_puppet_agent_last_run ⟨3600, 7200⟩ 1500000060 (.parsed [] stoppedEarly)).code = 1 ∧
      intended ⟨3600, 7200⟩ 1500000060 (.parsed [] stoppedEarly) = 2 := ⟨rfl, rfl⟩

end Nrpe.PuppetLastRun
end StgEnvironment
