import StgEnvironment.Datastore.Correctness.Invariant

/-!
# `Datastore.Correctness.Concurrent`: invocations that overlap

Nothing in the scripts keeps two invocations apart: two that find nothing running both launch, and the second
PID overwrites the first. What they guarantee is what `Inv` gives: as long as no launch, record or `rm` of one
invocation falls where another is deciding, the instance on record is the only one. Invocations of `stop` and
`status` alone always meet that condition.

## Contents
- **Invocations that never launch** (`Thread.launchFree`): any interleaving of them is separate at every step.
- **Overlapping invocations** (`tracked_of_separate`), for any number of slots.
- **Two runs of two `start`s**: one in which the second finds the first on record (`startMeetsStart`), and one in which
  both launch (`startDuringStart_leaves_two`).
-/

namespace StgEnvironment
namespace Datastore
open Transition

section Stops
variable {ι : Type} [DecidableEq ι] {sc : Script} {s s' : Sys ι}

/-- The places of `is_running` from which nothing is ever launched. -/
def Site.launchFree : Site → Bool
  | .startGuard | .startCheck | .restart => false
  | _ => true

/-- An invocation that never launches: a `stop` or a `status`. -/
def Thread.launchFree (t : Thread) : Bool :=
  t.call == .top && match t.pc with
    | .test k | .cat k | .ps k _ => k.launchFree
    | .fork | .truncate _ | .write _ _ => false
    | _ => true

/-- Such an invocation is never at a launch, nor between a launch and its record. -/
theorem Thread.launchFree.pc {t : Thread} (h : t.launchFree = true) :
    t.pc.launches = false ∧ t.pc.dirty = false := by
  obtain ⟨pc, call⟩ := t
  cases pc <;> first | exact ⟨rfl, rfl⟩ | simp [Thread.launchFree] at h

theorem step_launchFree {o : Choice} {t t' : Thread} {w w' : World} {ev : List Event}
    (h : Step sc o w t t' w' ev) (ht : t.launchFree = true) : t'.launchFree = true := by
  have hloop : ∀ n, Thread.launchFree ⟨pollLoop n, .top⟩ = true := by intro n; cases n <;> rfl
  have hdec : ∀ k b, k.launchFree = true →
      Thread.launchFree ⟨(decided sc k b).1, Call.after .top k b⟩ = true := by
    intro k b hk
    cases k <;> cases b <;> first | rfl | cases hk
  obtain ⟨pc, call⟩ := t
  simp only [Thread.launchFree, Bool.and_eq_true, beq_iff_eq] at ht
  obtain ⟨rfl, hpc⟩ := ht
  cases h with
  | found => exact hpc
  | absent => exact hdec _ _ hpc
  | cat => exact hpc
  | ps => exact hdec _ _ hpc
  | kill => exact hloop _
  | sleep => exact hloop _
  | fork => cases hpc
  | truncate => cases hpc
  | write => cases hpc
  | _ => rfl

/-- Every invocation in progress never launches: all are `stop` or `status`. -/
def LaunchFree (s : Sys ι) : Prop := ∀ i t, s.slot i = some t → t.launchFree = true

/-- A label that invokes nothing but `stop` and `status`. -/
def Label.launchFree : Label ι → Prop
  | .invoke _ c => c = .stop ∨ c = .status
  | _ => True

/-- A label without `start` and `restart` keeps all invocations so. Only a step of an invocation changes where it is,
    and no place of a `stop` or a `status` leads to a launch. -/
theorem launchFree_next {l : Label ι} (h : LaunchFree s) (hl : l.launchFree) (hnext : next sc s l = some s') :
    LaunchFree s' := by
  cases l with
  | invoke i c =>
      obtain ⟨-, rfl⟩ := next_invoke hnext
      refine forall_update (P := fun _ t => t.launchFree = true) (fun u hu => ?_) fun j u _ hj => h j u hj
      cases hu
      rcases hl with rfl | rfl <;> rfl
  | step i o =>
      obtain ⟨t, t', w', ev, hi, hstep, rfl⟩ := next_step hnext
      refine forall_update (P := fun _ t => t.launchFree = true) (fun u hu => ?_) fun j u _ hj => h j u hj
      cases hu
      exact step_launchFree hstep (h i t hi)
  | finish i code =>
      obtain ⟨-, rfl⟩ := next_finish hnext
      refine forall_update (P := fun _ t => t.launchFree = true) (fun u hu => ?_) fun j u _ hj => h j u hj
      cases hu
  | die p => obtain ⟨-, rfl⟩ := next_die hnext; exact h
  | spawn p => obtain ⟨-, rfl⟩ := next_spawn hnext; exact h
  | reap p => obtain ⟨-, rfl⟩ := next_reap hnext; exact h

omit [DecidableEq ι] in
theorem separate_of_launchFree {l : Label ι} (h : LaunchFree s) : Separate s l := by
  cases l with
  | step i o =>
      refine fun t hi => ⟨fun hlaunch => ?_, fun _ j u _ hj => (Thread.launchFree.pc (h j u hj)).2⟩
      exact absurd (Thread.launchFree.pc (h i t hi)).1 (by simp [hlaunch])
  | _ => trivial

/-- And so every step of a run of `stop` and `status` alone is. -/
theorem along_separate_of_launchFree {ls : List (Label ι)} (h : LaunchFree s) (hls : ∀ l ∈ ls, l.launchFree) :
    Along (next sc) Separate s ls := by
  refine along_of_invariant (I := LaunchFree) ?_ ?_ h (along_of_forall hls)
  · exact fun _ _ _ hs hl hn => launchFree_next hs hl hn
  · exact fun _ _ hs _ => separate_of_launchFree hs

end Stops

section Overlap
variable {ι : Type} [DecidableEq ι] {sc : Script} {s₀ s : Sys ι} {ls : List (Label ι)}

/-- **Overlapping invocations.** Any number of them, interleaved in any way in which every step is separate,
    leave at most one instance live once they are all over, and the file holds its PID. The condition is met by
    any interleaving of `stop` and `status`. -/
theorem tracked_of_separate (hidle : s₀.Idle) (ht : s₀.world.Tracked)
    (hsep : Along (next sc) Separate s₀ ls ∨ ∀ l ∈ ls, l.launchFree)
    (hrun : run (next sc) s₀ ls = some s) (hend : s.Idle) : s.world.AtMostOne ∧ s.world.Tracked := by
  have hfree : LaunchFree s₀ := hidle.forall
  have hsep : Along (next sc) Separate s₀ ls := hsep.elim id (along_separate_of_launchFree hfree)
  have hinv : Inv s := inv_run (Inv.of_idle hidle ht) hsep hrun
  have htracked := hinv.tracked_of_clean hend.forall
  exact ⟨htracked.atMostOne, htracked⟩

end Overlap

/-- One step of the invocation in slot `i`, with `p` as the next free PID. -/
def stepOf (i : Bool) (p : Pid) : Label Bool := .step i ⟨p, true⟩

/-- Two invocations of `start`. The second finds the file when the first has opened it, and reads it when the
    first has written it. -/
def startMeetsStart : List (Label Bool) :=
  [.invoke true .start, .invoke false .start, stepOf true 10, stepOf true 10, stepOf true 10,
    stepOf false 11, stepOf true 10, stepOf false 11, stepOf false 11, stepOf true 10, stepOf true 10,
    stepOf true 10, .finish true 0, .finish false 0]

/-- In that run every step is separate, and one instance is live when it ends, with its PID in the file. -/
theorem tracked_of_startMeetsStart :
    ∃ s, run (next userReadBatch) Sys.blank startMeetsStart = some s ∧ s.world.Live 10 ∧ s.world.AtMostOne ∧
      s.world.Holds 10 := by
  obtain ⟨s, hrun⟩ : ∃ s, run (next userReadBatch) Sys.blank startMeetsStart = some s :=
    Option.isSome_iff_exists.mp (by decide)
  have hs : (run (next userReadBatch) Sys.blank startMeetsStart).all
      (fun s => s.world.procs 10 == some .daemon && (s.slot true == none && s.slot false == none)) = true := by
    decide
  rw [hrun] at hs
  simp only [Option.all_some, Bool.and_eq_true, beq_iff_eq] at hs
  have hend : s.Idle := by rintro (_ | _) <;> simp [hs.2]
  have h := tracked_of_separate Sys.blank_idle Sys.blank_tracked (Or.inl (by decide)) hrun hend
  exact ⟨s, hrun, hs.1, h.1, h.2 10 hs.1⟩

/-- Two invocations of `start`, both of which test for the file before either launches. -/
def startDuringStart : List (Label Bool) :=
  [.invoke true .start, .invoke false .start, stepOf true 10, stepOf false 11] ++
    List.replicate 6 (stepOf true 10) ++ List.replicate 6 (stepOf false 11) ++
    [.finish true 0, .finish false 0]

/-- **An untracked instance.** Both invocations test the file before either has written it, both launch, and the file
    holds the PID of the second. When they are through, the first instance is live and not on record. -/
theorem startDuringStart_leaves_two :
    ∃ s, (Sys.blank : Sys Bool).Idle ∧ (Sys.blank : Sys Bool).world.Tracked ∧
      run (next userReadBatch) Sys.blank startDuringStart = some s ∧ s.Idle ∧
      s.world.Live 10 ∧ s.world.Live 11 ∧ ¬ s.world.AtMostOne ∧ ¬ s.world.Holds 10 := by
  obtain ⟨s, hrun⟩ : ∃ s, run (next userReadBatch) Sys.blank startDuringStart = some s :=
    Option.isSome_iff_exists.mp (by decide)
  have hs : (run (next userReadBatch) Sys.blank startDuringStart).all
      (fun s => (s.world.procs 10 == some .daemon && s.world.procs 11 == some .daemon) &&
        ((s.slot true == none && s.slot false == none) && s.world.pid_file == some (pidLine 11))) = true := by
    decide
  rw [hrun] at hs
  simp only [Option.all_some, Bool.and_eq_true, beq_iff_eq] at hs
  obtain ⟨⟨h10, h11⟩, ⟨htrue, hfalse⟩, hfile⟩ := hs
  refine ⟨s, Sys.blank_idle, Sys.blank_tracked, hrun, ?_, h10, h11, fun h => ?_, fun h => ?_⟩
  · rintro (_ | _)
    · exact hfalse
    · exact htrue
  · exact absurd (h 10 11 h10 h11) (by decide)
  · have := h.get_pid.symm.trans (World.holds_pidLine hfile).get_pid
    exact absurd this (by decide)

end Datastore
end StgEnvironment
