import StgEnvironment.Datastore.Correctness.Steps

/-!
# `Datastore.Correctness.Invariant`: the process table and the PID file, over any run

Nothing in the scripts keeps two invocations apart, so what holds of a run depends on how their steps fall.
`Separate` is the condition on a step under which `Inv` is kept: either everything live is on record and each
invocation's last answer still stands, or exactly one invocation has launched an instance and is about to
record it. A run of one invocation after the other meets the condition at every step
(`separate_of_subsingleton`).

## Contents
- **Assertions** (`Pc.Assert`, `Pc.Pending`): what an invocation knows at each of its places.
- **The invariant** (`Inv`), and what it gives where nothing is pending (`Inv.tracked_of_clean`).
- **One lemma for each kind of step**: quiet ones (`inv_quiet`), the launch, the two steps of the record, `rm`, and the
  labels of the environment; from them `inv_next`, and `inv_run` by induction.
-/

namespace StgEnvironment
namespace Datastore
open Transition

/-- An invocation has read the PID that decides whether it launches (line 40) or removes (line 69), and has
    not yet done so. -/
def Pc.inWindow : Pc → Bool
  | .ps .startGuard _ | .ps .stopFinal _ | .fork | .truncate _ | .write _ _ | .testFile | .rm => true
  | _ => false

/-- The step that launches an instance and the step that records its PID. -/
def Pc.launches : Pc → Bool
  | .fork | .write _ _ => true
  | _ => false

/-- What the answers an invocation has got so far still tell about the world. -/
def Pc.Assert (w : World) : Pc → Prop
  | .ps .startGuard args | .ps .stopFinal args => args = w.get_pid ∨ w.NoneLive
  | .fork | .testFile | .rm => w.NoneLive
  | _ => True

/-- An invocation has launched the only instance that can be live, and is about to record it. -/
def Pc.Pending (w : World) : Pc → Prop
  | .truncate p => ∀ q, w.Live q → q = p
  | .write p fd => (∀ q, w.Live q → q = p) ∧ fd = w.gen ∧ w.pid_file = some []
  | _ => False

/-! ## Assertions -/

theorem Pc.assert_of_noneLive {w : World} (h : w.NoneLive) : ∀ pc : Pc, pc.Assert w := by
  intro pc
  unfold Pc.Assert
  split <;> first | exact Or.inr h | exact h | trivial

/-- Outside its window an invocation relies on no answer. -/
theorem Pc.assert_of_not_inWindow {w : World} {pc : Pc} (h : pc.inWindow = false) : pc.Assert w := by
  unfold Pc.Assert
  split <;> first | exact absurd h Bool.true_eq_false_eq_False.mp | trivial

/-- An assertion survives a change that leaves the file alone and makes nothing live. -/
theorem Pc.Assert.mono {w w' : World} {pc : Pc} (h : pc.Assert w) (hpid : w'.get_pid = w.get_pid)
    (hlive : ∀ q, w'.Live q → w.Live q) : pc.Assert w' := by
  have hnone : w.NoneLive → w'.NoneLive := fun hn q hq => hn q (hlive q hq)
  unfold Pc.Assert at h ⊢
  split at h
  · exact h.imp (fun ha => ha.trans hpid.symm) hnone
  · exact h.imp (fun ha => ha.trans hpid.symm) hnone
  all_goals first | exact hnone h | trivial

/-- Whoever is about to record a launch mutates with the next step. -/
theorem Pc.clean_of_not_mutates {pc : Pc} (h : pc.mutates = false) : pc.dirty = false := by
  cases pc <;> first | rfl | cases h

/-- From the launch to its record an invocation is in its window. -/
theorem Pc.inWindow_of_dirty {pc : Pc} (h : pc.dirty = true) : pc.inWindow = true := by
  cases pc <;> first | rfl | cases h

/-- Only an invocation that has launched is about to record. -/
theorem Pc.Pending.dirty {w : World} {pc : Pc} (h : pc.Pending w) : pc.dirty = true := by
  cases pc <;> first | rfl | exact absurd h id

section Steps
variable {sc : Script} {o : Choice} {t t' : Thread} {w w' : World} {ev : List Event}

/-- When `is_running` says no with nothing pending, and read the file as it is now, nothing is live. -/
theorem step_assert (h : Step sc o w t t' w' ev) (hm : t.pc.mutates = false) (ht : w.Tracked)
    (ha : t.pc.Assert w) : t'.pc.Assert w := by
  have hloop : ∀ n, (pollLoop n).Assert w := by intro n; cases n <;> trivial
  cases h with
  | absent hf => exact Pc.assert_of_noneLive (ht.noneLive_of_absent hf) _
  | @cat k =>
      show (Pc.ps k w.get_pid).Assert w
      cases k <;> first | exact Or.inl rfl | trivial
  | @ps k args c b hb =>
      show (decided sc k b).1.Assert w
      cases b with
      | true => cases k <;> trivial
      | false =>
          have hnone : args = w.get_pid ∨ w.NoneLive → w.NoneLive := ht.noneLive_of_answer hb
          -- line 40 and line 69 are the two places whose action relies on the answer
          cases k <;> first | exact hnone ha | trivial
  | kill => exact hloop _
  | sleep => exact hloop _
  | present => exact Pc.assert_of_noneLive ha _
  | gone => trivial
  | fork => cases hm
  | truncate => cases hm
  | write => cases hm
  | rm => cases hm
  | rmFails => cases hm
  | _ => trivial

end Steps

/-! ## The invariant -/

section Invariant
variable {ι : Type} {s : Sys ι}

/-- Every invocation but the one in slot `i`. -/
def Sys.Others (s : Sys ι) (i : ι) (P : Thread → Prop) : Prop := ∀ j u, j ≠ i → s.slot j = some u → P u

/-- **The condition on a step.** Neither a launch nor its record falls into another invocation's window, and
    `rm` does not fall between another's launch and its record. -/
def Separate (s : Sys ι) : Label ι → Prop
  | .step i _ => ∀ t, s.slot i = some t →
      (t.pc.launches = true → s.Others i fun u => u.pc.inWindow = false) ∧
        (t.pc = .rm → s.Others i fun u => u.pc.dirty = false)
  | _ => True

instance [DecidableEq ι] [Fintype ι] {i : ι} {P : Thread → Prop} [DecidablePred P] :
    Decidable (s.Others i P) :=
  decidable_of_iff (∀ j, j ≠ i → ∀ u ∈ s.slot j, P u)
    ⟨fun h j u hj hu => h j hj u hu, fun h j hj u hu => h j u hj hu⟩

instance [DecidableEq ι] [Fintype ι] : ∀ l : Label ι, Decidable (Separate s l)
  | .step i _ => inferInstanceAs (Decidable (∀ t ∈ s.slot i,
      (t.pc.launches = true → s.Others i fun u => u.pc.inWindow = false) ∧
        (t.pc = .rm → s.Others i fun u => u.pc.dirty = false)))
  | .invoke _ _ | .finish _ _ | .die _ | .spawn _ | .reap _ => isTrue trivial

/-- **The invariant of the scripts**: either what is live is on record, and the answers that invocations have got
    still stand; or exactly one invocation has launched an instance, and is about to record it. -/
inductive Inv (s : Sys ι) : Prop
  /-- Everything live is on record. -/
  | recorded (clean : ∀ i t, s.slot i = some t → t.pc.dirty = false) (tracked : s.world.Tracked)
      (assert : ∀ i t, s.slot i = some t → t.pc.Assert s.world)
  /-- One invocation is about to record what it launched. -/
  | launching (i : ι) (t : Thread) (slot : s.slot i = some t) (pending : t.pc.Pending s.world)
      (clean : s.Others i fun u => u.pc.dirty = false)

/-- The invariant holds between invocations, if what is live is on record. -/
theorem Inv.of_idle (hidle : s.Idle) (ht : s.world.Tracked) : Inv s :=
  Inv.recorded hidle.forall ht hidle.forall

/-- Where nothing is pending, at most one instance is live and it is on record. -/
theorem Inv.tracked_of_clean (h : Inv s) (hc : ∀ i t, s.slot i = some t → t.pc.dirty = false) :
    s.world.Tracked := by
  cases h with
  | recorded _ ht _ => exact ht
  | launching i t hi hp _ => exact absurd (hc i t hi) (by simp [hp.dirty])

/-- Invocations one after the other are always separate. -/
theorem separate_of_subsingleton [Subsingleton ι] (s : Sys ι) (l : Label ι) : Separate s l := by
  cases l with
  | step i o => exact fun t _ => ⟨fun _ j _ hj => absurd (Subsingleton.elim j i) hj,
      fun _ j _ hj => absurd (Subsingleton.elim j i) hj⟩
  | _ => trivial

/-- The environment only ends instances, and puts other processes under free PIDs. -/
theorem inv_setProc {p : Pid} {x : Option Owner} (h : Inv s) (hx : x ≠ some .daemon) :
    Inv ⟨s.world.setProc p x, s.slot⟩ := by
  have hlive : ∀ q, (s.world.setProc p x).Live q → s.world.Live q := fun q hq => live_of_setProc hx hq
  cases h with
  | recorded hc ht ha =>
      exact Inv.recorded hc (fun q hq => ht q (hlive q hq)) fun i t hi => (ha i t hi).mono rfl hlive
  | launching i t hi hp hc =>
      refine Inv.launching i t hi ?_ hc
      unfold Pc.Pending at hp ⊢
      split at hp
      · exact fun q hq => hp q (hlive q hq)
      · exact ⟨fun q hq => hp.1 q (hlive q hq), hp.2⟩
      · exact absurd hp id

variable [DecidableEq ι] {sc : Script} {s' : Sys ι}

/-- A slot whose invocation is new, over, or goes on without mutating. The world stays, so that what the other
    invocations rely on stays too. -/
theorem inv_slot {i : ι} {x : Option Thread} (h : Inv s)
    (hi : ∀ t, s.slot i = some t → t.pc.dirty = false) (hx : ∀ u, x = some u → u.pc.dirty = false)
    (hassert : s.world.Tracked → (∀ t, s.slot i = some t → t.pc.Assert s.world) →
      ∀ u, x = some u → u.pc.Assert s.world) :
    Inv ⟨s.world, Function.update s.slot i x⟩ := by
  cases h with
  | recorded hc ht ha =>
      refine Inv.recorded ?_ ht ?_
      · exact forall_update (P := fun _ u => u.pc.dirty = false) hx fun j u _ hj => hc j u hj
      · exact forall_update (P := fun _ u => u.pc.Assert s.world) (hassert ht (ha i)) fun j u _ hj => ha j u hj
  | launching k t hk hp hc =>
      have hki : k ≠ i := by rintro rfl; exact absurd (hi t hk) (by simp [hp.dirty])
      have hclean : ∀ j u, Function.update s.slot i x j = some u → j ≠ k → u.pc.dirty = false :=
        forall_update (fun u hu _ => hx u hu) fun j u _ hju hj => hc j u hj hju
      refine Inv.launching k t ?_ hp fun j u hj hju => hclean j u hju hj
      show Function.update s.slot i x k = some t
      rw [Function.update_of_ne hki, hk]

theorem inv_quiet {i : ι} {o : Choice} {t t' : Thread} {w' : World} {ev : List Event} (h : Inv s)
    (hi : s.slot i = some t) (hstep : Step sc o s.world t t' w' ev)
    (hm : t.pc.mutates = false) : Inv ⟨w', Function.update s.slot i (some t')⟩ := by
  obtain ⟨rfl, hclean⟩ := step_quiet hstep hm
  have hdirty : t.pc.dirty = false := Pc.clean_of_not_mutates hm
  refine inv_slot h (fun u hu => ?_) (fun u hu => ?_) fun ht ha u hu => ?_
  · rw [hi] at hu; cases hu; exact hdirty
  · cases hu; exact hclean
  · cases hu; exact step_assert hstep hm ht (ha t hi)

/-- An invocation that has launched an instance is the only one that has. -/
theorem Inv.pending_of_dirty {i : ι} {t : Thread} (h : Inv s) (hi : s.slot i = some t)
    (hd : t.pc.dirty = true) : t.pc.Pending s.world ∧ s.Others i fun u => u.pc.dirty = false := by
  cases h with
  | recorded hc _ _ => exact absurd (hc i t hi) (by simp [hd])
  | launching k u hk hp hc =>
      by_cases hik : i = k
      · subst hik
        rw [hi] at hk
        cases hk
        exact ⟨hp, hc⟩
      · exact absurd (hc i t hik hi) (by simp [hd])

section Mutating
variable {i : ι}

/-- A step in slot `i` leaves the other invocations as they are. -/
theorem others_update {w : World} {P : Thread → Prop} {x : Option Thread} (h : s.Others i P) :
    Sys.Others ⟨w, Function.update s.slot i x⟩ i P := by
  intro j u hj hju
  have hju : Function.update s.slot i x j = some u := hju
  rw [Function.update_of_ne hj] at hju
  exact h j u hj hju

/-- The launch: nothing was live before it. If another launch were pending, its invocation would be in its window,
    which the condition on the step excludes. -/
theorem inv_fork {c : Call} {p : Pid} (h : Inv s) (hi : s.slot i = some ⟨.fork, c⟩)
    (hsep : s.Others i fun u => u.pc.inWindow = false) :
    Inv ⟨s.world.setProc p (some .daemon), Function.update s.slot i (some ⟨.truncate p, c⟩)⟩ := by
  cases h with
  | recorded hc ht ha =>
      have hnone : s.world.NoneLive := ha i _ hi
      refine Inv.launching i _ (Function.update_self ..) ?_ (others_update fun j u _ hj => hc j u hj)
      intro q hq
      by_contra hne
      have hq : (s.world.setProc p (some .daemon)).procs q = some .daemon := hq
      rw [World.setProc_procs, if_neg hne] at hq
      exact hnone q hq
  | launching k u hk hp _ =>
      -- another launch is pending, and its invocation is in its window
      have hki : k ≠ i := by rintro rfl; rw [hi] at hk; cases hk; exact absurd hp id
      have hwin := hsep k u hki hk
      exact absurd (Pc.inWindow_of_dirty hp.dirty) (by simp [hwin])

/-- The redirection empties the file of an instance that is the only one. -/
theorem inv_truncate {c : Call} {p : Pid} (h : Inv s) (hi : s.slot i = some ⟨.truncate p, c⟩) :
    Inv ⟨{ s.world with pid_file := some [] },
      Function.update s.slot i (some ⟨.write p s.world.gen, c⟩)⟩ := by
  obtain ⟨honly, hc⟩ := h.pending_of_dirty hi rfl
  exact Inv.launching i _ (Function.update_self ..) ⟨honly, rfl, rfl⟩ (others_update hc)

theorem inv_write {c : Call} {p : Pid} {fd : Nat} (h : Inv s) (hi : s.slot i = some ⟨.write p fd, c⟩)
    (hsep : s.Others i fun u => u.pc.inWindow = false) :
    Inv ⟨s.world.write fd (pidLine p), Function.update s.slot i (some ⟨.test .startCheck, c⟩)⟩ := by
  obtain ⟨⟨honly, rfl, hempty⟩, hc⟩ := h.pending_of_dirty hi rfl
  refine Inv.recorded ?_ (fun q hq => ?_) ?_
  · exact forall_update (P := fun _ u => u.pc.dirty = false) (fun u hu => by cases hu; rfl) hc
  · have hq : (s.world.write s.world.gen (pidLine p)).procs q = some .daemon := hq
    rw [World.write_procs] at hq
    obtain rfl := honly q hq
    exact World.holds_pidLine (World.write_empty hempty)
  · exact forall_update (P := fun _ u => u.pc.Assert _) (fun u hu => by cases hu; trivial)
      fun j u hj hju => Pc.assert_of_not_inWindow (hsep j u hj hju)

/-- The file is removed when nothing is live. -/
theorem inv_rm {c : Call} (h : Inv s) (hi : s.slot i = some ⟨.rm, c⟩)
    (hsep : s.Others i fun u => u.pc.dirty = false) :
    Inv ⟨{ s.world with pid_file := none, gen := s.world.gen + 1 },
      Function.update s.slot i (some ⟨.exit 0, c⟩)⟩ := by
  cases h with
  | recorded hc _ ha =>
      have hnone : World.NoneLive { s.world with pid_file := none, gen := s.world.gen + 1 } := ha i _ hi
      refine Inv.recorded ?_ hnone.tracked fun j u _ => Pc.assert_of_noneLive hnone u.pc
      exact forall_update (P := fun _ u => u.pc.dirty = false) (fun u hu => by cases hu; rfl)
        fun j u _ hj => hc j u hj
  | launching k u hk hp _ =>
      have hki : k ≠ i := by rintro rfl; rw [hi] at hk; cases hk; exact absurd hp id
      exact absurd (hsep k u hki hk) (by simp [hp.dirty])

theorem inv_rmFails {c : Call} (h : Inv s) (hi : s.slot i = some ⟨.rm, c⟩) :
    Inv ⟨s.world, Function.update s.slot i (some ⟨.exit 1, c⟩)⟩ := by
  refine inv_slot h (fun u hu => ?_) (fun u hu => ?_) fun _ _ u hu => ?_
  · rw [hi] at hu; cases hu; rfl
  · cases hu; rfl
  · cases hu; trivial

end Mutating

/-- **The step lemma.** Every label that meets the condition keeps the invariant. There is a case for each kind of
    step; those that do not mutate are one (`inv_quiet`), and the condition is used where an instance is launched or
    recorded, and where the file is removed. -/
theorem inv_next {l : Label ι} (h : Inv s) (hsep : Separate s l) (hnext : next sc s l = some s') :
    Inv s' := by
  cases l with
  | invoke i c =>
      obtain ⟨hi, rfl⟩ := next_invoke hnext
      have hstart : ∀ w, (Thread.init c).pc.dirty = false ∧ (Thread.init c).pc.Assert w := by
        intro w; cases c <;> exact ⟨rfl, trivial⟩
      refine inv_slot h (fun t ht => ?_) (fun u hu => ?_) fun _ _ u hu => ?_
      · rw [hi] at ht; cases ht
      · cases hu; exact (hstart s.world).1
      · cases hu; exact (hstart s.world).2
  | step i o =>
      obtain ⟨t, t', w', ev, hi, hstep, rfl⟩ := next_step hnext
      obtain ⟨hlaunch, hrm⟩ := hsep t hi
      cases hm : t.pc.mutates with
      | false => exact inv_quiet h hi hstep hm
      | true =>
          cases hstep with
          | fork => exact inv_fork h hi (hlaunch rfl)
          | truncate => exact inv_truncate h hi
          | write => exact inv_write h hi (hlaunch rfl)
          | rm => exact inv_rm h hi (hrm rfl)
          | rmFails => exact inv_rmFails h hi
          | _ => cases hm
  | finish i code =>
      obtain ⟨hi, rfl⟩ := next_finish hnext
      refine inv_slot h (fun t ht => ?_) (fun u hu => by cases hu) fun _ _ u hu => by cases hu
      rw [hi] at ht; cases ht; rfl
  | die p => obtain ⟨-, rfl⟩ := next_die hnext; exact inv_setProc h (by simp)
  | spawn p => obtain ⟨-, rfl⟩ := next_spawn hnext; exact inv_setProc h (by simp)
  | reap p => obtain ⟨-, rfl⟩ := next_reap hnext; exact inv_setProc h (by simp)

/-- **The run lemma**: a run in which every step is separate keeps the invariant. -/
theorem inv_run {ls : List (Label ι)} (h : Inv s) (hsep : Along (next sc) Separate s ls)
    (hrun : run (next sc) s ls = some s') : Inv s' :=
  run_invariant (fun _ _ _ hs hl hn => inv_next hs hl hn) h hsep hrun

end Invariant
end Datastore
end StgEnvironment
