import StgEnvironment.Datastore.Correctness.Invariant

/-!
# `Datastore.Correctness.SingleInstance`: invocations one after the other

The system with one slot. `Inv` then holds all along, so between two invocations every live instance is the
one on record. Two invariants of a single invocation add what `start` and `stop` promise: `Kept`, while a
`start` finds the instance that stays alive, and `Pc.StopAssert`, which carries the answers of a `stop` to its
exit status.

## Contents
- **A start that finds the instance** changes neither the file nor what is live (`kept_of_start`).
- **A stop** that exits 0 leaves nothing live (`noneLive_of_stop`), also the one inside a `restart`.
- **The runs**: `single_instance`, which puts the three together.
-/

namespace StgEnvironment
namespace Datastore
open Transition

/-- The invocation in progress is not joined by another. -/
def NoInvoke : Label Unit → Prop
  | .invoke _ _ => False
  | _ => True

theorem slot_update (slot : Unit → Option Thread) {x y : Option Thread}
    (h : Function.update slot () x () = y) : x = y := by
  rwa [Function.update_self] at h

/-! ## A start that finds the instance -/

/-- The file and the live instances are those of `w`, and the invocation has not got past line 41. -/
def Kept (w : World) (s : Sys Unit) : Prop :=
  (s.world.pid_file = w.pid_file ∧ ∀ q, s.world.Live q ↔ w.Live q) ∧
    ∀ t, s.slot () = some t → t.call = .top ∧
      (t.pc = .test .startGuard ∨ t.pc = .cat .startGuard ∨ t.pc = .ps .startGuard w.get_pid ∨ t.pc = .exit 0)

/-- What the invocation does to itself keeps the rest. -/
theorem Kept.slot {w : World} {s : Sys Unit} {x : Option Thread} (h : Kept w s)
    (hx : ∀ t, x = some t → t.call = .top ∧
      (t.pc = .test .startGuard ∨ t.pc = .cat .startGuard ∨ t.pc = .ps .startGuard w.get_pid ∨
        t.pc = .exit 0)) :
    Kept w ⟨s.world, Function.update s.slot () x⟩ :=
  ⟨h.1, fun t ht => hx t (slot_update s.slot ht)⟩

/-- The process table changes under a PID whose process, before and after, is not an instance. -/
theorem Kept.setProc {w : World} {s : Sys Unit} {p : Pid} {x : Option Owner} (h : Kept w s)
    (hp : ¬ s.world.Live p) (hx : x ≠ some .daemon) : Kept w ⟨s.world.setProc p x, s.slot⟩ := by
  refine ⟨⟨h.1.1, fun q => ?_⟩, h.2⟩
  rw [← h.1.2 q]
  refine ⟨live_of_setProc hx, fun hq => ?_⟩
  have hqp : q ≠ p := by rintro rfl; exact hp hq
  show (s.world.setProc p x).procs q = some .daemon
  rw [World.setProc_procs, if_neg hqp]
  exact hq

/-- `is_running` at line 40 answers yes for the instance on record: the file is there, `cat` gives its PID and `ps`
    finds it. So the `start` ends there, with file and instances as they were. -/
theorem kept_next {sc : Script} {w : World} {p : Pid} {s s' : Sys Unit} {l : Label Unit} (ht : w.Tracked)
    (hp : w.Live p) (h : Kept w s) (hl : NoInvoke l ∧ l ≠ .die p) (hnext : next sc s l = some s') :
    Kept w s' := by
  cases l with
  | invoke i c => exact absurd hl.1 id
  | step i o =>
      obtain ⟨t, t', w', ev, hi, hstep, rfl⟩ := next_step hnext
      obtain ⟨hcall, hpc⟩ := h.2 t hi
      -- the instance on record is live, so the file is there and `ps` finds it
      have hholds := ht p hp
      have hfile : s.world.pid_file.isSome = true := by rw [h.1.1]; exact hholds.isSome
      have hlive : s.world.procs p = some .daemon := (h.1.2 p).mpr hp
      obtain ⟨pc, call⟩ := t
      obtain rfl : call = .top := hcall
      rcases hpc with hpc | hpc | hpc | hpc <;> obtain rfl := hpc
      · cases hstep with
        | found => exact h.slot fun u hu => by cases hu; exact ⟨rfl, Or.inr (Or.inl rfl)⟩
        | absent hf => rw [hfile] at hf; cases hf
      · cases hstep
        refine h.slot fun u hu => ?_
        cases hu
        exact ⟨rfl, Or.inr (Or.inr (Or.inl (by simp [World.get_pid, h.1.1])))⟩
      · have hps : ps s.world o.psOther w.get_pid = true := by rw [ps_of_pid hholds.get_pid, hlive]; rfl
        obtain _ | _ | _ | ⟨b, hb⟩ := hstep
        obtain rfl : true = b := hps.symm.trans hb
        refine h.slot fun u hu => ?_
        cases hu
        exact ⟨rfl, Or.inr (Or.inr (Or.inr rfl))⟩
      · cases hstep
  | finish i code =>
      obtain ⟨-, rfl⟩ := next_finish hnext
      exact h.slot fun u hu => by cases hu
  | die q =>
      obtain ⟨hq, rfl⟩ := next_die hnext
      have hqp : q = p := ht.atMostOne q p ((h.1.2 q).mp hq) hp
      exact absurd (by rw [hqp]) hl.2
  | spawn q => obtain ⟨hq, rfl⟩ := next_spawn hnext; exact h.setProc (by simp [World.Live, hq]) (by simp)
  | reap q => obtain ⟨hq, rfl⟩ := next_reap hnext; exact h.setProc (by simp [World.Live, hq]) (by simp)

/-! ## A stop -/

/-- The places of `is_running` in `stop`. -/
def Site.ofStop : Site → Bool
  | .stopGuard | .stopPoll _ | .stopFinal => true
  | _ => false

/-- What the answers a `stop` has got so far tell, beyond `Pc.Assert`: it exits 0 when nothing is live. -/
def Pc.StopAssert (w : World) : Pc → Prop
  | .ps .stopGuard args => args = w.get_pid ∨ w.NoneLive
  | .test k | .cat k | .ps k _ => k.ofStop = true
  | .exit 0 => w.NoneLive
  | .fork | .truncate _ | .write _ _ => False
  | _ => True

/-- A `stop` is in progress in call `call`, or a `restart` is past its `$0 stop`. -/
def Stopping (call : Call) (s : Sys Unit) : Prop :=
  ∀ t, s.slot () = some t →
    t.call = call ∧ t.pc.StopAssert s.world ∨ call = .restartStop ∧ t.call ≠ .restartStop

/-- The assertion survives a change that leaves the file alone and makes nothing live. -/
theorem Pc.StopAssert.mono {w w' : World} {pc : Pc} (h : pc.StopAssert w) (hpid : w'.get_pid = w.get_pid)
    (hlive : ∀ q, w'.Live q → w.Live q) : pc.StopAssert w' := by
  have hnone : w.NoneLive → w'.NoneLive := fun hn q hq => hn q (hlive q hq)
  unfold Pc.StopAssert at h ⊢
  split at h
  · exact h.imp (fun ha => ha.trans hpid.symm) hnone
  all_goals first | exact hnone h | exact h

theorem Pc.StopAssert.clean {w : World} {pc : Pc} (h : pc.StopAssert w) : pc.dirty = false := by
  cases pc <;> first | rfl | exact absurd h id

section Steps
variable {sc : Script} {o : Choice} {t t' : Thread} {w w' : World} {ev : List Event}

/-- Only `restart` changes calls, and it never comes back to `$0 stop`. -/
theorem step_call (h : Step sc o w t t' w' ev) : t'.call = t.call ∨ t'.call ≠ .restartStop := by
  have hafter : ∀ (c : Call) k b, c.after k b = c ∨ c.after k b ≠ .restartStop := by
    intro c k b
    unfold Call.after
    split <;> simp
  cases h with
  | absent => exact hafter _ _ _
  | ps => exact hafter _ _ _
  | stopped => exact Or.inr nofun
  | started => exact Or.inr nofun
  | _ => exact Or.inl rfl

theorem step_stop (h : Step sc o w t t' w' ev) (ht : w.Tracked) (ha : t.pc.Assert w)
    (hs : t.pc.StopAssert w) (hcall : t.call ≠ .restartStart) :
    t'.call = t.call ∧ t'.pc.StopAssert w' ∨ t.call = .restartStop ∧ t'.call ≠ .restartStop := by
  have hloop : ∀ n, (pollLoop n).StopAssert w := by intro n; cases n <;> exact rfl
  cases h with
  | found => exact Or.inl ⟨rfl, hs⟩
  | @absent k c hf =>
      have hnone := ht.noneLive_of_absent hf
      -- only the first question of a `stop` sends it to its exit at once
      cases k with
      | stopGuard => exact Or.inl ⟨rfl, hnone⟩
      | stopPoll n => exact Or.inl ⟨rfl, rfl⟩
      | stopFinal => exact Or.inl ⟨rfl, trivial⟩
      | _ => cases hs
  | @cat k => cases k <;> first | exact Or.inl ⟨rfl, Or.inl rfl⟩ | exact Or.inl ⟨rfl, hs⟩
  | @ps k args c b hb =>
      cases k with
      | stopGuard =>
          cases b with
          | true => exact Or.inl ⟨rfl, trivial⟩
          | false => exact Or.inl ⟨rfl, ht.noneLive_of_answer hb hs⟩
      | stopPoll n => cases b <;> first | exact Or.inl ⟨rfl, trivial⟩ | exact Or.inl ⟨rfl, rfl⟩
      | stopFinal => cases b <;> exact Or.inl ⟨rfl, trivial⟩
      | _ => cases hs
  | fork => exact absurd hs id
  | truncate => exact absurd hs id
  | write => exact absurd hs id
  | kill => exact Or.inl ⟨rfl, hloop _⟩
  | sleep => exact Or.inl ⟨rfl, hloop _⟩
  -- the file is gone, or `rm` removes it: line 69 has found nothing live
  | gone => exact Or.inl ⟨rfl, ha⟩
  | rm => exact Or.inl ⟨rfl, ha⟩
  | stopped => exact Or.inr ⟨rfl, nofun⟩
  | started => exact absurd rfl hcall
  | _ => exact Or.inl ⟨rfl, trivial⟩

end Steps

/-- What holds of the invocation in the slot holds of all. -/
theorem Stopping.slot {call : Call} {w : World} {slot : Unit → Option Thread} {x : Option Thread}
    (hx : ∀ t, x = some t → t.call = call ∧ t.pc.StopAssert w ∨ call = .restartStop ∧ t.call ≠ .restartStop) :
    Stopping call ⟨w, Function.update slot () x⟩ := fun t ht => hx t (slot_update slot ht)

theorem Stopping.setProc {call : Call} {s : Sys Unit} {p : Pid} {x : Option Owner} (h : Stopping call s)
    (hx : x ≠ some .daemon) : Stopping call ⟨s.world.setProc p x, s.slot⟩ := fun t ht =>
  (h t ht).imp (fun hs => ⟨hs.1, hs.2.mono rfl fun _ => live_of_setProc hx⟩) id

/-- **The step lemma of a `stop`**: every label but an invocation keeps it on its way. The interesting case is a step
    of the script itself, where the invariant gives that what is live is on record. -/
theorem stopping_next {sc : Script} {call : Call} {s s' : Sys Unit} {l : Label Unit}
    (hc : call ≠ .restartStart) (h : Inv s ∧ Stopping call s) (hl : NoInvoke l)
    (hnext : next sc s l = some s') : Inv s' ∧ Stopping call s' := by
  refine ⟨inv_next h.1 (separate_of_subsingleton s l) hnext, ?_⟩
  cases l with
  | invoke i c => exact absurd hl id
  | step i o =>
      obtain ⟨t, t', w', ev, hi, hstep, rfl⟩ := next_step hnext
      refine Stopping.slot fun u hu => ?_
      obtain rfl : t' = u := Option.some.inj hu
      rcases h.2 t hi with ⟨hcall, hs⟩ | ⟨hcall, hne⟩
      -- a `stop` launches nothing, so what is live is on record all along
      · have hclean : ∀ j u, s.slot j = some u → u.pc.dirty = false := by
          intro j u hj
          rw [hi] at hj; cases hj; exact hs.clean
        cases h.1 with
        | recorded _ ht ha =>
            have := step_stop hstep ht (ha i t hi) hs (by rw [hcall]; exact hc)
            rwa [hcall] at this
        | launching k u hk hp _ => exact absurd (hclean k u hk) (by simp [hp.dirty])
      · refine Or.inr ⟨hcall, ?_⟩
        rcases step_call hstep with heq | hne'
        · rwa [heq]
        · exact hne'
  | finish i code =>
      obtain ⟨-, rfl⟩ := next_finish hnext
      exact Stopping.slot fun u hu => by cases hu
  | die q => obtain ⟨-, rfl⟩ := next_die hnext; exact h.2.setProc (by simp)
  | spawn q => obtain ⟨-, rfl⟩ := next_spawn hnext; exact h.2.setProc (by simp)
  | reap q => obtain ⟨-, rfl⟩ := next_reap hnext; exact h.2.setProc (by simp)

/-! ## The runs -/

section Runs
variable {sc : Script} {s s' : Sys Unit} {ls : List (Label Unit)}

/-- **Between two invocations everything live is on record.** With one slot for invocations every step is separate, so
    the invariant holds along the run, and in an idle state it says just this. -/
theorem tracked_of_run {s₀ : Sys Unit} (hidle : s₀.Idle) (ht : s₀.world.Tracked)
    (hrun : run (next sc) s₀ ls = some s) (hend : s.Idle) : s.world.Tracked := by
  have hinv : Inv s := inv_run (Inv.of_idle hidle ht) (along_of_all separate_of_subsingleton) hrun
  exact hinv.tracked_of_clean hend.forall

/-- A `start` during which the live instance stays alive. -/
theorem kept_of_start {p : Pid} (hidle : s.Idle) (ht : s.world.Tracked) (hp : s.world.Live p)
    (hls : ∀ l ∈ ls, NoInvoke l ∧ l ≠ .die p) (hrun : run (next sc) s (.invoke () .start :: ls) = some s') :
    s'.world.pid_file = s.world.pid_file ∧ ∀ q, s'.world.Live q ↔ s.world.Live q := by
  obtain ⟨s₁, hfirst, hrest⟩ := run_cons_iff.mp hrun
  obtain ⟨-, rfl⟩ := next_invoke hfirst
  have h0 : Kept s.world s := ⟨⟨rfl, fun _ => Iff.rfl⟩, hidle.forall ()⟩
  have h1 := h0.slot (x := some (Thread.init .start)) fun t hi => by cases hi; exact ⟨rfl, Or.inl rfl⟩
  refine (run_invariant ?_ h1 (along_of_forall hls) hrest).1
  exact fun _ _ _ hk hl hn => kept_next ht hp hk hl hn

/-- A `stop`, invoked as such or by a `restart`, that is about to exit 0. It has got there on the way that `Stopping`
    describes, along which nothing is launched. -/
theorem noneLive_of_stop {c : Command} {call : Call} (hidle : s.Idle) (ht : s.world.Tracked)
    (hc : c = .stop ∧ call = .top ∨ c = .restart ∧ call = .restartStop) (hls : ∀ l ∈ ls, NoInvoke l)
    (hrun : run (next sc) s (.invoke () c :: ls) = some s') (hexit : s'.slot () = some ⟨.exit 0, call⟩) :
    s'.world.NoneLive := by
  obtain ⟨s₁, hfirst, hrest⟩ := run_cons_iff.mp hrun
  have hinv : Inv s₁ := inv_next (Inv.of_idle hidle ht) (separate_of_subsingleton s _) hfirst
  obtain ⟨-, rfl⟩ := next_invoke hfirst
  have hstop : Stopping call ⟨s.world, Function.update s.slot () (some (Thread.init c))⟩ := by
    refine Stopping.slot fun t hi => Or.inl ?_
    cases hi
    rcases hc with ⟨rfl, rfl⟩ | ⟨rfl, rfl⟩ <;> exact ⟨rfl, rfl⟩
  have hne : call ≠ .restartStart := by rcases hc with ⟨-, rfl⟩ | ⟨-, rfl⟩ <;> exact nofun
  have hend : Inv s' ∧ Stopping call s' := by
    refine run_invariant (I := fun s => Inv s ∧ Stopping call s) ?_ ⟨hinv, hstop⟩ (along_of_forall hls) hrest
    exact fun _ _ _ hk hl hn => stopping_next hne hk hl hn
  rcases hend.2 _ hexit with ⟨-, hnone⟩ | ⟨hcall, hne'⟩
  · exact hnone
  · exact absurd hcall hne'

/-- **One tracked instance.** Invocations run one after the other, with instances that die and unrelated
    processes that come and go at any moment. Between two invocations at most one instance is live, and the
    file holds its PID. A `start` while it stays alive changes neither the file nor the instances, and a `stop`
    (also the one of a `restart`) that exits 0 leaves none live. -/
theorem single_instance {s₀ : Sys Unit} (hidle : s₀.Idle) (ht : s₀.world.Tracked)
    (hrun : run (next sc) s₀ ls = some s) (hend : s.Idle) :
    s.world.AtMostOne ∧ s.world.Tracked ∧
      (∀ p ls' s', s.world.Live p → (∀ l ∈ ls', NoInvoke l ∧ l ≠ .die p) →
        run (next sc) s (.invoke () .start :: ls') = some s' →
        s'.world.pid_file = s.world.pid_file ∧ ∀ q, s'.world.Live q ↔ s.world.Live q) ∧
      ∀ c call ls' s', c = .stop ∧ call = .top ∨ c = .restart ∧ call = .restartStop →
        (∀ l ∈ ls', NoInvoke l) → run (next sc) s (.invoke () c :: ls') = some s' →
        s'.slot () = some ⟨.exit 0, call⟩ → s'.world.NoneLive := by
  have htracked := tracked_of_run hidle ht hrun hend
  refine ⟨htracked.atMostOne, htracked, ?_, ?_⟩
  · intro p ls' s' hp hls hrun'
    exact kept_of_start hend htracked hp hls hrun'
  · intro c call ls' s' hc hls hrun' hexit
    exact noneLive_of_stop hend htracked hc hls hrun' hexit

end Runs

/-- The labels of a `start` that launches an instance under `p`. -/
def startRun (p : Pid) : List (Label Unit) :=
  .invoke () .start :: List.replicate 7 (.step () ⟨p, true⟩) ++ [.finish () 0]

/-- On a blank machine, after a `start`: one instance is live, and its PID is in the file. -/
theorem single_instance_after_start :
    ∃ s, run (next userReadBatch) Sys.blank (startRun 7) = some s ∧ s.world.Live 7 ∧ s.world.AtMostOne ∧
      s.world.Holds 7 := by
  obtain ⟨s, hrun⟩ : ∃ s, run (next userReadBatch) Sys.blank (startRun 7) = some s :=
    Option.isSome_iff_exists.mp (by decide)
  have hs : (run (next userReadBatch) Sys.blank (startRun 7)).all
      (fun s => s.world.procs 7 == some .daemon && s.slot () == none) = true := by decide
  rw [hrun] at hs
  simp only [Option.all_some, Bool.and_eq_true, beq_iff_eq] at hs
  have h := single_instance Sys.blank_idle Sys.blank_tracked hrun fun _ => hs.2
  exact ⟨s, hrun, hs.1, h.1, h.2.1 7 hs.1⟩

end Datastore
end StgEnvironment
