import StgEnvironment.Datastore.Correctness.Steps
import StgEnvironment.Datastore.Shutdown

/-!
# `Datastore.Correctness.Shutdown`: how long `stop` and `restart` wait

The loop of `stop` is meant to poll ten times, a second apart. Its word list is `{1..10}`, which is one word in a POSIX
shell: the loop polls once, and the last test comes a second after SIGTERM (`waitsTenSeconds_iff`). The run of an
invocation is followed phase by phase; what a phase leaves is a function of the seconds that have passed.

## Contents
- **Steps** of an invocation by itself: those without time (`reach_step`), `kill` and `sleep`.
- **The phases of a run**: the answer of `is_running` (`reach_decided`), the loop, the end of `stop`, and the launch of
  `restart` behind it.
- **The end of a run** is unique (`ends_unique`), so that one course of the invocation says what it does.
- **Ten seconds**: `waitsTenSeconds_iff`, for every latency.
-/

namespace StgEnvironment
namespace Datastore
open Relation

/-- No step of an invocation ends an instance: `kill` asks it to end. -/
theorem Step.live {sc : Script} {o : Choice} {t t' : Thread} {w w' : World} {ev : List Event} {p : Pid}
    (h : Step sc o w t t' w' ev) (hlive : w.Live p) : w'.Live p := by
  cases h with
  | fork =>
      rw [World.Live, World.setProc_procs]
      split_ifs
      · rfl
      · exact hlive
  | write => rwa [World.Live, World.write_procs]
  | _ => exact hlive

/-- The world after lines 44 to 47 have launched an instance under this PID. -/
def World.launched (w : World) (p : Pid) : World :=
  World.write { w.setProc p (some .daemon) with pid_file := some [] } w.gen (pidLine p)

theorem World.launched_live (w : World) (p : Pid) : (w.launched p).Live p := by
  rw [World.Live, launched, World.write_procs]
  exact Function.update_self p _ _

theorem World.launched_holds (w : World) (p : Pid) : (w.launched p).Holds p :=
  World.holds_pidLine (World.write_empty rfl)

/-- The command that takes time. -/
def Pc.sleeps : Pc → Bool
  | .sleep _ => true
  | _ => false

namespace Situation
variable (sc : Script) (x : Situation)

/-- The invocation comes from one state to another. -/
abbrev Reach (s t : Watch) : Prop := ReflTransGen (fun s s' => x.step sc s = some s') s t

theorem holds : x.world.Holds x.pid := x.tracked

/-- The world so many seconds after SIGTERM, as far as the daemon goes. -/
def after (k : ℕ) : World := if x.latency ≤ k then x.world.setProc x.pid none else x.world

/-- The world once the daemon has been stopped. -/
def stopped : World := { x.world.setProc x.pid none with pid_file := none, gen := x.world.gen + 1 }

/-- The file still has the PID, however long ago SIGTERM was sent. -/
theorem after_holds (k : ℕ) : (x.after k).Holds x.pid := by
  unfold after
  split_ifs
  · exact x.tracked
  · exact x.tracked

theorem after_gone {k : ℕ} (h : x.latency ≤ k) : x.after k = x.world.setProc x.pid none := if_pos h

theorem after_live {k : ℕ} (h : ¬ x.latency ≤ k) : x.after k = x.world := if_neg h

/-- What `ps` will say of a daemon that is gone. -/
theorem after_isSome_gone {k : ℕ} (h : x.latency ≤ k) : ((x.after k).procs x.pid).isSome = false := by
  simp [x.after_gone h, World.setProc_procs]

theorem after_isSome_live {k : ℕ} (h : ¬ x.latency ≤ k) : ((x.after k).procs x.pid).isSome = true := by
  rw [x.after_live h]
  exact x.live.isSome

/-! ## Steps

Beside the state of the invocation there is a clock, which counts the seconds since SIGTERM. Only `sleep` lets it go
on, and what the daemon does depends on nothing else. -/

variable {sc}

theorem reach_step {w w' : World} {t t' : Thread} {e : Option ℕ} {shown ev : List Event}
    (h : Step sc x.choice w t t' w' ev) (hclock : x.clock ⟨w, t, e, shown⟩ ev = e) :
    x.Reach sc ⟨w, t, e, shown⟩ ⟨w', t', e, shown ++ ev⟩ := by
  apply ReflTransGen.single
  rw [step, h.step_eq, Option.map_some, hclock, passed, if_neg fun hne => hne.1 rfl]

/-- The clock stands still at a command other than `sleep` that sends no signal. -/
theorem clock_echo {w : World} {t : Thread} {e : Option ℕ} {shown : List Event} (ht : t.pc.sleeps = false)
    (texts : List Text) : x.clock ⟨w, t, e, shown⟩ (texts.map .echo) = e := by
  unfold clock
  split
  · next left hpc =>
      rw [hpc] at ht
      cases ht
  · rw [if_neg (by simp)]

/-- A step by which no time passes and nothing is shown. -/
theorem reach_silent {w w' : World} {t t' : Thread} {e : Option ℕ} {shown : List Event}
    (h : Step sc x.choice w t t' w' []) (ht : t.pc.sleeps = false) :
    x.Reach sc ⟨w, t, e, shown⟩ ⟨w', t', e, shown⟩ := by
  have hreach : x.Reach sc ⟨w, t, e, shown⟩ ⟨w', t', e, shown ++ []⟩ := x.reach_step h (x.clock_echo ht [])
  rwa [List.append_nil] at hreach

variable (sc) in
/-- **`is_running` with a PID in the file** asks whether there is such a process. -/
theorem reach_decided {w : World} (k : Site) (c : Call) (e : Option ℕ) (shown : List Event) {p : Pid} {b : Bool}
    (h : w.Holds p) (hb : (w.procs p).isSome = b) :
    x.Reach sc ⟨w, ⟨.test k, c⟩, e, shown⟩
      ⟨w, ⟨(decided sc k b).1, c.after k b⟩, e, shown ++ (decided sc k b).2.map .echo⟩ :=
  (x.reach_silent (.found h.isSome) rfl).trans <|
    (x.reach_silent .cat rfl).trans <|
      x.reach_step (.ps b (by rw [ps_of_pid h.get_pid, hb])) (x.clock_echo rfl _)

theorem reach_absent {w : World} {k : Site} {c : Call} {e : Option ℕ} {shown : List Event} (h : w.pid_file = none) :
    x.Reach sc ⟨w, ⟨.test k, c⟩, e, shown⟩
      ⟨w, ⟨(decided sc k false).1, c.after k false⟩, e, shown ++ (decided sc k false).2.map .echo⟩ :=
  x.reach_step (.absent (by rw [h]; rfl)) (x.clock_echo rfl _)

theorem reach_removed {w : World} {c : Call} {e : Option ℕ} {shown : List Event} (h : w.pid_file.isSome = true) :
    x.Reach sc ⟨w, ⟨.testFile, c⟩, e, shown⟩
      ⟨{ w with pid_file := none, gen := w.gen + 1 }, ⟨.exit 0, c⟩, e, shown⟩ :=
  (x.reach_silent (.present h) rfl).trans (x.reach_silent (.rm h) rfl)

/-- Lines 44 to 51: the instance is launched, its PID is written, and it is found to run. -/
theorem reach_launched {w : World} {c : Call} {e : Option ℕ} {shown : List Event}
    (hfree : w.procs x.choice.newPid = none) :
    x.Reach sc ⟨w, ⟨.fork, c⟩, e, shown⟩ ⟨w.launched x.choice.newPid, ⟨.exit 0, c⟩, e, shown⟩ := by
  have hcheck := x.reach_decided sc .startCheck c e shown (w.launched_holds x.choice.newPid)
    (w.launched_live x.choice.newPid).isSome
  rw [show (decided sc .startCheck true).2 = [] from rfl, List.map_nil, List.append_nil] at hcheck
  refine ReflTransGen.trans ?_ hcheck
  exact (x.reach_silent (.fork hfree) rfl).trans <|
    (x.reach_silent .truncate rfl).trans (x.reach_silent .write rfl)

/-- `kill` delivers SIGTERM to the daemon, and its time begins. A daemon without any latency is gone at once. -/
theorem step_kill {c : Call} {shown : List Event} :
    x.step sc ⟨x.world, ⟨.kill x.world.get_pid, c⟩, none, shown⟩ =
      some ⟨x.after 0, ⟨pollLoop sc.turns, c⟩, some 0, shown ++ [.signal x.pid .daemon]⟩ := by
  have hsignals : signals x.world x.world.get_pid = [.signal x.pid .daemon] := by
    have hlive : x.world.procs x.pid = some .daemon := x.live
    rw [signals, filterMap_pidOf x.holds.get_pid]
    simp [hlive]
  have hclock : x.clock ⟨x.world, ⟨.kill x.world.get_pid, c⟩, none, shown⟩ [.signal x.pid .daemon] = some 0 := by
    simp [clock]
  have hstep : Step sc x.choice x.world ⟨.kill x.world.get_pid, c⟩ ⟨pollLoop sc.turns, c⟩ x.world _ := .kill
  rw [hsignals] at hstep
  rw [step, hstep.step_eq, Option.map_some, hclock, passed, after]
  congr 2
  by_cases hzero : x.latency ≤ (0 : ℕ)
  · have heq : x.latency = 0 := by simpa using hzero
    rw [if_pos hzero, if_pos ⟨by simp, by rw [heq]; rfl⟩]
  · rw [if_neg hzero, if_neg]
    rintro ⟨-, hlatency⟩
    exact hzero (Option.some.inj hlatency).ge

/-- A second passes, and the loop has a turn less. The daemon goes in this second, has gone before, or goes on. -/
theorem step_sleep {left k : ℕ} {c : Call} {shown : List Event} :
    x.step sc ⟨x.after k, ⟨.sleep left, c⟩, some k, shown⟩ =
      some ⟨x.after (k + 1), ⟨pollLoop left, c⟩, some (k + 1), shown⟩ := by
  have hclock : x.clock ⟨x.after k, ⟨.sleep left, c⟩, some k, shown⟩ [] = some (k + 1) := rfl
  rw [step, Step.sleep.step_eq, Option.map_some, hclock, List.append_nil, passed]
  congr 2
  have hcast : ((k + 1 : ℕ) : ℕ∞) = k + 1 := by push_cast; rfl
  unfold after
  by_cases hnow : x.latency = ((k + 1 : ℕ) : ℕ∞)
  · have hbefore : ¬ x.latency ≤ k := by rw [hnow]; exact_mod_cast Nat.not_succ_le_self k
    rw [if_pos ⟨by simp, by rw [hnow]; rfl⟩, if_neg hbefore, if_pos hnow.le]
  · rw [if_neg fun h => hnow (Option.some.inj h.2).symm]
    have hiff : x.latency ≤ k ↔ x.latency ≤ ((k + 1 : ℕ) : ℕ∞) := by
      constructor
      · intro h; exact h.trans (by exact_mod_cast Nat.le_succ k)
      · intro h
        have hlt := lt_of_le_of_ne h hnow
        rw [hcast] at hlt
        exact ENat.lt_add_one_iff (ENat.natCast_ne_top k) |>.mp hlt
    by_cases hbefore : x.latency ≤ k
    · rw [if_pos hbefore, if_pos (hiff.mp hbefore)]
    · rw [if_neg hbefore, if_neg fun h => hbefore (hiff.mpr h)]

/-! ## The phases of a run

Each phase is reached from the one before it: the loop, the last test of `stop`, and for `restart` the launch behind
it. The loop is followed by induction on the turns that it has left. -/

variable (sc)

/-- **The loop** comes to the last test, with as much time behind it as its turns give, or less if the daemon has
    gone before. -/
theorem reach_polls (left k : ℕ) (c : Call) (shown : List Event) :
    ∃ k' shown', x.Reach sc ⟨x.after k, ⟨pollLoop left, c⟩, some k, shown⟩
        ⟨x.after k', ⟨.test .stopFinal, c⟩, some k', shown'⟩ ∧
      (x.latency ≤ k' ↔ x.latency ≤ ((k + left : ℕ) : ℕ∞)) := by
  induction left generalizing k shown with
  | zero => exact ⟨k, shown, .refl, Iff.rfl⟩
  | succ left ih =>
      by_cases hgone : x.latency ≤ k
      · have hle : x.latency ≤ ((k + (left + 1) : ℕ) : ℕ∞) := hgone.trans (by exact_mod_cast Nat.le_add_right k _)
        exact ⟨k, _, x.reach_decided sc _ c _ _ (x.after_holds k) (x.after_isSome_gone hgone), iff_of_true hgone hle⟩
      · obtain ⟨k', shown', hreach, hiff⟩ := ih (k + 1) (shown ++ [.echo ".".toList])
        have hpoll := x.reach_decided sc (.stopPoll left) c (some k) shown (x.after_holds k) (x.after_isSome_live hgone)
        refine ⟨k', shown', (hpoll.tail x.step_sleep).trans hreach, ?_⟩
        rwa [show k + (left + 1) = k + 1 + left by omega]

/-- `stop` comes to the last test after all its turns, if the daemon takes that long. -/
theorem reach_stopFinal (c : Call) :
    ∃ k shown, x.Reach sc ⟨x.world, ⟨.test .stopGuard, c⟩, none, []⟩
        ⟨x.after k, ⟨.test .stopFinal, c⟩, some k, shown⟩ ∧
      (x.latency ≤ k ↔ x.latency ≤ sc.turns) := by
  have hguard := x.reach_decided sc .stopGuard c none [] x.holds x.live.isSome
  obtain ⟨k, shown, hpolls, hiff⟩ := x.reach_polls sc sc.turns 0 c
    ([] ++ (decided sc .stopGuard true).2.map .echo ++ [.signal x.pid .daemon])
  refine ⟨k, shown, (hguard.trans ?_).trans hpolls, ?_⟩
  · exact (x.reach_silent .killCat rfl).tail x.step_kill
  · rwa [Nat.zero_add] at hiff

/-- **`stop`, of a daemon that is gone in time**: it says so, and removes the file. -/
theorem reach_stopped (c : Call) (h : x.latency ≤ sc.turns) :
    ∃ e shown, x.Reach sc ⟨x.world, ⟨.test .stopGuard, c⟩, none, []⟩ ⟨x.stopped, ⟨.exit 0, c⟩, e, shown⟩ ∧
      .echo "Stopped".toList ∈ shown := by
  obtain ⟨k, shown, hreach, hiff⟩ := x.reach_stopFinal sc c
  have hgone : x.latency ≤ k := hiff.mpr h
  have hfinal := x.reach_decided sc .stopFinal c (some k) shown (x.after_holds k)
    (x.after_isSome_gone hgone)
  rw [x.after_gone hgone] at hreach hfinal
  refine ⟨some k, _, (hreach.trans hfinal).trans (x.reach_removed ?_), ?_⟩
  · exact x.holds.isSome
  · exact List.mem_append_right _ (List.mem_singleton.mpr rfl)

/-- `stop`, of a daemon that is not: it fails, and leaves file and daemon as they are. -/
theorem reach_unstopped (c : Call) (h : ¬ x.latency ≤ sc.turns) :
    ∃ e shown, x.Reach sc ⟨x.world, ⟨.test .stopGuard, c⟩, none, []⟩ ⟨x.world, ⟨.exit 1, c⟩, e, shown⟩ := by
  obtain ⟨k, shown, hreach, hiff⟩ := x.reach_stopFinal sc c
  have hlive : ¬ x.latency ≤ k := fun hle => h (hiff.mp hle)
  have hfinal := x.reach_decided sc .stopFinal c (some k) shown (x.after_holds k)
    (x.after_isSome_live hlive)
  rw [x.after_live hlive] at hreach hfinal
  exact ⟨some k, _, hreach.trans hfinal⟩

/-- **`restart`, of a daemon that is gone in time**: a new instance is launched, by the `start` that follows the
    `stop`, which finds no file any more. -/
theorem reach_restarted (h : x.latency ≤ sc.turns) :
    ∃ e shown, x.Reach sc (x.start .restart) ⟨x.stopped.launched x.choice.newPid, ⟨.exit 0, .top⟩, e, shown⟩ ∧
      .echo ("Starting ".toList ++ sc.name) ∈ shown := by
  obtain ⟨e, shown, hstop, -⟩ := x.reach_stopped sc .restartStop h
  have hfree : x.stopped.procs x.choice.newPid = none := by
    show (x.world.setProc x.pid none).procs x.choice.newPid = none
    rw [World.setProc_procs]
    split_ifs with hpid
    · rfl
    · exact x.free.resolve_left hpid
  have hrestart : x.Reach sc ⟨x.stopped, ⟨.test .restart, .top⟩, e, shown⟩
      ⟨x.stopped, ⟨.test .startGuard, .restartStart⟩, e, shown ++ []⟩ := x.reach_absent rfl
  have hguard : x.Reach sc ⟨x.stopped, ⟨.test .startGuard, .restartStart⟩, e, shown ++ []⟩
      ⟨x.stopped, ⟨.fork, .restartStart⟩, e, shown ++ [] ++ [.echo ("Starting ".toList ++ sc.name)]⟩ :=
    x.reach_absent rfl
  refine ⟨e, shown ++ [] ++ [.echo ("Starting ".toList ++ sc.name)], ?_, by simp⟩
  refine hstop.trans <| (x.reach_silent .stopped rfl).trans <| (hrestart.trans hguard).trans ?_
  exact (x.reach_launched hfree).trans (x.reach_silent .started rfl)

/-- `restart`, of a daemon that is not: nothing is launched. -/
theorem reach_unrestarted (h : ¬ x.latency ≤ sc.turns) :
    ∃ e shown, x.Reach sc (x.start .restart) ⟨x.world, ⟨.exit 1, .top⟩, e, shown⟩ := by
  obtain ⟨e, shown, hstop⟩ := x.reach_unstopped sc .restartStop h
  have htest := x.reach_decided sc .restart .top e shown x.holds x.live.isSome
  exact ⟨e, _, hstop.trans <| (x.reach_silent .stopped rfl).trans htest⟩

/-! ## The end of a run

Nothing else is going on while the invocation runs, so it has one course and one end. It is enough to show one
course, and what it leads to holds of all. -/

variable {sc}

/-- Whatever an invocation comes to lies before its end. -/
theorem reach_of_ends {c : Command} {s t : Watch} (ht : x.Ends sc c t) (hs : x.Reach sc (x.start c) s) :
    x.Reach sc s t := by
  obtain ⟨hreach, hend⟩ := ht
  have hfun : Relator.RightUnique fun s s' => x.step sc s = some s' :=
    fun _ _ _ h h' => Option.some.inj (h.symm.trans h')
  rcases ReflTransGen.total_of_right_unique hfun hs hreach with h | h
  · exact h
  · rcases h.cases_head with rfl | ⟨u, hu, -⟩
    · exact .refl
    · exact absurd (hend.symm.trans hu) (by simp)

/-- An invocation has one end, since nothing else is going on. -/
theorem ends_unique {c : Command} {s t : Watch} (hs : x.Ends sc c s) (ht : x.Ends sc c t) : s = t := by
  rcases (x.reach_of_ends ht hs.1).cases_head with h | ⟨u, hu, -⟩
  · exact h
  · exact absurd (hs.2.symm.trans hu) (by simp)

/-- An instance other than the daemon, once live, is live to the end. -/
theorem live_of_reach {s t : Watch} {p : Pid} (hp : p ≠ x.pid) (h : x.Reach sc s t) (hlive : s.world.Live p) :
    t.world.Live p := by
  induction h with
  | refl => exact hlive
  | @tail u v _ hstep ih =>
      obtain ⟨⟨t', w', ev⟩, hthread, rfl⟩ := Option.map_eq_some_iff.mp hstep
      have hw : w'.Live p := (step_cases hthread).live ih
      show (passed _ _ _ w').Live p
      unfold passed
      split_ifs
      · rw [World.Live, World.setProc_procs, if_neg hp]
        exact hw
      · exact hw

end Situation

/-! ## Ten seconds

What the loop is written for, against the number of its turns: ten of them would wait for ten seconds, and the word list
of the loop is one word. -/

/-- `stop` and `restart` wait up to ten seconds for the daemon, and no longer: in that time they succeed, and after it
    they fail and start nothing. -/
structure WaitsTenSeconds (sc : Script) (x : Situation) : Prop where
  stops : x.latency ≤ 10 → ∃ t, x.Ends sc .stop t ∧
    t.thread.pc = .exit 0 ∧ .echo "Stopped".toList ∈ t.shown ∧ t.world.pid_file = none
  restarts : x.latency ≤ 10 → ∃ t, x.Ends sc .restart t ∧
    t.thread.pc = .exit 0 ∧ .echo ("Starting ".toList ++ sc.name) ∈ t.shown ∧
    t.world.Live x.choice.newPid ∧ t.world.Holds x.choice.newPid
  keeps : 10 < x.latency → ∃ t, x.Ends sc .stop t ∧ t.thread.pc = .exit 1 ∧ t.world.pid_file = x.world.pid_file
  /-- No instance is started, in any state that `restart` comes to. -/
  alone : 10 < x.latency → ∃ t, x.Ends sc .restart t ∧
    ∀ s, x.Reach sc (x.start .restart) s → ∀ p, s.world.Live p → x.world.Live p

section Waits
variable {sc : Script} (x : Situation)

/-- A daemon that is gone within the turns of the loop is waited for. -/
theorem waitsTenSeconds_of_le (h : x.latency ≤ sc.turns) (hturns : sc.turns ≤ 10) : WaitsTenSeconds sc x := by
  have hnot : ¬ 10 < x.latency := not_lt.mpr (h.trans (by exact_mod_cast hturns))
  constructor
  · intro _
    obtain ⟨e, shown, hreach, hshown⟩ := x.reach_stopped sc .top h
    exact ⟨_, ⟨hreach, rfl⟩, rfl, hshown, rfl⟩
  · intro _
    obtain ⟨e, shown, hreach, hshown⟩ := x.reach_restarted sc h
    exact ⟨_, ⟨hreach, rfl⟩, rfl, hshown, World.launched_live _ _, World.launched_holds _ _⟩
  · exact fun hlong => absurd hlong hnot
  · exact fun hlong => absurd hlong hnot

/-- A daemon that takes more than ten seconds is given up, as it should be: `stop` ends with 1 and keeps the file, and
    `restart` starts no instance. -/
theorem waitsTenSeconds_of_lt (h : 10 < x.latency) (hturns : sc.turns ≤ 10) : WaitsTenSeconds sc x := by
  have hnot : ¬ x.latency ≤ 10 := not_le.mpr h
  have hturn : ¬ x.latency ≤ sc.turns := fun hle => hnot (hle.trans (by exact_mod_cast hturns))
  constructor
  · exact fun hshort => absurd hshort hnot
  · exact fun hshort => absurd hshort hnot
  · intro _
    obtain ⟨e, shown, hreach⟩ := x.reach_unstopped sc .top hturn
    exact ⟨_, ⟨hreach, rfl⟩, rfl, rfl⟩
  · intro _
    obtain ⟨e, shown, hreach⟩ := x.reach_unrestarted sc hturn
    refine ⟨_, ⟨hreach, rfl⟩, ?_⟩
    intro s hs p hlive
    by_cases hp : p = x.pid
    · rw [hp]; exact x.live
    · exact x.live_of_reach hp (x.reach_of_ends ⟨hreach, rfl⟩ hs) hlive

/-- A daemon that takes longer than the loop, and no longer than ten seconds, is given up. -/
theorem WaitsTenSeconds.le_turns (h : WaitsTenSeconds sc x) (hten : x.latency ≤ 10) : x.latency ≤ sc.turns := by
  by_contra hlong
  obtain ⟨t, hends, hexit, -⟩ := h.stops hten
  obtain ⟨e, shown, hreach⟩ := x.reach_unstopped sc .top hlong
  rw [x.ends_unique hends ⟨hreach, rfl⟩] at hexit
  cases hexit

/-- **The loop of `stop` has one turn in a POSIX shell**: the two commands wait for ten seconds exactly where one
    second is enough, or ten are not. The latency of the daemon is any number of seconds, or infinite; between the two
    bounds the script gives up on a daemon that would have gone in time. -/
theorem waitsTenSeconds_iff : WaitsTenSeconds userReadBatch x ↔ x.latency ≤ 1 ∨ 10 < x.latency := by
  have hturns : ((userReadBatch.turns : ℕ) : ℕ∞) = 1 := Nat.cast_one
  constructor
  · intro h
    rcases le_or_gt x.latency 10 with hten | hten
    · exact Or.inl (hturns ▸ h.le_turns x hten)
    · exact Or.inr hten
  · rintro (h | h)
    · exact waitsTenSeconds_of_le x (hturns ▸ h) (by decide)
    · exact waitsTenSeconds_of_lt x h (by decide)

/-- Process 7 is the daemon, and takes five seconds to end. -/
def fiveSeconds : Situation where
  world := ⟨fun p => if p = 7 then some .daemon else none, some (pidLine 7), 0⟩
  pid := 7
  tracked := World.holds_pidLine rfl
  live := rfl
  latency := 5
  choice := ⟨8, false⟩
  free := Or.inr rfl

/-- A daemon that takes five seconds is given up after one. -/
theorem not_waitsTenSeconds_five : ¬ WaitsTenSeconds userReadBatch fiveSeconds := by
  intro h
  have hle : fiveSeconds.latency ≤ userReadBatch.turns := h.le_turns fiveSeconds (by show (5 : ℕ∞) ≤ 10; decide)
  exact absurd hle (by show ¬ (5 : ℕ∞) ≤ ((1 : ℕ) : ℕ∞); decide)

end Waits

end Datastore
end StgEnvironment
