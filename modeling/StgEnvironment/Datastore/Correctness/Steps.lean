import StgEnvironment.Datastore.Init

/-!
# `Datastore.Correctness.Steps`: what one step of an invocation can do

The lemmas every invariant of the init scripts is derived from: the PID file read back, `ps` on its
contents, and the inversion of `Thread.step` (`step_cases`), which says once what a step can do. The proofs
about steps go by cases on `Step` and never unfold `Thread.step`.

## Contents
- **The PID file**: what it holds (`World.Holds`), and when what is live is on record (`World.Tracked`).
- **The steps** (`Step`), as a relation with one constructor for each command and answer.
- **Labels**: what each of them changes in the system (`next_step` and its companions).
-/

namespace StgEnvironment
namespace Datastore
open Transition

/-! ## The PID file

What a file tells about instances. A file that holds one PID is read back as this PID, so that `ps` and `kill` get
what `echo $!` wrote. -/

/-- `pid_file` exists and contains the PID `p`, and no other word. -/
def World.Holds (w : World) (p : Pid) : Prop := ∃ t, w.pid_file = some t ∧ pidsOf (words t) = some [p]

instance (w : World) (p : Pid) : Decidable (w.Holds p) :=
  decidable_of_iff ((w.pid_file.bind fun t => pidsOf (words t)) = some [p]) Option.bind_eq_some_iff

/-- Every live instance is the one whose PID is in the file. -/
def World.Tracked (w : World) : Prop := ∀ p, w.Live p → w.Holds p

/-- At most one instance is live. -/
def World.AtMostOne (w : World) : Prop := ∀ p q, w.Live p → w.Live q → p = q

theorem pidOf_toDigits (p : Pid) : pidOf (Nat.toDigits 10 p) = some p := by
  have hd : (Nat.toDigits 10 p).all Char.isDigit = true :=
    List.all_eq_true.mpr fun c hc => Nat.isDigit_of_mem_toDigits (by decide) (by decide) hc
  simp [pidOf, hd, Nat.toDigits_ne_nil, Nat.ofDigitChars_ten_toDigits]

/-- What `echo $!` wrote is read back as one word. -/
theorem words_pidLine (p : Pid) : words (pidLine p) = [Nat.toDigits 10 p] := by
  have hw : IsWord (Nat.toDigits 10 p) :=
    ⟨Nat.toDigits_ne_nil, fun c hc =>
      isBlank_of_isDigit (Nat.isDigit_of_mem_toDigits (by decide) (by decide) hc)⟩
  have hnl : isBlank '\n' = true := by decide
  unfold pidLine words
  rw [wordsBy_word_cons hw hnl, wordsBy_nil]

theorem pidsOf_pidLine (p : Pid) : pidsOf (words (pidLine p)) = some [p] := by
  simp [words_pidLine, pidsOf, pidOf_toDigits]

theorem World.holds_pidLine {w : World} {p : Pid} (h : w.pid_file = some (pidLine p)) : w.Holds p :=
  ⟨_, h, pidsOf_pidLine p⟩

theorem World.Holds.get_pid {w : World} {p : Pid} (h : w.Holds p) : pidsOf w.get_pid = some [p] := by
  obtain ⟨t, ht, hp⟩ := h
  simpa [World.get_pid, ht] using hp

theorem World.Holds.isSome {w : World} {p : Pid} (h : w.Holds p) : w.pid_file.isSome := by
  obtain ⟨t, ht, -⟩ := h
  simp [ht]

/-- **Where all that is live is in the file, at most one is live.** -/
theorem World.Tracked.atMostOne {w : World} (h : w.Tracked) : w.AtMostOne := by
  intro p q hp hq
  have := (h p hp).get_pid.symm.trans (h q hq).get_pid
  simpa using this

/-- Where nothing is live, nothing is missing in the file. -/
theorem World.NoneLive.tracked {w : World} (h : w.NoneLive) : w.Tracked := fun p hp => absurd hp (h p)

theorem ps_of_pid {w : World} {o : Bool} {args : List Word} {p : Pid} (h : pidsOf args = some [p]) :
    ps w o args = (w.procs p).isSome := by
  simp [ps, h]

theorem filterMap_pidOf {args : List Word} {l : List Pid} (h : pidsOf args = some l) :
    args.filterMap pidOf = l := by
  unfold pidsOf at h
  induction args generalizing l with
  | nil => simpa using h
  | cons a args ih =>
      simp only [List.mapM_cons, Option.bind_eq_bind, Option.bind_eq_some_iff] at h
      obtain ⟨p, hp, ps, hps, hl⟩ := h
      obtain rfl := Option.some.inj hl
      rw [List.filterMap_cons_some hp, ih hps]

/-- An open file that is still empty gets the line, and no more. -/
theorem World.write_empty {w : World} {p : Pid} (h : w.pid_file = some []) :
    (w.write w.gen (pidLine p)).pid_file = some (pidLine p) := by
  simp [World.write, h]

theorem World.write_procs (w : World) (fd : Nat) (line : Text) : (w.write fd line).procs = w.procs := by
  unfold World.write
  split <;> rfl

/-- When the file is absent, or `ps` on its contents fails, a tracked daemon is not live. -/
theorem World.Tracked.noneLive_of_absent {w : World} (h : w.Tracked) (hf : w.pid_file.isSome = false) :
    w.NoneLive := by
  intro p hp
  have := (h p hp).isSome
  rw [hf] at this
  exact absurd this (by simp)

/-- Under the PID of a live instance there is a process. -/
theorem World.Live.isSome {w : World} {p : Pid} (h : w.Live p) : (w.procs p).isSome = true := by
  rw [show w.procs p = some .daemon from h]
  rfl

/-- If `ps` finds no process under the PID of the file, nothing is live. -/
theorem World.Tracked.noneLive_of_ps {w : World} (h : w.Tracked) {o : Bool} (hps : ps w o w.get_pid = false) :
    w.NoneLive := by
  intro p hp
  rw [ps_of_pid (h p hp).get_pid, hp.isSome] at hps
  cases hps

/-- A `no` of `ps` on what was read from the file: it was read as it is now, or nothing has been live since. -/
theorem World.Tracked.noneLive_of_answer {w : World} (h : w.Tracked) {o : Bool} {args : List Word}
    (hps : ps w o args = false) (hargs : args = w.get_pid ∨ w.NoneLive) : w.NoneLive := by
  rcases hargs with rfl | hnone
  · exact h.noneLive_of_ps hps
  · exact hnone

/-! ## The steps

The step function as a relation with one constructor for each command and outcome. Every invariant of the scripts is
proved by cases on it, and the function itself is not unfolded again. -/

/-- The four commands that change the process table or the file. -/
def Pc.mutates : Pc → Bool
  | .fork | .truncate _ | .write _ _ | .rm => true
  | _ => false

/-- A daemon has been launched whose PID is not yet in the file. -/
def Pc.dirty : Pc → Bool
  | .truncate _ | .write _ _ => true
  | _ => false

/-- **One step of an invocation**, command by command: what it finds, where it goes on, and what it does to the
    world. -/
inductive Step (sc : Script) (o : Choice) (w : World) : Thread → Thread → World → List Event → Prop
  | found {k c} (hf : w.pid_file.isSome = true) : Step sc o w ⟨.test k, c⟩ ⟨.cat k, c⟩ w []
  | absent {k c} (hf : w.pid_file.isSome = false) :
      Step sc o w ⟨.test k, c⟩ ⟨(decided sc k false).1, c.after k false⟩ w ((decided sc k false).2.map .echo)
  | cat {k c} : Step sc o w ⟨.cat k, c⟩ ⟨.ps k w.get_pid, c⟩ w []
  | ps {k args c} (b : Bool) (hb : ps w o.psOther args = b) :
      Step sc o w ⟨.ps k args, c⟩ ⟨(decided sc k b).1, c.after k b⟩ w ((decided sc k b).2.map .echo)
  | fork {c} (hfree : w.procs o.newPid = none) :
      Step sc o w ⟨.fork, c⟩ ⟨.truncate o.newPid, c⟩ (w.setProc o.newPid (some .daemon)) []
  | truncate {p c} : Step sc o w ⟨.truncate p, c⟩ ⟨.write p w.gen, c⟩ { w with pid_file := some [] } []
  | write {p fd c} : Step sc o w ⟨.write p fd, c⟩ ⟨.test .startCheck, c⟩ (w.write fd (pidLine p)) []
  | killCat {c} : Step sc o w ⟨.killCat, c⟩ ⟨.kill w.get_pid, c⟩ w []
  | kill {args c} : Step sc o w ⟨.kill args, c⟩ ⟨pollLoop sc.turns, c⟩ w (signals w args)
  | sleep {left c} : Step sc o w ⟨.sleep left, c⟩ ⟨pollLoop left, c⟩ w []
  | present {c} (hf : w.pid_file.isSome = true) : Step sc o w ⟨.testFile, c⟩ ⟨.rm, c⟩ w []
  | gone {c} (hf : w.pid_file.isSome = false) : Step sc o w ⟨.testFile, c⟩ ⟨.exit 0, c⟩ w []
  | rm {c} (hf : w.pid_file.isSome = true) :
      Step sc o w ⟨.rm, c⟩ ⟨.exit 0, c⟩ { w with pid_file := none, gen := w.gen + 1 } []
  | rmFails {c} (hf : w.pid_file = none) : Step sc o w ⟨.rm, c⟩ ⟨.exit 1, c⟩ w []
  | stopped {code} : Step sc o w ⟨.exit code, .restartStop⟩ ⟨.test .restart, .top⟩ w []
  | started {code} : Step sc o w ⟨.exit code, .restartStart⟩ ⟨.exit code, .top⟩ w []

section Steps
variable {sc : Script} {o : Choice} {t t' : Thread} {w w' : World} {ev : List Event}

/-- A step is one of these. Every invariant of the scripts is derived from this inversion. -/
theorem step_cases (h : t.step sc o w = some (t', w', ev)) : Step sc o w t t' w' ev := by
  obtain ⟨pc, call⟩ := t
  cases pc with
  | test k =>
      change (if w.pid_file.isSome then _ else _) = _ at h
      by_cases hf : w.pid_file.isSome = true
      · rw [if_pos hf] at h
        cases h; exact Step.found hf
      · rw [if_neg hf] at h
        cases h; exact Step.absent (by simpa using hf)
  | cat k => cases h; exact Step.cat
  | ps k args => cases h; exact Step.ps _ rfl
  | fork =>
      change (if w.procs o.newPid = none then _ else _) = _ at h
      by_cases hfree : w.procs o.newPid = none
      · rw [if_pos hfree] at h
        cases h; exact Step.fork hfree
      · rw [if_neg hfree] at h
        cases h
  | truncate p => cases h; exact Step.truncate
  | write p fd => cases h; exact Step.write
  | killCat => cases h; exact Step.killCat
  | kill args => cases h; exact Step.kill
  | sleep left => cases h; exact Step.sleep
  | testFile =>
      change (if w.pid_file.isSome then _ else _) = _ at h
      by_cases hf : w.pid_file.isSome = true
      · rw [if_pos hf] at h
        cases h; exact Step.present hf
      · rw [if_neg hf] at h
        cases h; exact Step.gone (by simpa using hf)
  | rm =>
      change (if w.pid_file.isSome then _ else _) = _ at h
      by_cases hf : w.pid_file.isSome = true
      · rw [if_pos hf] at h
        cases h; exact Step.rm hf
      · rw [if_neg hf] at h
        cases h; exact Step.rmFails (by simpa using hf)
  | exit code =>
      cases call with
      | top => cases h
      | restartStop => cases h; exact Step.stopped
      | restartStart => cases h; exact Step.started

theorem Step.step_eq (h : Step sc o w t t' w' ev) : t.step sc o w = some (t', w', ev) := by
  cases h with
  | found hf => show (if w.pid_file.isSome then _ else _) = _; rw [if_pos hf]
  | absent hf => show (if w.pid_file.isSome then _ else _) = _; rw [if_neg (by simp [hf])]; rfl
  | cat => rfl
  | ps b hb => subst hb; rfl
  | fork hfree => show (if w.procs o.newPid = none then _ else _) = _; rw [if_pos hfree]
  | truncate => rfl
  | write => rfl
  | killCat => rfl
  | kill => rfl
  | sleep => rfl
  | present hf => show (if w.pid_file.isSome then _ else _) = _; rw [if_pos hf]
  | gone hf => show (if w.pid_file.isSome then _ else _) = _; rw [if_neg (by simp [hf])]
  | rm hf => show (if w.pid_file.isSome then _ else _) = _; rw [if_pos hf]
  | rmFails hf => show (if w.pid_file.isSome then _ else _) = _; rw [if_neg (by simp [hf])]
  | stopped => rfl
  | started => rfl

/-- A step that does not mutate leaves the world alone, and the invocation clean. By cases on the step; those that
    mutate are five. -/
theorem step_quiet (h : Step sc o w t t' w' ev) (hm : t.pc.mutates = false) :
    w' = w ∧ t'.pc.dirty = false := by
  have hdec : ∀ k b, (decided sc k b).1.dirty = false := by
    intro k b; cases k <;> cases b <;> rfl
  have hloop : ∀ n, (pollLoop n).dirty = false := by intro n; cases n <;> rfl
  cases h with
  | absent => exact ⟨rfl, hdec _ _⟩
  | ps => exact ⟨rfl, hdec _ _⟩
  | kill => exact ⟨rfl, hloop _⟩
  | sleep => exact ⟨rfl, hloop _⟩
  | fork => cases hm
  | truncate => cases hm
  | write => cases hm
  | rm => cases hm
  | rmFails => cases hm
  | _ => exact ⟨rfl, rfl⟩

end Steps

/-! ## Labels

What each label requires and what it changes. Those of the environment change the process table at one PID, and
never make an instance live. -/

section Labels
variable {ι : Type}

/-- Whatever is asked of the invocations in progress, when there is none. -/
theorem Sys.Idle.forall {s : Sys ι} {P : Thread → Prop} (h : s.Idle) :
    ∀ i t, s.slot i = some t → P t := fun i t hi => absurd ((h i).symm.trans hi) (by simp)

theorem Sys.blank_idle : (Sys.blank : Sys ι).Idle := fun _ => rfl

/-- And nothing is live there that would be missing in the file. -/
theorem Sys.blank_tracked : (Sys.blank : Sys ι).world.Tracked := by
  intro p hp
  cases hp

variable [DecidableEq ι] {sc : Script} {s s' : Sys ι}

/-- An invocation begins in a free slot, and leaves the world alone. -/
theorem next_invoke {i : ι} {c : Command} (h : next sc s (.invoke i c) = some s') :
    s.slot i = none ∧ s' = ⟨s.world, Function.update s.slot i (some (Thread.init c))⟩ := by
  unfold next at h
  by_cases hi : s.slot i = none
  · simp only [hi, if_true, Option.some.injEq] at h; exact ⟨hi, h.symm⟩
  · simp [hi] at h

theorem next_step {i : ι} {o : Choice} (h : next sc s (.step i o) = some s') :
    ∃ t t' w' ev, s.slot i = some t ∧ Step sc o s.world t t' w' ev ∧
      s' = ⟨w', Function.update s.slot i (some t')⟩ := by
  unfold next at h
  cases hi : s.slot i with
  | none => simp [hi] at h
  | some t =>
      simp only [hi] at h
      obtain ⟨⟨t', w', ev⟩, hstep, rfl⟩ := Option.map_eq_some_iff.mp h
      exact ⟨t, t', w', ev, rfl, step_cases hstep, rfl⟩

/-- An invocation that is at its exit leaves its slot. -/
theorem next_finish {i : ι} {code : Nat} (h : next sc s (.finish i code) = some s') :
    s.slot i = some ⟨.exit code, .top⟩ ∧ s' = ⟨s.world, Function.update s.slot i none⟩ := by
  unfold next at h
  by_cases hi : s.slot i = some ⟨.exit code, .top⟩
  · simp only [hi, if_true, Option.some.injEq] at h; exact ⟨hi, h.symm⟩
  · simp [hi] at h

/-- The labels of the environment change the process table at one PID. An instance may die at any time. -/
theorem next_die {p : Pid} (h : next sc s (.die p) = some s') :
    s.world.procs p = some .daemon ∧ s' = ⟨s.world.setProc p none, s.slot⟩ := by
  unfold next at h
  by_cases hp : s.world.procs p = some .daemon
  · simp only [hp, if_true, Option.some.injEq] at h; exact ⟨hp, h.symm⟩
  · simp [hp] at h

theorem next_spawn {p : Pid} (h : next sc s (.spawn p) = some s') :
    s.world.procs p = none ∧ s' = ⟨s.world.setProc p (some .other), s.slot⟩ := by
  unfold next at h
  by_cases hp : s.world.procs p = none
  · simp only [hp, if_true, Option.some.injEq] at h; exact ⟨hp, h.symm⟩
  · simp [hp] at h

theorem next_reap {p : Pid} (h : next sc s (.reap p) = some s') :
    s.world.procs p = some .other ∧ s' = ⟨s.world.setProc p none, s.slot⟩ := by
  unfold next at h
  by_cases hp : s.world.procs p = some .other
  · simp only [hp, if_true, Option.some.injEq] at h; exact ⟨hp, h.symm⟩
  · simp [hp] at h

theorem World.setProc_procs (w : World) (p q : Pid) (x : Option Owner) :
    (w.setProc p x).procs q = if q = p then x else w.procs q := by
  simp [World.setProc, Function.update_apply]

/-- A change to one slot keeps what holds of every invocation, if it holds of the new one. -/
theorem forall_update {P : ι → Thread → Prop} {slot : ι → Option Thread} {i : ι} {x : Option Thread}
    (hx : ∀ u, x = some u → P i u) (h : ∀ j u, j ≠ i → slot j = some u → P j u) :
    ∀ j u, Function.update slot i x j = some u → P j u := by
  intro j u hj
  by_cases hji : j = i
  · subst hji
    rw [Function.update_self] at hj
    exact hx u hj
  · rw [Function.update_of_ne hji] at hj
    exact h j u hji hj

/-- What the environment does never makes an instance live. -/
theorem live_of_setProc {w : World} {p q : Pid} {x : Option Owner} (hx : x ≠ some .daemon)
    (h : (w.setProc p x).Live q) : w.Live q := by
  unfold World.Live at h ⊢
  rw [World.setProc_procs] at h
  by_cases hq : q = p
  · rw [if_pos hq] at h; exact absurd h hx
  · rwa [if_neg hq] at h

end Labels
end Datastore
end StgEnvironment
