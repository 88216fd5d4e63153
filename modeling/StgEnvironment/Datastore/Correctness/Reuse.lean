import StgEnvironment.Datastore.Correctness.SingleInstance

/-!
# `Datastore.Correctness.Reuse`: whose process a PID is

The scripts know an instance by its PID alone. When it dies, its PID stays in the file until a `start`
overwrites it; a process that the kernel gives that PID in the meantime is taken for the instance. Under the
one condition that this does not happen (`NoReuse`), the PID in the file is never that of an unrelated process
(`Pc.Own`), so what is signalled, and what is reported as already started, is an instance.

## Contents
- **The invariant** (`Own`), its preservation by steps (`step_own`) and labels (`own_next`).
- **What a step shows**: signals come from `kill` alone, texts from the answers of `is_running` (`step_events`).
- **The runs**: `harmless_of_noReuse`, and a run in which a PID is used again (`reuseRun_not_harmless`).
-/

namespace StgEnvironment
namespace Datastore
open Transition

/-- The file is absent, or holds a PID under which no unrelated process runs. -/
def World.Owned (w : World) : Prop := w.pid_file = none ∨ ∃ p, w.Holds p ∧ w.procs p ≠ some .other

/-- The PID that an invocation has got from a launch and is about to write. -/
def Pc.recording : Pc → Option Pid
  | .truncate p | .write p _ => some p
  | _ => none

/-- What an invocation knows of the file, and of the PID it is about to write. -/
def Pc.Own (w : World) : Pc → Prop
  | .write p fd => w.procs p ≠ some .other ∧ fd = w.gen ∧ w.pid_file = some []
  | .truncate p => w.Owned ∧ w.procs p ≠ some .other
  | .cat _ => w.Owned ∧ w.pid_file.isSome = true
  | .ps _ args => w.Owned ∧ w.pid_file.isSome = true ∧ args = w.get_pid
  | .kill args => w.Owned ∧ args = w.get_pid
  | _ => w.Owned

/-- **The invariant**: between invocations the file is owned, and during one it is what the invocation is at makes of
    it. -/
def Own (s : Sys Unit) : Prop :=
  (s.slot () = none → s.world.Owned) ∧ ∀ t, s.slot () = some t → t.pc.Own s.world

/-- **The condition on a step.** No unrelated process is created under the PID that the file holds, or that a
    `start` is about to write to it. -/
def NoReuse (s : Sys Unit) : Label Unit → Prop
  | .spawn p => ¬ s.world.Holds p ∧ ∀ t, s.slot () = some t → t.pc.recording ≠ some p
  | _ => True

instance (s : Sys Unit) : ∀ l : Label Unit, Decidable (NoReuse s l)
  | .spawn p => inferInstanceAs (Decidable (¬ s.world.Holds p ∧ ∀ t ∈ s.slot (), t.pc.recording ≠ some p))
  | .invoke _ _ | .step _ _ | .finish _ _ | .die _ | .reap _ => isTrue trivial

/-- A step signals nothing but instances, and says `Already started` only when one is live. -/
def Harmless (sc : Script) (s : Sys Unit) (l : Label Unit) : Prop :=
  (∀ p x, Event.signal p x ∈ events sc s l → x = .daemon) ∧
    (Event.echo "Already started".toList ∈ events sc s l → ∃ p, s.world.Live p)

/-! ## Preservation -/

/-- The file stays owned if no unrelated process appears under the PID that it holds. -/
theorem World.Owned.of_procs {w w' : World} (h : w.Owned) (hf : w'.pid_file = w.pid_file)
    (hp : ∀ p, w.Holds p → w.procs p ≠ some .other → w'.procs p ≠ some .other) : w'.Owned := by
  rcases h with hnone | ⟨p, hholds, hother⟩
  · exact Or.inl (hf.trans hnone)
  · obtain ⟨t, ht, hpid⟩ := hholds
    exact Or.inr ⟨p, ⟨t, hf.trans ht, hpid⟩, hp p ⟨t, ht, hpid⟩ hother⟩

/-- A change of the process table that puts no unrelated process under a PID that matters. -/
theorem Pc.Own.setProc {w : World} {pc : Pc} {q : Pid} {x : Option Owner} (h : pc.Own w)
    (hx : x = some .other → ¬ w.Holds q ∧ pc.recording ≠ some q) : pc.Own (w.setProc q x) := by
  have hproc : ∀ p, w.procs p ≠ some .other → (x = some .other → p ≠ q) →
      (w.setProc q x).procs p ≠ some .other := by
    intro p hp hpq
    rw [World.setProc_procs]
    split
    · next heq => exact fun hxo => hpq hxo heq
    · exact hp
  have hown : w.Owned → (w.setProc q x).Owned := fun ho =>
    ho.of_procs rfl fun p hh hp => hproc p hp fun hxo hpq => (hx hxo).1 (hpq ▸ hh)
  have hrec : ∀ p, pc.recording = some p → w.procs p ≠ some .other →
      (w.setProc q x).procs p ≠ some .other := fun p hr hp =>
    hproc p hp fun hxo hpq => (hx hxo).2 (hpq ▸ hr)
  cases pc with
  -- the PIDs that matter are the one in the file and the one about to be written
  | write p fd => exact ⟨hrec p rfl h.1, h.2⟩
  | truncate p => exact ⟨hown h.1, hrec p rfl h.2⟩
  | cat k => exact ⟨hown h.1, h.2⟩
  | ps k args => exact ⟨hown h.1, h.2⟩
  | kill args => exact ⟨hown h.1, h.2⟩
  | _ => exact hown h

/-- The invariant survives a change of the process table that puts no unrelated process under a PID that matters. -/
theorem Own.setProc {s : Sys Unit} {q : Pid} {x : Option Owner} (h : Own s)
    (hx : x = some .other → ¬ s.world.Holds q ∧ ∀ t, s.slot () = some t → t.pc.recording ≠ some q) :
    Own ⟨s.world.setProc q x, s.slot⟩ := by
  refine ⟨fun hi => ?_, fun t hi => (h.2 t hi).setProc fun hxo => ⟨(hx hxo).1, (hx hxo).2 t hi⟩⟩
  -- an idle slot knows as much as one that is about to test
  exact (show Pc.testFile.Own s.world from h.1 hi).setProc fun hxo => ⟨(hx hxo).1, nofun⟩

section Steps
variable {sc : Script} {o : Choice} {t t' : Thread} {w w' : World} {ev : List Event}

/-- A step of an invocation keeps what it knows: what it writes is the PID it has got from the launch. -/
theorem step_own (h : Step sc o w t t' w' ev) (ho : t.pc.Own w) : t'.pc.Own w' := by
  have hdec : ∀ k b, w.Owned → (decided sc k b).1.Own w := by
    intro k b hw; cases k <;> cases b <;> exact hw
  have hloop : ∀ n, w.Owned → (pollLoop n).Own w := by intro n hw; cases n <;> exact hw
  cases h with
  | found hf => exact ⟨ho, hf⟩
  | absent => exact hdec _ _ ho
  | cat => exact ⟨ho.1, ho.2, rfl⟩
  | ps => exact hdec _ _ ho.1
  | fork =>
      have hnew : (w.setProc o.newPid (some .daemon)).procs o.newPid ≠ some .other := by
        simp [World.setProc_procs]
      exact ⟨(show Pc.fork.Own w from ho).setProc nofun, hnew⟩
  | truncate => exact ⟨ho.2, rfl, rfl⟩
  | @write p fd =>
      obtain ⟨hp, rfl, hempty⟩ := ho
      refine Or.inr ⟨p, World.holds_pidLine (World.write_empty hempty), ?_⟩
      rwa [World.write_procs]
  | killCat => exact ⟨ho, rfl⟩
  | kill => exact hloop _ ho.1
  | sleep => exact hloop _ ho
  | rm => exact Or.inl rfl
  | _ => exact ho

/-! ## What a step shows -/

/-- Signals come from `kill`, and texts from decisions. -/
theorem step_events (h : Step sc o w t t' w' ev) :
    (∃ args, t.pc = .kill args ∧ ev = signals w args) ∨
      (∃ k, t.pc = .test k ∧ ev = (decided sc k false).2.map .echo) ∨
      (∃ k args, t.pc = .ps k args ∧ ev = (decided sc k (ps w o.psOther args)).2.map .echo) ∨ ev = [] := by
  cases h with
  | @kill args => exact Or.inl ⟨args, rfl, rfl⟩
  | @absent k => exact Or.inr (Or.inl ⟨k, rfl, rfl⟩)
  | @ps k args c b hb => exact Or.inr (Or.inr (Or.inl ⟨k, args, rfl, by rw [hb]⟩))
  | _ => exact Or.inr (Or.inr (Or.inr rfl))

/-- Only processes under PIDs of the file are signalled, and only instances. `kill` gets the one PID of the file, and
    no unrelated process runs under it. -/
theorem step_signal (h : Step sc o w t t' w' ev) (ho : t.pc.Own w) {p : Pid} {x : Owner}
    (hev : Event.signal p x ∈ ev) : x = .daemon := by
  rcases step_events h with ⟨args, hpc, rfl⟩ | ⟨k, -, rfl⟩ | ⟨k, args, -, rfl⟩ | rfl
  · rw [hpc] at ho
    obtain ⟨hown, rfl⟩ := ho
    obtain ⟨q, hq, hx⟩ := List.mem_filterMap.mp hev
    obtain ⟨y, hy, hsig⟩ := Option.map_eq_some_iff.mp hx
    cases hsig
    -- `kill` gets the one PID of the file, and no unrelated process runs under it
    rcases hown with hnone | ⟨p', hholds, hother⟩
    · simp [World.get_pid, hnone, words] at hq
    · rw [filterMap_pidOf hholds.get_pid, List.mem_singleton] at hq
      subst hq
      cases x with
      | daemon => rfl
      | other => exact absurd hy hother
  · simp at hev
  · simp at hev
  · simp at hev

theorem decided_already {k : Site} {b : Bool} (h : "Already started".toList ∈ (decided sc k b).2) :
    k = .startGuard ∧ b = true := by
  cases k <;> cases b <;> first | exact ⟨rfl, rfl⟩ | simp [decided] at h

/-- `Already started` is the answer at line 40 that the process under the PID of the file exists. -/
theorem step_already (h : Step sc o w t t' w' ev) (ho : t.pc.Own w)
    (hev : Event.echo "Already started".toList ∈ ev) : ∃ p, w.Live p := by
  rcases step_events h with ⟨args, -, rfl⟩ | ⟨k, -, rfl⟩ | ⟨k, args, hpc, rfl⟩ | rfl
  · obtain ⟨q, -, hx⟩ := List.mem_filterMap.mp hev
    obtain ⟨y, -, hsig⟩ := Option.map_eq_some_iff.mp hx
    cases hsig
  · obtain ⟨text, htext, heq⟩ := List.mem_map.mp hev
    cases heq
    exact absurd (decided_already htext).2 (by simp)
  · obtain ⟨text, htext, heq⟩ := List.mem_map.mp hev
    cases heq
    obtain ⟨-, hps⟩ := decided_already htext
    rw [hpc] at ho
    obtain ⟨hnone | ⟨p, hholds, hother⟩, hfile, rfl⟩ := ho
    · rw [hnone] at hfile; cases hfile
    · rw [ps_of_pid hholds.get_pid] at hps
      obtain ⟨x, hx⟩ := Option.isSome_iff_exists.mp hps
      cases x with
      | daemon => exact ⟨p, hx⟩
      | other => exact absurd hx hother
  · simp at hev

end Steps

/-- **The step lemma**: a label that gives no PID away keeps the invariant. A death and the reaping of a zombie create
    no process, and a new one has another PID than the file by the condition on the label. -/
theorem own_next {sc : Script} {s s' : Sys Unit} {l : Label Unit} (h : Own s) (hl : NoReuse s l)
    (hnext : next sc s l = some s') : Own s' := by
  cases l with
  | invoke i c =>
      obtain ⟨hi, rfl⟩ := next_invoke hnext
      refine ⟨fun hslot => ?_, fun t ht => ?_⟩
      · cases slot_update s.slot hslot
      · obtain rfl := Option.some.inj (slot_update s.slot ht)
        cases c <;> exact h.1 hi
  | step i o =>
      obtain ⟨t, t', w', ev, hi, hstep, rfl⟩ := next_step hnext
      refine ⟨fun hslot => ?_, fun u hu => ?_⟩
      · cases slot_update s.slot hslot
      · obtain rfl := Option.some.inj (slot_update s.slot hu)
        exact step_own hstep (h.2 t hi)
  | finish i code =>
      obtain ⟨hi, rfl⟩ := next_finish hnext
      exact ⟨fun _ => h.2 _ hi, fun t ht => by cases slot_update s.slot ht⟩
  | die q => obtain ⟨-, rfl⟩ := next_die hnext; exact h.setProc nofun
  | spawn q => obtain ⟨-, rfl⟩ := next_spawn hnext; exact h.setProc fun _ => hl
  | reap q => obtain ⟨-, rfl⟩ := next_reap hnext; exact h.setProc nofun

/-! ## The runs -/

/-- Where the invariant holds, the next step is harmless. Only steps of the invocation show anything, so the other
    labels are trivial. -/
theorem harmless_of_own {sc : Script} {s : Sys Unit} (h : Own s) (l : Label Unit) : Harmless sc s l := by
  cases l with
  | step i o =>
      simp only [Harmless, events]
      cases hi : s.slot i with
      | none => simp
      | some t =>
          cases hstep : t.step sc o s.world with
          | none => simp [hstep]
          | some r =>
              obtain ⟨t', w', ev⟩ := r
              simp only [Option.bind_some, hstep]
              have hcases := step_cases hstep
              exact ⟨fun p x hev => step_signal hcases (h.2 t hi) hev,
                fun hev => step_already hcases (h.2 t hi) hev⟩
  | _ => exact ⟨nofun, nofun⟩

/-- **No unrelated process.** From a state in which no unrelated process runs under the PID of the file, in
    every run in which the kernel gives none the PID that the file holds or is about to hold, only instances
    are signalled, and `Already started` means that one is live. -/
theorem harmless_of_noReuse {sc : Script} {s₀ : Sys Unit} {ls : List (Label Unit)} (hidle : s₀.Idle)
    (hown : s₀.world.Owned) (hok : Along (next sc) NoReuse s₀ ls) : Along (next sc) (Harmless sc) s₀ ls := by
  have h0 : Own s₀ := ⟨fun _ => hown, hidle.forall ()⟩
  refine along_of_invariant (I := Own) ?_ ?_ h0 hok
  · exact fun _ _ _ hs hl hn => own_next hs hl hn
  · exact fun _ l hs _ => harmless_of_own hs l

/-- The labels of a `stop`, up to its `kill`. -/
def stopToKill : List (Label Unit) := .invoke () .stop :: List.replicate 5 (.step () ⟨0, true⟩)

/-- A `start`, another process, a second `start`, and a `stop`. -/
def ordinaryRun : List (Label Unit) :=
  startRun 7 ++ .spawn 8 :: .invoke () .start :: List.replicate 3 (.step () ⟨0, true⟩) ++
    .finish () 0 :: stopToKill

/-- An ordinary run, with another process that comes up in it, is harmless at every step. -/
theorem harmless_ordinaryRun :
    (run (next userReadBatch) Sys.blank ordinaryRun).isSome = true ∧
      Along (next userReadBatch) (Harmless userReadBatch) Sys.blank ordinaryRun :=
  ⟨by decide, harmless_of_noReuse Sys.blank_idle (Or.inl rfl) (by decide)⟩

/-- An instance dies, and an unrelated process gets its PID. -/
def reuseRun : List (Label Unit) := startRun 7 ++ [.die 7, .spawn 7]

/-- **The PID in the file is not checked.** After a crash and a reuse, the next `stop` signals the unrelated
    process, and the next `start` takes it for an instance. -/
theorem reuseRun_not_harmless :
    ¬ Along (next userReadBatch) (Harmless userReadBatch) Sys.blank (reuseRun ++ stopToKill) ∧
      ¬ Along (next userReadBatch) (Harmless userReadBatch) Sys.blank
        (reuseRun ++ .invoke () .start :: List.replicate 3 (.step () ⟨0, true⟩)) := by
  constructor <;> intro h
  · obtain ⟨s, hrun, hev⟩ : ∃ s, run (next userReadBatch) Sys.blank
        (reuseRun ++ .invoke () .stop :: List.replicate 4 (.step () ⟨0, true⟩)) = some s ∧
          Event.signal 7 .other ∈ events userReadBatch s (.step () ⟨0, true⟩) := ⟨_, rfl, by decide⟩
    exact absurd ((Along.at [] h hrun).1 7 .other hev) (by simp)
  · obtain ⟨s, hrun, hnone, hev⟩ : ∃ s, run (next userReadBatch) Sys.blank
        (reuseRun ++ .invoke () .start :: List.replicate 2 (.step () ⟨0, true⟩)) = some s ∧ s.world.NoneLive ∧
          Event.echo "Already started".toList ∈ events userReadBatch s (.step () ⟨0, true⟩) := by
      refine ⟨_, rfl, fun p hp => ?_, by decide⟩
      by_cases h7 : p = 7
      · subst h7; exact absurd hp (by decide)
      · exact absurd hp (by simp [World.Live, World.setProc, World.write_procs, Sys.blank, h7])
    obtain ⟨p, hp⟩ := (Along.at [] h hrun).2 hev
    exact hnone p hp

end Datastore
end StgEnvironment
