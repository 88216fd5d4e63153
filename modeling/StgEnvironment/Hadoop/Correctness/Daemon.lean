import StgEnvironment.Datastore.Correctness.Steps
import StgEnvironment.Hadoop.Daemon

/-!
# `Hadoop.Correctness.Daemon`: what a run of invocations leaves behind

The places of one command are `.out`, `.out.1`, … `.out.5`. `hadoop_rotate_log` is the rotation of these places
(`hadoop_rotate_log_eq`), and no place of one command is a place of another or a PID file (`place_injective`,
`place_ne_pidfile`). So the invariant `Agrees` ties the files of every command to the record of its own outputs, and
every label keeps it, for any `bin/hadoop` that does what is documented.

## Contents
- **The places of one output**: the script's rotation is that of `Lib.Rotation`.
- **The places of all commands**: no file belongs to two of them.
- **The invariant**: `Agrees`, one lemma for each kind of label, the step and the run.
- **What one start does**: `Starts` is all that a start does that is not refused.
- **Whole runs**: no output is lost before its time (`outputs_kept`), and there is one daemon of a command at a time
  (`single_daemon`).
-/

namespace StgEnvironment
namespace Hadoop.Daemon

open Datastore (Pid pidLine pidOf pidOf_toDigits words_pidLine)
open Rotation (mv Keeps)
open Transition (run run_cons_iff)

/-! ## The places of one output

The script moves the numbered outputs from the highest down, and then the current one. As a function on the places
this is the rotation of the library, whose lemma on a record then applies. -/

/-- `.out` is place `0`. -/
def numbered (out : Text) : ℕ → Text
  | 0 => out
  | k + 1 => dotted out (k + 1)

theorem dotted_injective (out : Text) : Function.Injective (dotted out) := by
  intro j k h
  have hdigits : Nat.toDigits 10 j = Nat.toDigits 10 k := List.tail_eq_of_cons_eq (List.append_cancel_left h)
  have hpid := pidOf_toDigits j
  rw [hdigits, pidOf_toDigits k] at hpid
  exact (Option.some.inj hpid).symm

/-- No earlier output has the place of the current one. -/
theorem dotted_ne (out : Text) (k : ℕ) : dotted out k ≠ out := by
  intro h
  have := congrArg List.length h
  simp [dotted] at this

theorem numbered_injective (out : Text) : Function.Injective (numbered out) := by
  intro j k h
  match j, k with
  | 0, 0 => rfl
  | 0, k + 1 => exact absurd h.symm (dotted_ne out (k + 1))
  | j + 1, 0 => exact absurd h (dotted_ne out (j + 1))
  | j + 1, k + 1 => exact dotted_injective out h

/-- The loop shifts the places, and ends at `1`. By induction on `$num`, from the highest place down as the script
    goes. -/
theorem rotateLoop_eq (out : Text) : ∀ {num : ℕ} {fs : Files}, 1 ≤ num →
    rotateLoop out num fs = (Rotation.shift (numbered out) num fs, 1) := by
  intro num
  induction num with
  | zero => intro fs h; omega
  | succ n ih =>
      intro fs _
      match n with
      | 0 => rfl
      | m + 1 =>
          show rotateLoop out (m + 1) _ = (Rotation.shift (numbered out) (m + 1) (mv _ _ fs), 1)
          rw [ih (by omega)]
          congr 2
          split
          · rfl
          · next h => exact (Rotation.mv_of_none (Option.not_isSome_iff_eq_none.mp h)).symm

/-- **`hadoop_rotate_log` is the rotation of the places.** The first of the places is the file itself, the others are
    the numbered ones; the bound is the second argument of the function, or 5. -/
theorem hadoop_rotate_log_eq (out : Text) {second : Option ℕ} (h : 1 ≤ second.getD 5) (fs : Files) :
    hadoop_rotate_log out second fs = Rotation.rotate (numbered out) (second.getD 5) fs := by
  unfold hadoop_rotate_log Rotation.rotate
  rw [rotateLoop_eq out h]
  rfl

/-! ## The places of all commands

No file belongs to two commands, and none is both an output and a PID file. Otherwise a start of one command could
take the output of another, or its PID file, for its own. -/

section Places
variable (e : Env)

theorem daemonOut_injective : Function.Injective e.daemonOut := by
  intro c c' h
  have h1 := List.append_cancel_right (List.append_cancel_right h)
  exact List.tail_eq_of_cons_eq (List.append_cancel_left h1)

theorem daemonPidfile_injective : Function.Injective e.daemonPidfile := by
  intro c c' h
  exact List.tail_eq_of_cons_eq (List.append_cancel_left (List.append_cancel_right h))

/-- The last character of a place: that of `.out`, or a digit, as there are five numbers only. -/
def lastChar : ℕ → Char
  | 0 => 't'
  | k + 1 => Nat.digitChar (k + 1)

theorem getLast?_place (c : Text) {k : ℕ} (hk : k ≤ 5) :
    (numbered (e.daemonOut c) k).getLast? = some (lastChar k) := by
  have hout : ∀ x : Text, (x ++ ".out".toList).getLast? = some 't' := fun x => by
    rw [List.getLast?_append_of_ne_nil _ (by decide)]; rfl
  have hdot : ∀ d : Char, (e.daemonOut c ++ ['.', d]).getLast? = some d := fun d => by
    rw [List.getLast?_append_of_ne_nil _ (by simp)]; rfl
  interval_cases k
  · exact hout _
  all_goals exact hdot _

theorem getLast?_pidfile (c : Text) : (e.daemonPidfile c).getLast? = some 'd' := by
  show (_ ++ ".pid".toList).getLast? = _
  rw [List.getLast?_append_of_ne_nil _ (by decide)]
  rfl

/-- The last character tells the places apart, and none of them is that of a PID file. -/
theorem lastChar_injective : ∀ j ≤ 5, ∀ k ≤ 5, lastChar j = lastChar k → j = k := by decide

/-- No output is a PID file, though both may be in one directory and a command may have dots in it. -/
theorem place_ne_pidfile (c c' : Text) {k : ℕ} (hk : k ≤ 5) :
    numbered (e.daemonOut c) k ≠ e.daemonPidfile c' := by
  intro h
  have hlast := getLast?_place e c hk
  rw [h, getLast?_pidfile] at hlast
  have hne : ∀ k ≤ 5, 'd' ≠ lastChar k := by decide
  exact hne k hk (Option.some.inj hlast)

theorem out_ne_pidfile (c c' : Text) : e.daemonOut c ≠ e.daemonPidfile c' :=
  place_ne_pidfile e c c' (k := 0) (by omega)

/-- No two commands share a place, because the last character gives the number and what is before it the command. -/
theorem place_injective {c c' : Text} {j k : ℕ} (hj : j ≤ 5) (hk : k ≤ 5)
    (h : numbered (e.daemonOut c) j = numbered (e.daemonOut c') k) : c = c' := by
  have hlast := getLast?_place e c hj
  rw [h, getLast?_place e c' hk] at hlast
  obtain rfl := lastChar_injective k hk j hj (Option.some.inj hlast)
  apply daemonOut_injective e
  match k with
  | 0 => exact h
  | k + 1 => exact List.append_cancel_right h

/-- A rotation of the output of one command leaves every file alone that is no place of it. -/
theorem rotate_log_off {c : Text} {p : Text} {fs : Files} (hp : ∀ k ≤ 5, p ≠ numbered (e.daemonOut c) k) :
    hadoop_rotate_log (e.daemonOut c) none fs p = fs p := by
  rw [hadoop_rotate_log_eq _ (by decide)]
  exact Rotation.rotate_off hp

end Places

/-! ## The invariant

For each kind of label there is a lemma that it keeps the invariant. The start that gets past its guard is the one
with an argument: it rotates, then launches or fails, and the record grows by it. -/

/-- **The invariant.** The files of each command, its PID file among them, are those of the record, and a live daemon
    is the last one that was launched for its command. -/
structure Agrees (e : Env) (w : World) (r : Record) : Prop where
  keeps : ∀ c, Keeps (numbered (e.daemonOut c)) 5 w.files (r c).current (r c).earlier
  pidfile : ∀ c, w.files (e.daemonPidfile c) = (r c).pid.map pidLine
  live : ∀ p c, w.procs p = some (.daemon c) → (r c).pid = some p

section Steps
variable {b : Bin} {e : Env} {w w' : World} {r : Record}

theorem agrees_blank (e : Env) : Agrees e .blank .blank where
  keeps _ := ⟨rfl, fun _ _ => rfl⟩
  pidfile _ := rfl
  live _ _ h := by cases h

/-- `kill -0` of the PID that a launch wrote: the only word of the file is that number. -/
theorem kill0_pidLine (w : World) (p : Pid) : w.kill0 (words (pidLine p)) = w.signalable p := by
  rw [words_pidLine]
  simp [World.kill0, pidOf_toDigits]

/-- The guard asks for the last daemon that was launched, and for no other. -/
theorem Agrees.running (h : Agrees e w r) (c : Text) :
    w.running (e.daemonPidfile c) = (r c).pid.any w.signalable := by
  unfold World.running
  rw [h.pidfile c]
  cases (r c).pid with
  | none => rfl
  | some p => exact kill0_pidLine w p

/-- The world where `hadoop_rotate_log` has made room for an output. -/
def World.rotated (w : World) (e : Env) (c : Text) : World :=
  { w with files := hadoop_rotate_log (e.daemonOut c) none w.files }

/-- A start that gets past its guard makes room for the output and runs `bin/hadoop`. -/
theorem start_of_not_running {c : Text} {args : List Text} {l : Launch}
    (hguard : w.running (e.daemonPidfile c) = false) :
    start b e c args l w =
      ⟨(b (e.daemonOut c) (e.daemonPidfile c) c args l (w.rotated e c)).1,
        "starting ".toList ++ c ++ ", logging to ".toList ++ e.daemonOut c,
        (b (e.daemonOut c) (e.daemonPidfile c) c args l (w.rotated e c)).2⟩ := by
  unfold start
  rw [hguard]
  rfl

/-- The files of a command after the outputs of a command `c` moved on: nothing changes but for `c` itself. -/
theorem Agrees.rotated (h : Agrees e w r) (c d : Text) :
    Keeps (numbered (e.daemonOut d)) 5 (hadoop_rotate_log (e.daemonOut c) none w.files)
      (if d = c then none else (r d).current)
      (if d = c then (r c).current.toList ++ (r c).earlier else (r d).earlier) := by
  by_cases hd : d = c
  · subst hd
    rw [if_pos rfl, if_pos rfl, hadoop_rotate_log_eq _ (by decide)]
    exact (h.keeps d).rotate (numbered_injective _)
  · rw [if_neg hd, if_neg hd]
    refine (h.keeps d).congr fun k hk => rotate_log_off e fun j hj hplace => hd ?_
    exact place_injective e hk hj hplace

/-- A file that is no place of the command can change. -/
theorem keeps_update_off {d : Text} {fs : Files} {current : Option Text} {earlier : List Text} {p : Text}
    {v : Option Text} (hp : ∀ k ≤ 5, p ≠ numbered (e.daemonOut d) k)
    (h : Keeps (numbered (e.daemonOut d)) 5 fs current earlier) :
    Keeps (numbered (e.daemonOut d)) 5 (Function.update fs p v) current earlier :=
  h.congr fun k hk => Function.update_of_ne (hp k hk).symm _ _

/-- A documented launch, as the files and processes after it: the output, the PID file, and one process more. -/
theorem Documented.launched (B : Documented b) {out pidfile : Text} (h : out ≠ pidfile) (command : Text)
    (args : List Text) (p : Pid) (t : Text) (w : World) :
    (b out pidfile command args (some (p, t)) w).1 =
      { files := Function.update (Function.update w.files out (some t)) pidfile (some (pidLine p))
        procs := Function.update w.procs p (some (.daemon command)) } := by
  refine World.ext (funext fun path => ?_) (B.procs out pidfile command args p t w)
  dsimp only
  by_cases hpid : path = pidfile
  · subst hpid
    rw [B.pidfile, Function.update_self]
  · rw [Function.update_of_ne hpid]
    by_cases hout : path = out
    · subst hout
      rw [B.out _ _ _ _ _ _ _ h, Function.update_self]
    · rw [Function.update_of_ne hout, B.others _ _ _ _ _ _ _ _ hout hpid]

/-- A start that got past its guard, whether it launches a daemon or fails. Either way the output has been rotated. No
    daemon of the command was live, since the guard would have found it. -/
theorem Agrees.started (B : Documented b) (h : Agrees e w r) {c : Text} (args : List Text) {l : Launch}
    (hfree : w.free l = true) (hguard : w.running (e.daemonPidfile c) = false) :
    Agrees e (start b e c args l w).world (r.add (.started c l)) := by
  -- no daemon of the command is live: the guard would have found it
  have hnone : ∀ p, w.procs p ≠ some (.daemon c) := by
    intro p hp
    have hrun := h.running c
    rw [h.live p c hp, hguard] at hrun
    simp [World.signalable, hp] at hrun
  have hoff : ∀ d, hadoop_rotate_log (e.daemonOut c) none w.files (e.daemonPidfile d) = w.files (e.daemonPidfile d) :=
    fun d => rotate_log_off e fun k hk => (place_ne_pidfile e c d hk).symm
  have hrec : ∀ d, d ≠ c → r.add (.started c l) d = r d := fun d hd => Function.update_of_ne hd _ _
  have hself : r.add (.started c l) c = ⟨l.map Prod.snd, (r c).current.toList ++ (r c).earlier,
      (l.map Prod.fst).or (r c).pid⟩ := Function.update_self ..
  rw [start_of_not_running hguard]
  dsimp only
  cases l with
  | none =>
      rw [B.failed]
      refine ⟨fun d => ?_, fun d => ?_, fun p d hp => ?_⟩
      · have hk := h.rotated c d
        by_cases hd : d = c
        · subst hd
          rw [if_pos rfl, if_pos rfl] at hk
          rw [hself]
          exact hk
        · rw [if_neg hd, if_neg hd] at hk
          rw [hrec d hd]
          exact hk
      · show hadoop_rotate_log (e.daemonOut c) none w.files (e.daemonPidfile d) = _
        rw [hoff d, h.pidfile d]
        by_cases hd : d = c
        · subst hd; rw [hself]; rfl
        · rw [hrec d hd]
      · have hd : d ≠ c := by rintro rfl; exact hnone p hp
        rw [hrec d hd]
        exact h.live p d hp
  | some pt =>
      obtain ⟨q, t⟩ := pt
      have hq : w.procs q = none := by simpa [World.free] using hfree
      rw [B.launched (out_ne_pidfile e c c)]
      refine ⟨fun d => ?_, fun d => ?_, fun p d hp => ?_⟩
      · have hk := h.rotated c d
        refine keeps_update_off (fun k hk => (place_ne_pidfile e d c hk).symm) ?_
        by_cases hd : d = c
        · subst hd
          rw [if_pos rfl, if_pos rfl] at hk
          rw [hself]
          exact hk.write (numbered_injective _) (some t)
        · rw [if_neg hd, if_neg hd] at hk
          rw [hrec d hd]
          exact keeps_update_off
            (fun k hk hplace => hd (place_injective e (j := 0) (by omega) hk hplace).symm) hk
      · by_cases hd : d = c
        · subst hd
          rw [hself]
          exact Function.update_self ..
        · rw [hrec d hd, ← h.pidfile d, ← hoff d]
          show Function.update (Function.update _ _ _) _ _ _ = _
          rw [Function.update_of_ne fun hpid => hd (daemonPidfile_injective e hpid),
            Function.update_of_ne (out_ne_pidfile e c d).symm]
          rfl
      · by_cases hpq : p = q
        · subst hpq
          have hown : Function.update w.procs p (some (Owner.daemon c)) p = some (.daemon d) := hp
          rw [Function.update_self] at hown
          obtain rfl : c = d := by injection hown with hown; injection hown
          rw [hself]
          rfl
        · have hp' : w.procs p = some (.daemon d) := (Function.update_of_ne hpq _ _).symm.trans hp
          have hd : d ≠ c := by rintro rfl; exact hnone p hp'
          rw [hrec d hd]
          exact h.live p d hp'

/-- A daemon that writes. It is the last of its command, so its output is the current one. -/
theorem Agrees.wrote (h : Agrees e w r) (c t : Text) :
    Agrees e { w with files := Function.update w.files (e.daemonOut c) ((w.files (e.daemonOut c)).map (· ++ t)) }
      (r.add (.wrote c t)) := by
  have hself : r.add (.wrote c t) c = { r c with current := (r c).current.map (· ++ t) } := Function.update_self ..
  have hrec : ∀ d, d ≠ c → r.add (.wrote c t) d = r d := fun d hd => Function.update_of_ne hd _ _
  have hpid : ∀ d, (r.add (.wrote c t) d).pid = (r d).pid := by
    intro d
    by_cases hd : d = c
    · subst hd; rw [hself]
    · rw [hrec d hd]
  refine ⟨fun d => ?_, fun d => ?_, fun p d hp => (hpid d).trans (h.live p d hp)⟩
  · by_cases hd : d = c
    · subst hd
      rw [hself]
      have hcur : w.files (e.daemonOut d) = (r d).current := (h.keeps d).current
      rw [hcur]
      exact (h.keeps d).write (numbered_injective _) _
    · rw [hrec d hd]
      exact keeps_update_off
        (fun k hk hplace => hd (place_injective e (j := 0) (by omega) hk hplace).symm) (h.keeps d)
  · show Function.update _ _ _ _ = _
    rw [Function.update_of_ne (out_ne_pidfile e c d).symm, hpid d]
    exact h.pidfile d

/-- A process that ends, or a process that is no daemon, which is nothing the record knows of. -/
theorem Agrees.process (h : Agrees e w r) (p : Pid) {x : Option Owner} (hx : ∀ c, x ≠ some (.daemon c)) :
    Agrees e { w with procs := Function.update w.procs p x } r := by
  refine ⟨h.keeps, h.pidfile, fun q c hq => ?_⟩
  by_cases hqp : q = p
  · subst hqp
    exact absurd ((Function.update_self ..).symm.trans hq) (hx c)
  · exact h.live q c ((Function.update_of_ne hqp _ _).symm.trans hq)

/-- **Every label keeps the invariant**, with what the label adds to the record. A start that is refused adds nothing,
    one that is not is `Agrees.started`; output and deaths are those of a live daemon, which the record has as the
    last of its command. -/
theorem Agrees.next (B : Documented b) {l : Label} (h : Agrees e w r) (hnext : next b e w l = some w') :
    Agrees e w' ((w.entries e l).foldl Record.add r) := by
  cases l with
  | invoke args launch =>
      have hfree : w.free launch = true := by
        by_contra hf
        rw [Daemon.next, if_neg hf] at hnext
        cases hnext
      rw [Daemon.next, if_pos hfree] at hnext
      obtain rfl := Option.some.inj hnext
      match args with
      | [] => exact h
      | [_] => exact h
      | startStop :: c :: rest =>
          by_cases hstart : startStop = "start".toList
          · subst hstart
            show Agrees e (start b e c rest launch w).world _
            by_cases hrun : w.running (e.daemonPidfile c) = true
            · have hnone : w.entries e (.invoke ("start".toList :: c :: rest) launch) = [] :=
                if_neg fun hc => by rw [hrun] at hc; cases hc.2
              rw [hnone, start, if_pos hrun]
              exact h
            · have hguard : w.running (e.daemonPidfile c) = false := by simpa using hrun
              have hone : w.entries e (.invoke ("start".toList :: c :: rest) launch) = [.started c launch] :=
                if_pos ⟨rfl, hguard⟩
              rw [hone]
              exact h.started B rest hfree hguard
          · have hnone : w.entries e (.invoke (startStop :: c :: rest) launch) = [] := if_neg fun hc => hstart hc.1
            rw [hnone]
            show Agrees e (invoke b e (startStop :: c :: rest) launch w).world r
            rw [invoke, if_neg hstart]
            by_cases hstop : startStop = "stop".toList
            · rw [if_pos hstop, stop]
              by_cases hrun : w.running (e.daemonPidfile c) = true
              · rw [if_pos hrun]; exact h
              · rw [if_neg hrun]; exact h
            · rw [if_neg hstop]; exact h
  | output p t =>
      cases hp : w.procs p with
      | none => rw [Daemon.next, hp] at hnext; cases hnext
      | some o =>
          cases o with
          | other ours => rw [Daemon.next, hp] at hnext; cases hnext
          | daemon c =>
              have hone : w.entries e (.output p t) = [.wrote c t] := by
                rw [World.entries, hp]
              rw [Daemon.next, hp] at hnext
              obtain rfl := Option.some.inj hnext
              rw [hone]
              exact h.wrote c t
  | exit p =>
      by_cases hp : (w.procs p).isSome = true
      · rw [Daemon.next, if_pos hp] at hnext
        obtain rfl := Option.some.inj hnext
        exact h.process p fun c hc => by cases hc
      · rw [Daemon.next, if_neg hp] at hnext; cases hnext
  | spawn p ours =>
      by_cases hp : (w.procs p).isNone = true
      · rw [Daemon.next, if_pos hp] at hnext
        obtain rfl := Option.some.inj hnext
        exact h.process p fun c hc => by cases hc
      · rw [Daemon.next, if_neg hp] at hnext; cases hnext

/-- A whole run keeps it, with the record of the run. -/
theorem Agrees.run (B : Documented b) {ls : List Label} (h : Agrees e w r)
    (hrun : run (Daemon.next b e) w ls = some w') : Agrees e w' (record b e w r ls) := by
  induction ls generalizing w r with
  | nil => obtain rfl := Option.some.inj hrun; exact h
  | cons l ls ih =>
      obtain ⟨v, hnext, hrun'⟩ := run_cons_iff.mp hrun
      have hrec : record b e w r (l :: ls) = record b e v ((w.entries e l).foldl Record.add r) ls := by
        rw [record, hnext]
      rw [hrec]
      exact ih (h.next B hnext) hrun'

end Steps

/-! ## What one start does

Between the runs and their result stands what a single start does in a world of which the invariant holds: its
files, its processes, its message and its exit status. -/

/-- **A start that is not refused**, of a command whose outputs and last daemon were `o`: what it says, its status, and
every file and process after it. -/
structure Starts (e : Env) (c : Text) (l : Launch) (o : Outputs) (w : World) (res : Result) : Prop where
  said : res.said = "starting ".toList ++ c ++ ", logging to ".toList ++ e.daemonOut c
  /-- A daemon that is launched has its PID in the file, and it is the only new process. -/
  launched : ∀ p t, l = some (p, t) → res.status = 0 ∧ res.world.files (e.daemonPidfile c) = some (pidLine p) ∧
    res.world.procs = Function.update w.procs p (some (.daemon c))
  /-- A launch that fails leaves the PID file and the processes as they are. -/
  failed : l = none → res.status ≠ 0 ∧ res.world.files (e.daemonPidfile c) = w.files (e.daemonPidfile c) ∧
    res.world.procs = w.procs
  /-- The outputs have moved on. -/
  outputs : Keeps (numbered (e.daemonOut c)) 5 res.world.files (l.map Prod.snd) (o.current.toList ++ o.earlier)
  /-- No other file has changed. -/
  others : ∀ path, path ≠ e.daemonPidfile c → (∀ k ≤ 5, path ≠ numbered (e.daemonOut c) k) →
    res.world.files path = w.files path

section Start
variable {b : Bin} {e : Env} {w : World} {r : Record}

/-- What the script does when the guard lets it through, in a world that agrees with its record. -/
theorem Agrees.starts (B : Documented b) (h : Agrees e w r) {c : Text} (args : List Text) (l : Launch)
    (hguard : w.running (e.daemonPidfile c) = false) : Starts e c l (r c) w (start b e c args l w) := by
  have hkeeps : Keeps (numbered (e.daemonOut c)) 5 (hadoop_rotate_log (e.daemonOut c) none w.files) none
      ((r c).current.toList ++ (r c).earlier) := by simpa using h.rotated c c
  have hpidfile : hadoop_rotate_log (e.daemonOut c) none w.files (e.daemonPidfile c) = w.files (e.daemonPidfile c) :=
    rotate_log_off e fun k hk => (place_ne_pidfile e c c hk).symm
  rw [start_of_not_running hguard]
  cases l with
  | none =>
      rw [B.failed]
      exact ⟨rfl, (fun p t hl => by cases hl), fun _ => ⟨B.failed_status _ _ _ _ _, hpidfile, rfl⟩, hkeeps,
        fun _ _ hplace => rotate_log_off e hplace⟩
  | some pt =>
      obtain ⟨q, t⟩ := pt
      have hlaunched := B.launched (out_ne_pidfile e c c) c args q t (w.rotated e c)
      refine ⟨rfl, fun p t' hl => ?_, (fun hl => by cases hl), ?_, fun path hpid hplace => ?_⟩
      · obtain ⟨rfl, rfl⟩ := Prod.mk.inj (Option.some.inj hl)
        exact ⟨B.status _ _ _ _ _ _ _, B.pidfile _ _ _ _ _ _ _, B.procs _ _ _ _ _ _ _⟩
      · dsimp only
        rw [hlaunched]
        exact keeps_update_off (fun k hk => (place_ne_pidfile e c c hk).symm)
          (hkeeps.write (numbered_injective _) (some t))
      · dsimp only
        rw [hlaunched]
        dsimp only
        have hout : path ≠ e.daemonOut c := hplace 0 (by omega)
        rw [Function.update_of_ne hpid, Function.update_of_ne hout]
        exact rotate_log_off e hplace

end Start

/-! ## Whole runs

From the invariant at the end of a run both results are read off. The runs begin on a machine without files and
processes, and have any number of commands. -/

section Runs
variable {b : Bin} {e : Env} {w : World} {ls : List Label}

/-- **No output is lost before its time.** In every run from a machine without files and processes, of starts that are
    refused, fail or launch, of stops, and of daemons of any commands that write and end in between, `.out` of each
    command is the output of the last start that got past the guard, and `.out.1` to `.out.5` are those of the
    five before it, in order, complete, and none twice. -/
theorem outputs_kept (B : Documented b) (hrun : run (next b e) .blank ls = some w) (c : Text) :
    Keeps (numbered (e.daemonOut c)) 5 w.files
      (record b e .blank .blank ls c).current (record b e .blank .blank ls c).earlier :=
  ((agrees_blank e).run B hrun).keeps c

/-- A program that does what the documentation says, and ends with status 0 if it launched something. -/
def sampleBin : Bin
  | _, _, _, _, none, w => (w, 1)
  | out, pidfile, command, _, some (p, t), w =>
      ({ files := Function.update (Function.update w.files out (some t)) pidfile (some (pidLine p))
         procs := Function.update w.procs p (some (.daemon command)) }, 0)

theorem documented_sampleBin : Documented sampleBin where
  failed _ _ _ _ _ := rfl
  failed_status _ _ _ _ _ := Nat.one_ne_zero
  out _ _ _ _ _ _ _ h := (Function.update_of_ne h _ _).trans (Function.update_self ..)
  pidfile _ _ _ _ _ _ _ := Function.update_self ..
  others _ _ _ _ _ _ _ _ hout hpid := (Function.update_of_ne hpid _ _).trans (Function.update_of_ne hout _ _)
  procs _ _ _ _ _ _ _ := rfl
  status _ _ _ _ _ _ _ := rfl

/-- A machine for an example run. -/
def sampleEnv : Env :=
  ⟨"/usr/lib/hadoop".toList, "/log".toList, [], "hdfs".toList, "hdfs".toList, "os13dshdm01".toList⟩

/-- Two launches of one daemon, with a start between them that is refused while the first one runs. -/
def sampleRun : List Label :=
  [.invoke ["start".toList, "namenode".toList] (some (7, "a".toList)), .output 7 "b".toList,
    .invoke ["start".toList, "namenode".toList] (some (8, "x".toList)), .exit 7,
    .invoke ["start".toList, "namenode".toList] (some (8, "c".toList))]

/-- The output of the first launch is complete in `.out.1` once the second one is there. -/
theorem outputs_kept_twice : ∃ w, run (next sampleBin sampleEnv) .blank sampleRun = some w ∧
    w.files (dotted (sampleEnv.daemonOut "namenode".toList) 1) = some "ab".toList := by
  obtain ⟨w, hw⟩ : ∃ w, run (next sampleBin sampleEnv) .blank sampleRun = some w := ⟨_, rfl⟩
  have hkept := (outputs_kept documented_sampleBin hw "namenode".toList).earlier 0 (by decide)
  have hearlier : (record sampleBin sampleEnv .blank .blank sampleRun "namenode".toList).earlier[0]? =
      some "ab".toList := rfl
  exact ⟨w, hw, hkept.trans hearlier⟩

/-- The line of a start that is refused. -/
def refusal (c : Text) (p : Pid) : Text :=
  unwords ([c, "running".toList, "as".toList, "process".toList, Nat.toDigits 10 p ++ ['.']] ++
    ["Stop".toList, "it".toList, "first.".toList])

/-- What a refused start prints of the PID file. -/
theorem words_refusal (p : Pid) :
    words ((pidLine p).rdropWhile (· == '\n') ++ ".  Stop it first.".toList) =
      [Nat.toDigits 10 p ++ ['.'], "Stop".toList, "it".toList, "first.".toList] := by
  have hdigits : ∀ ch ∈ Nat.toDigits 10 p, ch.isDigit = true := fun _ hch =>
    Nat.isDigit_of_mem_toDigits (by decide) (by decide) hch
  have hdrop : (pidLine p).rdropWhile (· == '\n') = Nat.toDigits 10 p := by
    rw [pidLine, List.rdropWhile_concat_pos _ _ _ (by rfl), List.rdropWhile_eq_self_iff]
    intro hne h
    have hnl : (Nat.toDigits 10 p).getLast hne ≠ '\n' := ne_of_isDigit (hdigits _ (List.getLast_mem hne)) (by decide)
    exact hnl (by simpa using h)
  have hword : IsWord (Nat.toDigits 10 p ++ ['.']) := by
    refine ⟨by simp, fun ch hch => ?_⟩
    rcases List.mem_append.mp hch with hd | hdot
    · exact isBlank_of_isDigit (hdigits ch hd)
    · obtain rfl := List.mem_singleton.mp hdot; rfl
  rw [hdrop]
  calc words (Nat.toDigits 10 p ++ ".  Stop it first.".toList)
      = words ((Nat.toDigits 10 p ++ ['.']) ++ ' ' :: " Stop it first.".toList) := by
        rw [List.append_assoc]; rfl
    _ = (Nat.toDigits 10 p ++ ['.']) :: words " Stop it first.".toList := wordsBy_word_cons hword rfl _
    _ = _ := by congr 1

/-- **One daemon of a command.** In every such run the PID file of a command names the last daemon that was launched
    for it, and no other daemon of the command is live. A start is refused, with no change, exactly while
    `kill -0` finds that PID: the daemon, or a process that has got its PID since. Otherwise the start is tried, with
    all that belongs to it. -/
theorem single_daemon (B : Documented b) (hrun : run (next b e) .blank ls = some w) (c : Text) :
    (∀ p, w.procs p = some (.daemon c) → (record b e .blank .blank ls c).pid = some p) ∧
    w.files (e.daemonPidfile c) = (record b e .blank .blank ls c).pid.map pidLine ∧
    (∀ p, (record b e .blank .blank ls c).pid = some p → w.signalable p = true → ∀ args l,
      invoke b e ("start".toList :: c :: args) l w = ⟨w, refusal c p, 1⟩) ∧
    ((∀ p, (record b e .blank .blank ls c).pid = some p → w.signalable p = false) → ∀ args l,
      Starts e c l (record b e .blank .blank ls c) w (invoke b e ("start".toList :: c :: args) l w)) := by
  have h := (agrees_blank e).run B hrun
  refine ⟨fun p hp => h.live p c hp, h.pidfile c, fun p hpid hsig args l => ?_, fun hnone args l => ?_⟩
  · have hguard : w.running (e.daemonPidfile c) = true := by rw [h.running c, hpid]; exact hsig
    have hfile : (w.files (e.daemonPidfile c)).getD [] = pidLine p := by rw [h.pidfile c, hpid]; rfl
    show start b e c args l w = _
    rw [start, if_pos hguard, hfile, words_refusal]
    rfl
  · refine h.starts B args l ?_
    rw [h.running c]
    cases hpid : (record b e .blank .blank ls c).pid with
    | none => rfl
    | some p => exact hnone p hpid

/-- While the second daemon runs, a further start is refused, with the words of the script. -/
theorem single_daemon_twice : ∃ w, run (next sampleBin sampleEnv) .blank sampleRun = some w ∧
    invoke sampleBin sampleEnv ["start".toList, "namenode".toList] none w =
      ⟨w, "namenode running as process 8. Stop it first.".toList, 1⟩ := by
  obtain ⟨w, hw, hproc⟩ : ∃ w, run (next sampleBin sampleEnv) .blank sampleRun = some w ∧
      w.procs 8 = some (.daemon "namenode".toList) := ⟨_, rfl, rfl⟩
  have hsig : w.signalable 8 = true := by rw [World.signalable, hproc]
  exact ⟨w, hw, (single_daemon documented_sampleBin hw "namenode".toList).2.2.1 8 rfl hsig [] none⟩

end Runs

end Hadoop.Daemon
end StgEnvironment
