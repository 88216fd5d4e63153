import StgEnvironment.Reporting.Sshcmd

/-!
# `Reporting.Correctness.Sshcmd`: when `sshcmd` cannot deadlock

What the child was to write to a stream is, at any time, what the parent has read of it, what is in the pipe, and
what the child has yet to write (`Inv`). While the child writes, the parent reads `stderr` only, so all that was
written to `stdout` is in its pipe: if the whole output fits there, something can always happen (`Inv.progress`);
if it does not, the child comes to wait for room that nobody makes (`exists_stuck`).

## Contents
- **The invariant**: one inversion lemma for each label (`next_write` and its likes), from these that the label keeps
  the invariant, and then every run.
- **Progress**: as long as the two have not come to their end, some label can happen.
- **Deadlock**: a run that fills the pipe, whatever the child writes to `stderr` in between.
- **Safe**: both directions (`safe_iff`).
-/

namespace StgEnvironment
namespace Reporting.Sshcmd
open Python GetReport Transition

/-! ## Output -/

@[simp] theorem output_nil (s : Stream) : output s [] = [] := rfl

theorem output_cons_self (s : Stream) (c : Char) (todo : List (Stream × Char)) :
    output s ((s, c) :: todo) = c :: output s todo := by
  simp [output]

theorem output_cons_ne {s s' : Stream} (h : s' ≠ s) (c : Char) (todo : List (Stream × Char)) :
    output s ((s', c) :: todo) = output s todo := by
  simp [output, h]

theorem output_replicate (s : Stream) (c : Char) (n : ℕ) :
    output s (List.replicate n (s, c)) = List.replicate n c := by
  induction n with
  | zero => rfl
  | succ n ih => rw [List.replicate_succ, output_cons_self, ih, List.replicate_succ]

theorem fileLines_isEmpty {t : Text} : (fileLines t).isEmpty = true ↔ t = [] := by
  cases t with
  | nil => simp [fileLines]
  | cons c t =>
      simp only [fileLines, reduceCtorEq, iff_false]
      split
      · simp
      · split <;> simp

/-! ## The invariant -/

/-- What the parent has read of a stream, and what it knows: it turns to `stdout` at the end of an empty `stderr`,
and returns at the end of either. -/
def Read (child : List (Stream × Char)) (σ : State) : Parent → Prop
  | .readErr err =>
      err ++ σ.pipe .stderr ++ output .stderr σ.todo = output .stderr child ∧
      σ.pipe .stdout ++ output .stdout σ.todo = output .stdout child
  | .readOut out =>
      σ.isOpen .stderr = false ∧ output .stderr child = [] ∧
      out ++ σ.pipe .stdout ++ output .stdout σ.todo = output .stdout child
  | .returned none => σ.isOpen .stderr = false ∧ output .stderr child ≠ []
  | .returned (some result) =>
      σ.isOpen .stderr = false ∧ output .stderr child = [] ∧ result = fileLines (output .stdout child)

/-- A stream is closed when the child is done, and every byte is accounted for. -/
structure Inv (child : List (Stream × Char)) (σ : State) : Prop where
  closed : ∀ s, σ.isOpen s = false → σ.todo = []
  read : Read child σ σ.parent

/-- At the start the child has everything yet to write. -/
theorem inv_init (child : List (Stream × Char)) : Inv child (init child) :=
  ⟨nofun, rfl, rfl⟩

/-! ## Steps -/

section Steps
variable {C : Capacities} {σ σ' : State}

theorem next_write (h : next C σ .write = some σ') :
    ∃ s c todo, σ.todo = (s, c) :: todo ∧ (σ.pipe s).length < C.cap s ∧
      σ' = { σ with todo := todo, pipe := Function.update σ.pipe s (σ.pipe s ++ [c]) } := by
  simp only [next] at h
  split at h
  · cases h
  · next s c todo htodo =>
      split at h
      · next hroom => exact ⟨s, c, todo, htodo, hroom, (Option.some.inj h).symm⟩
      · cases h

theorem next_close {s : Stream} (h : next C σ (.close s) = some σ') :
    σ.todo = [] ∧ σ.isOpen s = true ∧ σ' = { σ with isOpen := Function.update σ.isOpen s false } := by
  simp only [next] at h
  split at h
  · next hc =>
      obtain ⟨htodo, hopen⟩ := Bool.and_eq_true_iff.mp hc
      exact ⟨List.isEmpty_iff.mp htodo, hopen, (Option.some.inj h).symm⟩
  · cases h

theorem next_read (h : next C σ .read = some σ') :
    ∃ s c rest, σ.parent.reads = some s ∧ σ.pipe s = c :: rest ∧
      σ' = { σ with pipe := Function.update σ.pipe s rest, parent := σ.parent.got c } := by
  obtain ⟨s, hs, h⟩ := Option.bind_eq_some_iff.mp h
  split at h
  · cases h
  · next c rest hpipe => exact ⟨s, c, rest, hs, hpipe, (Option.some.inj h).symm⟩

theorem next_eof (h : next C σ .eof = some σ') :
    ∃ s, σ.parent.reads = some s ∧ σ.pipe s = [] ∧ σ.isOpen s = false ∧
      σ' = { σ with parent := σ.parent.ended } := by
  obtain ⟨s, hs, h⟩ := Option.bind_eq_some_iff.mp h
  split at h
  · next hc =>
      obtain ⟨hpipe, hopen⟩ := Bool.and_eq_true_iff.mp hc
      exact ⟨s, hs, List.isEmpty_iff.mp hpipe, by simpa using hopen, (Option.some.inj h).symm⟩
  · cases h

variable {child : List (Stream × Char)}

/-- Only a parent at `stderr` has not seen its end. -/
theorem Read.at_stderr_or_closed {p : Parent} (h : Read child σ p) :
    (∃ err, p = .readErr err) ∨ σ.isOpen .stderr = false := by
  cases p with
  | readErr err => exact Or.inl ⟨err, rfl⟩
  | readOut out => exact Or.inr h.1
  | returned result =>
      cases result with
      | none => exact Or.inr h.1
      | some lines => exact Or.inr h.1

/-- While the child has something to write, nothing is closed, and the parent is at `stderr`. -/
theorem Inv.of_todo {e : Stream × Char} {todo : List (Stream × Char)} (h : Inv child σ) (htodo : σ.todo = e :: todo) :
    (∀ s, σ.isOpen s = true) ∧ ∃ err, σ.parent = .readErr err := by
  have hopen : ∀ s, σ.isOpen s ≠ false := fun s hc => by
    have hnil := h.closed s hc
    rw [htodo] at hnil
    cases hnil
  exact ⟨fun s => by simpa using hopen s, h.read.at_stderr_or_closed.resolve_right (hopen .stderr)⟩

theorem Inv.write (h : Inv child σ) (hnext : next C σ .write = some σ') : Inv child σ' := by
  obtain ⟨s, c, todo, htodo, -, rfl⟩ := next_write hnext
  obtain ⟨hopen, err, hp⟩ := h.of_todo htodo
  have hread := h.read
  rw [hp] at hread
  obtain ⟨herr, hout⟩ := hread
  rw [htodo] at herr hout
  refine ⟨fun s' hs' => absurd ((hopen s').symm.trans hs') (by simp), ?_⟩
  show Read child _ σ.parent
  rw [hp]
  cases s with
  | stdout => exact ⟨by simpa [output] using herr, by simpa [output] using hout⟩
  | stderr => exact ⟨by simpa [output] using herr, by simpa [output] using hout⟩

theorem Inv.close {s : Stream} (h : Inv child σ) (hnext : next C σ (.close s) = some σ') : Inv child σ' := by
  obtain ⟨htodo, -, rfl⟩ := next_close hnext
  have hread := h.read
  have hkeep : σ.isOpen .stderr = false → Function.update σ.isOpen s false .stderr = false := by
    intro hc
    by_cases hs : Stream.stderr = s
    · rw [hs, Function.update_self]
    · rw [Function.update_of_ne hs, hc]
  refine ⟨fun s' _ => htodo, ?_⟩
  cases hp : σ.parent with
  | readErr err => rw [hp] at hread; exact hread
  | readOut out => rw [hp] at hread; exact ⟨hkeep hread.1, hread.2⟩
  | returned result =>
      rw [hp] at hread
      cases result with
      | none => exact ⟨hkeep hread.1, hread.2⟩
      | some lines => exact ⟨hkeep hread.1, hread.2⟩

theorem Inv.parent_read (h : Inv child σ) (hnext : next C σ .read = some σ') : Inv child σ' := by
  obtain ⟨s, c, rest, hs, hpipe, rfl⟩ := next_read hnext
  have hread := h.read
  refine ⟨h.closed, ?_⟩
  cases hp : σ.parent with
  | readErr err =>
      rw [hp] at hread hs
      obtain rfl := Option.some.inj hs
      rw [Read, hpipe] at hread
      exact ⟨by simpa using hread.1, by simpa using hread.2⟩
  | readOut out =>
      rw [hp] at hread hs
      obtain rfl := Option.some.inj hs
      rw [Read, hpipe] at hread
      exact ⟨hread.1, hread.2.1, by simpa using hread.2.2⟩
  | returned result => rw [hp] at hs; cases hs

/-- At its end a stream has been read as a whole: it is closed and its pipe is empty, so that what was read is all
    that the child has written. -/
theorem Inv.eof (h : Inv child σ) (hnext : next C σ .eof = some σ') : Inv child σ' := by
  obtain ⟨s, hs, hpipe, hopen, rfl⟩ := next_eof hnext
  have hread := h.read
  have htodo : σ.todo = [] := h.closed s hopen
  refine ⟨h.closed, ?_⟩
  cases hp : σ.parent with
  | readErr err =>
      rw [hp] at hread hs
      obtain rfl := Option.some.inj hs
      rw [Read, hpipe, htodo, List.append_nil, output_nil, List.append_nil] at hread
      obtain ⟨rfl, hout⟩ := hread
      by_cases he : output .stderr child = []
      · have hempty : (fileLines (output .stderr child)).isEmpty = true := fileLines_isEmpty.mpr he
        simp only [Parent.ended, hempty, if_true]
        exact ⟨hopen, he, by simpa [htodo] using hout⟩
      · have hempty : ¬ (fileLines (output .stderr child)).isEmpty = true := fun h => he (fileLines_isEmpty.mp h)
        simp only [Parent.ended, if_neg hempty]
        exact ⟨hopen, he⟩
  | readOut out =>
      rw [hp] at hread hs
      obtain rfl := Option.some.inj hs
      obtain ⟨herr, hnone, hout⟩ := hread
      rw [hpipe, htodo, List.append_nil, output_nil, List.append_nil] at hout
      exact ⟨herr, hnone, by rw [hout]⟩
  | returned result => rw [hp] at hs; cases hs

/-- **Every step keeps the account of the bytes.** -/
theorem Inv.step {l : Label} (h : Inv child σ) (hnext : next C σ l = some σ') : Inv child σ' := by
  cases l with
  | write => exact h.write hnext
  | close s => exact h.close hnext
  | read => exact h.parent_read hnext
  | eof => exact h.eof hnext

end Steps

/-- The account holds in every reachable state. -/
theorem inv_of_run {C : Capacities} {child : List (Stream × Char)} {ls : List Label} {σ : State}
    (hrun : run (next C) (init child) ls = some σ) : Inv child σ := by
  have hstep : ∀ σ l σ', Inv child σ → True → next C σ l = some σ' → Inv child σ' :=
    fun _ _ _ h _ hnext => h.step hnext
  exact run_invariant hstep (inv_init child) (along_of_all fun _ _ => trivial) hrun

/-! ## A child with little output -/

section Progress
variable {C : Capacities} {child : List (Stream × Char)} {σ : State}

theorem write_isSome {s : Stream} {c : Char} {todo : List (Stream × Char)} (htodo : σ.todo = (s, c) :: todo)
    (hroom : (σ.pipe s).length < C.cap s) : next C σ .write ≠ none := by
  simp [next, htodo, hroom]

/-- A parent that is not done goes on once its pipe is closed. -/
theorem read_or_eof {s : Stream} (hs : σ.parent.reads = some s) (hopen : σ.isOpen s = false) :
    next C σ .read ≠ none ∨ next C σ .eof ≠ none := by
  cases hpipe : σ.pipe s with
  | nil => right; simp [next, hs, hpipe, hopen]
  | cons c rest => left; simp [next, hs, hpipe]

/-- A child that cannot write is done: what is in the pipe of `stdout` is not yet the whole output, and the pipe of
`stderr` is the one that the parent reads. -/
theorem Inv.todo_of_stuck (h : Inv child σ) (hfits : (output .stdout child).length ≤ C.cap .stdout)
    (hstuck : Stuck C σ) : σ.todo = [] := by
  cases htodo : σ.todo with
  | nil => rfl
  | cons e todo =>
      exfalso
      obtain ⟨-, err, hp⟩ := h.of_todo htodo
      have hread := h.read
      rw [hp] at hread
      obtain ⟨s, c⟩ := e
      cases s with
      | stdout =>
          have hlen := congrArg List.length hread.2
          rw [htodo, output_cons_self, List.length_append, List.length_cons] at hlen
          exact write_isSome htodo (by omega) (hstuck .write)
      | stderr =>
          by_cases hroom : (σ.pipe .stderr).length < C.cap .stderr
          · exact write_isSome htodo hroom (hstuck .write)
          · have hpos := C.pos .stderr
            cases hpipe : σ.pipe .stderr with
            | nil => simp [hpipe] at hroom; omega
            | cons c' rest => simpa [next, hp, Parent.reads, hpipe] using hstuck .read

/-- **While all output fits into its pipe, something can happen.** In a stuck state the child has nothing left to
    write and both pipes are closed, so that the parent would read on unless it has returned. -/
theorem Inv.progress (h : Inv child σ) (hfits : (output .stdout child).length ≤ C.cap .stdout)
    (hstuck : Stuck C σ) : Terminated σ := by
  have htodo := h.todo_of_stuck hfits hstuck
  have hopen : ∀ s, σ.isOpen s = false := by
    intro s
    by_contra hs
    have hclose := hstuck (.close s)
    simp [next, htodo, hs] at hclose
  have hdone : ∀ s, σ.parent.reads ≠ some s := fun s hs =>
    (read_or_eof hs (hopen s)).elim (fun h => h (hstuck .read)) fun h => h (hstuck .eof)
  refine ⟨htodo, hopen, ?_⟩
  cases hp : σ.parent with
  | readErr err => exact absurd (by rw [hp]; rfl) (hdone .stderr)
  | readOut out => exact absurd (by rw [hp]; rfl) (hdone .stdout)
  | returned result => exact ⟨result, rfl⟩

end Progress

/-! ## A child with much output -/

/-- The child at `todo`, with what it has written to `stdout` still in the pipe. -/
def writing (todo : List (Stream × Char)) (out err : Text) : State :=
  ⟨todo, fun _ => true, fun s => if s = .stdout then out else [], .readErr err⟩

/-- A byte for `stderr` is written and read at once. -/
theorem run_writing_stderr (C : Capacities) (c : Char) (todo : List (Stream × Char)) (out err : Text) :
    run (next C) (writing ((.stderr, c) :: todo) out err) [.write, .read]
      = some (writing todo out (err ++ [c])) := by
  have hpos := C.pos .stderr
  have hpipe : Function.update (fun s => if s = Stream.stdout then out else []) .stderr []
      = fun s => if s = Stream.stdout then out else [] := by
    funext s
    cases s <;> simp
  simp [run, next, writing, Parent.reads, Parent.got, hpos, hpipe]

theorem next_writing_stdout {C : Capacities} {out : Text} (hroom : out.length < C.cap .stdout) (c : Char)
    (todo : List (Stream × Char)) (err : Text) :
    next C (writing ((.stdout, c) :: todo) out err) .write = some (writing todo (out ++ [c]) err) := by
  have hpipe : Function.update (fun s => if s = Stream.stdout then out else []) .stdout (out ++ [c])
      = fun s => if s = Stream.stdout then out ++ [c] else [] := by
    funext s
    cases s <;> simp
  simp [next, writing, hroom, hpipe]

/-- At a full pipe the child waits for room, and the parent for the end of `stderr`. -/
theorem stuck_writing_stdout {C : Capacities} {out : Text} (hfull : ¬ out.length < C.cap .stdout) (c : Char)
    (todo : List (Stream × Char)) (err : Text) : Stuck C (writing ((.stdout, c) :: todo) out err) := by
  intro l
  cases l with
  | write => simp [next, writing, hfull]
  | close s => simp [next, writing]
  | read => simp [next, writing, Parent.reads]
  | eof => simp [next, writing, Parent.reads]

/-- **A child with more output than the pipe holds comes to wait**, and its parent with it. By induction on what the
    child has still to write: what goes to `stderr` is written and read at once, what goes to `stdout` fills the
    pipe. -/
theorem exists_stuck (C : Capacities) : ∀ (todo : List (Stream × Char)) (out err : Text),
    out.length ≤ C.cap .stdout → C.cap .stdout < (out ++ output .stdout todo).length →
    ∃ ls σ, run (next C) (writing todo out err) ls = some σ ∧ Stuck C σ ∧ ¬ Terminated σ := by
  intro todo
  induction todo with
  | nil =>
      intro out err hle hlt
      rw [output_nil, List.append_nil] at hlt
      exact absurd hle (by omega)
  | cons e todo ih =>
      intro out err hle hlt
      obtain ⟨s, c⟩ := e
      cases s with
      | stderr =>
          rw [output_cons_ne (by simp)] at hlt
          obtain ⟨ls, σ, hrun, hstuck⟩ := ih out (err ++ [c]) hle hlt
          exact ⟨[.write, .read] ++ ls, σ, (run_append (run_writing_stderr C c todo out err)).trans hrun, hstuck⟩
      | stdout =>
          by_cases hroom : out.length < C.cap .stdout
          · rw [output_cons_self, List.append_cons] at hlt
            obtain ⟨ls, σ, hrun, hstuck⟩ := ih (out ++ [c]) err (by simpa using hroom) hlt
            exact ⟨.write :: ls, σ, run_cons_iff.mpr ⟨_, next_writing_stdout hroom c todo err, hrun⟩, hstuck⟩
          · exact ⟨[], _, rfl, stuck_writing_stdout hroom c todo err, fun hterm => by cases hterm.1⟩

/-! ## The exact condition -/

/-- Every reachable state where nothing can happen is the end, and a parent that got no error output returns all
lines of the output. -/
def Safe (C : Capacities) (child : List (Stream × Char)) : Prop :=
  ∀ ls σ, run (next C) (init child) ls = some σ →
    (Stuck C σ → Terminated σ) ∧
    ∀ result, σ.parent = .returned result → output .stderr child = [] →
      result = some (fileLines (output .stdout child))

theorem not_safe_of_lt {C : Capacities} {child : List (Stream × Char)}
    (h : C.cap .stdout < (output .stdout child).length) : ¬ Safe C child := by
  intro hsafe
  have hinit : init child = writing child [] [] := by simp [init, writing]
  obtain ⟨ls, σ, hrun, hstuck, hterm⟩ := exists_stuck C child [] [] (by simp) (by simpa using h)
  exact hterm ((hsafe ls σ (hinit ▸ hrun)).1 hstuck)

/-- **`sshcmd` cannot deadlock exactly when the whole output of the child fits into the pipe.** The parent reads all
    of `stderr` before it reads `stdout`. With more output the child comes to wait for a reader (`not_safe_of_lt`);
    with no more, every state that is stuck has terminated (`Inv.progress`). -/
theorem safe_iff (C : Capacities) (child : List (Stream × Char)) :
    Safe C child ↔ (output .stdout child).length ≤ C.cap .stdout := by
  constructor
  · intro h
    by_contra hmuch
    exact not_safe_of_lt (by omega) h
  · intro hfits ls σ hrun
    have hinv := inv_of_run hrun
    refine ⟨hinv.progress hfits, fun result hp herr => ?_⟩
    have hread := hinv.read
    rw [hp] at hread
    cases result with
    | none => exact absurd herr hread.2
    | some lines => rw [hread.2.2]

/-- The pipes of the kernel, of 64 KiB. -/
def linux : Capacities := ⟨fun _ => 65536, fun _ => by decide⟩

/-- One byte more. -/
theorem not_safe_linux : ¬ Safe linux (List.replicate 65537 (.stdout, 'i')) := by
  refine not_safe_of_lt ?_
  rw [output_replicate, List.length_replicate]
  exact Nat.lt_succ_self 65536

end Reporting.Sshcmd
end StgEnvironment
