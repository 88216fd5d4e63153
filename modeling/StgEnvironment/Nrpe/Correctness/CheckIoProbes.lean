import StgEnvironment.Nrpe.CheckIoProbes
import StgEnvironment.Nrpe.Correctness.CheckIo

/-!
# `Nrpe.Correctness.CheckIoProbes`: overlapping runs of `check_io.sh`

At any time either the state file is complete, from one run (`Idle`), or one probe is in the middle of storing it
(`Storing`). That holds as long as no probe reads or truncates the file while another is in the middle of storing
it, or truncates it while another is in the middle of reading it (`Separately`). Without the condition a probe reads
the seconds of one run and no counters, or two runs leave lines of both (`not_consistent_midway`).

## Contents
- **The invariant**: `Inv`, which says of the file whose it is, and of every probe what it has read so far and from
  which run.
- **One step**: a lemma for each of the four things that a probe can do next, and from them that every step keeps the
  invariant.
- **Runs**: every order of the steps of any number of probes, by the rule of `Lib.Transition`.
-/

namespace StgEnvironment
namespace Nrpe.CheckIo
open Transition

section Probes
variable {ι : Type*} [DecidableEq ι] (P : Probes ι)

/-- No step reads or truncates the file while another probe is in the middle of storing it, and none truncates it
while another is in the middle of reading it. -/
def Separately (σ : State ι) (i : ι) : Prop :=
  ((σ.procs i).pc.opens = true → ∀ j, j ≠ i → (σ.procs j).pc.midStore = false) ∧
  ((σ.procs i).pc = .storing 0 → ∀ j, j ≠ i → (σ.procs j).pc.midRead = false)

/-- The run that a file is from: a probe, or the one before them. -/
def Probes.source (o : Option ι) : Invocation := o.elim P.first P.probe

/-- A probe has read the values of another run, which has come to its end. -/
structure ReadFrom (σ : State ι) (i : ι) (o : Option ι) : Prop where
  other : o ≠ some i
  earlier : ∀ j, o = some j → (σ.procs j).pc.finished = true
  read : (σ.procs i).read = stored check_io (P.source o)

/-- The file is that of one run, or of the one before all of them: nobody is in the middle of storing, and whoever
    reads has read the beginning of what is there. -/
structure Idle (σ : State ι) (o : Option ι) : Prop where
  quiet : ∀ i, (σ.procs i).pc.midStore = false
  complete : ∀ j, o = some j → (σ.procs j).pc.finished = true
  untouched : o = none → ∀ i, (σ.procs i).pc.finished = false
  content : σ.files P.file = endLines (linesOf (P.source o))
  reads : ∀ i k, (σ.procs i).pc = .reading k → (σ.procs i).read = (stored check_io (P.source o)).take k

/-- A probe has stored some of its lines, but not all. No other is storing, and nobody has read any of them. -/
structure Storing (σ : State ι) (i : ι) (k : ℕ) : Prop where
  pc : (σ.procs i).pc = .storing k
  part : 0 < k ∧ k < check_io.labels.length
  others : ∀ j, j ≠ i → (σ.procs j).pc.midStore = false
  content : σ.files P.file = endLines ((linesOf (P.probe i)).take k)
  waiting : ∀ j k, (σ.procs j).pc = .reading k → k = 0 ∧ (σ.procs j).read = []

/-- The file is whole or being stored, and whoever has read all values has those of one other run. -/
structure Inv (σ : State ι) : Prop where
  phase : (∃ o, Idle P σ o) ∨ ∃ i k, Storing P σ i k
  readers : ∀ i, (σ.procs i).pc.hasRead = true → ∃ o, ReadFrom P σ i o

/-- What the probes see: each reads the values of one earlier run, and at the end the file is that of one of them. -/
structure Consistent (σ : State ι) : Prop where
  readers : ∀ i, (σ.procs i).pc.hasRead = true → ∃ o, ReadFrom P σ i o
  file : (∀ i, (σ.procs i).pc.finished = true) → ∃ i, σ.files P.file = endLines (linesOf (P.probe i))

variable {P}

theorem length_linesOf (x : Invocation) : (linesOf x).length = check_io.labels.length := by
  rw [linesOf, List.length_map, ← map_fst_measured check_io x, List.length_map]

omit [DecidableEq ι] in
/-- The file of every probe is that of the device. -/
theorem fileName_probe (i : ι) : fileName check_io (P.probe i).path = P.file := by
  rw [P.probe_path i, Probes.file]

@[simp] theorem setProc_same (σ : State ι) (i : ι) (p : Proc) : (σ.setProc i p).procs i = p :=
  Function.update_self ..

theorem setProc_other {i j : ι} (h : j ≠ i) (σ : State ι) (p : Proc) : (σ.setProc i p).procs j = σ.procs j :=
  Function.update_of_ne h ..

/-- The state after a probe has stored its line `k`. -/
def State.setStored (σ : State ι) (i : ι) (k : ℕ) (files : Files) : State ι :=
  { σ.setProc i ⟨.storing (k + 1), (σ.procs i).read⟩ with files := files }

@[simp] theorem setStored_same (σ : State ι) (i : ι) (k : ℕ) (files : Files) :
    (σ.setStored i k files).procs i = ⟨.storing (k + 1), (σ.procs i).read⟩ :=
  setProc_same ..

theorem setStored_other {i j : ι} (h : j ≠ i) (σ : State ι) (k : ℕ) (files : Files) :
    (σ.setStored i k files).procs j = σ.procs j :=
  setProc_other h ..

/-- What holds of the probe that moves, and of the others, holds of all. -/
theorem forall_setProc {σ : State ι} {i : ι} {p : Proc} {Q : ι → Proc → Prop} (hi : Q i p)
    (hothers : ∀ j, j ≠ i → Q j (σ.procs j)) (j : ι) : Q j ((σ.setProc i p).procs j) :=
  (Function.forall_update_iff σ.procs Q).mpr ⟨hi, hothers⟩ j

/-- A probe that still reads is not the one that stores. -/
theorem reading_of_setStored {σ : State ι} {i j : ι} {k m : ℕ} {files : Files}
    (hm : ((σ.setStored i k files).procs j).pc = .reading m) :
    j ≠ i ∧ (σ.setStored i k files).procs j = σ.procs j := by
  have hji : j ≠ i := by
    rintro rfl
    rw [setStored_same] at hm
    cases hm
  exact ⟨hji, setStored_other hji ..⟩

omit [DecidableEq ι] in
/-- Probes at different places are different. -/
theorem ne_of_pc {σ : State ι} {i j : ι} {pc : Pc} {f : Pc → Bool} (hi : (σ.procs i).pc = pc) (hf : f pc = false)
    (hj : f (σ.procs j).pc = true) : j ≠ i := by
  rintro rfl
  rw [hi, hf] at hj
  cases hj

/-! ## The start

At the start the file is that of the run before all probes, and none of them has read or stored anything. -/

omit [DecidableEq ι] in
theorem inv_start : Inv P P.start := by
  have hcontent : P.start.files P.file = endLines (linesOf P.first) := by
    have hfile : P.file = fileName check_io P.first.path := by rw [P.first_path, Probes.file]
    show store check_io (fun _ => []) P.first P.file = _
    rw [store_eq, hfile, Function.update_self, linesOf]
  refine ⟨Or.inl ⟨none, fun _ => rfl, nofun, fun _ _ => rfl, hcontent, fun i k h => ?_⟩, fun i h => by cases h⟩
  obtain rfl := Pc.reading.inj h
  rfl

/-! ## A step

A step is a read or a line that is stored. Reads and the first line need that nobody else is in the middle of
storing, and the first line that nobody else is in the middle of reading; this is the condition on the step. -/

theorem next_cases {σ σ' : State ι} {i : ι} (h : next P σ i = some σ') :
    (∃ k label, (σ.procs i).pc = .reading k ∧ check_io.labels[k]? = some label ∧
      σ' = σ.setProc i ⟨if k + 1 < check_io.labels.length then .reading (k + 1) else .storing 0,
        (σ.procs i).read ++ [lastValue (σ.files P.file) label]⟩) ∨
    ∃ k line, (σ.procs i).pc = .storing k ∧ (linesOf (P.probe i))[k]? = some line ∧
      σ' = σ.setStored i k (if k = 0 then truncate σ.files P.file line else append σ.files P.file line) := by
  unfold next at h
  split at h
  · next k hpc =>
      obtain ⟨label, hlabel, rfl⟩ := Option.map_eq_some_iff.mp h
      exact Or.inl ⟨k, label, hpc, hlabel, by rw [fileName_probe]⟩
  · next k hpc =>
      obtain ⟨line, hline, rfl⟩ := Option.map_eq_some_iff.mp h
      exact Or.inr ⟨k, line, hpc, hline, by rw [fileName_probe, State.setStored]⟩

omit [DecidableEq ι] in
/-- The next value is that of the run that the file is from. -/
theorem Idle.lastValue_eq {σ : State ι} {o : Option ι} (h : Idle P σ o) {k : ℕ} {label : Text}
    (hlabel : check_io.labels[k]? = some label) :
    (stored check_io (P.source o))[k]? = some (lastValue (σ.files P.file) label) := by
  have hread := readings_stored readable_check_io (P.source o) σ.files P.device h.content
  rw [stored, ← hread, readings, List.getElem?_map, hlabel]
  rfl

omit [DecidableEq ι] in
/-- A probe that stores its next line, and not the first, is in the middle. -/
theorem midStore_of_line {x : Invocation} {k : ℕ} {line : Text} (hline : (linesOf x)[k]? = some line)
    (hk : k ≠ 0) : (Pc.storing k).midStore = true := by
  have hlt : k < (linesOf x).length := (List.getElem?_eq_some_iff.mp hline).1
  rw [length_linesOf] at hlt
  exact decide_eq_true ⟨Nat.pos_of_ne_zero hk, hlt⟩

/-- **A read of a whole file** gives the next value of the run that it is from, and those that were read before are
    from the same run. -/
theorem Idle.read {σ : State ι} {o : Option ι} (h : Idle P σ o) {i : ι} {k : ℕ}
    (hpc : (σ.procs i).pc = .reading k) {pc : Pc} {read : List Text}
    (hnext : pc = if k + 1 < check_io.labels.length then .reading (k + 1) else .storing 0)
    (hread : read = (stored check_io (P.source o)).take (k + 1)) : Idle P (σ.setProc i ⟨pc, read⟩) o := by
  have hmid : pc.midStore = false ∧ pc.finished = false := by
    rw [hnext]
    split <;> exact ⟨rfl, rfl⟩
  refine ⟨?_, ?_, fun ho => ?_, h.content, ?_⟩
  · exact forall_setProc (Q := fun _ p => p.pc.midStore = false) hmid.1 fun j _ => h.quiet j
  · refine forall_setProc (Q := fun j p => o = some j → p.pc.finished = true) (fun ho => ?_) fun j _ => h.complete j
    -- a probe that still reads is not the one the file is from
    exact absurd rfl (ne_of_pc hpc rfl (h.complete i ho))
  · exact forall_setProc (Q := fun _ p => p.pc.finished = false) hmid.2 fun j _ => h.untouched ho j
  · refine forall_setProc (Q := fun _ p => ∀ m, p.pc = .reading m → p.read = (stored check_io (P.source o)).take m)
      (fun m hm => ?_) fun j _ => h.reads j
    have hm' : pc = .reading m := hm
    rw [hnext] at hm'
    split at hm'
    · obtain rfl := Pc.reading.inj hm'
      exact hread
    · cases hm'

/-- **The first line truncates the file.** Nobody else has begun to read or store, by the condition on the step, so
    nobody is left with values of the file that was. -/
theorem Idle.first_line {σ : State ι} {o : Option ι} (h : Idle P σ o) {i : ι} {line : Text}
    (hmid : ∀ j, j ≠ i → (σ.procs j).pc.midRead = false) (hline : (linesOf (P.probe i))[0]? = some line) :
    Storing P (σ.setStored i 0 (truncate σ.files P.file line)) i 1 := by
  refine ⟨by rw [setStored_same], by decide, fun j hji => ?_, ?_, fun j m hm => ?_⟩
  · rw [setStored_other hji]
    exact h.quiet j
  · have htake : (linesOf (P.probe i)).take 1 = [line] := by
      rw [List.take_one, List.head?_eq_getElem?, hline, Option.toList_some]
    show Function.update σ.files P.file (line ++ ['\n']) P.file = _
    rw [Function.update_self, htake]
    simp [endLines]
  · obtain ⟨hji, hsame⟩ := reading_of_setStored hm
    rw [hsame] at hm ⊢
    have hzero : m = 0 := by
      have hfalse := hmid j hji
      rw [hm] at hfalse
      exact Nat.eq_zero_of_not_pos (of_decide_eq_false hfalse)
    exact ⟨hzero, by rw [h.reads j m hm, hzero, List.take_zero]⟩

/-- **A later line is appended**, and after the last one the file is whole again, as that of the probe that has stored
    it. -/
theorem Storing.later_line {σ : State ι} {i : ι} {k : ℕ} (h : Storing P σ i k) {line : Text}
    (hline : (linesOf (P.probe i))[k]? = some line) :
    Storing P (σ.setStored i k (append σ.files P.file line)) i (k + 1) ∨
      Idle P (σ.setStored i k (append σ.files P.file line)) (some i) := by
  have hcontent : append σ.files P.file line P.file = endLines ((linesOf (P.probe i)).take (k + 1)) := by
    rw [append, Function.update_self, h.content, List.take_add_one, hline, endLines_append]
    simp [endLines]
  have hwaiting : ∀ j m, ((σ.setStored i k (append σ.files P.file line)).procs j).pc = .reading m →
      m = 0 ∧ ((σ.setStored i k (append σ.files P.file line)).procs j).read = [] := by
    intro j m hm
    obtain ⟨-, hsame⟩ := reading_of_setStored hm
    rw [hsame] at hm ⊢
    exact h.waiting j m hm
  by_cases hk : k + 1 < check_io.labels.length
  · refine Or.inl ⟨by rw [setStored_same], ⟨Nat.succ_pos k, hk⟩, fun j hji => ?_, hcontent, hwaiting⟩
    rw [setStored_other hji]
    exact h.others j hji
  · have hlast : check_io.labels.length ≤ k + 1 := Nat.le_of_not_lt hk
    refine Or.inr ⟨?_, fun j hj => ?_, fun ho => ?_, ?_, fun j m hm => ?_⟩
    · exact forall_setProc (Q := fun _ p => p.pc.midStore = false) (decide_eq_false fun hpart => hk hpart.2) h.others
    · obtain rfl := Option.some.inj hj
      rw [setStored_same]
      exact decide_eq_true hlast
    · cases ho
    · show append σ.files P.file line P.file = _
      rw [hcontent, List.take_of_length_le (by rwa [length_linesOf])]
      rfl
    · obtain ⟨rfl, hread⟩ := hwaiting j m hm
      rw [hread, List.take_zero]

omit [DecidableEq ι] in
theorem Storing.midStore {σ : State ι} {i : ι} {k : ℕ} (h : Storing P σ i k) : (σ.procs i).pc.midStore = true := by
  rw [h.pc]
  exact decide_eq_true h.part

omit [DecidableEq ι] in
/-- While a probe is storing its lines, nobody reads or truncates the file. -/
theorem Storing.not_opens {σ : State ι} {i j : ι} {k : ℕ} (h : Storing P σ i k) (hsep : Separately σ j) :
    (σ.procs j).pc.opens = false := by
  by_contra hopens
  have hopens' : (σ.procs j).pc.opens = true := by simpa using hopens
  have hclosed : (Pc.storing k).opens = false := decide_eq_false (Nat.pos_iff_ne_zero.mp h.part.1)
  have hmid := hsep.1 hopens' i (ne_of_pc h.pc hclosed hopens').symm
  rw [h.midStore] at hmid
  cases hmid

/-- A probe that has come to its end takes no step. -/
theorem finished_next {σ σ' : State ι} {i j : ι} (hnext : next P σ i = some σ')
    (hj : (σ.procs j).pc.finished = true) : (σ'.procs j).pc.finished = true := by
  rcases next_cases hnext with ⟨k, label, hpc, -, rfl⟩ | ⟨k, line, hpc, hline, rfl⟩
  · rwa [setProc_other (ne_of_pc hpc rfl hj)]
  · have hlt : k < (linesOf (P.probe i)).length := (List.getElem?_eq_some_iff.mp hline).1
    rw [length_linesOf] at hlt
    have hfinished : (Pc.storing k).finished = false := decide_eq_false (Nat.not_le_of_lt hlt)
    rwa [setStored_other (ne_of_pc hpc hfinished hj)]

/-- Whoever has read all values keeps them. -/
theorem read_next {σ σ' : State ι} {i j : ι} (hnext : next P σ i = some σ')
    (hj : (σ.procs j).pc.hasRead = true) : (σ'.procs j).read = (σ.procs j).read := by
  rcases next_cases hnext with ⟨k, label, hpc, -, rfl⟩ | ⟨k, line, -, -, rfl⟩
  · rw [setProc_other (ne_of_pc hpc rfl hj)]
  · by_cases hji : j = i
    · rw [hji, setStored_same]
    · rw [setStored_other hji]

/-- What a probe has read to its end does not change, whoever acts. -/
theorem ReadFrom.next {σ σ' : State ι} {i j : ι} {o : Option ι} (h : ReadFrom P σ j o)
    (hnext : CheckIo.next P σ i = some σ') (hj : (σ.procs j).pc.hasRead = true) : ReadFrom P σ' j o :=
  ⟨h.other, fun j' hj' => finished_next hnext (h.earlier j' hj'), (read_next hnext hj).trans h.read⟩

/-- **A read keeps the invariant.** The file is whole, since nobody is in the middle of storing it. -/
theorem Inv.read {σ : State ι} {i : ι} {k : ℕ} {label : Text} (h : Inv P σ) (hsep : Separately σ i)
    (hpc : (σ.procs i).pc = .reading k) (hlabel : check_io.labels[k]? = some label) {pc : Pc} {read : List Text}
    (hnew : pc = if k + 1 < check_io.labels.length then .reading (k + 1) else .storing 0)
    (hread : read = (σ.procs i).read ++ [lastValue (σ.files P.file) label])
    (hnext : next P σ i = some (σ.setProc i ⟨pc, read⟩)) : Inv P (σ.setProc i ⟨pc, read⟩) := by
  rcases h.phase with ⟨o, hidle⟩ | ⟨i', m, hstoring⟩
  · have htake : read = (stored check_io (P.source o)).take (k + 1) := by
      rw [hread, hidle.reads i k hpc, List.take_add_one, hidle.lastValue_eq hlabel, Option.toList_some]
    have hidle' := hidle.read hpc hnew htake
    refine ⟨Or.inl ⟨o, hidle'⟩, fun j hj => ?_⟩
    rcases eq_or_ne j i with rfl | hji
    · rw [setProc_same] at hj
      refine ⟨o, fun ho => ?_, hidle'.complete, ?_⟩
      · exact absurd rfl (ne_of_pc hpc rfl (hidle.complete j ho))
      · -- the last value is read
        have hlast : ¬ k + 1 < check_io.labels.length := by
          intro hlt
          rw [hnew, if_pos hlt] at hj
          cases hj
        rw [setProc_same]
        show read = _
        rw [htake, List.take_of_length_le (by rw [length_stored]; exact Nat.le_of_not_lt hlast)]
    · rw [setProc_other hji] at hj
      obtain ⟨o', ho'⟩ := h.readers j hj
      exact ⟨o', ho'.next hnext hj⟩
  · have hopens := hstoring.not_opens hsep
    rw [hpc] at hopens
    cases hopens

/-- **A store step keeps the invariant.** It truncates a whole file, or goes on with the lines of its probe. -/
theorem Inv.store {σ : State ι} {i : ι} {k : ℕ} {line : Text} (h : Inv P σ) (hsep : Separately σ i)
    (hpc : (σ.procs i).pc = .storing k) (hline : (linesOf (P.probe i))[k]? = some line) {files : Files}
    (hfiles : files = if k = 0 then truncate σ.files P.file line else append σ.files P.file line)
    (hnext : next P σ i = some (σ.setStored i k files)) : Inv P (σ.setStored i k files) := by
  have hreaders : ∀ j, ((σ.setStored i k files).procs j).pc.hasRead = true →
      ∃ o, ReadFrom P (σ.setStored i k files) j o := by
    intro j hj
    have hj' : (σ.procs j).pc.hasRead = true := by
      by_cases hji : j = i
      · rw [hji, hpc]; rfl
      · rwa [setStored_other hji] at hj
    obtain ⟨o, ho⟩ := h.readers j hj'
    exact ⟨o, ho.next hnext hj'⟩
  refine ⟨?_, hreaders⟩
  rcases h.phase with ⟨o, hidle⟩ | ⟨i', m, hstoring⟩
  · obtain rfl : k = 0 := by
      by_contra hk
      have hmid := midStore_of_line hline hk
      rw [← hpc, hidle.quiet i] at hmid
      cases hmid
    rw [if_pos rfl] at hfiles
    exact Or.inr ⟨i, 1, hfiles ▸ hidle.first_line (hsep.2 hpc) hline⟩
  · obtain rfl : i = i' := by
      by_contra hne
      have hopens := hstoring.not_opens hsep
      rw [hpc] at hopens
      have hmid := midStore_of_line hline (of_decide_eq_false hopens)
      rw [← hpc, hstoring.others i hne] at hmid
      cases hmid
    obtain rfl : k = m := Pc.storing.inj (hpc.symm.trans hstoring.pc)
    rw [if_neg (Nat.pos_iff_ne_zero.mp hstoring.part.1)] at hfiles
    rcases hstoring.later_line hline with hnew | hnew
    · exact Or.inr ⟨i, k + 1, hfiles ▸ hnew⟩
    · exact Or.inl ⟨some i, hfiles ▸ hnew⟩

/-- **A step keeps the invariant.** -/
theorem Inv.step {σ σ' : State ι} {i : ι} (h : Inv P σ) (hsep : Separately σ i) (hnext : next P σ i = some σ') :
    Inv P σ' := by
  rcases next_cases hnext with ⟨k, label, hpc, hlabel, rfl⟩ | ⟨k, line, hpc, hline, rfl⟩
  · exact h.read hsep hpc hlabel rfl rfl hnext
  · exact h.store hsep hpc hline rfl hnext

/-- **A run keeps the invariant**, if every step of it meets the condition. By the invariant rule for transition
    systems, from `Inv.step`; at the start the file is that of one of the probes, and nobody has read. -/
theorem inv_run {order : List ι} {σ : State ι} (hsep : Along (next P) Separately P.start order)
    (hrun : run (next P) P.start order = some σ) : Inv P σ :=
  run_invariant (fun _ _ _ h hok hnext => Inv.step h hok hnext) inv_start hsep hrun

/-! ## Any number of probes

The invariant at the end of a run says what the probes have seen. When all have come to their end, nobody is
storing, and the file is that of one of them. -/

omit [DecidableEq ι] in
/-- When all have come to their end, the file is that of one of them. -/
theorem Inv.file [Nonempty ι] {σ : State ι} (h : Inv P σ) (hfin : ∀ i, (σ.procs i).pc.finished = true) :
    ∃ i, σ.files P.file = endLines (linesOf (P.probe i)) := by
  rcases h.phase with ⟨o | i, hidle⟩ | ⟨i, k, hstoring⟩
  · obtain ⟨i⟩ := ‹Nonempty ι›
    have hnot := hidle.untouched rfl i
    rw [hfin i] at hnot
    cases hnot
  · exact ⟨i, hidle.content⟩
  · have hend := hfin i
    rw [hstoring.pc] at hend
    exact absurd (of_decide_eq_true hend) (Nat.not_le_of_lt hstoring.part.2)

/-- **Runs whose reads and stores do not overlap see consistent values**, in any order of their steps. Each probe that
    has read all values has those of one other run, and when all are done the file is that of one of them; both are
    parts of the invariant. -/
theorem consistent_of_separately [Nonempty ι] (P : Probes ι) {order : List ι} {σ : State ι}
    (hsep : Along (next P) Separately P.start order) (hrun : run (next P) P.start order = some σ) :
    Consistent P σ := by
  have hinv := inv_run hsep hrun
  exact ⟨hinv.readers, hinv.file⟩

end Probes

/-! ## Two probes

Two runs in the same minute, in three orders of their steps: in turn but apart, with a read in the middle of a
store, and with a store in the middle of another. -/

/-- A run for the volume `root` of the first group. -/
def rootRun (seconds sectors : Text) (hseconds : Numeral seconds) (hsectors : Numeral sectors) : Invocation where
  path := vg0Root.path
  MAJORNU := "253".toList
  MINORNU := "0".toList
  CURRENTPROBESECONDS := seconds
  diskstats := [dmLine "0".toList "dm-0".toList sectors ⟨by decide, hsectors⟩]
  seconds := hseconds
  found := ⟨_, List.mem_singleton_self _, rfl, rfl⟩

/-- Two runs in the same minute, after one a minute before. -/
def rootProbes : Probes Bool where
  device := vg0Root.path
  first := rootRun "60".toList "1".toList (by decide) (by decide)
  probe i := bif i then rootRun "121".toList "3".toList (by decide) (by decide)
    else rootRun "120".toList "2".toList (by decide) (by decide)
  first_path := rfl
  probe_path i := by cases i <;> rfl

instance (σ : State Bool) (i : Bool) : Decidable (Separately σ i) :=
  inferInstanceAs (Decidable (_ ∧ _))

/-- Both read in turns before one of them stores, and then the other. -/
def readsInTurn : List Bool :=
  [false, true, true, false, false, true, true, false] ++ List.replicate 4 true ++ List.replicate 4 false

/-- The second reads after the first has stored one line. -/
def readMidway : List Bool := List.replicate 5 false ++ List.replicate 4 true

/-- The second truncates the file after the first has stored one line. -/
def storeMidway : List Bool :=
  List.replicate 4 false ++ List.replicate 4 true ++ [false] ++ List.replicate 4 true ++ List.replicate 3 false

/-- Two probes that read in turn, line by line, and store one after the other. -/
theorem consistent_readsInTurn :
    ∃ σ, run (next rootProbes) rootProbes.start readsInTurn = some σ ∧ Consistent rootProbes σ := by
  have hsome : (run (next rootProbes) rootProbes.start readsInTurn).isSome = true := by decide +kernel
  have hsep : Along (next rootProbes) Separately rootProbes.start readsInTurn := by decide +kernel
  obtain ⟨σ, hrun⟩ := Option.isSome_iff_exists.mp hsome
  exact ⟨σ, hrun, consistent_of_separately rootProbes hsep hrun⟩

/-- The seconds of one run, and no counters. -/
theorem read_readMidway : (run (next rootProbes) rootProbes.start readMidway).map (fun σ => (σ.procs true).read)
    = some ["120".toList, [], [], []] := by
  decide +kernel

/-- The line that the first run had stored is gone, and its others follow those of the second. -/
theorem file_storeMidway : (run (next rootProbes) rootProbes.start storeMidway).map (fun σ => σ.files rootProbes.file)
    = some (endLines (linesOf (rootProbes.probe true) ++ (linesOf (rootProbes.probe false)).drop 1)) := by
  decide +kernel

/-- **Runs in the same minute tear the file**: in one order of their steps a probe has read values of two runs, in
    another the file that is left is of neither. -/
theorem not_consistent_midway :
    (∃ order σ, run (next rootProbes) rootProbes.start order = some σ ∧
      ¬ ∀ i, (σ.procs i).pc.hasRead = true → ∃ o, ReadFrom rootProbes σ i o) ∧
    ∃ order σ, run (next rootProbes) rootProbes.start order = some σ ∧ (∀ i, (σ.procs i).pc.finished = true) ∧
      ¬ ∃ i, σ.files rootProbes.file = endLines (linesOf (rootProbes.probe i)) := by
  constructor
  · obtain ⟨σ, hrun, hread⟩ := Option.map_eq_some_iff.mp read_readMidway
    have hpc : (run (next rootProbes) rootProbes.start readMidway).map (fun σ => (σ.procs true).pc.hasRead)
        = some true := by decide +kernel
    rw [hrun] at hpc
    refine ⟨readMidway, σ, hrun, fun hall => ?_⟩
    obtain ⟨o, ho⟩ := hall true (Option.some.inj hpc)
    have hne : ∀ o, ["120".toList, [], [], []] ≠ stored check_io (rootProbes.source o) := by decide +kernel
    exact hne o (hread.symm.trans ho.read)
  · obtain ⟨σ, hrun, hfile⟩ := Option.map_eq_some_iff.mp file_storeMidway
    have hfin : (run (next rootProbes) rootProbes.start storeMidway).map
        (fun σ => (σ.procs false).pc.finished && (σ.procs true).pc.finished) = some true := by decide +kernel
    rw [hrun] at hfin
    have hboth := Bool.and_eq_true_iff.mp (Option.some.inj hfin)
    refine ⟨storeMidway, σ, hrun, fun i => ?_, fun ⟨i, hi⟩ => ?_⟩
    · cases i
      · exact hboth.1
      · exact hboth.2
    · have hne : ∀ i, endLines (linesOf (rootProbes.probe true) ++ (linesOf (rootProbes.probe false)).drop 1)
          ≠ endLines (linesOf (rootProbes.probe i)) := by decide +kernel
      exact hne i (hfile.symm.trans hi)

end Nrpe.CheckIo
end StgEnvironment
