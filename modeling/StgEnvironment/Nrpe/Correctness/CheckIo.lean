import StgEnvironment.Nrpe.CheckIo

/-!
# `Nrpe.Correctness.CheckIo`: runs of the plugins, one after the other

A stored file is read back value for value (`readings_stored`), since no label occurs on the line of another. So a run
reads what the last run with the same file stored, and the file is named after the last component of the path. Two
devices are kept apart exactly when no other path of the runs ends in the same component (`separate_iff`).

## Contents
- **Values and labels**: what is stored on a line is found again by its label (`Script.Readable`).
- **One run**: what it measures, what it stores, what the next one reads.
- **Runs of any length**: a run reads the values of the last run for its device (`Separate`), so that the differences
  that are reported add up to the difference between the first run and the last (`Telescopes`). Both by induction from
  the end of the sequence, for any number of devices.
-/

namespace StgEnvironment
namespace Nrpe.CheckIo

/-- With distinct keys, one entry has a given key. -/
theorem filter_fst_eq {α β : Type*} [DecidableEq α] {l : List (α × β)} (hnd : (l.map Prod.fst).Nodup) {e : α × β}
    (he : e ∈ l) : l.filter (fun e' => decide (e'.1 = e.1)) = [e] := by
  induction l with
  | nil => cases he
  | cons e' l ih =>
      obtain ⟨hnotin, hnd'⟩ := List.nodup_cons.mp hnd
      rcases List.mem_cons.mp he with rfl | he
      · have hrest : l.filter (fun e' => decide (e'.1 = e.1)) = [] := by
          refine List.filter_eq_nil_iff.mpr fun e' he' heq => hnotin ?_
          exact List.mem_map.mpr ⟨e', he', of_decide_eq_true heq⟩
        rw [List.filter_cons_of_pos (by simp), hrest]
      · have hne : e'.1 ≠ e.1 := fun heq => hnotin (heq ▸ List.mem_map_of_mem he)
        rw [List.filter_cons_of_neg (by simpa using hne), ih hnd' he]

/-! ## Numerals

Clocks and counters are texts of digits. They pass through `echo`, backquotes and word splitting as they are. -/

/-- A class of characters without the blanks. -/
theorem isBlank_eq_false {p : Char → Bool} (hp : [' ', '\t', '\n'].all (fun c => !p c) = true) {c : Char}
    (hc : p c = true) : isBlank c = false := by
  by_contra hblank
  have hb : isBlank c = true := by simpa using hblank
  have hcases : c ∈ [' ', '\t', '\n'] := by simpa [isBlank, or_assoc] using hb
  have hnot := List.all_eq_true.mp hp c hcases
  simp [hc] at hnot

theorem Numeral.isWord {t : Text} (h : Numeral t) : IsWord t :=
  ⟨h.1, fun c hc => isBlank_eq_false (by decide) (h.2 c hc)⟩

theorem echo_word {w : Word} (h : IsWord w) : echo w = w := by
  rw [echo, words_word h]
  simp [unwords]

/-- Backquotes drop the last newline, and keep what is in front of it. -/
theorem backquoted_concat (lines : List Text) {l : Text} (hne : l ≠ []) (hnl : '\n' ∉ l) :
    backquoted (lines ++ [l]) = endLines lines ++ l := by
  have hend : endLines (lines ++ [l]) = endLines lines ++ l ++ ['\n'] := by simp [endLines]
  rw [backquoted, hend, List.rdropWhile_concat_pos _ _ _ (by decide), List.rdropWhile_eq_self_iff]
  intro hall hlast
  rw [List.getLast_append_of_ne_nil _ hne] at hlast
  exact hnl (beq_iff_eq.mp hlast ▸ List.getLast_mem hne)

/-- A word on a line of its own comes back from a command substitution. -/
theorem backquoted_word {w : Word} (h : IsWord w) : backquoted [w] = w := by
  have hnl : '\n' ∉ w := fun hmem => absurd (h.2 '\n' hmem) (by decide)
  have hconcat := backquoted_concat [] h.1 hnl
  rwa [List.nil_append, endLines_nil, List.nil_append] at hconcat

theorem words_backquoted (lines : List Text) : words (backquoted lines) = lines.flatMap words := by
  have hnl : ∀ c : Char, (c == '\n') = true → isBlank c = true := by
    intro c hc
    rw [beq_iff_eq.mp hc]; rfl
  rw [backquoted, words, wordsBy_rdropWhile hnl]
  exact words_endLines lines

/-! ## The lines that pass `grep`

The pattern has the major number, and how the minor number begins. It is a prefix of a printed line for the device
itself, and for every device of the same kind whose minor number begins like its own. -/

/-- The minor number of the line begins like that of the device. -/
def Invocation.Selected (x : Invocation) (l : DiskLine) : Prop := l.major = x.MAJORNU ∧ x.MINORNU <+: l.minor

instance (x : Invocation) (l : DiskLine) : Decidable (x.Selected l) := inferInstanceAs (Decidable (_ ∧ _))

/-- The first line that passes `grep`. -/
def Invocation.firstSelected (x : Invocation) : Option DiskLine := x.diskstats.find? fun l => decide (x.Selected l)

theorem Invocation.exists_firstSelected (x : Invocation) : ∃ l, x.firstSelected = some l := by
  obtain ⟨l, hl, hmajor, hminor⟩ := x.found
  refine Option.isSome_iff_exists.mp (List.find?_isSome.mpr ⟨l, hl, ?_⟩)
  exact decide_eq_true ⟨hmajor, hminor ▸ List.prefix_refl _⟩

/-- The counters of a line, under their names. -/
def Script.values (s : Script) (l : DiskLine) : List (Text × Text) :=
  s.counters.map fun c => (c.1, (l.fields[c.2 - 1]?).getD [])

/-! ## What a plugin measures

The lines that pass are joined by word splitting, and `awk` takes its fields from the beginning of the result. So
only the first of them is measured. -/

/-- The labels can be told apart, and the counters are numbers of a line of `/proc/diskstats`. -/
structure Script.Readable (s : Script) : Prop where
  nodup : s.labels.Nodup
  letters : ∀ l ∈ s.labels, l ≠ [] ∧ l.all Char.isUpper = true
  apart : ∀ l ∈ s.labels, ∀ l' ∈ s.labels, Occurs l l' → l = l'
  counters : ∀ c ∈ s.counters, 4 ≤ c.2 ∧ c.2 ≤ 14

theorem Script.Readable.label {s : Script} (hs : s.Readable) {l : Text} (hl : l ∈ s.labels) :
    IsWord l ∧ ∀ c ∈ l, c.isUpper = true := by
  obtain ⟨hne, hall⟩ := hs.letters l hl
  have hupper := List.all_eq_true.mp hall
  exact ⟨⟨hne, fun c hc => isBlank_eq_false (by decide) (hupper c hc)⟩, hupper⟩

/-- No label of `check_io.sh` occurs in another or in a value. -/
theorem readable_check_io : check_io.Readable :=
  ⟨by decide, by decide, by decide, by decide⟩

theorem readable_check_iops : check_iops.Readable :=
  ⟨by decide, by decide, by decide, by decide⟩

section Measured
variable {s : Script} (hs : s.Readable)

/-- A run measures a value for each label, in their order. -/
theorem map_fst_measured (s : Script) (x : Invocation) : (measured s x).map Prod.fst = s.labels := by
  have hzip : s.counters.zipIdx.map (fun c => c.1.1) = s.counters.map Prod.fst := by
    rw [← List.zipIdx_map_fst 0 s.counters, List.map_map]
    simp
  simp [measured, Script.labels, Function.comp_def, hzip]

include hs

theorem numeral_field (l : DiskLine) {c : Text × ℕ} (hc : c ∈ s.counters) :
    Numeral ((l.fields[c.2 - 1]?).getD []) := by
  obtain ⟨hlow, hhigh⟩ := hs.counters c hc
  have hcomplete := l.complete
  have hlt : c.2 - 4 < l.stats.length := by omega
  have hfield : l.fields[c.2 - 1]? = some l.stats[c.2 - 4] := by
    have hidx : c.2 - 1 = (c.2 - 4) + 3 := by omega
    rw [hidx, DiskLine.fields, List.getElem?_cons_succ, List.getElem?_cons_succ, List.getElem?_cons_succ,
      List.getElem?_eq_getElem hlt]
  rw [hfield]
  exact l.numbers.2.2 _ (List.getElem_mem hlt)

theorem words_diskFields (l : DiskLine) : words (diskFields s l) =
    l.major :: l.minor :: s.counters.map fun c => (l.fields[c.2 - 1]?).getD [] := by
  refine words_unwords fun w hw => ?_
  rcases List.mem_cons.mp hw with rfl | hw
  · exact l.numbers.1.isWord
  · rcases List.mem_cons.mp hw with rfl | hw
    · exact l.numbers.2.1.isWord
    · obtain ⟨c, hc, rfl⟩ := List.mem_map.mp hw
      exact (numeral_field hs l hc).isWord

omit hs in
/-- What `grep` looks for, on the printed fields of a line. -/
theorem isPrefixOf_diskFields (x : Invocation) (l : DiskLine) :
    (x.MAJORNU ++ ' ' :: x.MINORNU).isPrefixOf (diskFields s l) = decide (x.Selected l) := by
  have hblank : ∀ {t : Text}, Numeral t → ' ' ∉ t := fun h hmem => absurd (h.2 ' ' hmem) (by decide)
  obtain ⟨own, -, hmajor, hminor⟩ := x.found
  have hM : ' ' ∉ x.MAJORNU := hmajor ▸ hblank own.numbers.1
  have hm : ' ' ∉ x.MINORNU := hminor ▸ hblank own.numbers.2.1
  rw [Bool.eq_iff_iff, List.isPrefixOf_iff_prefix, decide_eq_true_iff, Invocation.Selected, eq_comm (a := l.major),
    diskFields, unwords, List.intercalate_cons_cons, List.append_assoc, List.singleton_append,
    append_cons_prefix_iff hM (hblank l.numbers.1), and_congr_right_iff]
  intro _
  cases s.counters with
  | nil => rw [List.map_nil, List.intercalate_singleton]
  | cons c cs =>
      rw [List.map_cons, List.intercalate_cons_cons, List.append_assoc, List.singleton_append,
        prefix_append_cons_iff hm]

omit hs in
/-- The words that `awk` gets are those of the first line that passes `grep`, and then those of the others. -/
theorem words_DISKDATA {x : Invocation} {l : DiskLine} (hl : x.firstSelected = some l) :
    ∃ rest, words (DISKDATA s x) = words (diskFields s l) ++ rest := by
  have hlines : (x.diskstats.map (diskFields s)).filter
      (fun line => (x.MAJORNU ++ ' ' :: x.MINORNU).isPrefixOf line) =
        (x.diskstats.filter fun r => decide (x.Selected r)).map (diskFields s) := by
    rw [List.filter_map]
    exact congrArg _ (List.filter_congr fun r _ => isPrefixOf_diskFields x r)
  obtain ⟨rest, hrest⟩ := List.head?_eq_some_iff.mp (List.head?_filter.trans hl)
  refine ⟨(rest.map (diskFields s)).flatMap words, ?_⟩
  rw [DISKDATA, words_backquoted, hlines, hrest, List.map_cons, List.flatMap_cons]

/-- **The counters of a run are those of the first line that passes `grep`.** All fields of the selected lines are
    joined to one line, of which the first fields are read. -/
theorem measured_eq {x : Invocation} {l : DiskLine} (hl : x.firstSelected = some l) :
    measured s x = ("SECONDS".toList, x.CURRENTPROBESECONDS) :: s.values l := by
  obtain ⟨rest, hwords⟩ := words_DISKDATA (s := s) hl
  have hall : words (echo (DISKDATA s x)) = words (DISKDATA s x) :=
    words_unwords fun w hw => isWord_of_mem_words hw
  have hvalues : s.values l = s.counters.zipIdx.map fun c => (c.1.1, (l.fields[c.1.2 - 1]?).getD []) := by
    rw [Script.values]
    conv_lhs => rw [← List.zipIdx_map_fst 0 s.counters, List.map_map]
    rfl
  rw [measured, hvalues, List.cons_inj_right]
  refine List.map_congr_left ?_
  rintro ⟨c, k⟩ hck
  obtain ⟨hk, hck⟩ := List.mem_zipIdx' hck
  have hfield : (words (echo (DISKDATA s x)))[k + 3 - 1]? = some ((l.fields[c.2 - 1]?).getD []) := by
    have hidx : k + 3 - 1 = k + 2 := by omega
    rw [hall, hwords, words_diskFields hs, hidx, List.cons_append, List.cons_append, List.getElem?_cons_succ,
      List.getElem?_cons_succ, List.getElem?_append_left (by simpa using hk), List.getElem?_map,
      List.getElem?_eq_getElem hk, Option.map_some, ← hck]
  rw [awk, hfield, Option.getD_some]

/-- **Every value that is measured is a number.** -/
theorem numeral_measured (x : Invocation) {v : Text × Text} (hv : v ∈ measured s x) : Numeral v.2 := by
  obtain ⟨l, hl⟩ := x.exists_firstSelected
  rw [measured_eq hs hl] at hv
  rcases List.mem_cons.mp hv with rfl | hv
  · exact x.seconds
  · obtain ⟨c, hc, rfl⟩ := List.mem_map.mp hv
    exact numeral_field hs l hc

end Measured

/-! ## Storing and reading back

The values are stored line by line with their labels in front, and are looked up by the labels. This finds each of
them, since no label is in a value or in another label. -/

/-- A word that no letter of a label occurs in. -/
def Value (t : Text) : Prop := IsWord t ∧ ∀ c ∈ t, c.isUpper = false

/-- Digits are no capitals, of which the labels consist. -/
theorem isUpper_of_isDigit {c : Char} (h : c.isDigit = true) : c.isUpper = false := by
  by_contra hupper
  have hcap : c.isUpper = true := by simpa using hupper
  simp only [Char.isDigit, Char.isUpper, Bool.and_eq_true, decide_eq_true_eq, ge_iff_le] at h hcap
  exact absurd (UInt32.le_trans hcap.1 h.2) (by decide)

theorem Numeral.value {t : Text} (h : Numeral t) : Value t := ⟨h.isWord, fun c hc => isUpper_of_isDigit (h.2 c hc)⟩

theorem storeLine_eq {v : Text × Text} (h : Value v.2) : storeLine v = v.1 ++ ' ' :: v.2 := by
  rw [storeLine, echo_word h.1]

/-- What a run writes to its file, and to no other: the first line truncates it, the others are appended. -/
theorem store_eq (s : Script) (files : Files) (x : Invocation) :
    store s files x = Function.update files (fileName s x.path) (endLines ((measured s x).map storeLine)) := by
  -- appending to a file that holds some text
  have happend : ∀ (lines : List Text) (files : Files) (file : Text),
      lines.foldl (fun files line => append files file line) files
        = Function.update files file (files file ++ endLines lines) := by
    intro lines
    induction lines with
    | nil => intro files file; simp
    | cons line lines ih =>
        intro files file
        rw [List.foldl_cons, ih, append, Function.update_self, Function.update_idem, endLines_cons]
        simp
  rw [store, measured, List.map_cons, storeLines, happend, truncate, Function.update_self, Function.update_idem,
    endLines_cons]
  simp

section Readings
variable {s : Script} (hs : s.Readable)
include hs

theorem occurs_storeLine {l : Text} (hl : l ∈ s.labels) {v : Text × Text} (hv : v.1 ∈ s.labels)
    (hval : Value v.2) : Occurs l (storeLine v) ↔ l = v.1 := by
  rw [storeLine_eq hval]
  obtain ⟨hword, hupper⟩ := hs.label hl
  constructor
  · intro h
    have hblank : ' ' ∉ l := fun hmem => absurd (hupper ' ' hmem) (by decide)
    rcases occurs_append_cons hblank h with h | h
    · exact hs.apart l hl v.1 hv h
    · -- a value has no capital letter
      obtain ⟨c, l', rfl⟩ := List.exists_cons_of_ne_nil hword.1
      have hcap := hupper c (List.mem_cons_self ..)
      rw [hval.2 c (h.subset (List.mem_cons_self ..))] at hcap
      cases hcap
  · rintro rfl
    exact (List.prefix_append v.1 _).isInfix

/-- **A stored value is read back under its label.** One line has the label, since the labels are different, and no
    label is found in a value or in another label. -/
theorem lastValue_stored {vs : List (Text × Text)} (hfst : vs.map Prod.fst = s.labels)
    (hval : ∀ v ∈ vs, Value v.2) {v : Text × Text} (hv : v ∈ vs) :
    lastValue (endLines (vs.map storeLine)) v.1 = v.2 := by
  have hlabel : ∀ w ∈ vs, w.1 ∈ s.labels := fun w hw => hfst ▸ List.mem_map_of_mem hw
  have hnl : ∀ line ∈ vs.map storeLine, '\n' ∉ line := by
    intro line hline hmem
    obtain ⟨w, hw, rfl⟩ := List.mem_map.mp hline
    rw [storeLine_eq (hval w hw)] at hmem
    rcases List.mem_append.mp hmem with hm | hm
    · exact absurd ((hs.label (hlabel w hw)).2 '\n' hm) (by decide)
    · rcases List.mem_cons.mp hm with hm | hm
      · exact absurd hm (by decide)
      · exact absurd ((hval w hw).1.2 '\n' hm) (by decide)
  -- one line has the label
  have hone : (vs.map storeLine).filter (fun line => decide (Occurs v.1 line)) = [storeLine v] := by
    have hiff : ∀ w ∈ vs, ((fun line => decide (Occurs v.1 line)) ∘ storeLine) w = decide (w.1 = v.1) := by
      intro w hw
      rw [Function.comp_apply, decide_eq_decide, occurs_storeLine hs (hlabel v hv) (hlabel w hw) (hval w hw),
        eq_comm]
    rw [List.filter_map, List.filter_congr hiff, filter_fst_eq (hfst ▸ hs.nodup) hv]
    rfl
  have hempty : ¬ Occurs v.1 [] := by
    intro h
    exact (hs.label (hlabel v hv)).1.1 (List.infix_nil.mp h)
  have hawk : awk 2 (storeLine v) = v.2 := by
    rw [storeLine_eq (hval v hv), awk, words, wordsBy_word_cons (hs.label (hlabel v hv)).1 (by decide),
      wordsBy_word (hval v hv).1]
    rfl
  rw [lastValue, splitOn_endLines hnl, List.filter_append, hone, List.filter_cons_of_neg (by simpa using hempty)]
  simp [hawk, backquoted_word (hval v hv).1]

/-- What a run reads of a file that holds these values. -/
theorem readings_content {vs : List (Text × Text)} (hfst : vs.map Prod.fst = s.labels)
    (hval : ∀ v ∈ vs, Value v.2) {files : Files} {p : DevicePath}
    (hfile : files (fileName s p) = endLines (vs.map storeLine)) : readings s files p = vs.map Prod.snd := by
  rw [readings, hfile, ← hfst, List.map_map]
  exact List.map_congr_left fun v hv => lastValue_stored hs hfst hval hv

/-- Without a file there is nothing to read. -/
theorem readings_absent {files : Files} {p : DevicePath} (hfile : files (fileName s p) = []) :
    readings s files p = s.labels.map fun _ => [] := by
  rw [readings, hfile]
  refine List.map_congr_left fun l hl => ?_
  have hempty : ¬ Occurs l [] := fun h => (hs.letters l hl).1 (List.infix_nil.mp h)
  simp [lastValue, hempty, backquoted]

/-- **A run reads what was stored in its file.** -/
theorem readings_stored (y : Invocation) (files : Files) (p : DevicePath)
    (hfile : files (fileName s p) = endLines ((measured s y).map storeLine)) :
    readings s files p = (measured s y).map Prod.snd :=
  readings_content hs (map_fst_measured s y) (fun _ hw => (numeral_measured hs y hw).value) hfile

end Readings

/-! ## Runs

The state between runs are the files, and a run changes the one file that its path leads to. What a run reads is
what the last run with this file has stored. -/

/-- The files after runs of a plugin, from none. -/
def stateAfter (s : Script) (run : List Invocation) : Files := run.foldl (store s) fun _ => []

/-- The values that a run stores. -/
def stored (s : Script) (x : Invocation) : List Text := (measured s x).map Prod.snd

/-- The values of the last of these runs; empty ones if there is none. -/
def lastStored (s : Script) (runs : List Invocation) : List Text :=
  match runs.getLast? with
  | some y => stored s y
  | none => s.labels.map fun _ => []

/-- The runs for a device path. -/
def runsFor (p : DevicePath) (runs : List Invocation) : List Invocation := runs.filter (·.path = p)

/-- **Each run reads what the last run for its own path stored.** -/
def Separate (s : Script) (run : List Invocation) : Prop :=
  ∀ before x, before ++ [x] <+: run →
    readings s (stateAfter s before) x.path = lastStored s (runsFor x.path before)

/-- The differences that the runs report, each with its path. -/
def reports (s : Script) : Files → List Invocation → List (DevicePath × List (Option ℤ))
  | _, [] => []
  | files, x :: run =>
      (x.path, List.zipWith difference (stored s x) (readings s files x.path)) :: reports s (store s files x) run

/-- The differences reported for a path under the `k`-th label. -/
def differences (s : Script) (p : DevicePath) (k : ℕ) (run : List Invocation) : List ℤ :=
  ((reports s (fun _ => []) run).filter (·.1 = p)).filterMap fun r => r.2[k]?.join

/-- The `k`-th value that a run stores, as a number. -/
def counter (s : Script) (k : ℕ) (x : Invocation) : ℤ := number ((stored s x)[k]?.getD [])

/-- **The differences for a path add up to its last counter minus its first.** -/
def Telescopes (s : Script) (run : List Invocation) : Prop :=
  ∀ p k first last, k < s.labels.length → (runsFor p run).head? = some first →
    (runsFor p run).getLast? = some last → (differences s p k run).sum = counter s k last - counter s k first

/-- No two paths of the runs end in the same component. -/
def Distinct (run : List Invocation) : Prop :=
  ∀ x ∈ run, ∀ y ∈ run, basename x.path.path = basename y.path.path → x.path = y.path

/-- The runs that use the file of a path. -/
def sharing (p : DevicePath) (runs : List Invocation) : List Invocation :=
  runs.filter fun x => basename x.path.path = basename p.path

theorem stateAfter_concat (s : Script) (run : List Invocation) (x : Invocation) :
    stateAfter s (run ++ [x]) = store s (stateAfter s run) x := by
  simp [stateAfter]

/-- The file of a path is that of the last run that used it, which may be a run for another path with the same last
    component. -/
theorem stateAfter_fileName (s : Script) (run : List Invocation) (p : DevicePath) :
    stateAfter s run (fileName s p) = match (sharing p run).getLast? with
      | some y => endLines ((measured s y).map storeLine)
      | none => [] := by
  induction run using List.reverseRecOn with
  | nil => rfl
  | append_singleton run x ih =>
      rw [stateAfter_concat, store_eq]
      by_cases hb : basename x.path.path = basename p.path
      · have hfile : fileName s p = fileName s x.path := by rw [fileName, fileName, hb]
        have hlast : (sharing p (run ++ [x])).getLast? = some x := by simp [sharing, hb]
        rw [hfile, Function.update_self, hlast]
      · have hfile : fileName s p ≠ fileName s x.path := fun heq => hb (List.append_cancel_left heq).symm
        have hlast : sharing p (run ++ [x]) = sharing p run := by simp [sharing, hb]
        rw [Function.update_of_ne hfile, ih, hlast]

section Readings
variable {s : Script} (hs : s.Readable)
include hs

/-- **A run reads the values of the last run that used its file.** -/
theorem readings_stateAfter (run : List Invocation) (p : DevicePath) :
    readings s (stateAfter s run) p = lastStored s (sharing p run) := by
  have hfile := stateAfter_fileName s run p
  rw [lastStored]
  cases hlast : (sharing p run).getLast? with
  | some y =>
      rw [hlast] at hfile
      exact readings_stored hs y _ p hfile
  | none =>
      rw [hlast] at hfile
      exact readings_absent hs hfile

end Readings

/-- What a run stores is not what one reads of a missing file. -/
theorem stored_ne_empty (x : Invocation) : stored s x ≠ s.labels.map fun _ => [] := by
  intro heq
  have hhead := congrArg List.head? heq
  have hseconds : x.CURRENTPROBESECONDS = [] := by simpa [stored, measured, Script.labels] using hhead
  exact x.seconds.1 hseconds

/-! ## Keeping devices apart

While the paths that have occurred end in different components, the runs with one file are the runs for one path.
The first run that shares a file with another path reads what is not its own. -/

/-- One run more: it has to read what the last run for its device stored. -/
theorem separate_concat {s : Script} {run : List Invocation} {x : Invocation} : Separate s (run ++ [x]) ↔
    Separate s run ∧ readings s (stateAfter s run) x.path = lastStored s (runsFor x.path run) := by
  constructor
  · intro h
    refine ⟨fun before y hpre => h before y (hpre.trans (List.prefix_append run [x])), ?_⟩
    exact h run x (List.prefix_refl _)
  · rintro ⟨hrun, hx⟩ before y hpre
    rcases List.prefix_concat_iff.mp hpre with heq | hpre
    · obtain ⟨rfl, hxy⟩ := List.append_inj' heq rfl
      obtain rfl := List.singleton_inj.mp hxy
      exact hx
    · exact hrun before y hpre

/-- While the paths are distinct, the runs with a file are those for a path. -/
theorem sharing_eq_runsFor {run : List Invocation} {p : DevicePath}
    (h : ∀ y ∈ run, basename y.path.path = basename p.path → y.path = p) : sharing p run = runsFor p run := by
  refine List.filter_congr fun y hy => ?_
  rw [decide_eq_decide]
  exact ⟨h y hy, fun heq => heq ▸ rfl⟩

/-- One run more: its path must not share its last component with another. -/
theorem distinct_concat {run : List Invocation} {x : Invocation} : Distinct (run ++ [x]) ↔
    Distinct run ∧ ∀ y ∈ run, basename y.path.path = basename x.path.path → y.path = x.path := by
  constructor
  · intro h
    exact ⟨fun y hy z hz => h y (List.mem_append_left _ hy) z (List.mem_append_left _ hz),
      fun y hy => h y (List.mem_append_left _ hy) x (List.mem_append_right _ (List.mem_singleton_self x))⟩
  · rintro ⟨hrun, hx⟩ y hy z hz heq
    rcases List.mem_append.mp hy with hy' | hy' <;> rcases List.mem_append.mp hz with hz' | hz'
    · exact hrun y hy' z hz' heq
    · rw [List.mem_singleton.mp hz'] at heq ⊢
      exact hx y hy' heq
    · rw [List.mem_singleton.mp hy'] at heq ⊢
      exact (hx z hz' heq.symm).symm
    · rw [List.mem_singleton.mp hy', List.mem_singleton.mp hz']

/-- **Runs are kept apart exactly when no two paths end in the same component.** By induction on the runs from the
    end: a run whose path is new should have read nothing. -/
theorem separate_iff_distinct {s : Script} (hs : s.Readable) (run : List Invocation) :
    Separate s run ↔ Distinct run := by
  induction run using List.reverseRecOn with
  | nil =>
      constructor
      · intro _ x hx
        cases hx
      · intro _ before x hpre
        exact absurd (List.prefix_nil.mp hpre) (by simp)
  | append_singleton run x ih =>
      rw [separate_concat, distinct_concat, ih, readings_stateAfter hs]
      refine and_congr_right fun hrun => ⟨fun hread y hy heq => ?_, fun hx => ?_⟩
      · -- the path of `x` is new, so it should have read nothing
        by_contra hne
        have hnew : runsFor x.path run = [] := by
          refine List.filter_eq_nil_iff.mpr fun z hz hzx => hne ?_
          have hpath : z.path = x.path := of_decide_eq_true hzx
          exact (hrun y hy z hz (heq.trans (hpath ▸ rfl))).trans hpath
        have hmem : y ∈ sharing x.path run := List.mem_filter.mpr ⟨hy, by simpa using heq⟩
        obtain ⟨z, hz⟩ := List.getLast?_isSome.mpr (List.ne_nil_of_mem hmem) |> Option.isSome_iff_exists.mp
        rw [hnew, lastStored, hz] at hread
        exact stored_ne_empty z hread
      · rw [sharing_eq_runsFor hx]

/-! ## Differences

A difference is that of what a run stores and what it reads. If it reads what the last run for its path has stored,
the differences for the path telescope. -/

theorem reports_append (s : Script) (run run' : List Invocation) : ∀ files : Files,
    reports s files (run ++ run') = reports s files run ++ reports s (run.foldl (store s) files) run' := by
  induction run with
  | nil => intro files; rfl
  | cons x run ih => intro files; rw [List.cons_append, reports, ih, reports, List.cons_append, List.foldl_cons]

/-- One more run adds its difference, if it is for the path. -/
theorem differences_concat (s : Script) (p : DevicePath) (k : ℕ) (run : List Invocation) (x : Invocation) :
    differences s p k (run ++ [x]) = differences s p k run ++
      if x.path = p then
        ((List.zipWith difference (stored s x) (readings s (stateAfter s run) x.path))[k]?.join).toList
      else [] := by
  rw [differences, reports_append, List.filter_append, List.filterMap_append, differences]
  congr 1
  show (List.filter _ [(x.path, List.zipWith difference (stored s x) (readings s (stateAfter s run) x.path))]).filterMap
    _ = _
  by_cases hp : x.path = p
  · rw [List.filter_cons_of_pos (by simpa using hp), if_pos hp, List.filter_nil]
    generalize List.zipWith difference (stored s x) (readings s (stateAfter s run) x.path) = ds
    cases hd : ds[k]?.join <;> simp [hd]
  · rw [List.filter_cons_of_neg (by simpa using hp), if_neg hp, List.filter_nil, List.filterMap_nil]

theorem differences_of_runsFor_eq_nil (s : Script) {p : DevicePath} (k : ℕ) {run : List Invocation}
    (h : runsFor p run = []) : differences s p k run = [] := by
  induction run using List.reverseRecOn with
  | nil => rfl
  | append_singleton run x ih =>
      rw [runsFor, List.filter_append, List.append_eq_nil_iff] at h
      have hx : ¬ x.path = p := by simpa using h.2
      rw [differences_concat, ih h.1, if_neg hx, List.append_nil]

theorem length_stored (s : Script) (x : Invocation) : (stored s x).length = s.labels.length := by
  rw [stored, List.length_map, ← map_fst_measured s x, List.length_map]

/-- There is no difference to empty values. -/
theorem zipWith_difference_empty (l : List Text) (labels : List Text) (k : ℕ) :
    (List.zipWith difference l (labels.map fun _ => []))[k]?.join = none := by
  rw [List.getElem?_zipWith, List.getElem?_map]
  cases l[k]? <;> cases labels[k]? <;> rfl

/-- The difference between what two runs stored. -/
theorem zipWith_difference_stored {s : Script} (hs : s.Readable) (x y : Invocation) {k : ℕ}
    (hk : k < s.labels.length) :
    (List.zipWith difference (stored s x) (stored s y))[k]?.join = some (counter s k x - counter s k y) := by
  have hx : k < (stored s x).length := (length_stored s x).symm ▸ hk
  have hy : k < (stored s y).length := (length_stored s y).symm ▸ hk
  have hnum : Numeral (stored s y)[k] := by
    obtain ⟨v, hv, heq⟩ := List.mem_map.mp (List.getElem_mem hy)
    exact heq ▸ numeral_measured hs y hv
  have hne : ¬ (stored s y)[k].isEmpty = true := by simpa using hnum.1
  rw [List.getElem?_zipWith, List.getElem?_eq_getElem hx, List.getElem?_eq_getElem hy, counter, counter,
    List.getElem?_eq_getElem hx, List.getElem?_eq_getElem hy]
  show difference _ _ = _
  rw [difference, if_neg hne]
  rfl

/-- **Differences telescope** when each run reads what the last run for its path stored. -/
theorem telescopes_of_separate {s : Script} (hs : s.Readable) {run : List Invocation} (h : Separate s run) :
    Telescopes s run := by
  induction run using List.reverseRecOn with
  | nil => intro p k first last _ hfirst; cases hfirst
  | append_singleton run x ih =>
      intro p k first last hk hfirst hlast
      obtain ⟨hrun, hread⟩ := separate_concat.mp h
      by_cases hp : x.path = p
      · have hfor : runsFor p (run ++ [x]) = runsFor p run ++ [x] := by simp [runsFor, hp]
        rw [hfor] at hfirst hlast
        obtain rfl : x = last := by simpa using hlast
        rw [differences_concat, if_pos hp, hread, hp]
        cases hprev : (runsFor p run).getLast? with
        | none =>
            -- the first run for the path reads nothing
            have hnil : runsFor p run = [] := List.getLast?_eq_none_iff.mp hprev
            rw [hnil] at hfirst
            obtain rfl : x = first := by simpa using hfirst
            rw [differences_of_runsFor_eq_nil s k hnil, lastStored, hprev]
            simp only [zipWith_difference_empty]
            simp
        | some y =>
            have hne : runsFor p run ≠ [] := fun hnil => by simp [hnil] at hprev
            rw [List.head?_append_of_ne_nil _ hne] at hfirst
            rw [lastStored, hprev, List.sum_append, ih hrun p k first y hk hfirst hprev]
            simp only [zipWith_difference_stored hs x y hk, Option.toList_some, List.sum_singleton]
            ring
      · have hfor : runsFor p (run ++ [x]) = runsFor p run := by simp [runsFor, hp]
        rw [hfor] at hfirst hlast
        rw [differences_concat, if_neg hp, List.append_nil]
        exact ih hrun p k first last hk hfirst hlast

/-! ## The two plugins

Both plugins are such scripts, with labels that can be told apart. -/

/-- For each of the two plugins: devices are kept apart, and differences add up, exactly when no two paths share their
    last component. -/
theorem separate_and_telescopes_iff {s : Script} (hs : s.Readable) (run : List Invocation) :
    (Separate s run ∧ Telescopes s run) ↔ Distinct run := by
  rw [← separate_iff_distinct hs run]
  exact ⟨And.left, fun h => ⟨h, telescopes_of_separate hs h⟩⟩

/-- **The plugins keep the measurements of different devices apart exactly when no two device paths of the runs end in
    the same component.** Then the differences for each path telescope. Both plugins are instances of one script whose
    labels can be read back (`readable_check_io`, `readable_check_iops`). -/
theorem check_io_separate_iff (run : List Invocation) :
    ((Separate check_io run ∧ Telescopes check_io run) ↔ Distinct run) ∧
    ((Separate check_iops run ∧ Telescopes check_iops run) ↔ Distinct run) :=
  ⟨separate_and_telescopes_iff readable_check_io run, separate_and_telescopes_iff readable_check_iops run⟩

/-! ## Two volume groups

Two volumes of the same name in two groups, whose state file is one. -/

/-- Line `253 n` of a table. -/
def dmLine (minor name sectors : Text) (h : Numeral minor ∧ Numeral sectors) : DiskLine where
  major := "253".toList
  minor := minor
  name := name
  stats := List.replicate 11 sectors
  numbers := ⟨by decide, h.1, fun n hn => (List.eq_of_mem_replicate hn) ▸ h.2⟩
  complete := by simp

/-- A run for the volume `root` of the first group, `dm-0`. -/
def vg0Root : Invocation where
  path := ⟨"/dev/vg0/root".toList, by decide, by decide, by decide⟩
  MAJORNU := "253".toList
  MINORNU := "0".toList
  CURRENTPROBESECONDS := "1600000000".toList
  diskstats := [dmLine "0".toList "dm-0".toList "111".toList (by decide)]
  seconds := by decide
  found := ⟨_, List.mem_singleton_self _, rfl, rfl⟩

/-- A run for the volume `root` of the second, `dm-1`. -/
def vg1Root : Invocation where
  path := ⟨"/dev/vg1/root".toList, by decide, by decide, by decide⟩
  MAJORNU := "253".toList
  MINORNU := "1".toList
  CURRENTPROBESECONDS := "1600000060".toList
  diskstats := [dmLine "1".toList "dm-1".toList "222".toList (by decide)]
  seconds := by decide
  found := ⟨_, List.mem_singleton_self _, rfl, rfl⟩

/-- **The second volume is compared with the first.** -/
theorem not_separate_vg : ¬ Separate check_io [vg0Root, vg1Root] := by
  intro h
  have hpath := (separate_iff_distinct readable_check_io _).mp h vg0Root (by simp) vg1Root (by simp) (by decide)
  exact absurd hpath (by decide)

end Nrpe.CheckIo
end StgEnvironment
