import StgEnvironment.Lib.Text

/-!
# `Shell.Read`: the builtin `read` of bash, without `-r`

`read` takes a line off its input. A backslash is dropped, and the character behind it is taken as it is; a newline
behind it joins the next line. Blanks at the ends of the line are dropped unless there is a backslash in front of them.
At the end of the input `read` fails, and `while read` ends, so that a last line without a newline is lost.

* `readLine_append`: reading goes on behind a text without a newline, in the state that the text leaves (`pending`).
* `reads_endLines`: the loop gets one value for each line, if no line ends in a backslash that is pending.
* `length_reads_lt`: if one does, the loop has fewer turns than there are lines.
-/

namespace StgEnvironment
namespace Shell

/-- A character, and whether there was a backslash in front of it. -/
abbrev Marked := Char × Bool

/-- The line up to the first newline, and the input behind that. The flag says that a backslash is pending. -/
def readLine : Bool → Text → List Marked × Option Text
  | _, [] => ([], none)
  | true, c :: t =>
      if c = '\n' then readLine false t else ((c, true) :: (readLine false t).1, (readLine false t).2)
  | false, c :: t =>
      if c = '\\' then readLine true t
      else if c = '\n' then ([], some t)
      else ((c, false) :: (readLine false t).1, (readLine false t).2)

/-- A blank that is dropped at the ends of a line. -/
def strips (m : Marked) : Bool := !m.2 && isBlank m.1

/-- The value that the variable gets. -/
def readValue (line : List Marked) : Text := ((line.dropWhile strips).rdropWhile strips).map Prod.fst

/-- `read name < file`. The variable is also set if the newline is missing. -/
def read (content : Text) : Text := readValue (readLine false content).1

/-- The values that the body of `while read` gets within `n` turns. -/
def readsFrom : ℕ → Text → List Text
  | 0, _ => []
  | n + 1, t =>
      match (readLine false t).2 with
      | some rest => readValue (readLine false t).1 :: readsFrom n rest
      | none => []

/-- The values that the body of `while read` gets. -/
def reads (content : Text) : List Text := readsFrom content.length content

/-! ## Text without a newline

A backslash takes the meaning from the character behind it, so reading has one bit of state: whether a backslash is
pending. A text without a newline takes this bit from its beginning to its end. -/

/-- The characters of the text, without its backslashes. -/
def marked : Bool → Text → List Marked
  | _, [] => []
  | true, c :: t => (c, true) :: marked false t
  | false, c :: t => if c = '\\' then marked true t else (c, false) :: marked false t

/-- The text without its backslashes. -/
def unescape (t : Text) : Text := (marked false t).map Prod.fst

/-- Whether a backslash is pending behind the text. -/
def pending : Bool → Text → Bool
  | b, [] => b
  | true, _ :: t => pending false t
  | false, c :: t => pending (c == '\\') t

/-- A text leaves a state, from which the next one goes on. -/
theorem pending_append (b : Bool) (u v : Text) : pending b (u ++ v) = pending (pending b u) v := by
  induction u generalizing b with
  | nil => rfl
  | cons c u ih => cases b <;> exact ih _

/-- Another character than a backslash leaves nothing pending. -/
theorem pending_append_cons {c : Char} (hc : c ≠ '\\') (b : Bool) (u v : Text) :
    pending b (u ++ c :: v) = pending false v := by
  rw [pending_append]
  cases pending b u with
  | true => rfl
  | false =>
      show pending (c == '\\') v = pending false v
      rw [beq_eq_false_iff_ne.mpr hc]

theorem marked_append (b : Bool) (u v : Text) : marked b (u ++ v) = marked b u ++ marked (pending b u) v := by
  induction u generalizing b with
  | nil => rfl
  | cons c u ih =>
      cases b with
      | true => simp [marked, pending, ih]
      | false =>
          by_cases hc : c = '\\'
          · simp [marked, pending, hc, ih]
          · have hnone : (c == '\\') = false := beq_eq_false_iff_ne.mpr hc
            simp [marked, pending, hc, hnone, ih]

theorem fst_mem_of_mem_marked {b : Bool} {t : Text} {m : Marked} (h : m ∈ marked b t) : m.1 ∈ t := by
  induction t generalizing b with
  | nil => cases b <;> exact absurd h List.not_mem_nil
  | cons c t ih =>
      cases b with
      | true =>
          rcases List.mem_cons.mp h with rfl | h
          · exact List.mem_cons_self ..
          · exact List.mem_cons_of_mem _ (ih h)
      | false =>
          rw [marked] at h
          split_ifs at h
          · exact List.mem_cons_of_mem _ (ih h)
          · rcases List.mem_cons.mp h with rfl | h
            · exact List.mem_cons_self ..
            · exact List.mem_cons_of_mem _ (ih h)

theorem mem_of_mem_unescape {t : Text} {c : Char} (h : c ∈ unescape t) : c ∈ t := by
  obtain ⟨m, hm, rfl⟩ := List.mem_map.mp h
  exact fst_mem_of_mem_marked hm

/-- Another character than a backslash is kept, with or without a backslash in front of it. -/
theorem marked_append_cons {c : Char} (hc : c ≠ '\\') (u v : Text) :
    marked false (u ++ c :: v) = marked false u ++ (c, pending false u) :: marked false v := by
  rw [marked_append]
  cases pending false u with
  | true => rfl
  | false => rw [marked, if_neg hc]

/-- A character that is no backslash ends what is pending. -/
theorem unescape_append_cons {c : Char} (hc : c ≠ '\\') (u v : Text) :
    unescape (u ++ c :: v) = unescape u ++ c :: unescape v := by
  rw [unescape, marked_append_cons hc, List.map_append, List.map_cons, unescape, unescape]

/-- A backslash is pending behind an odd number of them. -/
theorem pending_iff_odd (t : Text) :
    pending false t = true ↔ (t.rtakeWhile (· == '\\')).length % 2 = 1 := by
  induction t using List.reverseRecOn with
  | nil => simp [pending]
  | append_singleton t c ih =>
      have hlast : pending (pending false t) [c] = (!pending false t && c == '\\') := by
        cases pending false t <;> rfl
      rw [pending_append, hlast, List.rtakeWhile_concat]
      by_cases hc : c = '\\'
      · rw [if_pos (beq_iff_eq.mpr hc), List.length_append, List.length_singleton]
        simp only [hc, beq_self_eq_true, Bool.and_true, Bool.not_eq_true']
        rw [← Bool.not_eq_true, ih]
        omega
      · simp [hc]

/-- **A text without a newline is read as a whole**, with the backslashes taken out of it; what is behind it is read
    with a backslash pending or not. -/
theorem readLine_append {w : Text} (hw : '\n' ∉ w) (b : Bool) (t : Text) :
    readLine b (w ++ t) = (marked b w ++ (readLine (pending b w) t).1, (readLine (pending b w) t).2) := by
  induction w generalizing b with
  | nil => rfl
  | cons c w ih =>
      have hc : c ≠ '\n' := fun h => hw (h ▸ List.mem_cons_self ..)
      have hrest : '\n' ∉ w := fun h => hw (List.mem_cons_of_mem _ h)
      cases b with
      | true => simp [readLine, marked, pending, hc, ih hrest]
      | false =>
          by_cases hback : c = '\\'
          · simp [readLine, marked, pending, hback, ih hrest]
          · have hnone : (c == '\\') = false := beq_eq_false_iff_ne.mpr hback
            simp [readLine, marked, pending, hc, hback, hnone, ih hrest]

/-- A line with nothing pending ends at its newline. -/
theorem readLine_line {w : Text} (hw : '\n' ∉ w) (hclosed : pending false w = false) (t : Text) :
    readLine false (w ++ '\n' :: t) = (marked false w, some t) := by
  rw [readLine_append hw, hclosed]
  simp [readLine]

/-- A line with a pending backslash is joined to the next one. -/
theorem readLine_line_pending {w : Text} (hw : '\n' ∉ w) (hopen : pending false w = true) (t : Text) :
    readLine false (w ++ '\n' :: t) = (marked false w ++ (readLine false t).1, (readLine false t).2) := by
  rw [readLine_append hw, hopen]
  simp [readLine]

/-- A text without backslashes stays as it is. -/
theorem marked_of_plain {w : Text} (h : '\\' ∉ w) : marked false w = w.map fun c => (c, false) := by
  induction w with
  | nil => rfl
  | cons c w ih =>
      have hc : c ≠ '\\' := fun heq => h (heq ▸ List.mem_cons_self ..)
      rw [marked, if_neg hc, ih fun hmem => h (List.mem_cons_of_mem _ hmem), List.map_cons]

theorem unescape_of_plain {w : Text} (h : '\\' ∉ w) : unescape w = w := by
  rw [unescape, marked_of_plain h, List.map_map]
  exact List.map_id w

theorem pending_of_plain {w : Text} (h : '\\' ∉ w) : pending false w = false := by
  induction w with
  | nil => rfl
  | cons c w ih =>
      have hc : c ≠ '\\' := fun heq => h (heq ▸ List.mem_cons_self ..)
      show pending (c == '\\') w = false
      rw [beq_eq_false_iff_ne.mpr hc]
      exact ih fun hmem => h (List.mem_cons_of_mem _ hmem)

/-- A line without blanks at its ends is not stripped. -/
theorem readValue_of_ends {line : List Marked} (hhead : ∀ m, line.head? = some m → strips m = false)
    (hlast : ∀ m, line.getLast? = some m → strips m = false) : readValue line = line.map Prod.fst := by
  have hdrop : line.dropWhile strips = line := by
    cases line with
    | nil => rfl
    | cons m line => rw [List.dropWhile_cons_of_neg (by simp [hhead m rfl])]
  have hrdrop : line.rdropWhile strips = line := by
    rw [List.rdropWhile_eq_self_iff]
    intro hne
    simp [hlast _ (List.getLast?_eq_some_getLast hne)]
  rw [readValue, hdrop, hrdrop]

/-- **A first line without backslashes and blanks is read as it is.** -/
theorem read_plain {w : Text} (hplain : ∀ c ∈ w, c ≠ '\\' ∧ isBlank c = false) {t : Text}
    (ht : t = [] ∨ ∃ rest, t = '\n' :: rest) : read (w ++ t) = w := by
  have hback : '\\' ∉ w := fun hmem => (hplain _ hmem).1 rfl
  have hnl : '\n' ∉ w := fun hmem => absurd (hplain _ hmem).2 (by decide)
  have hrest : (readLine false t).1 = [] := by
    rcases ht with rfl | ⟨rest, rfl⟩
    · rfl
    · rw [readLine, if_neg (by decide), if_pos rfl]
  have hkept : ∀ m, m ∈ w.map (fun c => (c, false)) → strips m = false := by
    intro m hm
    obtain ⟨c, hc, rfl⟩ := List.mem_map.mp hm
    exact (hplain c hc).2
  rw [read, readLine_append hnl, pending_of_plain hback, hrest, List.append_nil, marked_of_plain hback,
    readValue_of_ends (fun m hm => hkept m (List.mem_of_mem_head? hm))
      (fun m hm => hkept m (List.mem_of_mem_getLast? hm)), List.map_map]
  exact List.map_id w

/-! ## The loop

Each turn takes at least one newline off the input, which bounds the number of turns. It takes more than one where a
line ends in a pending backslash. -/

/-- Each turn takes a newline off the input. -/
theorem count_readLine {b : Bool} {t rest : Text} (h : (readLine b t).2 = some rest) :
    rest.count '\n' < t.count '\n' := by
  induction t generalizing b with
  | nil => cases b <;> cases h
  | cons c t ih =>
      have hle : t.count '\n' ≤ (c :: t).count '\n' := List.count_le_count_cons
      cases b with
      | true =>
          rw [readLine] at h
          split_ifs at h <;> exact (ih h).trans_le hle
      | false =>
          rw [readLine] at h
          split_ifs at h with hback hnl
          · exact (ih h).trans_le hle
          · obtain rfl := Option.some.inj h
            rw [hnl, List.count_cons_self]
            exact Nat.lt_succ_self _
          · exact (ih h).trans_le hle

/-- The loop has as many turns as there are newlines, at most. -/
theorem length_readsFrom_le (n : ℕ) (t : Text) : (readsFrom n t).length ≤ t.count '\n' := by
  induction n generalizing t with
  | zero => exact Nat.zero_le _
  | succ n ih =>
      cases hread : (readLine false t).2 with
      | none => simp [readsFrom, hread]
      | some rest =>
          simp only [readsFrom, hread, List.length_cons]
          exact (ih rest).trans_lt (count_readLine hread)

theorem count_endLines {lines : List Text} (h : ∀ line ∈ lines, '\n' ∉ line) :
    (endLines lines).count '\n' = lines.length := by
  induction lines with
  | nil => rfl
  | cons line lines ih =>
      rw [endLines_cons, List.count_append, List.count_cons_self,
        List.count_eq_zero_of_not_mem (h line (List.mem_cons_self ..)),
        ih fun l hl => h l (List.mem_cons_of_mem _ hl), List.length_cons, Nat.zero_add]

/-- **The loop gets the lines**, if none ends in a pending backslash: each turn ends with the newline of its line. By
    induction on the lines. -/
theorem reads_endLines {lines : List Text} (h : ∀ line ∈ lines, '\n' ∉ line)
    (hclosed : ∀ line ∈ lines, pending false line = false) :
    reads (endLines lines) = lines.map fun line => readValue (marked false line) := by
  have hfuel : ∀ n, (endLines lines).length ≤ n →
      readsFrom n (endLines lines) = lines.map fun line => readValue (marked false line) := by
    induction lines with
    | nil =>
        intro n _
        cases n <;> rfl
    | cons line lines ih =>
        intro n hn
        rw [endLines_cons] at hn ⊢
        rw [List.length_append, List.length_cons] at hn
        cases n with
        | zero => omega
        | succ n =>
            have hline := readLine_line (h line (List.mem_cons_self ..)) (hclosed line (List.mem_cons_self ..))
              (endLines lines)
            have hrest := ih (fun l hl => h l (List.mem_cons_of_mem _ hl))
              (fun l hl => hclosed l (List.mem_cons_of_mem _ hl)) n (by omega)
            simp only [readsFrom, hline, hrest, List.map_cons]
  exact hfuel _ le_rfl

/-- **A pending backslash costs a turn.** Each turn takes at least one newline off the input, and the one that begins
    with such a line takes two, or meets the end. -/
theorem length_reads_lt {lines : List Text} (h : ∀ line ∈ lines, '\n' ∉ line)
    (hopen : ∃ line ∈ lines, pending false line = true) : (reads (endLines lines)).length < lines.length := by
  have hfuel : ∀ n, (readsFrom n (endLines lines)).length < lines.length := by
    induction lines with
    | nil =>
        obtain ⟨line, hline, -⟩ := hopen
        exact absurd hline List.not_mem_nil
    | cons line lines ih =>
        intro n
        have hlater : ∀ l ∈ lines, '\n' ∉ l := fun l hl => h l (List.mem_cons_of_mem _ hl)
        rw [endLines_cons, List.length_cons]
        cases n with
        | zero => exact Nat.succ_pos _
        | succ n =>
            by_cases hpending : pending false line = true
            · have hline := readLine_line_pending (h line (List.mem_cons_self ..)) hpending (endLines lines)
              simp only [readsFrom, hline]
              cases hread : (readLine false (endLines lines)).2 with
              | none => exact Nat.succ_pos _
              | some rest =>
                  have hcount := count_readLine hread
                  rw [count_endLines hlater] at hcount
                  have hle := length_readsFrom_le n rest
                  simp only [List.length_cons]
                  omega
            · have hline := readLine_line (h line (List.mem_cons_self ..)) (Bool.eq_false_iff.mpr hpending)
                (endLines lines)
              have hopen' : ∃ l ∈ lines, pending false l = true := by
                obtain ⟨l, hl, hp⟩ := hopen
                rcases List.mem_cons.mp hl with rfl | hl
                · exact absurd hp hpending
                · exact ⟨l, hl, hp⟩
              have hrest := ih hlater hopen' n
              simp only [readsFrom, hline, List.length_cons]
              omega
  exact hfuel _

end Shell
end StgEnvironment
