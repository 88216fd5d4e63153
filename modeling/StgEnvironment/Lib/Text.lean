import Mathlib

/-!
# `Lib.Text`: words, lines and substrings of a text

Text is a list of characters. This file holds what the scripts of any system do to it before they decide
anything: cut it into words at a class of blanks, join words with a separator, test for a substring.
Nothing here names a script; the class of blanks is a parameter of `wordsBy`, since shells, `awk` and
Python do not agree on it.

## Contents
* `wordsBy`: the maximal blank-free pieces of a text, with its equations on appended text and `words`,
  its instance for the default `IFS`.
* `splitOn_eq_pair_iff`: when a text splits in two.
* `unwords` / `unlines` / `endLines`: joining with a blank or a newline, ending each line with a newline, and
  what splitting gives back.
* `Occurs`: the substring test.
* `replaceAll`: replacing every occurrence of a pattern, from the left and without overlaps.
-/

namespace StgEnvironment

/-- A text, as the list of its characters. -/
abbrev Text := List Char

/-- A text that came out of word splitting. -/
abbrev Word := List Char

/-- The blanks of the default `IFS`: space, tab and newline. -/
def isBlank (c : Char) : Bool := c == ' ' || c == '\t' || c == '\n'

/-- Cut a text at the characters of the class `p`, dropping the empty pieces, as all word splitting does with blanks
    in a row. -/
def wordsBy (p : Char → Bool) (t : Text) : List Word :=
  (t.splitOnP p).filter (fun w => !w.isEmpty)

/-- Word splitting with the default `IFS`. -/
def words (t : Text) : List Word := wordsBy isBlank t

/-- A non-empty piece of text free of the class `p`: what `wordsBy p` leaves in one piece. -/
def IsWordBy (p : Char → Bool) (w : Word) : Prop := w ≠ [] ∧ ∀ c ∈ w, p c = false

/-- A non-empty, blank-free piece of text. -/
abbrev IsWord (w : Word) : Prop := IsWordBy isBlank w

/-- Nothing but blanks. -/
def Blank (t : Text) : Prop := ∀ c ∈ t, isBlank c = true

instance (p : Char → Bool) (w : Word) : Decidable (IsWordBy p w) :=
  decidable_of_iff (w ≠ [] ∧ w.all (fun c => !p c) = true) (by simp [IsWordBy])

instance (t : Text) : Decidable (Blank t) := decidable_of_iff (t.all isBlank = true) List.all_eq_true

theorem ne_of_isDigit {c d : Char} (hc : c.isDigit = true) (hd : d.isDigit = false) : c ≠ d := by
  rintro rfl
  rw [hc] at hd
  cases hd

theorem isBlank_of_isDigit {c : Char} (h : c.isDigit = true) : isBlank c = false := by
  rw [Bool.eq_false_iff]
  intro hb
  simp only [isBlank, Bool.or_eq_true, beq_iff_eq] at hb
  rcases hb with (rfl | rfl) | rfl <;> exact absurd h (by decide)

/-! ## Cutting

Cutting at every character of a class. Words are the pieces that are not empty, so that separators at the ends, and
several in a row, do not matter. -/

section WordsBy
variable {p : Char → Bool}

@[simp] theorem wordsBy_nil : wordsBy p [] = [] := by simp [wordsBy]

/-- A separator ends the words before it and starts afresh. -/
theorem wordsBy_append_cons (xs ys : Text) {sep : Char} (hsep : p sep = true) :
    wordsBy p (xs ++ sep :: ys) = wordsBy p xs ++ wordsBy p ys := by
  simp only [wordsBy, List.splitOnP_append_cons xs ys hsep, List.filter_append]

theorem wordsBy_cons_sep (ys : Text) {sep : Char} (hsep : p sep = true) :
    wordsBy p (sep :: ys) = wordsBy p ys := by
  simpa using wordsBy_append_cons [] ys hsep

theorem wordsBy_word {w : Word} (hw : IsWordBy p w) : wordsBy p w = [w] := by
  have hne : w.isEmpty = false := by simpa using hw.1
  simp [wordsBy, List.splitOnP_eq_singleton hw.2, hne]

/-- The first word of a text that starts with a word and a separator. -/
theorem wordsBy_word_cons {w : Word} (hw : IsWordBy p w) {sep : Char} (hsep : p sep = true) (ys : Text) :
    wordsBy p (w ++ sep :: ys) = w :: wordsBy p ys := by
  rw [wordsBy_append_cons w ys hsep, wordsBy_word hw]; rfl

theorem eq_false_of_mem_splitOnP {t : Text} : ∀ {w : Word}, w ∈ t.splitOnP p → ∀ c ∈ w, p c = false := by
  induction t with
  | nil => intro w hmem; simp at hmem; subst hmem; simp
  | cons c cs ih =>
      intro w hmem
      rw [List.splitOnP_cons_eq_if_modifyHead] at hmem
      split at hmem
      · rcases List.mem_cons.mp hmem with rfl | h
        · simp
        · exact ih h
      · rename_i hc
        -- `c` joins the first piece of the rest
        cases hs : cs.splitOnP p with
        | nil => exact absurd hs (List.splitOnP_ne_nil p cs)
        | cons v vs =>
            rw [hs] at hmem ih
            rcases List.mem_cons.mp hmem with rfl | h
            · have hv := ih (List.mem_cons_self ..)
              intro x hx
              rcases List.mem_cons.mp hx with rfl | hx
              · simpa using hc
              · exact hv x hx
            · exact ih (List.mem_cons_of_mem _ h)

/-- The pieces consist of characters of the text. -/
theorem mem_of_mem_splitOnP {t : Text} : ∀ {w : Word}, w ∈ t.splitOnP p → ∀ c ∈ w, c ∈ t := by
  induction t with
  | nil => intro w hmem c hc; simp at hmem; subst hmem; exact hc
  | cons a t ih =>
      intro w hmem c hc
      rw [List.splitOnP_cons_eq_if_modifyHead] at hmem
      split at hmem
      · rcases List.mem_cons.mp hmem with rfl | h
        · cases hc
        · exact List.mem_cons_of_mem _ (ih h c hc)
      · cases hs : t.splitOnP p with
        | nil => exact absurd hs (List.splitOnP_ne_nil p t)
        | cons v vs =>
            rw [hs] at hmem ih
            rcases List.mem_cons.mp hmem with rfl | h
            · rcases List.mem_cons.mp hc with rfl | hc
              · exact List.mem_cons_self ..
              · exact List.mem_cons_of_mem _ (ih (List.mem_cons_self ..) c hc)
            · exact List.mem_cons_of_mem _ (ih (List.mem_cons_of_mem _ h) c hc)

theorem isWordBy_of_mem {w : Word} {t : Text} (hw : w ∈ wordsBy p t) : IsWordBy p w := by
  obtain ⟨hmem, hne⟩ := List.mem_filter.mp hw
  exact ⟨by simpa using hne, eq_false_of_mem_splitOnP hmem⟩

/-- A text has no words exactly when it consists of separators. -/
theorem wordsBy_eq_nil_iff : ∀ {t : Text}, wordsBy p t = [] ↔ ∀ c ∈ t, p c = true := by
  intro t
  induction t with
  | nil => simp
  | cons c cs ih =>
      by_cases hc : p c = true
      · rw [wordsBy_cons_sep cs hc, ih]; simp [hc]
      · constructor
        · intro h
          exfalso
          unfold wordsBy at h
          rw [List.splitOnP_cons_eq_if_modifyHead, if_neg hc] at h
          cases hs : cs.splitOnP p with
          | nil => exact List.splitOnP_ne_nil p cs hs
          | cons v vs => rw [hs] at h; simp at h
        · intro h; exact absurd (h c (List.mem_cons_self ..)) hc

theorem wordsBy_dropWhile {q : Char → Bool} (hq : ∀ c, q c = true → p c = true) (t : Text) :
    wordsBy p (t.dropWhile q) = wordsBy p t := by
  induction t with
  | nil => rfl
  | cons c t ih =>
      by_cases hc : q c = true
      · rw [List.dropWhile_cons_of_pos hc, ih, wordsBy_cons_sep t (hq c hc)]
      · rw [List.dropWhile_cons_of_neg hc]

theorem wordsBy_rdropWhile {q : Char → Bool} (hq : ∀ c, q c = true → p c = true) (t : Text) :
    wordsBy p (t.rdropWhile q) = wordsBy p t := by
  induction t using List.reverseRecOn with
  | nil => rfl
  | append_singleton t c ih =>
      by_cases hc : q c = true
      · rw [List.rdropWhile_concat_pos _ _ _ hc, ih, wordsBy_append_cons t [] (hq c hc), wordsBy_nil,
          List.append_nil]
      · rw [List.rdropWhile_concat_neg _ _ _ hc]

end WordsBy

theorem mem_of_mem_words {t : Text} {w : Word} (hw : w ∈ words t) : ∀ c ∈ w, c ∈ t :=
  mem_of_mem_splitOnP (List.mem_filter.mp hw).1

theorem words_eq_nil_iff {t : Text} : words t = [] ↔ Blank t := wordsBy_eq_nil_iff

theorem isWord_of_mem_words {t : Text} {w : Word} (h : w ∈ words t) : IsWord w := isWordBy_of_mem h

theorem words_word {w : Word} (h : IsWord w) : words w = [w] := wordsBy_word h

/-- Splitting in two pieces means one separator. -/
theorem splitOn_eq_pair_iff {sep : Char} {t a b : Text} :
    t.splitOn sep = [a, b] ↔ t = a ++ sep :: b ∧ sep ∉ a ∧ sep ∉ b := by
  constructor
  · intro h
    have hjoin : [sep].intercalate (t.splitOn sep) = t := List.intercalate_splitOn sep
    rw [h, List.intercalate_cons_cons, List.intercalate_singleton, List.append_assoc,
      List.singleton_append] at hjoin
    have hpiece : ∀ w ∈ [a, b], sep ∉ w := by
      intro w hw hsep
      rw [← h, List.splitOn_eq_splitOnP] at hw
      exact absurd (eq_false_of_mem_splitOnP hw sep hsep) (by simp)
    exact ⟨hjoin.symm, hpiece a (by simp), hpiece b (by simp)⟩
  · rintro ⟨rfl, ha, hb⟩
    rw [List.splitOn_append_cons_self_of_not_mem ha, List.splitOn_eq_singleton hb]

/-- A text that ends in a field, against one of two fields: the fields before the separator are the same. -/
theorem append_cons_prefix_iff {sep : Char} {a b u v : Text} (ha : sep ∉ a) (hb : sep ∉ b) :
    a ++ sep :: u <+: b ++ sep :: v ↔ a = b ∧ u <+: v := by
  constructor
  · rintro ⟨rest, hrest⟩
    rw [List.append_assoc, List.cons_append] at hrest
    have hsplit := congrArg (List.splitOn sep) hrest
    rw [List.splitOn_append_cons_self_of_not_mem ha, List.splitOn_append_cons_self_of_not_mem hb] at hsplit
    obtain rfl := (List.cons.inj hsplit).1
    exact ⟨rfl, rest, (List.cons.inj (List.append_cancel_left hrest)).2⟩
  · rintro ⟨rfl, rest, rfl⟩
    exact ⟨rest, by rw [List.append_assoc, List.cons_append]⟩

/-- A text without the separator, against a field and what follows it. -/
theorem prefix_append_cons_iff {sep : Char} {a b v : Text} (ha : sep ∉ a) : a <+: b ++ sep :: v ↔ a <+: b := by
  constructor
  · intro h
    rcases List.prefix_or_prefix_of_prefix h (List.prefix_append b (sep :: v)) with hab | ⟨t, rfl⟩
    · exact hab
    · cases t with
      | nil => rw [List.append_nil]
      | cons c t =>
          obtain ⟨rest, hrest⟩ := (List.prefix_append_right_inj b).mp h
          obtain rfl := (List.cons.inj hrest).1
          exact absurd (List.mem_append_right b (List.mem_cons_self ..)) ha
  · exact fun h => h.trans (List.prefix_append b _)

/-! ## Joining

The three ways in which lists become texts here: words with blanks between them, lines with newlines between them,
and lines that each end in one. -/

/-- Join with single spaces, as `"${a[*]}"` does under the default `IFS`. -/
def unwords (ws : List Word) : Text := [' '].intercalate ws

/-- The text of a list of lines, each ended by a newline but the last. -/
def unlines (ls : List Text) : Text := ['\n'].intercalate ls

/-- The text of a list of lines, each with the newline that ends it. -/
def endLines (ls : List Text) : Text := (ls.map (· ++ ['\n'])).flatten

@[simp] theorem endLines_nil : endLines [] = [] := rfl

theorem endLines_cons (l : Text) (ls : List Text) : endLines (l :: ls) = l ++ '\n' :: endLines ls := by
  simp [endLines]

theorem endLines_append (ls ls' : List Text) : endLines (ls ++ ls') = endLines ls ++ endLines ls' := by
  simp [endLines]

/-- Splitting at the newlines finds the lines, and the empty piece behind the last newline. -/
theorem splitOn_endLines : ∀ {ls : List Text}, (∀ l ∈ ls, '\n' ∉ l) →
    (endLines ls).splitOn '\n' = ls ++ [[]] := by
  intro ls
  induction ls with
  | nil => intro _; rfl
  | cons l ls ih =>
      intro h
      rw [endLines_cons, List.splitOn_append_cons_self_of_not_mem (h l (List.mem_cons_self ..)),
        ih fun m hm => h m (List.mem_cons_of_mem _ hm), List.cons_append]

/-- Splitting at a joined separator gives back the words. -/
theorem wordsBy_intercalate {p : Char → Bool} {sep : Char} (hsep : p sep = true) :
    ∀ {ws : List Word}, (∀ w ∈ ws, IsWordBy p w) → wordsBy p ([sep].intercalate ws) = ws
  | [], _ => by simp
  | [w], h => by simpa using wordsBy_word (h w (by simp))
  | w :: v :: ws, h => by
      rw [List.intercalate_cons_cons, List.append_assoc, List.singleton_append,
        wordsBy_word_cons (h w (by simp)) hsep,
        wordsBy_intercalate hsep (fun u hu => h u (List.mem_cons_of_mem _ hu))]

theorem words_unlines {ws : List Word} (h : ∀ w ∈ ws, IsWord w) : words (unlines ws) = ws :=
  wordsBy_intercalate (by decide) h

theorem words_unwords {ws : List Word} (h : ∀ w ∈ ws, IsWord w) : words (unwords ws) = ws :=
  wordsBy_intercalate (by decide) h

/-- The words of lines are those of each line. -/
theorem words_endLines (ls : List Text) : words (endLines ls) = ls.flatMap words := by
  induction ls with
  | nil => simp [words]
  | cons l ls ih =>
      have hnl : isBlank '\n' = true := by decide
      rw [endLines_cons, words, wordsBy_append_cons l _ hnl, List.flatMap_cons, ← ih]
      rfl

/-! ## Substrings

A text occurs in another as a contiguous piece. What has no separator in it is in one of the parts between the
separators. -/

/-- `s` occurs in `t` as a contiguous piece. -/
def Occurs (s t : Text) : Prop := s <:+: t

instance (s t : Text) : Decidable (Occurs s t) := inferInstanceAs (Decidable (s <:+: t))

theorem Occurs.trans {r s t : Text} (h₁ : Occurs r s) (h₂ : Occurs s t) : Occurs r t :=
  List.IsInfix.trans h₁ h₂

/-- A piece without the separator lies on one side of it: if it starts before the separator it ends there, and
    otherwise it is behind it. -/
theorem occurs_append_cons {s a b : Text} {sep : Char} (hsep : sep ∉ s) (h : Occurs s (a ++ sep :: b)) :
    Occurs s a ∨ Occurs s b := by
  obtain ⟨u, v, huv⟩ := h
  rw [List.append_assoc] at huv
  rcases List.append_eq_append_iff.mp huv with ⟨m, ha, hm⟩ | ⟨m, rfl, hm⟩
  · -- it starts before the separator, so it ends there
    left
    rcases List.append_eq_append_iff.mp hm with ⟨m', hm', -⟩ | ⟨m', hs, hm'⟩
    · exact ⟨u, m', by rw [ha, hm', List.append_assoc]⟩
    · cases m' with
      | nil => exact ⟨u, [], by rw [ha, hs, List.append_nil, List.append_nil]⟩
      | cons c m' =>
          obtain ⟨rfl, -⟩ := List.cons.inj hm'
          exact absurd (hs ▸ List.mem_append_right m (List.mem_cons_self ..)) hsep
  · cases m with
    | nil =>
        cases s with
        | nil => exact Or.inl ⟨[], a, rfl⟩
        | cons c s =>
            obtain ⟨rfl, -⟩ := List.cons.inj hm
            exact absurd (List.mem_cons_self ..) hsep
    | cons c m =>
        obtain ⟨-, hb⟩ := List.cons.inj hm
        exact Or.inr ⟨m, v, (List.append_assoc m s v).trans hb.symm⟩

/-- A piece is found in what it is joined to. -/
theorem occurs_intercalate (sep : Text) {piece : Text} {pieces : List Text} (h : piece ∈ pieces) :
    Occurs piece (sep.intercalate pieces) := by
  induction pieces with
  | nil => cases h
  | cons p pieces ih =>
      cases pieces with
      | nil =>
          obtain rfl := List.mem_singleton.mp h
          rw [List.intercalate_singleton]
          exact List.infix_rfl
      | cons q pieces =>
          rw [List.intercalate_cons_cons]
          rcases List.mem_cons.mp h with rfl | h
          · rw [List.append_assoc]
            exact (List.prefix_append piece _).isInfix
          · exact (ih h).trans (List.suffix_append _ _).isInfix

/-- What is put in front of a text hides nothing in it. -/
theorem occurs_append_left {s t : Text} (u : Text) (h : Occurs s t) : Occurs s (u ++ t) :=
  h.trans (List.suffix_append u t).isInfix

/-! ## Replacing

Every occurrence is replaced from the left, and what has been replaced is not looked at again. -/

/-- Replace a pattern behind the next `k` characters, which belong to the match before. -/
def replaceFrom (pattern replacement : Text) : ℕ → Text → Text
  | _, [] => []
  | 0, c :: t =>
      if pattern <+: c :: t then replacement ++ replaceFrom pattern replacement (pattern.length - 1) t
      else c :: replaceFrom pattern replacement 0 t
  | k + 1, _ :: t => replaceFrom pattern replacement k t

/-- Replace every occurrence of a pattern, from the left. -/
def replaceAll (pattern replacement t : Text) : Text := replaceFrom pattern replacement 0 t

/-- A match takes as many characters as the pattern has, and the search goes on behind it. -/
theorem replaceFrom_eq (pattern replacement : Text) (k : ℕ) (t : Text) :
    replaceFrom pattern replacement k t = replaceAll pattern replacement (t.drop k) := by
  induction t generalizing k with
  | nil => rw [List.drop_nil, replaceAll, replaceFrom, replaceFrom]
  | cons c t ih =>
      cases k with
      | zero => rfl
      | succ k => rw [replaceFrom, ih, List.drop_succ_cons]

theorem replaceAll_append {pattern : Text} (h : pattern ≠ []) (replacement t : Text) :
    replaceAll pattern replacement (pattern ++ t) = replacement ++ replaceAll pattern replacement t := by
  obtain ⟨c, pat, rfl⟩ := List.exists_cons_of_ne_nil h
  have hpre : c :: pat <+: c :: (pat ++ t) := List.prefix_append (c :: pat) t
  rw [replaceAll, List.cons_append, replaceFrom, if_pos hpre, replaceFrom_eq, List.length_cons,
    Nat.add_sub_cancel, List.drop_left]

theorem replaceAll_self {pattern : Text} (h : pattern ≠ []) (replacement : Text) :
    replaceAll pattern replacement pattern = replacement := by
  have happend := replaceAll_append h replacement []
  rwa [List.append_nil, replaceAll, replaceAll, replaceFrom, List.append_nil] at happend

end StgEnvironment
