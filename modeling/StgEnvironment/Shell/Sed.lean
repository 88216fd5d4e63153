import StgEnvironment.Lib.Text

/-!
# `Shell.Sed`: a command line with `sed -e 's|..|..|g'`

A command line is cut into words at its blanks, except in single quotes, which end at the next quote and nowhere
else (`wordsFrom_quote`). Lines with other characters that mean something to a shell are not modelled, nor are
scripts with more than one substitution of a literal text.

`sed` and `sedCommand` are `none` on what is not modelled, so that a result about them says that the line is one of
these. A substitution ends at its third delimiter, and between the delimiters only literal text is read
(`substitution_eq`).
-/

namespace StgEnvironment
namespace Shell

/-- The single quote. -/
def quote : Char := Char.ofNat 39

/-- What else means something outside quotes. -/
def special : List Char := "\n\"\\$|&;<>()*?[~#`".toList

/-- The words of the rest of a line, in quotes or not, with what is read of a word. -/
def wordsFrom : Bool → Option Word → Text → Option (List Word)
  | false, word, [] => some word.toList
  | true, _, [] => none
  | true, word, c :: t =>
      if c = quote then wordsFrom false word t else wordsFrom true (some (word.getD [] ++ [c])) t
  | false, word, c :: t =>
      if c = quote then wordsFrom true (some (word.getD [])) t
      else if c ∈ special then none
      else if isBlank c then (wordsFrom false none t).map (word.toList ++ ·)
      else wordsFrom false (some (word.getD [] ++ [c])) t

/-- The words of a command line, if it is one of these. -/
def commandWords (line : Text) : Option (List Word) := wordsFrom false none line

/-! ## The words of a line, piece by piece -/

/-- A character that is part of a word. -/
def isWordChar (c : Char) : Bool := c != quote && !special.contains c && !isBlank c

theorem isWordChar_iff {c : Char} :
    isWordChar c = true ↔ c ≠ quote ∧ c ∉ special ∧ ¬ isBlank c = true := by
  simp [isWordChar, and_assoc]

/-- A piece without quotes belongs to the word. -/
theorem wordsFrom_plain {u : Text} (h : u.all isWordChar = true) (word t : Text) :
    wordsFrom false (some word) (u ++ t) = wordsFrom false (some (word ++ u)) t := by
  induction u generalizing word with
  | nil => rw [List.nil_append, List.append_nil]
  | cons c u ih =>
      rw [List.all_cons, Bool.and_eq_true] at h
      obtain ⟨hquote, hspecial, hblank⟩ := isWordChar_iff.mp h.1
      rw [List.cons_append, wordsFrom, if_neg hquote, if_neg hspecial, if_neg hblank, Option.getD_some, ih h.2,
        List.append_assoc, List.singleton_append]

/-- In quotes every other character belongs to the word. -/
theorem wordsFrom_quoted {u : Text} (h : quote ∉ u) (word t : Text) :
    wordsFrom true (some word) (u ++ quote :: t) = wordsFrom false (some (word ++ u)) t := by
  induction u generalizing word with
  | nil => rw [List.nil_append, List.append_nil, wordsFrom, if_pos rfl]
  | cons c u ih =>
      have hc : c ≠ quote := fun heq => h (heq ▸ List.mem_cons_self ..)
      have hu : quote ∉ u := fun hmem => h (List.mem_cons_of_mem c hmem)
      rw [List.cons_append, wordsFrom, if_neg hc, Option.getD_some, ih hu, List.append_assoc, List.singleton_append]

theorem wordsFrom_quote {u : Text} (h : quote ∉ u) (word t : Text) :
    wordsFrom false (some word) (quote :: (u ++ quote :: t)) = wordsFrom false (some (word ++ u)) t := by
  rw [wordsFrom, if_pos rfl, Option.getD_some, wordsFrom_quoted h]

theorem wordsFrom_blank (word t : Text) :
    wordsFrom false (some word) (' ' :: t) = (commandWords t).map (word :: ·) := by
  have hsp : (' ' : Char) ≠ quote ∧ (' ' : Char) ∉ special ∧ isBlank ' ' = true := by decide
  rw [wordsFrom, if_neg hsp.1, if_neg hsp.2.1, if_pos hsp.2.2]
  rfl

theorem commandWords_plain {u : Text} (hne : u ≠ []) (h : u.all isWordChar = true) (t : Text) :
    commandWords (u ++ t) = wordsFrom false (some u) t := by
  obtain ⟨c, u, rfl⟩ := List.exists_cons_of_ne_nil hne
  rw [List.all_cons, Bool.and_eq_true] at h
  obtain ⟨hquote, hspecial, hblank⟩ := isWordChar_iff.mp h.1
  rw [commandWords, List.cons_append, wordsFrom, if_neg hquote, if_neg hspecial, if_neg hblank,
    wordsFrom_plain h.2]
  rfl

theorem commandWords_quote {u : Text} (h : quote ∉ u) (t : Text) :
    commandWords (quote :: (u ++ quote :: t)) = wordsFrom false (some u) t := by
  rw [commandWords, wordsFrom, if_pos rfl, Option.getD_none, wordsFrom_quoted h, List.nil_append]

theorem commandWords_cons {u : Text} (hne : u ≠ []) (h : u.all isWordChar = true) (t : Text) :
    commandWords (u ++ ' ' :: t) = (commandWords t).map (u :: ·) := by
  rw [commandWords_plain hne h, wordsFrom_blank]

theorem commandWords_word {u : Text} (hne : u ≠ []) (h : u.all isWordChar = true) : commandWords u = some [u] := by
  have hplain := commandWords_plain hne h []
  rwa [List.append_nil, wordsFrom] at hplain

/-! ## `sed` -/

/-- What means something in a regular expression. -/
def regexSpecial : List Char := ".[]*^$\\\n".toList

/-- What means something in a replacement. -/
def replacementSpecial : List Char := "&\\\n".toList

/-- The pattern and the replacement of a script. Only substitutions of plain texts with the flag `g` are read, with
    any delimiter that `sed` allows; other scripts are `none`. -/
def substitution : Text → Option (Text × Text)
  | 's' :: d :: t =>
      match t.splitOn d with
      | [regex, replacement, flags] =>
          if d ∉ ['\\', '\n'] ∧ regex ≠ [] ∧ flags = ['g'] ∧
              regex.all (· ∉ regexSpecial) = true ∧ replacement.all (· ∉ replacementSpecial) = true then
            some (regex, replacement)
          else none
      | _ => none
  | _ => none

/-- `sed -e script`. A last line without a newline stays without one. -/
def sed (script input : Text) : Option Text :=
  (substitution script).map fun s => replaceAll s.1 s.2 input

/-- What `sed -i.bak -e script file` makes of the file, if the words of the line are such a command. -/
def sedCommand (line input : Text) : Option Text :=
  (commandWords line).bind fun
    | [command, inplace, expression, script, _] =>
        if command = "sed".toList ∧ inplace = "-i.bak".toList ∧ expression = "-e".toList then sed script input
        else none
    | _ => none

/-- A substitution with a delimiter that its parts do not have. -/
theorem substitution_eq {d : Char} {regex replacement : Text} (hregex : d ∉ regex) (hreplacement : d ∉ replacement)
    (hd : d ∉ ['g', '\\', '\n']) (hne : regex ≠ []) (hliteral : regex.all (· ∉ regexSpecial) = true)
    (hplain : replacement.all (· ∉ replacementSpecial) = true) :
    substitution ('s' :: d :: (regex ++ d :: (replacement ++ [d, 'g']))) = some (regex, replacement) := by
  have hflags : d ∉ ['g'] := fun h => hd (List.mem_cons.mpr (Or.inl (List.mem_singleton.mp h)))
  have hsplit : (regex ++ d :: (replacement ++ [d, 'g'])).splitOn d = [regex, replacement, ['g']] := by
    rw [List.splitOn_append_cons_self_of_not_mem hregex, List.splitOn_append_cons_self_of_not_mem hreplacement,
      List.splitOn_eq_singleton hflags]
  rw [substitution, hsplit]
  exact if_pos ⟨fun h => hd (List.mem_cons_of_mem _ h), hne, rfl, hliteral, hplain⟩

end Shell
end StgEnvironment
