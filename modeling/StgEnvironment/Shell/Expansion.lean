import StgEnvironment.Lib.Text

/-!
# `Shell.Expansion`: what an unquoted expansion turns into

An unquoted `$x` or `$(...)` is cut into words at the blanks of `IFS`, and every word is then replaced by
the file names it matches as a pattern. The second step depends on the working directory, so it is a
structure: any function that behaves as pathname expansion does under bash's default options (a pattern
without a match stands for itself, a word without pattern characters is never touched).
-/

namespace StgEnvironment
namespace Shell

/-- The characters that can make a word a pathname pattern. -/
def patternChars : List Char := ['*', '?', '[', '\\']

/-- A word no pathname expansion touches. -/
def Plain (w : Word) : Prop := ∀ c ∈ w, c ∉ patternChars

instance (w : Word) : Decidable (Plain w) :=
  decidable_of_iff (w.all (fun c => !patternChars.contains c) = true) (by simp [Plain])

/-- Pathname expansion in some working directory (neither `nullglob` nor `failglob` is set). -/
structure Globbing where
  expand : Word → List Word
  expand_ne_nil : ∀ w, expand w ≠ []
  expand_plain : ∀ w, Plain w → expand w = [w]

/-- Pathname expansion in a directory without files. -/
def Globbing.empty : Globbing := ⟨fun w => [w], by simp, by simp⟩

/-- The words of an unquoted expansion of `t`. -/
def Globbing.unquoted (g : Globbing) (t : Text) : List Word := (words t).flatMap g.expand

section Unquoted
variable (g : Globbing)

theorem Globbing.unquoted_eq_nil_iff {t : Text} : g.unquoted t = [] ↔ Blank t := by
  rw [← words_eq_nil_iff, Globbing.unquoted, List.flatMap_eq_nil_iff]
  constructor
  · intro h
    refine List.eq_nil_iff_forall_not_mem.mpr fun w hw => g.expand_ne_nil w (h w hw)
  · intro h; simp [h]

theorem Globbing.unquoted_word {w : Word} (h : IsWord w) : g.unquoted w = g.expand w := by
  simp [Globbing.unquoted, words_word h]

theorem Globbing.unquoted_plain {w : Word} (h : IsWord w) (hp : Plain w) : g.unquoted w = [w] := by
  rw [g.unquoted_word h, g.expand_plain w hp]

theorem Globbing.unquoted_of_plain {t : Text} (h : ∀ w ∈ words t, Plain w) : g.unquoted t = words t := by
  have hsingle : (words t).flatMap g.expand = (words t).flatMap fun w => [w] :=
    List.flatMap_congr fun w hw => g.expand_plain w (h w hw)
  rw [Globbing.unquoted, hsingle, List.flatMap_singleton']

/-- Words on lines of their own are expanded one by one. -/
theorem Globbing.unquoted_unlines {ws : List Word} (h : ∀ w ∈ ws, IsWord w) :
    g.unquoted (unlines ws) = ws.flatMap g.expand := by
  simp only [Globbing.unquoted, words_unlines h]

end Unquoted

/-! ## `IFS=';' read -r -a` -/

/-- The array that `IFS=sep read -r -a` makes of a one-line text: a separator ends a field, so the text
    after the last separator is a field only when it is not empty. -/
def splitFields (sep : Char) (line : Text) : List Text :=
  let fields := line.splitOn sep
  if fields.getLast? = some [] then fields.dropLast else fields

/-- `read` stops at the first newline. -/
def readArray (sep : Char) (t : Text) : List Text := splitFields sep (t.takeWhile (· != '\n'))

theorem readArray_line {sep : Char} {t : Text} (h : '\n' ∉ t) : readArray sep t = splitFields sep t := by
  unfold readArray
  rw [List.takeWhile_eq_self_iff.mpr]
  intro c hc
  simpa using fun he : c = '\n' => h (he ▸ hc)

/-- Without a separator at its end, a line is cut at each of them. -/
theorem splitFields_eq {sep : Char} {line : Text} (h : (line.splitOn sep).getLast? ≠ some []) :
    splitFields sep line = line.splitOn sep := by
  simp only [splitFields, if_neg h]

/-- With a separator at the end, the pieces are the fields and one empty piece. -/
theorem splitOn_eq_splitFields_append {sep : Char} {line : Text}
    (h : (line.splitOn sep).getLast? = some []) :
    line.splitOn sep = splitFields sep line ++ [[]] := by
  simp only [splitFields, if_pos h]
  exact (List.dropLast_append_getLast? [] h).symm

theorem mem_splitOn_of_mem_splitFields {sep : Char} {line f : Text} (h : f ∈ splitFields sep line) :
    f ∈ line.splitOn sep := by
  by_cases hl : (line.splitOn sep).getLast? = some []
  · rw [splitOn_eq_splitFields_append hl]; exact List.mem_append_left _ h
  · rwa [splitFields_eq hl] at h

example : readArray ';' "a;;b;".toList = ["a".toList, [], "b".toList] := by decide

end Shell
end StgEnvironment
