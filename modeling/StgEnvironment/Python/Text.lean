import StgEnvironment.Nrpe.ClusterHealth

/-!
# `Python.Text`: the string methods that the Python scripts call

`isSpace` and `split()` are those of `Nrpe.ClusterHealth`. This module adds `strip()`, the lines that iterating
over a file gives, and how each of them acts on appended text.
-/

namespace StgEnvironment
namespace Python
open Nrpe.ClusterHealth (isSpace split)

def strip (line : Text) : Text := (line.dropWhile isSpace).rdropWhile isSpace

/-- `for line in f`: each line comes with the newline that ends it. -/
def fileLines : Text → List Text
  | [] => []
  | c :: t =>
      if c = '\n' then ['\n'] :: fileLines t
      else match fileLines t with
        | [] => [[c]]
        | line :: lines => (c :: line) :: lines

/-! ## Lines -/

theorem fileLines_append {line : Text} (h : '\n' ∉ line) (t : Text) :
    fileLines (line ++ '\n' :: t) = (line ++ ['\n']) :: fileLines t := by
  induction line with
  | nil => simp [fileLines]
  | cons c line ih =>
      have hc : c ≠ '\n' := fun heq => h (heq ▸ List.mem_cons_self ..)
      have hrest : '\n' ∉ line := fun hmem => h (List.mem_cons_of_mem _ hmem)
      simp [fileLines, hc, ih hrest]

/-- What was written line by line is read back line by line. -/
theorem fileLines_endLines : ∀ {lines : List Text}, (∀ line ∈ lines, '\n' ∉ line) →
    fileLines (endLines lines) = lines.map (· ++ ['\n']) := by
  intro lines
  induction lines with
  | nil => intro _; rfl
  | cons line lines ih =>
      intro h
      rw [endLines_cons, fileLines_append (h line (List.mem_cons_self ..)),
        ih fun l hl => h l (List.mem_cons_of_mem _ hl), List.map_cons]

/-! ## Fields -/

/-- **Stripping first makes no difference to `split()`.** -/
@[simp] theorem split_strip (line : Text) : split (strip line) = split line := by
  rw [split, split, strip, wordsBy_rdropWhile fun _ h => h, wordsBy_dropWhile fun _ h => h]

theorem strip_concat_space {c : Char} (hc : isSpace c = true) (t : Text) : strip (t ++ [c]) = strip t := by
  unfold strip
  by_cases ht : ∀ x ∈ t, isSpace x = true
  · have hboth : ∀ x ∈ t ++ [c], isSpace x = true := by
      intro x hx
      rcases List.mem_append.mp hx with hx | hx
      · exact ht x hx
      · exact List.mem_singleton.mp hx ▸ hc
    rw [List.dropWhile_eq_nil_iff.mpr ht, List.dropWhile_eq_nil_iff.mpr hboth]
  · have hne : t.dropWhile isSpace ≠ [] := fun h => ht (List.dropWhile_eq_nil_iff.mp h)
    have hdrop : (t ++ [c]).dropWhile isSpace = t.dropWhile isSpace ++ [c] := by
      rw [List.dropWhile_append]
      simp [hne]
    rw [hdrop, List.rdropWhile_concat_pos _ _ _ hc]

/-- Stripping takes characters away and adds none. -/
theorem mem_of_mem_strip {c : Char} {line : Text} (h : c ∈ strip line) : c ∈ line :=
  (List.dropWhile_suffix isSpace).subset ((List.rdropWhile_prefix isSpace _).subset h)

end Python
end StgEnvironment
