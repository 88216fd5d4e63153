import StgEnvironment.Lib.Text

/-!
# `Python.Pattern`: regular expressions of literal characters and dots

`search` is `re.search`, `dotStarMatch` is `re.match` of the pattern behind `.*`. A dot matches a blank as well,
so a match may cross a blank between two words; it cannot cross two of them when the pattern has no two
neighbours that both match a blank (`Gapless`), and then searching a text cut at a double blank is searching its
two parts (`search_append_gap`).
-/

namespace StgEnvironment
namespace Python

/-- One character of a pattern: a dot is any character but a newline. -/
def charMatches (p c : Char) : Bool := if p = '.' then c != '\n' else p == c

/-- The pattern matches at the start of the text. -/
def startsWith : Text → Text → Bool
  | [], _ => true
  | _ :: _, [] => false
  | p :: pattern, c :: t => charMatches p c && startsWith pattern t

/-- `re.search(pattern, text)`. -/
def search (pattern : Text) : Text → Bool
  | [] => startsWith pattern []
  | c :: t => startsWith pattern (c :: t) || search pattern t

/-- `re.compile('.*' + pattern).match(text)`. -/
def dotStarMatch (pattern : Text) : Text → Bool
  | [] => startsWith pattern []
  | c :: t => startsWith pattern (c :: t) || (c != '\n' && dotStarMatch pattern t)

/-- The pattern cannot go over a double blank: it starts with no blank, ends with none, and has no two neighbours
that match one. -/
def Gapless (pattern : Text) : Prop :=
  (pattern.head?.any fun p => !charMatches p ' ') = true ∧
    ∀ rest ∈ pattern.tails, rest ≠ [] → startsWith (rest.take 2) [' ', ' '] = false

instance (pattern : Text) : Decidable (Gapless pattern) := by unfold Gapless; infer_instance

/-! ## On one line -/

/-- On one line, `.*` reaches every position. -/
theorem dotStarMatch_eq_search {pattern t : Text} (h : '\n' ∉ t) :
    dotStarMatch pattern t = search pattern t := by
  induction t with
  | nil => rfl
  | cons c t ih =>
      have hne : c ≠ '\n' := fun heq => h (heq ▸ List.mem_cons_self ..)
      have hc : (c != '\n') = true := bne_iff_ne.mpr hne
      rw [dotStarMatch, search, ih fun hmem => h (List.mem_cons_of_mem _ hmem), hc, Bool.true_and]

theorem startsWith_append {pattern t : Text} (u : Text) (h : startsWith pattern t = true) :
    startsWith pattern (t ++ u) = true := by
  induction pattern generalizing t with
  | nil => rfl
  | cons p pattern ih =>
      cases t with
      | nil => cases h
      | cons c t =>
          obtain ⟨hc, ht⟩ := Bool.and_eq_true_iff.mp h
          exact Bool.and_eq_true_iff.mpr ⟨hc, ih ht⟩

/-- What is found in the beginning of a text is found in the text. -/
theorem search_append {pattern t : Text} (u : Text) (h : search pattern t = true) :
    search pattern (t ++ u) = true := by
  induction t with
  | nil =>
      -- a pattern that matches nothing at all is empty
      cases pattern with
      | nil => cases u <;> rfl
      | cons p pattern => cases h
  | cons c t ih =>
      rcases Bool.or_eq_true_iff.mp h with hs | hs
      · exact Bool.or_eq_true_iff.mpr (Or.inl (startsWith_append u hs))
      · exact Bool.or_eq_true_iff.mpr (Or.inr (ih hs))

/-! ## Across a double blank -/

/-- A pattern that starts with two blanks or less cannot match at a double blank. -/
theorem startsWith_blanks {pattern b : Text} (h : startsWith (pattern.take 2) [' ', ' '] = false) :
    startsWith pattern (' ' :: ' ' :: b) = false := by
  match pattern with
  | [] => exact h
  | [p] => simpa [startsWith] using h
  | p :: q :: rest =>
      have hpq : (charMatches p ' ' && charMatches q ' ') = false := by simpa [startsWith] using h
      rw [startsWith, startsWith, ← Bool.and_assoc, hpq, Bool.false_and]

/-- A match at the start of the first part does not reach the second. -/
theorem startsWith_append_gap {pattern : Text}
    (h : ∀ rest ∈ pattern.tails, rest ≠ [] → startsWith (rest.take 2) [' ', ' '] = false) (a b : Text) :
    startsWith pattern (a ++ ' ' :: ' ' :: b) = startsWith pattern a := by
  induction a generalizing pattern with
  | nil =>
      cases pattern with
      | nil => rfl
      | cons p pattern =>
          rw [List.nil_append, startsWith_blanks (h _ (by simp) (by simp))]; rfl
  | cons c a ih =>
      cases pattern with
      | nil => rfl
      | cons p pattern =>
          have hrest : ∀ rest ∈ pattern.tails, rest ≠ [] → startsWith (rest.take 2) [' ', ' '] = false :=
            fun rest hmem => h rest (by simpa using Or.inr hmem)
          rw [List.cons_append, startsWith, startsWith, ih hrest]

theorem search_cons_blank {pattern : Text} (h : Gapless pattern) (t : Text) :
    search pattern (' ' :: t) = search pattern t := by
  cases pattern with
  | nil => simp [Gapless] at h
  | cons p pattern =>
      have hp : charMatches p ' ' = false := by simpa using h.1
      rw [search, startsWith, hp, Bool.false_and, Bool.false_or]

/-- **Searching a text cut at a double blank is searching its two parts.** -/
theorem search_append_gap {pattern : Text} (h : Gapless pattern) (a b : Text) :
    search pattern (a ++ ' ' :: ' ' :: b) = (search pattern a || search pattern b) := by
  induction a with
  | nil =>
      have hnil : search pattern [] = false := by
        cases pattern with
        | nil => simp [Gapless] at h
        | cons p pattern => rfl
      rw [List.nil_append, search_cons_blank h, search_cons_blank h, hnil, Bool.false_or]
  | cons c a ih =>
      have hstart := startsWith_append_gap h.2 (c :: a) b
      rw [List.cons_append] at hstart
      rw [List.cons_append, search, search, hstart, ih, Bool.or_assoc]

end Python
end StgEnvironment
