import StgEnvironment.Lib.Text

/-!
# `Puppet.Regex`: regular expressions that begin with `^`

A pattern is a list of items: characters that stand for themselves, and classes of characters with bounds on how often
they are repeated. `^` is the start of a line, and nothing is said about what is behind a match: `matchesLine_iff` is
the meaning of `name =~ /^.../`, and `Matches` that of the items.

The matcher tries all numbers of repetitions, so that it finds a match if there is one; whether the engine of Ruby is
greedy makes no difference to that. Two patterns whose items differ at some place before any repetition cannot match at
one place (`not_matchesAt_of_apart`).
-/

namespace StgEnvironment
namespace Puppet

/-- An item of a pattern. -/
inductive Item
  | char (c : Char)
  /-- `[class]{least,most}`, without an upper bound for `none`. -/
  | repeated (within : Char → Bool) (least : ℕ) (most : Option ℕ)

abbrev Pattern := List Item

/-- The characters of `t`. -/
def literal (t : Text) : Pattern := t.map Item.char

/-- The pattern matches at the beginning of the text. A repetition is tried with every number of characters that the
    text has, so that no search goes back. -/
def matchesAt : Pattern → Text → Bool
  | [], _ => true
  | .char _ :: _, [] => false
  | .char c :: p, d :: t => c == d && matchesAt p t
  | .repeated within least most :: p, t =>
      (List.range (t.length + 1)).any fun k =>
        decide (least ≤ k) && decide (∀ m ∈ most, k ≤ m) && (t.take k).all within && matchesAt p (t.drop k)

/-- The text behind each newline. -/
def behindNewlines : Text → List Text
  | [] => []
  | c :: t => if c = '\n' then t :: behindNewlines t else behindNewlines t

/-- `t =~ /^pattern/`. -/
def matchesLine (p : Pattern) (t : Text) : Bool := (t :: behindNewlines t).any (matchesAt p)

/-! ## What a pattern means -/

/-- The texts that a pattern stands for, as a relation; `matchesAt` decides whether a text begins with one. -/
inductive Matches : Pattern → Text → Prop
  | nil : Matches [] []
  | char {c : Char} {p : Pattern} {t : Text} (rest : Matches p t) : Matches (.char c :: p) (c :: t)
  | repeated {within : Char → Bool} {least : ℕ} {most : Option ℕ} {p : Pattern} {s t : Text}
      (all : s.all within = true) (enough : least ≤ s.length) (few : ∀ m ∈ most, s.length ≤ m)
      (rest : Matches p t) : Matches (.repeated within least most :: p) (s ++ t)

/-- `t` is what is behind the start of a line of `u ++ t`. -/
def LineStart (u : Text) : Prop := u = [] ∨ ∃ u', u = u' ++ ['\n']

/-- A pattern matches a text if it describes what the text starts with. By induction on the pattern, for all texts. -/
theorem matchesAt_iff {p : Pattern} {t : Text} : matchesAt p t = true ↔ ∃ s rest, t = s ++ rest ∧ Matches p s := by
  induction p generalizing t with
  | nil => exact ⟨fun _ => ⟨[], t, rfl, .nil⟩, fun _ => rfl⟩
  | cons i p ih =>
      cases i with
      | char c =>
          cases t with
          | nil =>
              refine ⟨fun h => absurd h Bool.false_ne_true, ?_⟩
              rintro ⟨s, rest, hnil, hs⟩
              cases hs
              cases hnil
          | cons d t =>
              rw [matchesAt, Bool.and_eq_true, beq_iff_eq, ih]
              constructor
              · rintro ⟨rfl, s, rest, rfl, hs⟩
                exact ⟨c :: s, rest, rfl, .char hs⟩
              · rintro ⟨s, rest, hcons, hs⟩
                cases hs with
                | char hs =>
                    obtain ⟨rfl, rfl⟩ := List.cons.inj hcons
                    exact ⟨rfl, _, rest, rfl, hs⟩
      | repeated within least most =>
          simp only [matchesAt, List.any_eq_true, List.mem_range, Bool.and_eq_true, decide_eq_true_iff, ih]
          constructor
          · rintro ⟨k, hk, ⟨⟨hleast, hmost⟩, hall⟩, s, rest, hdrop, hs⟩
            have hlen : (t.take k).length = k := List.length_take_of_le (by omega)
            refine ⟨t.take k ++ s, rest, ?_, .repeated hall (by omega) (fun m hm => by rw [hlen]; exact hmost m hm) hs⟩
            rw [List.append_assoc, ← hdrop, List.take_append_drop]
          · rintro ⟨s, rest, rfl, hs⟩
            cases hs with
            | @repeated _ _ _ _ s₁ s₂ hall henough hfew hs =>
                refine ⟨s₁.length, by simp, ⟨⟨henough, hfew⟩, ?_⟩, s₂, rest, ?_, hs⟩
                · simpa using hall
                · simp

theorem mem_behindNewlines_iff {t v : Text} : v ∈ behindNewlines t ↔ ∃ u, t = u ++ '\n' :: v := by
  induction t with
  | nil =>
      refine ⟨fun h => absurd h List.not_mem_nil, ?_⟩
      rintro ⟨u, h⟩
      simp at h
  | cons c t ih =>
      have hcons : (∃ u, c :: t = u ++ '\n' :: v) ↔ (c = '\n' ∧ v = t) ∨ ∃ u, t = u ++ '\n' :: v := by
        constructor
        · rintro ⟨u, h⟩
          cases u with
          | nil =>
              obtain ⟨rfl, rfl⟩ := List.cons.inj h
              exact Or.inl ⟨rfl, rfl⟩
          | cons d u => exact Or.inr ⟨u, (List.cons.inj h).2⟩
        · rintro (⟨rfl, rfl⟩ | ⟨u, rfl⟩)
          · exact ⟨[], rfl⟩
          · exact ⟨c :: u, rfl⟩
      rw [hcons, behindNewlines]
      by_cases hc : c = '\n'
      · rw [if_pos hc, List.mem_cons, ih]
        simp [hc]
      · rw [if_neg hc, ih]
        simp [hc]

/-- **A match is somewhere behind the start of a line.** -/
theorem matchesLine_iff {p : Pattern} {t : Text} :
    matchesLine p t = true ↔ ∃ u s rest, t = u ++ (s ++ rest) ∧ LineStart u ∧ Matches p s := by
  rw [matchesLine, List.any_cons, Bool.or_eq_true, List.any_eq_true]
  constructor
  · rintro (h | ⟨v, hv, h⟩)
    · obtain ⟨s, rest, rfl, hs⟩ := matchesAt_iff.mp h
      exact ⟨[], s, rest, rfl, Or.inl rfl, hs⟩
    · obtain ⟨u, rfl⟩ := mem_behindNewlines_iff.mp hv
      obtain ⟨s, rest, rfl, hs⟩ := matchesAt_iff.mp h
      exact ⟨u ++ ['\n'], s, rest, by simp, Or.inr ⟨u, rfl⟩, hs⟩
  · rintro ⟨u, s, rest, rfl, rfl | ⟨u, rfl⟩, hs⟩
    · exact Or.inl (matchesAt_iff.mpr ⟨s, rest, rfl, hs⟩)
    · exact Or.inr ⟨s ++ rest, mem_behindNewlines_iff.mpr ⟨u, by simp⟩, matchesAt_iff.mpr ⟨s, rest, rfl, hs⟩⟩

/-! ## The items of a pattern -/

theorem matches_literal_append {w : Text} {p : Pattern} {t : Text} :
    Matches (literal w ++ p) t ↔ ∃ s, t = w ++ s ∧ Matches p s := by
  induction w generalizing t with
  | nil => exact ⟨fun h => ⟨t, rfl, h⟩, fun ⟨_, rfl, h⟩ => h⟩
  | cons c w ih =>
      constructor
      · intro h
        cases h with
        | char h =>
            obtain ⟨s, rfl, hs⟩ := ih.mp h
            exact ⟨s, rfl, hs⟩
      · rintro ⟨s, rfl, hs⟩
        exact .char (ih.mpr ⟨s, rfl, hs⟩)

/-- A repeated class stands for so many characters of it, and what follows for the rest. -/
theorem matches_repeated {within : Char → Bool} {least : ℕ} {most : Option ℕ} {p : Pattern} {t : Text} :
    Matches (.repeated within least most :: p) t ↔
      ∃ s rest, t = s ++ rest ∧ s.all within = true ∧ least ≤ s.length ∧ (∀ m ∈ most, s.length ≤ m) ∧
        Matches p rest := by
  constructor
  · intro h
    cases h with
    | repeated hall henough hfew hrest => exact ⟨_, _, rfl, hall, henough, hfew, hrest⟩
  · rintro ⟨s, rest, rfl, hall, henough, hfew, hrest⟩
    exact .repeated hall henough hfew hrest

theorem matches_nil {t : Text} : Matches [] t ↔ t = [] := by
  constructor
  · intro h
    cases h
    rfl
  · rintro rfl
    exact .nil

/-! ## Patterns that exclude each other -/

def between (a b c : Char) : Bool := decide (a ≤ c) && decide (c ≤ b)

/-- There is a place at which the patterns ask for different characters. -/
def apart : Pattern → Pattern → Bool
  | .char c :: p, .char d :: q => c != d || apart p q
  | .char c :: p, .repeated within 1 (some 1) :: q => !within c || apart p q
  | .repeated within 1 (some 1) :: p, .char c :: q => !within c || apart p q
  | _, _ => false

theorem matchesAt_char {c : Char} {p : Pattern} {t : Text} (h : matchesAt (.char c :: p) t = true) :
    ∃ rest, t = c :: rest ∧ matchesAt p rest = true := by
  cases t with
  | nil => cases h
  | cons d t =>
      rw [matchesAt, Bool.and_eq_true, beq_iff_eq] at h
      obtain ⟨rfl, h⟩ := h
      exact ⟨t, rfl, h⟩

/-- A pattern with a class at its start that is not repeated. -/
theorem matchesAt_once {within : Char → Bool} {p : Pattern} {t : Text}
    (h : matchesAt (.repeated within 1 (some 1) :: p) t = true) :
    ∃ c rest, t = c :: rest ∧ within c = true ∧ matchesAt p rest = true := by
  obtain ⟨s, rest, rfl, hs⟩ := matchesAt_iff.mp h
  obtain ⟨u, v, rfl, hall, hleast, hmost, hv⟩ := matches_repeated.mp hs
  have hlen : u.length = 1 := Nat.le_antisymm (hmost 1 rfl) hleast
  obtain ⟨c, rfl⟩ := List.length_eq_one_iff.mp hlen
  refine ⟨c, v ++ rest, rfl, ?_, matchesAt_iff.mpr ⟨v, rest, rfl, hv⟩⟩
  simpa using hall

theorem not_matchesAt_of_apart {p q : Pattern} (h : apart p q = true) {t : Text} (hp : matchesAt p t = true) :
    matchesAt q t = false := by
  rw [Bool.eq_false_iff]
  intro hq
  induction p, q using apart.induct generalizing t with
  | case1 c p d q ih =>
      obtain ⟨rest, rfl, hp'⟩ := matchesAt_char hp
      obtain ⟨rest', hrest, hq'⟩ := matchesAt_char hq
      obtain ⟨rfl, rfl⟩ := List.cons.inj hrest
      rw [apart, bne_self_eq_false, Bool.false_or] at h
      exact ih h hp' hq'
  | case2 c p within q ih =>
      obtain ⟨rest, rfl, hp'⟩ := matchesAt_char hp
      obtain ⟨d, rest', hrest, hwithin, hq'⟩ := matchesAt_once hq
      obtain ⟨rfl, rfl⟩ := List.cons.inj hrest
      rw [apart, hwithin, Bool.not_true, Bool.false_or] at h
      exact ih h hp' hq'
  | case3 within p c q ih =>
      obtain ⟨rest, rfl, hq'⟩ := matchesAt_char hq
      obtain ⟨d, rest', hrest, hwithin, hp'⟩ := matchesAt_once hp
      obtain ⟨rfl, rfl⟩ := List.cons.inj hrest
      rw [apart, hwithin, Bool.not_true, Bool.false_or] at h
      exact ih h hp' hq'
  | case4 p q h1 h2 h3 =>
      rw [apart] at h
      · cases h
      all_goals assumption

/-- In a text of one line there is one place to match. -/
theorem matchesLine_eq_matchesAt {p : Pattern} {t : Text} (h : '\n' ∉ t) : matchesLine p t = matchesAt p t := by
  have hnone : behindNewlines t = [] := by
    refine List.eq_nil_iff_forall_not_mem.mpr fun v hv => h ?_
    obtain ⟨u, rfl⟩ := mem_behindNewlines_iff.mp hv
    exact List.mem_append_right _ (List.mem_cons_self ..)
  rw [matchesLine, hnone, List.any_cons, List.any_nil, Bool.or_false]

end Puppet
end StgEnvironment
