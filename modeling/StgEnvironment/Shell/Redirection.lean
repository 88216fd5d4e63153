import StgEnvironment.Lib.Text

/-!
# `Shell.Redirection`: which words of a command belong to its redirections

Before anything is expanded, bash cuts a command into tokens. Digits directly in front of `<` or `>` are a file
descriptor (`lexFrom_descriptor`). In front of `&>`, which redirects both outputs, they are a word of their own
(`lexFrom_both`). The word behind a redirection is its target, and the other words are the command (`wordsOfCommand`).

Covered are plain words, double quotes, the redirections `<`, `>` and `&>`, and the one-character operators that end
a command.
-/

namespace StgEnvironment
namespace Shell

/-- A token of a command. Which redirections there are, and what they leave of the words, is decided at this level. -/
inductive Token
  /-- A word, with its quotes. -/
  | word (w : Word)
  /-- `<` or `>`, and the descriptor in front of it. -/
  | redirect (descriptor : Option Word) (operator : Char)
  /-- `&>`. -/
  | both
  /-- What ends a command. -/
  | control (operator : Char)
deriving DecidableEq

/-- The word that was being read. -/
def flush (cur : Word) : List Token := if cur = [] then [] else [.word cur]

/-- The tokens behind the part `cur` of a word, within quotes or not. -/
def lexFrom : Bool → Word → Text → List Token
  | _, cur, [] => flush cur
  | true, cur, c :: t => lexFrom (c != '"') (cur ++ [c]) t
  | false, cur, '&' :: '>' :: t => flush cur ++ .both :: lexFrom false [] t
  | false, cur, c :: t =>
      if c = '"' then lexFrom true (cur ++ [c]) t
      else if isBlank c then flush cur ++ lexFrom false [] t
      else if c = '<' ∨ c = '>' then
        if cur ≠ [] ∧ cur.all Char.isDigit = true then .redirect (some cur) c :: lexFrom false [] t
        else flush cur ++ .redirect none c :: lexFrom false [] t
      else if c ∈ ['&', ';', '|', '(', ')'] then flush cur ++ .control c :: lexFrom false [] t
      else lexFrom false (cur ++ [c]) t

def lex (command : Text) : List Token := lexFrom false [] command

/-- The words of the first command, without the targets of its redirections. -/
def wordsOfCommand : List Token → List Word
  | .word w :: ts => w :: wordsOfCommand ts
  | .redirect _ _ :: .word _ :: ts => wordsOfCommand ts
  | .both :: .word _ :: ts => wordsOfCommand ts
  | _ => []

/-! ## Numbers in front of a redirection -/

theorem lexFrom_digits {n : Word} (h : n.all Char.isDigit = true) (cur : Word) (t : Text) :
    lexFrom false cur (n ++ t) = lexFrom false (cur ++ n) t := by
  induction n generalizing cur with
  | nil => rw [List.nil_append, List.append_nil]
  | cons c n ih =>
      rw [List.all_cons, Bool.and_eq_true] at h
      have hother : ∀ d : Char, d.isDigit = false → c ≠ d := fun _ => ne_of_isDigit h.1
      have hone : lexFrom false cur (c :: (n ++ t)) = lexFrom false (cur ++ [c]) (n ++ t) := by
        rw [lexFrom]
        · simp [hother '"' rfl, isBlank_of_isDigit h.1, hother '<' rfl, hother '>' rfl, hother '&' rfl,
            hother ';' rfl, hother '|' rfl, hother '(' rfl, hother ')' rfl]
        · intro t' hamp
          exact absurd hamp (hother '&' rfl)
      rw [List.cons_append, hone, ih h.2, List.append_assoc, List.singleton_append]

/-- **In front of `>` they are a descriptor.** -/
theorem lexFrom_descriptor {n : Word} (hne : n ≠ []) (h : n.all Char.isDigit = true) (t : Text) :
    lexFrom false [] (n ++ '>' :: t) = .redirect (some n) '>' :: lexFrom false [] t := by
  have hgt : isBlank '>' = false := rfl
  rw [lexFrom_digits h, List.nil_append, lexFrom]
  · rw [if_neg (by decide), if_neg (by rw [hgt]; exact Bool.false_ne_true), if_pos (Or.inr rfl), if_pos ⟨hne, h⟩]
  · intro t' heq
    cases heq

/-- **In front of `&>` they are a word.** -/
theorem lexFrom_both {n : Word} (hne : n ≠ []) (h : n.all Char.isDigit = true) (t : Text) :
    lexFrom false [] (n ++ '&' :: '>' :: t) = .word n :: .both :: lexFrom false [] t := by
  rw [lexFrom_digits h, List.nil_append, lexFrom, flush, if_neg hne, List.singleton_append]

end Shell
end StgEnvironment
