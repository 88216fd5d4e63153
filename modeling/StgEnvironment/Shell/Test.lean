import StgEnvironment.Lib.Decimal

/-!
# `Shell.Test`: the builtin `[` of bash

`[` does not see the expression its author wrote. It sees a list of arguments, and which expression they
form depends on how many there are: with up to four arguments the POSIX table decides, beyond that a
recursive descent over `-o`, `-a`, `!` and parentheses. An argument list that forms no expression is an
error with exit status 2, which an `if` takes for false.

The descent runs on fuel. `posixtest_ne_exhausted` shows that the fuel `test` gives it is always enough.

## Contents
- **The builtin**: operators, numbers and files, the descent, and the table for up to four arguments, under the words
  of its source in bash.
- **The fuel**: what each part of the descent takes of its arguments, by induction on the fuel.
- **A comparison at the end**: what `[ … != x ]` is for any words in front of the operator, which is what an unquoted
  variable leaves there: none, one, two, or several of which none is an operator (`test_of_no_operator`).
- **Numbers**: `-ge`, `-ne` and `-z` on what scripts compare with them.
-/

namespace StgEnvironment
namespace Shell

/-- The primaries whose value is not a function of their arguments: file tests and the like. -/
structure Files where
  /-- `-e f`, `-v name`, `-t fd` and the other unary primaries but `-n` and `-z`. -/
  unary : Char → Word → Bool
  /-- `-nt`, `-ot`, `-ef` on two files, named by their letters. -/
  newer : Word → Word → Word → Bool
  /-- The collation order of the locale, for `<` and `>`. -/
  before : Word → Word → Bool

/-- A system on which no such primary is true. -/
def Files.empty : Files := ⟨fun _ _ => false, fun _ _ _ => false, fun _ _ => false⟩

/-- Why an argument list has no truth value. -/
inductive Stop where
  | syntaxError
  | exhausted
deriving DecidableEq

/-- The exit status of `[`: 0 for true, 1 for false, 2 for an error. -/
inductive Status where
  | yes | no | error
deriving DecidableEq

/-- The letters that make `-x` a unary primary (`test_unop`). -/
def unaryLetters : List Char := "abcdefghknoprstuvwxzGLOSNR".toList

/-- `test_unop`: the letter of a unary primary. -/
def test_unop : Word → Option Char
  | ['-', c] => if c ∈ unaryLetters then some c else none
  | _ => none

def test_binop (op : Word) : Bool :=
  ["=", "==", "!=", "<", ">", "-nt", "-ot", "-ef", "-eq", "-ne", "-lt", "-le", "-gt", "-ge"].any
    (fun o => o.toList == op)

/-- `legal_number`: a decimal integer that fits 64 bits, with blanks around it. -/
def legal_number (w : Word) : Option Int :=
  let w := w.dropWhile (fun c => isBlank c || c == '\r' || c == '\x0b' || c == '\x0c')
  let w := (w.reverse.dropWhile (fun c => c == ' ' || c == '\t')).reverse
  let (sign, digits) := match w with
    | '-' :: ds => ((-1 : Int), ds)
    | '+' :: ds => (1, ds)
    | ds => (1, ds)
  let n := sign * Nat.ofDigitChars 10 digits 0
  if digits ≠ [] ∧ digits.all Char.isDigit ∧ -(2 ^ 63) ≤ n ∧ n < 2 ^ 63 then some n else none

/-- `arithcomp`: both operands have to be integers. -/
def arithcomp (cmp : Int → Int → Bool) (a b : Word) : Except Stop Bool :=
  match legal_number a, legal_number b with
  | some m, some n => .ok (cmp m n)
  | _, _ => .error .syntaxError

def binary_test (fs : Files) (op a b : Word) : Except Stop Bool :=
  if op = "=".toList ∨ op = "==".toList then .ok (a == b)
  else if op = "!=".toList then .ok (a != b)
  else if op = "<".toList then .ok (fs.before a b)
  else if op = ">".toList then .ok (fs.before b a)
  else if op = "-eq".toList then arithcomp (· == ·) a b
  else if op = "-ne".toList then arithcomp (· != ·) a b
  else if op = "-lt".toList then arithcomp (· < ·) a b
  else if op = "-le".toList then arithcomp (· ≤ ·) a b
  else if op = "-gt".toList then arithcomp (· > ·) a b
  else if op = "-ge".toList then arithcomp (· ≥ ·) a b
  else .ok (fs.newer op a b)

def unary_test (fs : Files) (c : Char) (a : Word) : Bool :=
  if c = 'n' then !a.isEmpty else if c = 'z' then a.isEmpty else fs.unary c a

/-- A truth value and the arguments not yet consumed. -/
abbrev Parsed := Except Stop (Bool × List Word)

/-- `unary_operator` on the arguments behind the primary; `-t` takes its argument only if it is a number. -/
def unary_operator (fs : Files) (c : Char) (a : Word) (rest : List Word) : Bool × List Word :=
  if c = 't' ∧ legal_number a = none then (false, a :: rest) else (unary_test fs c a, rest)

/-- A term that is neither a negation nor a parenthesis: a binary primary if enough arguments are left, a
    unary one, or a string. -/
def primary (fs : Files) (a : Word) (rest : List Word) : Parsed :=
  match rest with
  | op :: b :: rest' =>
      if test_binop op then (binary_test fs op a b).map (·, rest')
      else match test_unop a with
        | some c => .ok (unary_operator fs c op (b :: rest'))
        | none => .ok (!a.isEmpty, rest)
  | [b] =>
      match test_unop a with
      | some c => .ok (unary_operator fs c b [])
      | none => .ok (!a.isEmpty, rest)
  | [] => .ok (!a.isEmpty, rest)

/-- Operands joined by the token `tok`, grouped to the right: the shape of both `or` and `and`. -/
def chain (tok : Word) (f : Bool → Bool → Bool) (first : Parsed) (again : List Word → Parsed) : Parsed :=
  match first with
  | .error e => .error e
  | .ok (v, []) => .ok (v, [])
  | .ok (v, op :: rest) =>
      if op = tok then
        match again rest with
        | .error e => .error e
        | .ok (v₂, rest₂) => .ok (f v v₂, rest₂)
      else .ok (v, op :: rest)

mutual

/-- `or`: conjunctions joined by `-o`. -/
def orExpr (fs : Files) : Nat → List Word → Parsed
  | 0, _ => .error .exhausted
  | fuel + 1, args => chain "-o".toList (· || ·) (andExpr fs fuel args) (orExpr fs fuel)

/-- `and`: terms joined by `-a`. -/
def andExpr (fs : Files) : Nat → List Word → Parsed
  | 0, _ => .error .exhausted
  | fuel + 1, args => chain "-a".toList (· && ·) (term fs fuel args) (andExpr fs fuel)

/-- `term`: a negation, a parenthesis, a primary or a string. It leaves over what it has not read. The fuel bounds the
    nesting. -/
def term (fs : Files) : Nat → List Word → Parsed
  | 0, _ => .error .exhausted
  | _ + 1, [] => .error .syntaxError
  | fuel + 1, a :: rest =>
      if a = "!".toList then
        match term fs fuel rest with
        | .error e => .error e
        | .ok (v, rest') => .ok (!v, rest')
      else if a = "(".toList then
        match orExpr fs fuel rest with
        | .error e => .error e
        | .ok (_, []) => .error .syntaxError
        | .ok (v, close :: rest') => if close = ")".toList then .ok (v, rest') else .error .syntaxError
      else primary fs a rest

end

/-- `expr` on a whole argument list: every argument has to be consumed. -/
def expr (fs : Files) (args : List Word) : Except Stop Bool :=
  match orExpr fs (3 * args.length + 3) args with
  | .error e => .error e
  | .ok (v, rest) => if rest = [] then .ok v else .error .syntaxError

def two_arguments (fs : Files) (a b : Word) : Except Stop Bool :=
  if a = "!".toList then .ok b.isEmpty
  else match test_unop a with
    | some c => .ok (unary_operator fs c b []).1
    | none => .error .syntaxError

/-- `three_arguments`, in the order of the source: an operator in the middle comes before a negation or a parenthesis
    around. -/
def three_arguments (fs : Files) (a op b : Word) : Except Stop Bool :=
  if test_binop op then binary_test fs op a b
  else if op = "-a".toList then .ok (!a.isEmpty && !b.isEmpty)
  else if op = "-o".toList then .ok (!a.isEmpty || !b.isEmpty)
  else if a = "!".toList then (!·) <$> two_arguments fs op b
  else if a = "(".toList ∧ b.head? = some ')' then .ok (!op.isEmpty)
  else .error .syntaxError

/-- `posixtest`: the number of arguments selects the reading. From five arguments on, and for some of four, it is the
    grammar of expressions. -/
def posixtest (fs : Files) : List Word → Except Stop Bool
  | [] => .ok false
  | [a] => .ok (!a.isEmpty)
  | [a, b] => two_arguments fs a b
  | [a, op, b] => three_arguments fs a op b
  | [a, b, c, d] =>
      if a = "!".toList then (!·) <$> three_arguments fs b c d
      else if a = "(".toList ∧ d = ")".toList then two_arguments fs b c
      else expr fs [a, b, c, d]
  | args => expr fs args

/-- The builtin `[`, on the arguments before the closing bracket. An error is neither true nor false, and a condition
    of the shell takes it for false. -/
def test (fs : Files) (args : List Word) : Status :=
  match posixtest fs args with
  | .ok true => .yes
  | .ok false => .no
  | .error _ => .error

/-! ## What a step of the descent leaves over

The inversions below say which arguments are left when a step succeeds. They carry both the proof that the
fuel is enough and every later proof that some argument list forms no expression. -/

/-- What a chain returns: its first operand, or that and the rest of the chain. -/
theorem chain_ok {tok : Word} {f : Bool → Bool → Bool} {first : Parsed} {again : List Word → Parsed}
    {v : Bool} {rest : List Word} (h : chain tok f first again = .ok (v, rest)) :
    ∃ v₁ rest₁, first = .ok (v₁, rest₁) ∧
      (rest = rest₁ ∨ ∃ v₂ rest', rest₁ = tok :: rest' ∧ again rest' = .ok (v₂, rest)) := by
  unfold chain at h
  split at h
  · cases h
  · rename_i v₁; cases h; exact ⟨v, [], rfl, Or.inl rfl⟩
  · rename_i v₁ op rest₁
    split at h
    · rename_i hop
      subst hop
      split at h
      · cases h
      · rename_i v₂ rest₂ hag
        cases h
        exact ⟨v₁, _, rfl, Or.inr ⟨v₂, rest₁, rfl, hag⟩⟩
    · cases h; exact ⟨v, _, rfl, Or.inl rfl⟩

theorem unary_operator_rest (fs : Files) (c : Char) (a : Word) (rest : List Word) :
    (unary_operator fs c a rest).2 = rest ∨ (unary_operator fs c a rest).2 = a :: rest := by
  unfold unary_operator
  split
  · exact Or.inr rfl
  · exact Or.inl rfl

/-- What a primary consumes behind its first argument: nothing, one argument, or an operator and one. -/
theorem primary_ok {fs : Files} {a : Word} {tl : List Word} {v : Bool} {rest : List Word}
    (h : primary fs a tl = .ok (v, rest)) :
    rest = tl ∨ (∃ b, tl = b :: rest ∧ (test_unop a).isSome) ∨
      ∃ op b, tl = op :: b :: rest ∧ test_binop op = true := by
  unfold primary at h
  split at h
  · rename_i op b rest'
    split at h
    · rename_i hop
      cases hb : binary_test fs op a b with
      | error e => rw [hb] at h; cases h
      | ok w => rw [hb] at h; cases h; exact Or.inr (Or.inr ⟨op, b, rfl, hop⟩)
    · split at h
      · rename_i c hc
        have hrest : (unary_operator fs c op (b :: rest')).2 = rest := by injection h with h; rw [h]
        rcases unary_operator_rest fs c op (b :: rest') with he | he
        · exact Or.inr (Or.inl ⟨op, by rw [← hrest, he], by simp [hc]⟩)
        · exact Or.inl (by rw [← hrest, he])
      · cases h; exact Or.inl rfl
  · rename_i b
    split at h
    · rename_i c hc
      have hrest : (unary_operator fs c b []).2 = rest := by injection h with h; rw [h]
      rcases unary_operator_rest fs c b [] with he | he
      · exact Or.inr (Or.inl ⟨b, by rw [← hrest, he], by simp [hc]⟩)
      · exact Or.inl (by rw [← hrest, he])
    · cases h; exact Or.inl rfl
  · cases h; exact Or.inl rfl

theorem term_ok {fs : Files} {fuel : Nat} {args : List Word} {v : Bool} {rest : List Word}
    (h : term fs (fuel + 1) args = .ok (v, rest)) :
    ∃ a tl, args = a :: tl ∧
      ((a = "!".toList ∧ ∃ w, term fs fuel tl = .ok (w, rest)) ∨
       (a = "(".toList ∧ ∃ w, orExpr fs fuel tl = .ok (w, ")".toList :: rest)) ∨
       (a ≠ "!".toList ∧ a ≠ "(".toList ∧ primary fs a tl = .ok (v, rest))) := by
  cases args with
  | nil => cases h
  | cons a tl =>
      refine ⟨a, tl, rfl, ?_⟩
      unfold term at h
      split at h
      · rename_i ha
        split at h
        · cases h
        · rename_i w rest' ht
          cases h
          exact Or.inl ⟨ha, w, ht⟩
      · rename_i hne
        split at h
        · rename_i ha
          split at h
          · cases h
          · cases h
          · rename_i w close rest' ho
            split at h
            · rename_i hclose
              cases h; subst hclose
              exact Or.inr (Or.inl ⟨ha, v, ho⟩)
            · cases h
        · rename_i hpar
          exact Or.inr (Or.inr ⟨hne, hpar, h⟩)

/-- The same, on arguments that start with `a`. -/
theorem term_cons_ok {fs : Files} {fuel : Nat} {a : Word} {tl : List Word} {v : Bool} {rest : List Word}
    (h : term fs fuel (a :: tl) = .ok (v, rest)) :
    ∃ fuel', (a = "!".toList ∧ ∃ w, term fs fuel' tl = .ok (w, rest)) ∨
      (a = "(".toList ∧ ∃ w, orExpr fs fuel' tl = .ok (w, ")".toList :: rest)) ∨
      (a ≠ "!".toList ∧ a ≠ "(".toList ∧ primary fs a tl = .ok (v, rest)) := by
  cases fuel with
  | zero => cases h
  | succ fuel =>
      obtain ⟨a', tl', heq, hcase⟩ := term_ok h
      obtain ⟨rfl, rfl⟩ := List.cons.inj heq
      exact ⟨fuel, hcase⟩

/-! ## The fuel is enough

Every level of the descent hands on fewer arguments than it got, or fails. So three units of fuel for each argument
suffice, and what stops `[` is always one of its arguments. -/

/-- The step stopped for want of an expression, or it consumed something of `n` arguments. -/
def Parsed.Consumes (n : Nat) (r : Parsed) : Prop :=
  r ≠ .error .exhausted ∧ ∀ v rest, r = .ok (v, rest) → rest.length < n

theorem binary_test_ne_exhausted (fs : Files) (op a b : Word) :
    binary_test fs op a b ≠ .error .exhausted := by
  have harith : ∀ cmp, arithcomp cmp a b ≠ .error .exhausted := by
    intro cmp; unfold arithcomp; split <;> simp
  have hok : ∀ v : Bool, (.ok v : Except Stop Bool) ≠ .error .exhausted := by intro v h; cases h
  have hite : ∀ {p : Prop} [Decidable p] {r r' : Except Stop Bool}, r ≠ .error .exhausted →
      r' ≠ .error .exhausted → (if p then r else r') ≠ .error .exhausted := by
    intro p _ r r' hr hr'
    split
    · exact hr
    · exact hr'
  unfold binary_test
  -- four branches compare texts, six compare numbers, and the last tests files
  refine hite (hok _) (hite (hok _) (hite (hok _) (hite (hok _) ?_)))
  refine hite (harith _) (hite (harith _) (hite (harith _) ?_))
  exact hite (harith _) (hite (harith _) (hite (harith _) (hok _)))

theorem primary_consumes (fs : Files) (a : Word) (tl : List Word) :
    Parsed.Consumes (tl.length + 1) (primary fs a tl) := by
  refine ⟨?_, fun v rest h => ?_⟩
  · unfold primary
    split
    · rename_i op b rest'
      split
      · have hb := binary_test_ne_exhausted fs op a b
        cases hbt : binary_test fs op a b with
        | error e => rw [hbt] at hb; simpa [Except.map] using hb
        | ok w => simp [Except.map]
      · split <;> simp
    · split <;> simp
    · simp
  · rcases primary_ok h with rfl | ⟨b, rfl, -⟩ | ⟨op, b, rfl, -⟩
    · exact Nat.lt_succ_self _
    · simp only [List.length_cons]; omega
    · simp only [List.length_cons]; omega

/-- A chain takes what its operands take, and the tokens between them. -/
theorem chain_consumes {tok : Word} {f : Bool → Bool → Bool} {first : Parsed}
    {again : List Word → Parsed} {n : Nat} (hfirst : first.Consumes n)
    (hagain : ∀ rest, rest.length + 1 < n → (again rest).Consumes rest.length) :
    (chain tok f first again).Consumes n := by
  refine ⟨?_, fun v rest h => ?_⟩
  · unfold chain
    split
    · exact hfirst.1
    · simp
    · rename_i v₁ op rest₁
      split
      · have hlt : rest₁.length + 1 < n := hfirst.2 v₁ _ rfl
        split
        · rename_i e he; rw [← he]; exact (hagain rest₁ hlt).1
        · simp
      · simp
  · obtain ⟨v₁, rest₁, h₁, hrest⟩ := chain_ok h
    have hlt := hfirst.2 v₁ rest₁ h₁
    rcases hrest with rfl | ⟨v₂, rest', rfl, h₂⟩
    · exact hlt
    · rw [List.length_cons] at hlt
      have := (hagain rest' hlt).2 v₂ rest h₂
      omega

/-- Three units of fuel for each argument are enough for every level of the descent. -/
theorem descent_consumes (fs : Files) : ∀ (fuel : Nat) (args : List Word),
    (3 * args.length + 3 ≤ fuel → (orExpr fs fuel args).Consumes args.length) ∧
    (3 * args.length + 2 ≤ fuel → (andExpr fs fuel args).Consumes args.length) ∧
    (3 * args.length + 1 ≤ fuel → (term fs fuel args).Consumes args.length) := by
  intro fuel
  induction fuel with
  | zero => intro args; refine ⟨?_, ?_, ?_⟩ <;> intro h <;> omega
  | succ fuel ih =>
      intro args
      refine ⟨fun hfuel => ?_, fun hfuel => ?_, fun hfuel => ?_⟩
      -- a level hands its arguments down for one unit, and an argument that is consumed pays for three
      · exact chain_consumes ((ih args).2.1 (by omega)) fun rest hlt => (ih rest).1 (by omega)
      · exact chain_consumes ((ih args).2.2 (by omega)) fun rest hlt => (ih rest).2.1 (by omega)
      · cases args with
        | nil => exact ⟨by simp [term], fun v rest h => by simp [term] at h⟩
        | cons a tl =>
            rw [List.length_cons] at hfuel
            have hterm := (ih tl).2.2 (by omega)
            have hor := (ih tl).1 (by omega)
            refine ⟨?_, fun v rest h => ?_⟩
            · unfold term
              split
              · split
                · rename_i e he; rw [← he]; exact hterm.1
                · simp
              · split
                · split
                  · rename_i e he; rw [← he]; exact hor.1
                  · simp
                  · split <;> simp
                · exact (primary_consumes fs a tl).1
            · obtain ⟨a', tl', heq, hcase⟩ := term_ok h
              obtain ⟨rfl, rfl⟩ := List.cons.inj heq
              rw [List.length_cons]
              rcases hcase with ⟨-, w, hw⟩ | ⟨-, w, hw⟩ | ⟨-, -, hp⟩
              · have := hterm.2 w rest hw; omega
              · have := hor.2 w _ hw; rw [List.length_cons] at this; omega
              · exact (primary_consumes fs a tl).2 v rest hp

theorem expr_ne_exhausted (fs : Files) (args : List Word) : expr fs args ≠ .error .exhausted := by
  have hor := ((descent_consumes fs (3 * args.length + 3) args).1 le_rfl).1
  unfold expr
  split
  · rename_i e he; rw [he] at hor; simpa using hor
  · split <;> simp

theorem two_arguments_ne_exhausted (fs : Files) (a b : Word) :
    two_arguments fs a b ≠ .error .exhausted := by
  unfold two_arguments
  split
  · simp
  · split <;> simp

theorem not_ne_exhausted {r : Except Stop Bool} (h : r ≠ .error .exhausted) :
    (!·) <$> r ≠ .error .exhausted := by
  cases r with
  | error e => simpa [Functor.map, Except.map] using h
  | ok v => simp [Functor.map, Except.map]

/-- Three arguments need none but that of the descent. -/
theorem three_arguments_ne_exhausted (fs : Files) (a op b : Word) :
    three_arguments fs a op b ≠ .error .exhausted := by
  unfold three_arguments
  repeat' split
  · exact binary_test_ne_exhausted fs op a b
  · simp
  · simp
  · exact not_ne_exhausted (two_arguments_ne_exhausted fs op b)
  · simp
  · simp

/-- **The fuel of `expr` is never what stops `[`.** -/
theorem posixtest_ne_exhausted (fs : Files) (args : List Word) :
    posixtest fs args ≠ .error .exhausted := by
  unfold posixtest
  repeat' split
  · simp
  · simp
  · exact two_arguments_ne_exhausted fs _ _
  · exact three_arguments_ne_exhausted fs _ _ _
  · exact not_ne_exhausted (three_arguments_ne_exhausted fs _ _ _)
  · exact two_arguments_ne_exhausted fs _ _
  · exact expr_ne_exhausted fs _
  · exact expr_ne_exhausted fs _

/-- **An error of `[` is one of its arguments**, never one of the fuel. -/
theorem test_eq_error_iff (fs : Files) (args : List Word) :
    test fs args = .error ↔ posixtest fs args = .error .syntaxError := by
  have hfuel := posixtest_ne_exhausted fs args
  unfold test
  cases hposix : posixtest fs args with
  | error stop =>
      cases stop with
      | syntaxError => exact iff_of_true rfl rfl
      | exhausted => exact absurd hposix hfuel
  | ok v => cases v <;> exact iff_of_false nofun nofun

/-! ## `[ $a != x ]`, by the number of words of `$a`

Only a single word reads as the comparison that was meant. Without a word there is none; with two words the
arguments form an expression only if the first is `!`; and more words form one only with an operator among
them. -/

/-- The arguments that `[ $a != x ]` gets behind the words of `$a`. -/
def neTail (x : Word) : List Word := ["!=".toList, x]

section NeTail
variable (fs : Files) {x : Word}

theorem test_binop_ne : test_binop "!=".toList = true := by decide

theorem binary_test_ne (a b : Word) : binary_test fs "!=".toList a b = .ok (a != b) := by
  simp [binary_test]

/-- A word and what follows it in the guard are a comparison. -/
theorem primary_neTail (a : Word) : primary fs a (neTail x) = .ok (a != x, []) := by
  simp only [primary, neTail, test_binop_ne, if_true, binary_test_ne]; rfl

/-- **No word**: `!=` is no unary primary. -/
theorem test_neTail_nil : test fs (neTail x) = .error := by
  have h : two_arguments fs "!=".toList x = .error .syntaxError := by
    unfold two_arguments
    rw [if_neg (by decide), show test_unop "!=".toList = none by decide]
  simp only [test, posixtest, neTail, h]

/-- **One word**: the comparison. -/
theorem test_neTail_one (a : Word) : test fs (a :: neTail x) = if a = x then .no else .yes := by
  have h : three_arguments fs a "!=".toList x = .ok (a != x) := by
    simp only [three_arguments, test_binop_ne, if_true, binary_test_ne]
  simp only [test, posixtest, neTail, h]
  by_cases hax : a = x
  · simp [hax]
  · rw [if_neg hax, bne_iff_ne.mpr hax]

/-- What conjunctions and disjunctions that succeed on `args` leave over. -/
structure Leaves (args : List Word) (P : List Word → Prop) : Prop where
  and : ∀ {fuel v rest}, andExpr fs fuel args = .ok (v, rest) → P rest
  or : ∀ {fuel v rest}, orExpr fs fuel args = .ok (v, rest) → P rest

/-- Without arguments there is nothing that succeeds. -/
theorem leaves_nil (P : List Word → Prop) : Leaves fs [] P := by
  have hterm : ∀ fuel v rest, term fs fuel [] ≠ .ok (v, rest) := by
    intro fuel v rest h
    cases fuel <;> cases h
  have hand : ∀ fuel v rest, andExpr fs fuel [] ≠ .ok (v, rest) := by
    intro fuel v rest h
    cases fuel with
    | zero => cases h
    | succ fuel =>
        obtain ⟨v₁, rest₁, ht, -⟩ := chain_ok h
        exact hterm fuel v₁ rest₁ ht
  refine ⟨fun h => absurd h (hand _ _ _), fun {fuel v rest} h => ?_⟩
  cases fuel with
  | zero => cases h
  | succ fuel =>
      obtain ⟨v₁, rest₁, ha, -⟩ := chain_ok h
      exact absurd ha (hand fuel v₁ rest₁)

/-- **What every term leaves over, and every further operand keeps, is left over.** The case analysis over the two
    levels of the grammar above the terms, made once for all that is said about words left over. -/
theorem leaves_of_term {P : List Word → Prop} {args : List Word}
    (hterm : ∀ fuel v rest, term fs fuel args = .ok (v, rest) → P rest)
    (hmore : ∀ tok rest, tok = "-a".toList ∨ tok = "-o".toList → P (tok :: rest) → Leaves fs rest P) :
    Leaves fs args P := by
  have ha : ∀ fuel v rest, andExpr fs fuel args = .ok (v, rest) → P rest := by
    intro fuel v rest h
    cases fuel with
    | zero => cases h
    | succ fuel =>
        obtain ⟨v₁, rest₁, ht, rfl | ⟨v₂, rest', rfl, h₂⟩⟩ := chain_ok h
        · exact hterm fuel v₁ _ ht
        · exact (hmore _ rest' (Or.inl rfl) (hterm fuel v₁ _ ht)).and h₂
  refine ⟨ha _ _ _, fun {fuel v rest} h => ?_⟩
  cases fuel with
  | zero => cases h
  | succ fuel =>
      obtain ⟨v₁, rest₁, ht, rfl | ⟨v₂, rest', rfl, h₂⟩⟩ := chain_ok h
      · exact ha fuel v₁ _ ht
      · exact (hmore _ rest' (Or.inr rfl) (ha fuel v₁ _ ht)).or h₂

/-- A term read from `!=` on leaves the last argument over. -/
theorem term_neTail {fuel : Nat} {v : Bool} {rest : List Word}
    (h : term fs fuel (neTail x) = .ok (v, rest)) : rest = [x] := by
  obtain ⟨fuel', ⟨ha, -⟩ | ⟨ha, -⟩ | ⟨-, -, hp⟩⟩ := term_cons_ok h
  · exact absurd ha (by decide)
  · exact absurd ha (by decide)
  · rcases primary_ok hp with rfl | ⟨b, -, hu⟩ | ⟨op, b, hb, -⟩
    · rfl
    · exact absurd hu (by decide)
    · simp at hb

/-- Read from `!=` on, the last argument is left over. -/
theorem neTail_leaves : Leaves fs (neTail x) (· = [x]) := by
  refine leaves_of_term fs (fun _ _ _ h => term_neTail fs h) fun tok rest _ hr => ?_
  obtain ⟨-, rfl⟩ := List.cons.inj hr
  exact leaves_nil fs _

/-- Behind an opening parenthesis, one word and the tail leave nothing or the last argument. -/
theorem word_neTail_leaves (b : Word) : Leaves fs (b :: neTail x) fun rest => rest = [] ∨ rest = [x] := by
  refine leaves_of_term fs (fun fuel v rest h => ?_) fun tok rest _ hr => ?_
  · obtain ⟨fuel', ⟨-, w, ht⟩ | ⟨-, w, ho⟩ | ⟨-, -, hp⟩⟩ := term_cons_ok h
    · exact Or.inr (term_neTail fs ht)
    · obtain ⟨-, rfl⟩ := List.cons.inj ((neTail_leaves fs).or ho)
      exact Or.inl rfl
    · rw [primary_neTail] at hp
      cases hp
      exact Or.inl rfl
  · rcases hr with hr | hr
    · cases hr
    · obtain ⟨-, rfl⟩ := List.cons.inj hr
      exact leaves_nil fs _

/-- A word that is no `!`, a second word and the tail always leave an argument over. -/
theorem two_words_leave {a b : Word} (ha : a ≠ "!".toList) (hx : x ≠ ")".toList) :
    Leaves fs (a :: b :: neTail x) fun rest => rest = [x] ∨ rest = neTail x ∨ rest = b :: neTail x := by
  refine leaves_of_term fs (fun fuel v rest h => ?_) fun tok rest htok hr => ?_
  · obtain ⟨fuel', ⟨ha', -⟩ | ⟨-, w, ho⟩ | ⟨-, -, hp⟩⟩ := term_cons_ok h
    · exact absurd ha' ha
    -- a parenthesis would have to be closed by the last argument
    · rcases (word_neTail_leaves fs b).or ho with hr | hr
      · cases hr
      · exact absurd (List.cons.inj hr).1.symm hx
    · rcases primary_ok hp with rfl | ⟨c, hc, -⟩ | ⟨op, c, hc, -⟩
      · exact Or.inr (Or.inr rfl)
      · exact Or.inr (Or.inl (List.cons.inj hc).2.symm)
      · exact Or.inl (List.cons.inj (List.cons.inj hc).2).2.symm
  · rcases hr with hr | hr | hr
    · obtain ⟨-, rfl⟩ := List.cons.inj hr
      exact leaves_nil fs _
    · rcases htok with rfl | rfl <;> exact absurd (List.cons.inj hr).1 (by decide)
    · obtain ⟨-, rfl⟩ := List.cons.inj hr
      exact ⟨fun h => Or.inl ((neTail_leaves fs).and h), fun h => Or.inl ((neTail_leaves fs).or h)⟩

/-- **Two words**: true only as the negated comparison `! x != x`. Any other reading leaves words over, or compares
    something else. -/
theorem test_neTail_two {a b : Word} (hx : x ≠ ")".toList) :
    test fs (a :: b :: neTail x) = .yes ↔ a = "!".toList ∧ b = x := by
  by_cases ha : a = "!".toList
  · have h : three_arguments fs b "!=".toList x = .ok (b != x) := by
      simp only [three_arguments, test_binop_ne, if_true, binary_test_ne]
    simp only [test, posixtest, neTail, ha, if_true, h]
    by_cases hb : b = x
    · simp [hb, Functor.map, Except.map]
    · rw [bne_iff_ne.mpr hb]; simp [hb, Functor.map, Except.map]
  · constructor
    · intro h
      exfalso
      have hne : ¬ (a = "(".toList ∧ x = ")".toList) := fun h => hx h.2
      simp only [test, posixtest, neTail, ha, hne, if_false, expr] at h
      cases ho : orExpr fs (3 * [a, b, "!=".toList, x].length + 3) [a, b, "!=".toList, x] with
      | error e => rw [ho] at h; simp at h
      | ok vr =>
          obtain ⟨v, rest⟩ := vr
          rw [ho] at h
          rcases (two_words_leave fs ha hx).or ho with rfl | rfl | rfl <;> simp [neTail] at h
    · intro h; exact absurd h.1 ha

/-- The words that let an expression go on after three arguments. -/
def isOperator (w : Word) : Bool := ["!", "(", "-a", "-o"].any fun o => o.toList == w

/-- Where none of the first four arguments is an operator, the descent stops within three. -/
theorem leaves_of_no_operator {args : List Word} (h : ∀ w ∈ args.take 4, isOperator w = false) :
    Leaves fs args fun rest => ∃ k ≤ 3, rest = args.drop k := by
  have hhead : ∀ {b rest k}, k ≤ 3 → b :: rest = args.drop k → isOperator b = false := by
    intro b rest k hk heq
    refine h b (List.mem_of_getElem? (i := k) ?_)
    have hget : args[k]? = some b := by rw [← List.head?_drop, ← heq, List.head?_cons]
    rw [List.getElem?_take_of_lt (by omega), hget]
  refine leaves_of_term fs (fun fuel v rest hterm => ?_) ?_
  · cases args with
    | nil => cases fuel <;> cases hterm
    | cons a tl =>
        have ha : isOperator a = false := hhead (k := 0) (Nat.zero_le 3) rfl
        obtain ⟨fuel', ⟨rfl, -⟩ | ⟨rfl, -⟩ | ⟨-, -, hp⟩⟩ := term_cons_ok hterm
        · exact absurd ha (by decide)
        · exact absurd ha (by decide)
        · rcases primary_ok hp with rfl | ⟨b, rfl, -⟩ | ⟨op, b, rfl, -⟩
          · exact ⟨1, by decide, rfl⟩
          · exact ⟨2, by decide, rfl⟩
          · exact ⟨3, by decide, rfl⟩
  · rintro tok rest (rfl | rfl) ⟨k, hk, heq⟩ <;> exact absurd (hhead hk heq) (by decide)

/-- **Four arguments or more**: an error, unless an operator is among the first four. -/
theorem test_of_no_operator {args : List Word} (hlen : 4 ≤ args.length)
    (h : ∀ w ∈ args.take 4, isOperator w = false) : test fs args = .error := by
  have hexpr : ∃ e, expr fs args = .error e := by
    unfold expr
    split
    · next e he => exact ⟨e, rfl⟩
    · next v rest hok =>
        obtain ⟨k, hk, rfl⟩ := (leaves_of_no_operator fs h).or hok
        have hne : args.drop k ≠ [] := by
          rw [Ne, List.drop_eq_nil_iff]
          omega
        exact ⟨.syntaxError, if_neg hne⟩
  obtain ⟨e, he⟩ := hexpr
  have hposix : posixtest fs args = expr fs args := by
    match args, hlen, h with
    | [a, b, c, d], _, h =>
        have ha : isOperator a = false := h a (List.mem_cons_self ..)
        have hneg : a ≠ "!".toList := by rintro rfl; exact absurd ha (by decide)
        have hopen : a ≠ "(".toList := by rintro rfl; exact absurd ha (by decide)
        rw [posixtest, if_neg hneg, if_neg fun heq => hopen heq.1]
    | _ :: _ :: _ :: _ :: _ :: _, _, _ => rfl
  simp only [test, hposix, he]

/-- **Three words or more**: an error, unless an operator is among the first four. -/
theorem test_neTail_sentence {ws : List Word} (hlen : 3 ≤ ws.length)
    (h : ∀ w ∈ ws.take 4, isOperator w = false) : test fs (ws ++ neTail x) = .error := by
  refine test_of_no_operator fs ?_ fun w hw => ?_
  · simp only [neTail, List.length_append, List.length_cons, List.length_nil]
    omega
  · rw [List.take_append] at hw
    rcases List.mem_append.mp hw with hw | hw
    · exact h w hw
    · have hw : w ∈ (neTail x).take 1 := List.take_subset_take_left _ (by omega) hw
      rw [List.mem_singleton.mp hw]
      decide

end NeTail

/-! ## `[ $a -ge x ]`, where the value of `$a` is a number or nothing

An unquoted value that is empty leaves two arguments, of which the first is no unary primary. A number is one
argument, and is compared if it fits 64 bits. -/

theorem dropWhile_decimal (n : ℤ) {p : Char → Bool} (hminus : p '-' = false)
    (hdigit : ∀ c, c.isDigit = true → p c = false) :
    (decimal n).dropWhile p = decimal n ∧ (decimal n).reverse.dropWhile p = (decimal n).reverse := by
  have hp : ∀ c ∈ decimal n, p c = false := by
    intro c hc
    rcases mem_decimal hc with rfl | hc
    · exact hminus
    · exact hdigit c hc
  have hhead : ∀ t : Text, (∀ c ∈ t, c ∈ decimal n) → t.dropWhile p = t := by
    intro t ht
    cases t with
    | nil => rfl
    | cons c t =>
        have hc := hp c (ht c (List.mem_cons_self ..))
        rw [List.dropWhile_cons_of_neg (by rw [hc]; exact Bool.false_ne_true)]
  exact ⟨hhead _ fun _ hc => hc, hhead _ fun _ hc => List.mem_reverse.mp hc⟩

/-- A number is an operand if it fits 64 bits. -/
theorem legal_number_decimal (n : ℤ) :
    legal_number (decimal n) = if -(2 ^ 63) ≤ n ∧ n < 2 ^ 63 then some n else none := by
  have hother : ∀ {c d : Char}, c.isDigit = true → d.isDigit = false → (c == d) = false := fun hc hd =>
    beq_eq_false_iff_ne.mpr (ne_of_isDigit hc hd)
  have hwide : (decimal n).dropWhile (fun c => isBlank c || c == '\r' || c == '\x0b' || c == '\x0c') = decimal n := by
    refine (dropWhile_decimal n rfl fun c hc => ?_).1
    rw [isBlank_of_isDigit hc, Bool.false_or, hother hc rfl, hother hc rfl, hother hc rfl]
    rfl
  have hnarrow : (decimal n).reverse.dropWhile (fun c => c == ' ' || c == '\t') = (decimal n).reverse := by
    refine (dropWhile_decimal n rfl fun c hc => ?_).2
    rw [hother hc rfl, hother hc rfl]
    rfl
  rw [legal_number]
  simp only [hwide, hnarrow, List.reverse_reverse]
  have hdigits : ∀ m : ℕ, Nat.toDigits 10 m ≠ [] ∧ (Nat.toDigits 10 m).all Char.isDigit = true := isDecimal_toDigits
  by_cases hneg : n < 0
  · have hvalue : (-1 : ℤ) * (Nat.ofDigitChars 10 (Nat.toDigits 10 n.natAbs) 0 : ℕ) = n := by
      rw [Nat.ofDigitChars_ten_toDigits]
      omega
    rw [decimal_of_neg hneg]
    simp only [hvalue, hdigits, ne_eq, not_false_eq_true, true_and]
  · have hvalue : (1 : ℤ) * (Nat.ofDigitChars 10 (Nat.toDigits 10 n.natAbs) 0 : ℕ) = n := by
      rw [Nat.ofDigitChars_ten_toDigits]
      omega
    rw [decimal_of_nonneg (by omega)]
    have hunsigned : ∀ c t, Nat.toDigits 10 n.natAbs = c :: t → c.isDigit = true := fun c t heq =>
      List.all_eq_true.mp (hdigits _).2 c (heq ▸ List.mem_cons_self ..)
    split
    · next t heq => exact absurd (hunsigned _ t heq) (by decide)
    · next t heq => exact absurd (hunsigned _ t heq) (by decide)
    · simp only [hvalue, hdigits, ne_eq, not_false_eq_true, true_and]

section Ge
variable (fs : Files)

/-- **No word**: `-ge` is no unary primary. -/
theorem test_ge_nil (x : Word) : test fs ["-ge".toList, x] = .error := by
  have h : two_arguments fs "-ge".toList x = .error .syntaxError := by
    unfold two_arguments
    rw [if_neg (by decide), show test_unop "-ge".toList = none by decide]
  simp only [test, posixtest, h]

/-- **A number**: the comparison, if it fits 64 bits; any other is no operand, and `[` fails. -/
theorem test_ge_decimal (n : ℤ) {k : ℕ} (hk : k < 2 ^ 63) :
    test fs [decimal n, "-ge".toList, Nat.toDigits 10 k] = .yes ↔ (k : ℤ) ≤ n ∧ n < 2 ^ 63 := by
  have hlimit : legal_number (Nat.toDigits 10 k) = some (k : ℤ) := by
    have hfits : -(2 ^ 63) ≤ (k : ℤ) ∧ (k : ℤ) < 2 ^ 63 := by omega
    rw [← decimal_natCast, legal_number_decimal, if_pos hfits]
  have hthree : three_arguments fs (decimal n) "-ge".toList (Nat.toDigits 10 k) =
      arithcomp (· ≥ ·) (decimal n) (Nat.toDigits 10 k) := by
    rw [three_arguments, if_pos (by decide), binary_test]
    simp
  simp only [test, posixtest, hthree, arithcomp, hlimit, legal_number_decimal]
  by_cases hfits : -(2 ^ 63) ≤ n ∧ n < 2 ^ 63
  · rw [if_pos hfits]
    by_cases hge : (k : ℤ) ≤ n
    · have hlt : n < 9223372036854775808 := hfits.2
      simp [hge, hlt]
    · simp [hge]
  · rw [if_neg hfits]
    constructor
    · intro h
      cases h
    · intro h
      exact absurd ⟨by omega, h.2⟩ hfits

end Ge

/-! ## `[ "$a" -ne x ]` and `[ -z $a ]`

A quoted value is one argument also when it is empty, and then no number. An unquoted one that is empty leaves `-z`
alone, which is true as a text. -/

section Ne
variable (fs : Files)

/-- **The empty value** is no number. -/
theorem test_ne_empty (x : Word) : test fs [[], "-ne".toList, x] = .error := by
  have hnumber : legal_number [] = none := by decide
  have hthree : three_arguments fs [] "-ne".toList x = arithcomp (· != ·) [] x := by
    rw [three_arguments, if_pos (by decide), binary_test]
    simp
  simp only [test, posixtest, hthree, arithcomp, hnumber]

/-- **A number**: the comparison with another one, if it fits 64 bits; otherwise `[` fails. -/
theorem test_ne_decimal (n : ℤ) {x : Word} {k : ℤ} (hx : legal_number x = some k) :
    test fs [decimal n, "-ne".toList, x] = .yes ↔ (-(2 ^ 63) ≤ n ∧ n < 2 ^ 63) ∧ n ≠ k := by
  have hthree : three_arguments fs (decimal n) "-ne".toList x = arithcomp (· != ·) (decimal n) x := by
    rw [three_arguments, if_pos (by decide), binary_test]
    simp
  simp only [test, posixtest, hthree, arithcomp, hx, legal_number_decimal]
  by_cases hfits : -(2 ^ 63) ≤ n ∧ n < 2 ^ 63
  · rw [if_pos hfits]
    by_cases heq : n = k
    · simp [heq]
    · have hne : (n != k) = true := bne_iff_ne.mpr heq
      simp only [hne, heq, hfits, not_false_eq_true, and_self, ne_eq]
  · rw [if_neg hfits]
    exact ⟨fun h => (by cases h), fun h => absurd h.1 hfits⟩

/-- **No word**: `-z` is a text like any other. -/
theorem test_z_nil : test fs ["-z".toList] = .yes := rfl

/-- **A word**: it is not empty. -/
theorem test_z_word {w : Word} (hw : w ≠ []) : test fs ["-z".toList, w] = .no := by
  have hempty : w.isEmpty = false := List.isEmpty_eq_false_iff.mpr hw
  have htwo : two_arguments fs "-z".toList w = .ok false := by
    rw [two_arguments, if_neg (by decide), show test_unop "-z".toList = some 'z' by decide]
    simp [unary_operator, unary_test, hempty]
  simp only [test, posixtest, htwo]

end Ne

end Shell
end StgEnvironment
