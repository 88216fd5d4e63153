import StgEnvironment.Lib.Text

/-!
# `Lib.Collation`: sorted answers

A `Collation` is a total order on keys. `Answers rows answer` says that a list holds exactly the given rows, in
the order of their keys; rows with equal keys may come in any order. There is always an answer, and what two
answers show agrees as soon as rows with equal keys show the same (`Answers.map_eq`). `codePoints` compares
texts character by character.

A database that sorts its answers sorts by such an order, of which a client often knows no more than that it is one.
What follows from `Answers` alone holds whatever the order is.
-/

namespace StgEnvironment

/-- A total order, as a test. Two keys may be equal for it without being the same. -/
structure Collation (κ : Type*) where
  le : κ → κ → Bool
  total : ∀ a b, (le a b || le b a) = true
  trans : ∀ a b c, le a b = true → le b c = true → le a c = true
  antisymm : ∀ a b, le a b = true → le b a = true → a = b

namespace Collation
variable {α β κ : Type*} (C : Collation κ) (key : α → κ)

theorem refl (a : κ) : C.le a a = true := by simpa using C.total a a

/-- `answer` holds exactly the rows, in the order of their keys. -/
structure Answers (rows answer : List α) : Prop where
  perm : answer.Perm rows
  sorted : answer.Pairwise fun a b => C.le (key a) (key b) = true

/-- An answer has the given rows, no more and no less. -/
theorem Answers.mem_iff {C : Collation κ} {key : α → κ} {rows answer : List α} (h : C.Answers key rows answer)
    {a : α} : a ∈ answer ↔ a ∈ rows :=
  h.perm.mem_iff

theorem exists_answers (rows : List α) : ∃ answer, C.Answers key rows answer :=
  ⟨rows.mergeSort fun a b => C.le (key a) (key b), List.mergeSort_perm _ _,
    List.pairwise_mergeSort (fun a b c => C.trans (key a) (key b) (key c))
      (fun a b => C.total (key a) (key b)) rows⟩

/-- **Two answers show the same** when rows with equal keys do. The key and what is shown, taken together, come in one
    order only. -/
theorem Answers.map_eq {C : Collation κ} {key : α → κ} {rows answer answer' : List α} {f : α → β}
    (hf : ∀ a ∈ rows, ∀ b ∈ rows, key a = key b → f a = f b)
    (h : C.Answers key rows answer) (h' : C.Answers key rows answer') : answer.map f = answer'.map f := by
  -- the key and what is shown, together, come in one order only
  let shown : α → κ × β := fun a => (key a, f a)
  have hperm : (answer.map shown).Perm (answer'.map shown) := (h.perm.trans h'.perm.symm).map shown
  have hsorted : ∀ {l : List α}, C.Answers key rows l →
      (l.map shown).Pairwise fun x y => C.le x.1 y.1 = true := fun hl => List.pairwise_map.mpr hl.sorted
  have hpairs : answer.map shown = answer'.map shown := by
    refine hperm.eq_of_pairwise (fun x y hx hy hxy hyx => ?_) (hsorted h) (hsorted h')
    obtain ⟨a, ha, rfl⟩ := List.mem_map.mp hx
    obtain ⟨b, hb, rfl⟩ := List.mem_map.mp hy
    have hkey : key a = key b := C.antisymm _ _ hxy hyx
    exact Prod.ext hkey (hf a (h.mem_iff.mp ha) b (h'.mem_iff.mp hb) hkey)
  simpa [shown, Function.comp_def] using congrArg (List.map Prod.snd) hpairs

/-- The order of the code points, character by character. -/
def codePoints : Collation Text where
  le a b := decide (a ≤ b)
  total a b := by simpa using le_total a b
  trans a b c hab hbc := by simpa using le_trans (of_decide_eq_true hab) (of_decide_eq_true hbc)
  antisymm a b hab hba := le_antisymm (of_decide_eq_true hab) (of_decide_eq_true hba)

end Collation
end StgEnvironment
