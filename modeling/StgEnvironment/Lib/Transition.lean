import Mathlib

/-!
# `Lib.Transition`: runs of a labelled transition function

A system is a partial function `next : σ → Λ → Option σ`: the state after a label, if the label can happen.
`run` iterates it over a list of labels; `Along` says that every step of a run meets a condition. The one
rule every safety proof uses is `run_invariant`: what each step preserves, under the condition of that step,
a whole run preserves. `along_of_invariant` turns an invariant into a statement about the steps themselves.

Whatever is not determined by the state, such as which party acts and what its environment answers, is in the label, so
that a statement about all lists of labels is one about all interleavings.
-/

namespace StgEnvironment
namespace Transition

variable {σ Λ : Type*} {next : σ → Λ → Option σ}

/-- The state after the labels `ls`, if they can happen one after the other. -/
def run (next : σ → Λ → Option σ) : σ → List Λ → Option σ
  | s, [] => some s
  | s, l :: ls => (next s l).bind fun s' => run next s' ls

/-- Every step of the run of `ls` from `s` meets the condition `ok`. -/
def Along (next : σ → Λ → Option σ) (ok : σ → Λ → Prop) : σ → List Λ → Prop
  | _, [] => True
  | s, l :: ls => ok s l ∧ ∀ s', next s l = some s' → Along next ok s' ls

instance Along.decidable {ok : σ → Λ → Prop} [∀ s l, Decidable (ok s l)] :
    ∀ (ls : List Λ) (s : σ), Decidable (Along next ok s ls)
  | [], _ => isTrue trivial
  | l :: ls, s =>
      haveI : ∀ s', Decidable (Along next ok s' ls) := Along.decidable ls
      inferInstanceAs (Decidable (ok s l ∧ ∀ s' ∈ next s l, Along next ok s' ls))

theorem run_cons_iff {s t : σ} {l : Λ} {ls : List Λ} :
    run next s (l :: ls) = some t ↔ ∃ s', next s l = some s' ∧ run next s' ls = some t :=
  Option.bind_eq_some_iff

theorem run_append {s t : σ} {ls ls' : List Λ} (h : run next s ls = some t) :
    run next s (ls ++ ls') = run next t ls' := by
  induction ls generalizing s with
  | nil => obtain rfl := Option.some.inj h; rfl
  | cons l ls ih =>
      obtain ⟨s', hnext, hrun⟩ := run_cons_iff.mp h
      show ((next s l).bind fun s' => run next s' (ls ++ ls')) = _
      rw [hnext, Option.bind_some, ih hrun]

/-- **The invariant rule.** What holds at the start, and is kept by every step that meets its condition, holds at the
    end. By induction on the labels. -/
theorem run_invariant {I : σ → Prop} {ok : σ → Λ → Prop}
    (hstep : ∀ s l s', I s → ok s l → next s l = some s' → I s') :
    ∀ {ls : List Λ} {s t : σ}, I s → Along next ok s ls → run next s ls = some t → I t := by
  intro ls
  induction ls with
  | nil => intro s t hs _ hrun; obtain rfl := Option.some.inj hrun; exact hs
  | cons l ls ih =>
      intro s t hs hok hrun
      obtain ⟨s', hnext, hrun'⟩ := run_cons_iff.mp hrun
      exact ih (hstep s l s' hs hok.1 hnext) (hok.2 s' hnext) hrun'

/-- What an invariant implies for each step holds along the run, so that one condition can be traded for another. -/
theorem along_of_invariant {I : σ → Prop} {ok Q : σ → Λ → Prop}
    (hstep : ∀ s l s', I s → ok s l → next s l = some s' → I s')
    (hQ : ∀ s l, I s → ok s l → Q s l) :
    ∀ {ls : List Λ} {s : σ}, I s → Along next ok s ls → Along next Q s ls := by
  intro ls
  induction ls with
  | nil => intro s _ _; trivial
  | cons l ls ih =>
      intro s hs hok
      exact ⟨hQ s l hs hok.1, fun s' hnext => ih (hstep s l s' hs hok.1 hnext) (hok.2 s' hnext)⟩

/-- A condition along a run holds at the step after any part of it. -/
theorem Along.at {ok : σ → Λ → Prop} {l : Λ} (ls' : List Λ) :
    ∀ {ls : List Λ} {s t : σ}, Along next ok s (ls ++ l :: ls') → run next s ls = some t → ok t l := by
  intro ls
  induction ls with
  | nil => intro s t h hrun; obtain rfl := Option.some.inj hrun; exact h.1
  | cons m ls ih =>
      intro s t h hrun
      obtain ⟨s', hnext, hrun'⟩ := run_cons_iff.mp hrun
      exact ih (h.2 s' hnext) hrun'

theorem along_of_all {ok : σ → Λ → Prop} (h : ∀ s l, ok s l) :
    ∀ {ls : List Λ} {s : σ}, Along next ok s ls := by
  intro ls
  induction ls with
  | nil => intro s; trivial
  | cons l ls ih => intro s; exact ⟨h s l, fun _ _ => ih⟩

theorem along_of_forall {P : Λ → Prop} : ∀ {ls : List Λ} {s : σ}, (∀ l ∈ ls, P l) →
    Along next (fun _ l => P l) s ls := by
  intro ls
  induction ls with
  | nil => intro s _; trivial
  | cons l ls ih =>
      intro s h
      exact ⟨h l (List.mem_cons_self ..), fun s' _ => ih fun l' hl => h l' (List.mem_cons_of_mem l hl)⟩

end Transition
end StgEnvironment
