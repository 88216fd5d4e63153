import Mathlib

/-!
# `Lib.Rotation`: rotating a file through numbered places

A store maps places to contents. `name 0` is the current file and `name 1`, `name 2`, … are the places that keep
what was there before. `rotate name n` moves the content of each place one place on, from the last down, over what
is in place `n`.

## Contents
- **One move**: `mv`, with the content of every place after it.
- **The places after a rotation**: `shift` and `rotate`, place by place (`rotate_current`, `rotate_first`,
  `rotate_next`, `rotate_last`, `rotate_off`). The names of the places are different, and nothing more is known of them.
- **The history that the places keep**: `Keeps` says that they hold a current content and the latest of the earlier
  ones, in order. `Keeps.rotate` and `Keeps.write` are the steps of whoever rotates and writes.
-/

namespace StgEnvironment
namespace Rotation

variable {π α : Type*} [DecidableEq π]

/-- What is at `src` moves to `dst`, over what is there. Without anything at `src` nothing happens. -/
def mv (src dst : π) (fs : π → Option α) : π → Option α :=
  match fs src with
  | none => fs
  | some c => Function.update (Function.update fs src none) dst (some c)

/-- The places from `n` down to `2` take over what is in the place before them. -/
def shift (name : ℕ → π) : ℕ → (π → Option α) → π → Option α
  | n + 2, fs => shift name (n + 1) (mv (name (n + 1)) (name (n + 2)) fs)
  | _, fs => fs

/-- The places move on by one, if there is a current content to make room for. -/
def rotate (name : ℕ → π) (n : ℕ) (fs : π → Option α) : π → Option α :=
  if (fs (name 0)).isSome then mv (name 0) (name 1) (shift name n fs) else fs

/-! ## One move -/

theorem mv_of_none {src dst : π} {fs : π → Option α} (h : fs src = none) : mv src dst fs = fs := by
  unfold mv
  rw [h]

/-- What is moved is in the new place and no longer in the old one. -/
theorem mv_of_some {src dst : π} {fs : π → Option α} {c : α} (h : fs src = some c) :
    mv src dst fs = Function.update (Function.update fs src none) dst (some c) := by
  unfold mv
  rw [h]

theorem mv_src {src dst : π} {fs : π → Option α} (h : src ≠ dst) : mv src dst fs src = none := by
  cases hsrc : fs src with
  | none => rw [mv_of_none hsrc, hsrc]
  | some c => rw [mv_of_some hsrc, Function.update_of_ne h, Function.update_self]

theorem mv_dst (src dst : π) (fs : π → Option α) : mv src dst fs dst = (fs src).or (fs dst) := by
  cases hsrc : fs src with
  | none => rw [mv_of_none hsrc]; rfl
  | some c => rw [mv_of_some hsrc, Function.update_self]; rfl

theorem mv_off {src dst p : π} {fs : π → Option α} (hs : p ≠ src) (hd : p ≠ dst) : mv src dst fs p = fs p := by
  cases hsrc : fs src with
  | none => rw [mv_of_none hsrc]
  | some c => rw [mv_of_some hsrc, Function.update_of_ne hd, Function.update_of_ne hs]

/-! ## The places after a rotation -/

variable {name : ℕ → π}

/-- A place with no number from `1` to `n` is left alone. -/
theorem shift_off {p : π} : ∀ {n : ℕ} {fs : π → Option α}, (∀ k, 1 ≤ k → k ≤ n → p ≠ name k) →
    shift name n fs p = fs p := by
  intro n
  induction n using Nat.strong_induction_on with
  | h n ih =>
      intro fs hp
      match n with
      | 0 => rfl
      | 1 => rfl
      | m + 2 =>
          show shift name (m + 1) (mv (name (m + 1)) (name (m + 2)) fs) p = fs p
          rw [ih (m + 1) (by omega) fun k h1 h2 => hp k h1 (by omega)]
          exact mv_off (hp (m + 1) (by omega) (by omega)) (hp (m + 2) (by omega) (by omega))

variable (hname : Function.Injective name)
include hname

/-- The last place keeps its content only where the one before it is empty. -/
theorem shift_last (n : ℕ) (fs : π → Option α) :
    shift name (n + 2) fs (name (n + 2)) = (fs (name (n + 1))).or (fs (name (n + 2))) := by
  show shift name (n + 1) (mv (name (n + 1)) (name (n + 2)) fs) (name (n + 2)) = _
  rw [shift_off fun k _ h2 h => by have := hname h; omega]
  exact mv_dst _ _ fs

/-- Every other place takes over the one before it: that one was emptied by then. By induction on the number of places
    that are shifted. -/
theorem shift_next {k : ℕ} : ∀ {n : ℕ} {fs : π → Option α}, k + 2 < n →
    shift name n fs (name (k + 2)) = fs (name (k + 1)) := by
  intro n
  induction n with
  | zero => intro fs hk; omega
  | succ n ih =>
      intro fs hk
      obtain ⟨m, rfl⟩ : ∃ m, n = m + 1 := ⟨n - 1, by omega⟩
      show shift name (m + 1) (mv (name (m + 1)) (name (m + 2)) fs) (name (k + 2)) = _
      have hoff : mv (name (m + 1)) (name (m + 2)) fs (name (k + 1)) = fs (name (k + 1)) :=
        mv_off (fun h => by have := hname h; omega) fun h => by have := hname h; omega
      rcases Nat.lt_or_ge (k + 2) (m + 1) with hlt | hge
      · rw [ih hlt, hoff]
      · obtain rfl : m = k + 1 := by omega
        rw [shift_last hname k, hoff,
          mv_src fun h => by have := hname h; omega]
        exact Option.or_none

theorem rotate_current (n : ℕ) (fs : π → Option α) : rotate name n fs (name 0) = none := by
  unfold rotate
  split
  · exact mv_src fun h => by have := hname h; omega
  · next h => simpa using h

theorem rotate_first {n : ℕ} {fs : π → Option α} {c : α} (h : fs (name 0) = some c) :
    rotate name n fs (name 1) = some c := by
  have hzero : shift name n fs (name 0) = some c := by
    rw [shift_off fun k h1 _ h => by have := hname h; omega, h]
  rw [rotate, if_pos (by rw [h]; rfl), mv_dst, hzero]
  rfl

/-- Every further place has what was in the one before it. -/
theorem rotate_next {n k : ℕ} {fs : π → Option α} (h : (fs (name 0)).isSome) (hk : k + 2 < n) :
    rotate name n fs (name (k + 2)) = fs (name (k + 1)) := by
  rw [rotate, if_pos h, mv_off (fun h => by have := hname h; omega) fun h => by have := hname h; omega]
  exact shift_next hname hk

/-- So has the last, and what it had is lost if there was anything in the one before. -/
theorem rotate_last {n : ℕ} {fs : π → Option α} (h : (fs (name 0)).isSome) :
    rotate name (n + 2) fs (name (n + 2)) = (fs (name (n + 1))).or (fs (name (n + 2))) := by
  rw [rotate, if_pos h, mv_off (fun h => by have := hname h; omega) fun h => by have := hname h; omega]
  exact shift_last hname n fs

omit hname in
theorem rotate_off {n : ℕ} {p : π} {fs : π → Option α} (hp : ∀ k, k ≤ n ⊔ 1 → p ≠ name k) :
    rotate name n fs p = fs p := by
  unfold rotate
  split
  · rw [mv_off (hp 0 (by omega)) (hp 1 (by omega))]
    exact shift_off fun k _ hk => hp k (by omega)
  · rfl

/-! ## The history that the places keep -/

/-- The places `0` to `n` hold the current content, if there is one, and the latest `n` of the earlier contents, the
    latest first. Of older ones nothing is said. -/
structure Keeps (name : ℕ → π) (n : ℕ) (fs : π → Option α) (current : Option α) (earlier : List α) : Prop where
  current : fs (name 0) = current
  earlier : ∀ k, k < n → fs (name (k + 1)) = earlier[k]?

/-- **A rotation files the current content as the latest of the earlier ones.** Every later place takes over the one
    before it; without an earlier content for a place, there is none for the places after it. -/
theorem Keeps.rotate {n : ℕ} {fs : π → Option α} {current : Option α} {earlier : List α}
    (h : Keeps name (n + 1) fs current earlier) :
    Keeps name (n + 1) (Rotation.rotate name (n + 1) fs) none (current.toList ++ earlier) := by
  refine ⟨rotate_current hname _ fs, fun k hk => ?_⟩
  cases hcur : current with
  | none =>
      have hnone : (fs (name 0)).isSome = false := by rw [h.current, hcur]; rfl
      rw [Rotation.rotate, if_neg (by rw [hnone]; exact Bool.false_ne_true)]
      exact h.earlier k hk
  | some c =>
      have hsome : fs (name 0) = some c := h.current.trans hcur
      show _ = (c :: earlier)[k]?
      match k, hk with
      | 0, _ => exact rotate_first hname hsome
      | k + 1, hk =>
          have hbefore : fs (name (k + 1)) = earlier[k]? := h.earlier k (by omega)
          rw [List.getElem?_cons_succ, ← hbefore]
          rcases Nat.lt_or_ge (k + 2) (n + 1) with hlt | hge
          · exact rotate_next hname (by rw [hsome]; rfl) hlt
          · obtain rfl : n = k + 1 := by omega
            rw [rotate_last hname (by rw [hsome]; rfl), hbefore, h.earlier (k + 1) (by omega)]
            -- without an earlier content for a place, there is none for the places after it
            cases hk' : earlier[k]? with
            | some d => rfl
            | none =>
                rw [List.getElem?_eq_none (by have := List.getElem?_eq_none_iff.mp hk'; omega)]
                rfl

omit [DecidableEq π] hname in
/-- Another store with the same content in the places. -/
theorem Keeps.congr {n : ℕ} {fs fs' : π → Option α} {current : Option α} {earlier : List α}
    (h : Keeps name n fs current earlier) (heq : ∀ k ≤ n, fs' (name k) = fs (name k)) :
    Keeps name n fs' current earlier :=
  ⟨(heq 0 (by omega)).trans h.current, fun k hk => (heq (k + 1) (by omega)).trans (h.earlier k hk)⟩

/-- A new current content leaves the earlier ones where they are. -/
theorem Keeps.write {n : ℕ} {fs : π → Option α} {current : Option α} {earlier : List α}
    (h : Keeps name n fs current earlier) (c : Option α) :
    Keeps name n (Function.update fs (name 0) c) c earlier := by
  refine ⟨Function.update_self .., fun k hk => ?_⟩
  rw [Function.update_of_ne fun h => by have := hname h; omega]
  exact h.earlier k hk

end Rotation
end StgEnvironment
