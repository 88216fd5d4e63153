import Mathlib

/-!
# `Lib.Convergence`: transactions over resources with dependencies

A configuration manager processes declared resources one after the other, in an order that respects their
dependencies. A resource is skipped when one it depends on was skipped or has failed; one that acts on
notification only (`refreshonly`) is left alone unless a resource that notifies it has changed in the same
transaction; and one that is in sync has nothing to do. `Engine` is what the manager needs to know of the
resources, `Progress` how far it has come, and `step` what it does with the next one.

## Contents
- **Orders**: those that respect the dependencies (`Consistent`), and how to get one (`byRank`).
- **Transactions**: `outcome`, `step`, `process`.
- **One step**: a resource that is not blocked, out of sync and notified is applied (`outcome_eq_apply`).
- **Many steps**, from any progress: what a transaction records is drawn from the order (`process_records`), and a fact
  about the state that every change keeps is kept (`process_state`).

There is no retry: a notification that came too early, or to a resource that was skipped, is lost. A manager that keeps
notifications from one transaction to the next is not described by this.
-/

namespace StgEnvironment
namespace Convergence

variable {ρ σ : Type*}

/-! ## Orders

A transaction goes through its resources in an order in which dependencies come first. Sorting by a rank that grows
along the dependencies is such an order. -/

/-- No resource comes before one that it depends on. -/
def Consistent (before : ρ → ρ → Bool) (order : List ρ) : Prop :=
  order.Pairwise fun x y => before y x = false

instance (before : ρ → ρ → Bool) (order : List ρ) : Decidable (Consistent before order) :=
  inferInstanceAs (Decidable (order.Pairwise fun x y => before y x = false))

/-- What a resource depends on is behind it when its turn comes. -/
theorem Consistent.mem_of_before {before : ρ → ρ → Bool} {pre post : List ρ} {x y : ρ}
    (h : Consistent before (pre ++ x :: post)) (hb : before y x = true) (hy : y ∈ pre ++ x :: post)
    (hne : y ≠ x) : y ∈ pre := by
  rcases List.mem_append.mp hy with hy | hy
  · exact hy
  · rcases List.mem_cons.mp hy with rfl | hy
    · exact absurd rfl hne
    · have hpost := (List.pairwise_cons.mp (List.pairwise_append.mp h).2.1).1 y hy
      exact absurd hb (by simp [hpost])

/-- Resources in the order of a rank that grows along the edges. Resources of one rank stay in the order they are
    in. -/
def byRank (rank : ρ → Nat) (l : List ρ) : List ρ := l.mergeSort fun x y => rank x ≤ rank y

theorem pairwise_byRank (rank : ρ → Nat) (l : List ρ) :
    (byRank rank l).Pairwise fun x y => rank x ≤ rank y := by
  have h : (byRank rank l).Pairwise fun x y => decide (rank x ≤ rank y) = true := by
    refine List.pairwise_mergeSort (fun a b c hab hbc => ?_) (fun a b => ?_) l
    · simp only [decide_eq_true_eq] at hab hbc ⊢
      omega
    · simp only [Bool.or_eq_true, decide_eq_true_eq]
      omega
  exact h.imp fun hxy => of_decide_eq_true hxy

/-- So no resource comes before one that it depends on. -/
theorem consistent_byRank {before : ρ → ρ → Bool} {rank : ρ → Nat}
    (h : ∀ x y, before x y = true → rank x < rank y) (l : List ρ) : Consistent before (byRank rank l) :=
  (pairwise_byRank rank l).imp fun {x y} hxy => by
    by_contra hb
    have := h y x (by simpa using hb)
    omega

/-! ## Transactions

A resource is skipped, left alone, applied or attempted in vain, by what the state and the earlier resources are at
its turn. A resource that is not applied for want of success blocks what depends on it. -/

/-- What a manager knows of the resources: how they depend on each other and notify each other, and what each of them
    does to a state. -/
structure Engine (ρ σ : Type*) where
  /-- `before x y`: `y` depends on `x`. -/
  before : ρ → ρ → Bool
  /-- A change of `x` notifies `y`. -/
  notifies : ρ → ρ → Bool
  /-- The resource acts on notification only. -/
  refreshonly : ρ → Bool
  /-- There is nothing to do. -/
  inSync : σ → ρ → Bool
  /-- The state lets the resource be applied. -/
  runnable : σ → ρ → Bool
  apply : ρ → σ → σ

/-- The state, and what has become of the resources so far. The lists are in the order in which the resources were
    processed. -/
structure Progress (ρ σ : Type*) where
  state : σ
  /-- Applied with success. -/
  changed : List ρ
  /-- Failed, or skipped. -/
  blocked : List ρ
  /-- Attempted, with or without success. -/
  executed : List ρ

/-- What becomes of a resource. -/
inductive Outcome where
  | skip | idle | fail | apply
deriving DecidableEq

variable (e : Engine ρ σ) (fails : ρ → Bool)

/-- Nothing has been processed yet. -/
def Progress.start (s : σ) : Progress ρ σ := ⟨s, [], [], []⟩

/-- What becomes of a resource when its turn comes. `fails` says whose application goes wrong; what cannot run fails
    as well. -/
def outcome (p : Progress ρ σ) (x : ρ) : Outcome :=
  if p.blocked.any (e.before · x) then .skip
  else if e.refreshonly x && !p.changed.any (e.notifies · x) then .idle
  else if e.inSync p.state x then .idle
  else if fails x || !e.runnable p.state x then .fail
  else .apply

/-- One resource. A resource that was skipped blocks those that depend on it, as one that failed does. -/
def step (p : Progress ρ σ) (x : ρ) : Progress ρ σ :=
  match outcome e fails p x with
  | .skip => { p with blocked := p.blocked ++ [x] }
  | .idle => p
  | .fail => { p with blocked := p.blocked ++ [x], executed := p.executed ++ [x] }
  | .apply => ⟨e.apply x p.state, p.changed ++ [x], p.blocked, p.executed ++ [x]⟩

/-- The progress after the resources of a list. -/
def process (l : List ρ) (p : Progress ρ σ) : Progress ρ σ := l.foldl (step e fails) p

/-- A transaction from its beginning. -/
def transaction (order : List ρ) (s : σ) : Progress ρ σ := process e fails order (.start s)

variable {e fails}

@[simp] theorem process_nil (p : Progress ρ σ) : process e fails [] p = p := rfl

theorem process_cons (x : ρ) (l : List ρ) (p : Progress ρ σ) :
    process e fails (x :: l) p = process e fails l (step e fails p x) := rfl

theorem process_append (l l' : List ρ) (p : Progress ρ σ) :
    process e fails (l ++ l') p = process e fails l' (process e fails l p) :=
  List.foldl_append

/-! ## One step

What the outcome says about a resource, and what the records say about its outcome. Each fact is by cases on the
outcome. -/

section Step
variable {p : Progress ρ σ} {x : ρ}

/-- A resource that is applied changes the state and is recorded twice. -/
theorem step_apply (h : outcome e fails p x = .apply) :
    step e fails p x = ⟨e.apply x p.state, p.changed ++ [x], p.blocked, p.executed ++ [x]⟩ := by
  simp [step, h]

/-- A resource that is not applied leaves the state alone. -/
theorem step_of_ne_apply (h : outcome e fails p x ≠ .apply) :
    (step e fails p x).state = p.state ∧ (step e fails p x).changed = p.changed := by
  unfold step
  cases ho : outcome e fails p x with
  | apply => exact absurd ho h
  | _ => exact ⟨rfl, rfl⟩

theorem mem_changed_step {y : ρ} (h : y ∈ p.changed) : y ∈ (step e fails p x).changed := by
  by_cases ho : outcome e fails p x = .apply
  · rw [step_apply ho]
    exact List.mem_append_left _ h
  · rw [(step_of_ne_apply ho).2]
    exact h

/-- **A resource that is not blocked, out of sync and notified is applied.** The manager has no other reason to skip
    it, to leave it alone or to fail. -/
theorem outcome_eq_apply (hb : x ∉ (step e fails p x).blocked)
    (hn : e.refreshonly x = true → ∃ y ∈ p.changed, e.notifies y x = true)
    (hs : e.inSync p.state x = false) : outcome e fails p x = .apply := by
  cases ho : outcome e fails p x with
  | skip => exact absurd (by simp [step, ho]) hb
  | fail => exact absurd (by simp [step, ho]) hb
  | apply => rfl
  | idle =>
      -- the two reasons to be idle are a missing notification and being in sync
      exfalso
      unfold outcome at ho
      split at ho
      · cases ho
      · split at ho
        · next hr =>
            obtain ⟨hrefresh, hnone⟩ := Bool.and_eq_true_iff.mp hr
            obtain ⟨y, hy, hyx⟩ := hn hrefresh
            have hany : p.changed.any (e.notifies · x) = true := List.any_eq_true.mpr ⟨y, hy, hyx⟩
            simp [hany] at hnone
        · simp only [hs] at ho
          split at ho
          · contradiction
          · split at ho <;> cases ho

/-- A resource that is not blocked by its turn had nothing to do or was applied. -/
theorem outcome_of_not_blocked (hb : x ∉ (step e fails p x).blocked) :
    outcome e fails p x = .idle ∨ outcome e fails p x = .apply := by
  cases ho : outcome e fails p x with
  | skip => exact absurd (by simp [step, ho]) hb
  | fail => exact absurd (by simp [step, ho]) hb
  | idle => exact Or.inl rfl
  | apply => exact Or.inr rfl

/-- What is attempted on notification only has been notified. -/
theorem notified_of_executed (h : outcome e fails p x = .fail ∨ outcome e fails p x = .apply)
    (hr : e.refreshonly x = true) : ∃ y ∈ p.changed, e.notifies y x = true := by
  have hany : p.changed.any (e.notifies · x) = true := by
    by_contra hnone
    have hnone : p.changed.any (e.notifies · x) = false := by simpa using hnone
    unfold outcome at h
    simp only [hr, hnone] at h
    rcases h with h | h <;> split at h <;> simp at h
  exact List.any_eq_true.mp hany

/-- What is not blocked is in sync, or was applied, or was not notified. -/
theorem inSync_of_idle (h : outcome e fails p x = .idle) (hr : e.refreshonly x = false) :
    e.inSync p.state x = true := by
  unfold outcome at h
  split at h
  · cases h
  · simp only [hr, Bool.false_and, Bool.false_eq_true, if_false] at h
    split at h
    · assumption
    · split at h <;> cases h

end Step

/-! ## Many steps

What a whole transaction records, by induction on its list, and how a resource of the list is looked up at its turn:
a transaction is split into what comes before it, the resource, and what comes behind. -/

/-- **What a transaction records is drawn from its list**, in the order of the list. Each outcome adds at most the
    resource at hand to a record. By induction on the list. -/
theorem process_records (e : Engine ρ σ) (fails : ρ → Bool) (l : List ρ) : ∀ p : Progress ρ σ,
    ∃ c b x : List ρ, (process e fails l p).changed = p.changed ++ c ∧ (process e fails l p).blocked = p.blocked ++ b ∧
      (process e fails l p).executed = p.executed ++ x ∧ c.Sublist l ∧ b.Sublist l ∧ x.Sublist l ∧ c ⊆ x := by
  induction l with
  | nil => exact fun p => ⟨[], [], [], by simp⟩
  | cons a l ih =>
      intro p
      obtain ⟨c, b, x, hc, hb, hx, hcl, hbl, hxl, hcx⟩ := ih (step e fails p a)
      rw [process_cons, hc, hb, hx]
      unfold step
      -- each outcome adds at most `a` to a record
      cases outcome e fails p a with
      | skip => exact ⟨c, a :: b, x, by simp, by simp, by simp, hcl.cons a, hbl.cons_cons a, hxl.cons a, hcx⟩
      | idle => exact ⟨c, b, x, rfl, rfl, rfl, hcl.cons a, hbl.cons a, hxl.cons a, hcx⟩
      | fail =>
          exact ⟨c, a :: b, a :: x, by simp, by simp, by simp, hcl.cons a, hbl.cons_cons a, hxl.cons_cons a,
            fun y hy => List.mem_cons_of_mem a (hcx hy)⟩
      | apply =>
          exact ⟨a :: c, b, a :: x, by simp, by simp, by simp, hcl.cons_cons a, hbl.cons a, hxl.cons_cons a,
            List.cons_subset_cons a hcx⟩

section Records
variable {l : List ρ} {p : Progress ρ σ} {x : ρ}

theorem mem_changed_of_mem (h : x ∈ p.changed) : x ∈ (process e fails l p).changed := by
  obtain ⟨c, -, -, hc, -⟩ := process_records e fails l p
  rw [hc]
  exact List.mem_append_left c h

theorem mem_blocked_of_mem (h : x ∈ p.blocked) : x ∈ (process e fails l p).blocked := by
  obtain ⟨-, b, -, -, hb, -⟩ := process_records e fails l p
  rw [hb]
  exact List.mem_append_left b h

/-- What has changed in the end had changed before, or is in the list. -/
theorem mem_or_mem_of_changed (h : x ∈ (process e fails l p).changed) : x ∈ p.changed ∨ x ∈ l := by
  obtain ⟨c, -, -, hc, -, -, hcl, -⟩ := process_records e fails l p
  rw [hc] at h
  exact (List.mem_append.mp h).imp id (fun hx => hcl.subset hx)

/-- The executions are in the order of the resources, and no resource has more of them than places in it. -/
theorem executed_sublist (order : List ρ) (s : σ) : (transaction e fails order s).executed.Sublist order := by
  obtain ⟨-, -, x, -, -, hx, -, -, hxl, -⟩ := process_records e fails order (.start s)
  unfold transaction
  rw [hx]
  exact hxl

theorem executed_of_changed {order : List ρ} {s : σ} (h : x ∈ (transaction e fails order s).changed) :
    x ∈ (transaction e fails order s).executed := by
  obtain ⟨c, -, x', hc, -, hx, -, -, -, hcx⟩ := process_records e fails order (.start s)
  unfold transaction at h ⊢
  rw [hc] at h
  rw [hx]
  exact hcx h

end Records

/-- The turn of a resource in a transaction. -/
theorem transaction_split (pre post : List ρ) (x : ρ) (s : σ) :
    transaction e fails (pre ++ x :: post) s =
      process e fails post (step e fails (transaction e fails pre s) x) := by
  unfold transaction
  rw [process_append, process_cons]

section Turn
variable {pre post : List ρ} {x y : ρ} {s : σ}

/-- What has changed in the end, and comes first, has changed by then. -/
theorem changed_of_mem_pre (hnd : (pre ++ x :: post).Nodup) (hy : y ∈ pre)
    (hc : y ∈ (transaction e fails (pre ++ x :: post) s).changed) :
    y ∈ (transaction e fails pre s).changed := by
  unfold transaction at hc ⊢
  rw [process_append] at hc
  rcases mem_or_mem_of_changed hc with hc | hmem
  · exact hc
  · exact absurd rfl ((List.nodup_append.mp hnd).2.2 y hy y hmem)

/-- What is not blocked in the end was not blocked at its turn. -/
theorem not_blocked_at_turn (hb : x ∉ (transaction e fails (pre ++ x :: post) s).blocked) :
    x ∉ (step e fails (transaction e fails pre s) x).blocked := by
  rw [transaction_split] at hb
  exact fun h => hb (mem_blocked_of_mem h)

/-- What is applied at its turn has changed in the end. -/
theorem mem_changed_of_outcome (ho : outcome e fails (transaction e fails pre s) x = .apply) :
    x ∈ (transaction e fails (pre ++ x :: post) s).changed := by
  rw [transaction_split]
  refine mem_changed_of_mem ?_
  rw [step_apply ho]
  exact List.mem_append_right _ (List.mem_singleton_self x)

/-- What has changed in the end was applied at its turn. Otherwise it would have changed before its turn, or after it,
    and the list has each resource once. -/
theorem outcome_of_changed (hnd : (pre ++ x :: post).Nodup)
    (hc : x ∈ (transaction e fails (pre ++ x :: post) s).changed) :
    outcome e fails (transaction e fails pre s) x = .apply := by
  obtain ⟨-, hpost, hpre⟩ := List.nodup_append.mp hnd
  have hxpre : x ∉ pre := fun h => hpre x h x (List.mem_cons_self ..) rfl
  rw [transaction_split] at hc
  by_contra ho
  -- otherwise it would have changed before its turn, or after it
  rcases mem_or_mem_of_changed hc with hc | hc
  · rw [(step_of_ne_apply ho).2] at hc
    rcases mem_or_mem_of_changed (p := .start s) hc with hc | hc
    · cases hc
    · exact hxpre hc
  · exact (List.nodup_cons.mp hpost).1 hc

end Turn

/-- **The invariant rule.** A fact about the state that every change keeps is kept. Only the changes that do happen
    have to keep it. -/
theorem process_state {Q : σ → Prop} : ∀ {l : List ρ} {p : Progress ρ σ},
    (∀ x ∈ l, x ∈ (process e fails l p).changed → ∀ t, Q t → Q (e.apply x t)) → Q p.state →
      Q (process e fails l p).state := by
  intro l
  induction l with
  | nil => intro p _ hq; exact hq
  | cons a l ih =>
      intro p h hq
      rw [process_cons] at h ⊢
      refine ih (fun x hx => h x (List.mem_cons_of_mem a hx)) ?_
      by_cases ho : outcome e fails p a = .apply
      · have ha : a ∈ (step e fails p a).changed := by simp [step_apply ho]
        rw [step_apply ho]
        exact h a (List.mem_cons_self ..) (mem_changed_of_mem ha) _ hq
      · rw [(step_of_ne_apply ho).1]
        exact hq

/-- Whatever is executed on notification only was notified by a change of the same transaction. -/
theorem exists_notifier {x : ρ} (hr : e.refreshonly x = true) : ∀ {l : List ρ} {p : Progress ρ σ},
    x ∈ (process e fails l p).executed →
      x ∈ p.executed ∨ ∃ y ∈ (process e fails l p).changed, e.notifies y x = true := by
  intro l
  induction l with
  | nil => intro p h; exact Or.inl h
  | cons a l ih =>
      intro p h
      rw [process_cons] at h ⊢
      rcases ih h with hx | hx
      -- recorded by this step, or before
      · by_cases hax : a = x
        · subst hax
          by_cases ho : outcome e fails p a = .fail ∨ outcome e fails p a = .apply
          · obtain ⟨y, hy, hyx⟩ := notified_of_executed ho hr
            exact Or.inr ⟨y, mem_changed_of_mem (mem_changed_step hy), hyx⟩
          · refine Or.inl ?_
            unfold step at hx
            split at hx <;> simp_all
        · refine Or.inl ?_
          have hxa : ¬ x = a := fun h => hax h.symm
          unfold step at hx
          split at hx <;> simp_all
      · exact Or.inr hx

/-- When nothing fails, nothing is blocked: by induction on the list, with a fact `Q` on the state that makes every
    resource runnable and is kept by all of them. -/
theorem blocked_eq_nil {Q : σ → Prop} (hfails : ∀ x, fails x = false)
    (hrun : ∀ s x, Q s → e.runnable s x = true) (happly : ∀ s x, Q s → Q (e.apply x s)) :
    ∀ {l : List ρ} {p : Progress ρ σ}, Q p.state → p.blocked = [] →
      (process e fails l p).blocked = [] := by
  intro l
  induction l with
  | nil => intro p _ hb; exact hb
  | cons a l ih =>
      intro p hq hb
      rw [process_cons]
      have ho : outcome e fails p a = .idle ∨ outcome e fails p a = .apply := by
        unfold outcome
        simp only [hb, List.any_nil, hfails, hrun _ _ hq]
        split
        · contradiction
        · split
          · exact Or.inl rfl
          · split
            · exact Or.inl rfl
            · exact Or.inr (by simp)
      rcases ho with ho | ho
      · have hstep : step e fails p a = p := by simp [step, ho]
        rw [hstep]
        exact ih hq hb
      · rw [step_apply ho]
        exact ih (happly _ _ hq) hb

end Convergence
end StgEnvironment
