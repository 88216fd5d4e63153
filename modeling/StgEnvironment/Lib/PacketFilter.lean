import Mathlib.Data.List.Basic

/-!
# `Lib.PacketFilter`: chains of rules

A packet goes through the rules of a chain in their order, and the first one that matches it decides. A packet that no
rule matches gets the policy of the chain. A rule decides about the packets that it matches if no other verdict comes
before it (`verdict_of_before`), and rules that accept, wherever they are put, keep no packet out that came in without
them (`accept_of_filter`).

What a packet is, and what a rule can test of it, is a parameter. A rule that sends a packet to another chain, or only
logs it, is not one of these.
-/

namespace StgEnvironment
namespace PacketFilter

/-- What a rule or a policy decides. Only the first of them lets a packet in. -/
inductive Verdict where
  | accept
  | reject
  | drop
deriving DecidableEq

/-- A rule for packets of a kind. It decides about every packet that it matches. -/
structure Rule (π : Type*) where
  test : π → Bool
  verdict : Verdict

variable {π : Type*} {policy : Verdict} {p : π}

/-- What becomes of a packet: the first rule that matches it decides, or the policy does. -/
def verdict (policy : Verdict) : List (Rule π) → π → Verdict
  | [], _ => policy
  | r :: rules, p => if r.test p then r.verdict else verdict policy rules p

theorem verdict_cons_of_test {r : Rule π} {rules : List (Rule π)} (h : r.test p = true) :
    verdict policy (r :: rules) p = r.verdict := if_pos h

theorem verdict_cons_of_not_test {r : Rule π} {rules : List (Rule π)} (h : r.test p = false) :
    verdict policy (r :: rules) p = verdict policy rules p := by
  rw [verdict, h]
  rfl

theorem verdict_append {pre rules : List (Rule π)} (h : ∀ r ∈ pre, r.test p = false) :
    verdict policy (pre ++ rules) p = verdict policy rules p := by
  induction pre with
  | nil => rfl
  | cons r pre ih =>
      rw [List.cons_append, verdict_cons_of_not_test (h r (List.mem_cons_self ..))]
      exact ih fun r' hr' => h r' (List.mem_cons_of_mem _ hr')

/-- A rule that matches decides, if those before it that match agree with it. The order of the rules need not be known
    further than that. -/
theorem verdict_of_before {α : Type*} {rule : α → Rule π} {before : α → α → Prop} {l : List α} {a : α}
    (hrefl : before a a) (hs : l.Pairwise before) (ha : a ∈ l) (htest : (rule a).test p = true)
    (h : ∀ b ∈ l, before b a → (rule b).test p = true → (rule b).verdict = (rule a).verdict) :
    verdict policy (l.map rule) p = (rule a).verdict := by
  induction l with
  | nil => cases ha
  | cons b l ih =>
      obtain ⟨hb, hs⟩ := List.pairwise_cons.mp hs
      have hba : before b a := by
        rcases List.mem_cons.mp ha with rfl | ha
        · exact hrefl
        · exact hb a ha
      rw [List.map_cons]
      cases hr : (rule b).test p with
      | true => rw [verdict_cons_of_test hr, h b (List.mem_cons_self ..) hba hr]
      | false =>
          rw [verdict_cons_of_not_test hr]
          refine ih hs ?_ fun c hc => h c (List.mem_cons_of_mem _ hc)
          rcases List.mem_cons.mp ha with rfl | ha
          · rw [htest] at hr; cases hr
          · exact ha

/-- Without a rule that matches there is the policy. -/
theorem verdict_of_none {rules : List (Rule π)} (h : ∀ r ∈ rules, r.test p = false) :
    verdict policy rules p = policy := by
  have happend : verdict policy (rules ++ []) p = verdict policy [] p := verdict_append h
  rwa [List.append_nil] at happend

section Filter
variable {α : Type*} {rule : α → Rule π} {q : α → Bool} {l : List α}

/-- With more rules that accept, no less comes in, wherever they are put. By induction on the rules: the first that
    matches decides, and an added one can only accept. -/
theorem accept_of_filter (h : ∀ a ∈ l, q a = false → (rule a).verdict = .accept)
    (haccept : verdict policy ((l.filter q).map rule) p = .accept) : verdict policy (l.map rule) p = .accept := by
  induction l with
  | nil => exact haccept
  | cons a l ih =>
      have ih := ih fun b hb => h b (List.mem_cons_of_mem _ hb)
      rw [List.map_cons]
      cases hr : (rule a).test p with
      | true =>
          rw [verdict_cons_of_test hr]
          cases hq : q a with
          | true => rwa [List.filter_cons_of_pos hq, List.map_cons, verdict_cons_of_test hr] at haccept
          | false => exact h a (List.mem_cons_self ..) hq
      | false =>
          rw [verdict_cons_of_not_test hr]
          apply ih
          cases hq : q a with
          | true => rwa [List.filter_cons_of_pos hq, List.map_cons, verdict_cons_of_not_test hr] at haccept
          | false => rwa [List.filter_cons_of_neg (by rw [hq]; exact Bool.false_ne_true)] at haccept

/-- Rules that do not match make no difference. -/
theorem verdict_filter (h : ∀ a ∈ l, q a = false → (rule a).test p = false) :
    verdict policy ((l.filter q).map rule) p = verdict policy (l.map rule) p := by
  induction l with
  | nil => rfl
  | cons a l ih =>
      have ih := ih fun b hb => h b (List.mem_cons_of_mem _ hb)
      cases hq : q a with
      | true => rw [List.filter_cons_of_pos hq, List.map_cons, List.map_cons, verdict, verdict, ih]
      | false =>
          have hr := h a (List.mem_cons_self ..) hq
          rw [List.filter_cons_of_neg (by rw [hq]; exact Bool.false_ne_true), ih, List.map_cons,
            verdict_cons_of_not_test hr]

end Filter

end PacketFilter
end StgEnvironment
