import StgEnvironment.Hbase.MaintenanceDaily

/-!
# `Hbase.Correctness.MaintenanceDaily`: which hosts compact

The guard is meant to stop every host but the active master. It stops a host only when `[` *evaluates* to
true, and `[` evaluates only what its arguments happen to form: an empty output leaves `[ != host ]`, an
error sentence leaves too many arguments, and in both cases the compaction runs. `Conclusive` collects the
outputs on which the guard does decide, by the number of their words; `onlyActiveMaster_iff` shows that the
cluster keeps to its active master exactly when every host obtains such an output, and that a `Sentence`
is none.

## Contents
- **Host names as words**: a name goes through the expansion unchanged.
- **One host**: when it compacts (`compacts_iff`), and when it does so only if it was named (`conclusive_iff`).
- **The cluster**: `OnlyActiveMaster` over every order of the hosts, from one host by induction.
-/

namespace StgEnvironment
namespace Hbase
open Shell

/-! ## Host names as words

A name that `hostname` prints is one word and no operator of `[`, so that it is one operand wherever it stands. -/

theorem isBlank_of_isHostChar {c : Char} (h : isHostChar c = true) : isBlank c = false := by
  rw [Bool.eq_false_iff]
  intro hb
  simp only [isBlank, Bool.or_eq_true, beq_iff_eq] at hb
  rcases hb with (rfl | rfl) | rfl <;> exact absurd h (by decide)

theorem Fqdn.isHostChar_of_mem (h : Fqdn) {c : Char} (hc : c ∈ h.name) : isHostChar c = true :=
  List.all_eq_true.mp h.host c hc

theorem Fqdn.isWord (h : Fqdn) : IsWord h.name :=
  ⟨h.ne_nil, fun _ hc => isBlank_of_isHostChar (h.isHostChar_of_mem hc)⟩

theorem Fqdn.plain (h : Fqdn) : Plain h.name := by
  intro c hc hp
  have hhost := h.isHostChar_of_mem hc
  simp only [patternChars, List.mem_cons, List.not_mem_nil, or_false] at hp
  rcases hp with rfl | rfl | rfl | rfl <;> exact absurd hhost (by decide)

/-- The name is not a parenthesis, which `[` would take for the end of an expression. -/
theorem Fqdn.ne_paren (h : Fqdn) : h.name ≠ ")".toList := by
  intro he
  have := h.isHostChar_of_mem (c := ')') (by rw [he]; decide)
  exact absurd this (by decide)

/-- The guard, as `[` sees it: what the output expands to, then the operator and the name of the host. -/
theorem guard_eq (s : Site) (h : Fqdn) :
    guard s h.name = test s.files (s.globbing.unquoted s.activeMaster ++ neTail h.name) := by
  simp [guard, neTail, s.globbing.unquoted_plain h.isWord h.plain]

/-! ## One host

The guard by the number of words of the output. Only with one word it is the comparison that it looks like. -/

/-- Host `h` reaches the compaction. -/
def Compacts (h : Fqdn) (s : Site) : Prop := ∃ a ∈ (maintenance_daily h s).1, a.isCompaction = true

/-- The job compacts, once, exactly when its guard is not true: a guard that is false and one that fails are the same
    to `if`. -/
theorem compactions_of_host (h : Fqdn) {s : Site} (hs : s.get_active_master.1 = 0) :
    (maintenance_daily h s).1.filter Action.isCompaction =
      if guard s h.name = .yes then []
      else [.hbase_shell "/etc/hbase/scripts/major_compaction.hql".toList] := by
  unfold maintenance_daily
  rw [if_neg (by simpa using hs)]
  by_cases hc : s.hbase_shell = 0
  · cases guard s h.name <;> (simp only [hc, ne_eq, not_true_eq_false, if_false]; rfl)
  · cases guard s h.name <;> (simp only [hc, ne_eq, not_false_eq_true, if_true]; rfl)

theorem compacts_iff (h : Fqdn) {s : Site} (hs : s.get_active_master.1 = 0) :
    Compacts h s ↔ guard s h.name ≠ .yes := by
  have hf := compactions_of_host h hs
  constructor
  · rintro ⟨a, ha, hc⟩ hg
    rw [if_pos hg] at hf
    have hmem := List.mem_filter.mpr ⟨ha, hc⟩
    rw [hf] at hmem
    exact absurd hmem (by simp)
  · intro hg
    rw [if_neg hg] at hf
    have hmem : Action.hbase_shell "/etc/hbase/scripts/major_compaction.hql".toList ∈
        (maintenance_daily h s).1.filter Action.isCompaction := by rw [hf]; simp
    obtain ⟨ha, hc⟩ := List.mem_filter.mp hmem
    exact ⟨_, ha, hc⟩

/-- **The outputs on which the guard decides**, by the number of words they expand to. No word never decides; from two
    words on it depends on what they are. -/
def Conclusive (s : Site) (h : Fqdn) : Prop :=
  match s.globbing.unquoted s.activeMaster with
  | [] => False
  -- one word: another host's name, or this host's name without a blank around it
  | [a] => a = h.name → s.activeMaster = h.name
  -- two words: `! host` is the one true expression
  | [a, b] => a = "!".toList ∧ b = h.name
  -- more words: together with `!= host` they have to form a true expression
  | ws => test s.files (ws ++ neTail h.name) = .yes

/-- A host that obtains its own name expands it to that one word, as it stands. -/
theorem unquoted_activeMaster {s : Site} {h : Fqdn} (he : s.activeMaster = h.name) :
    s.globbing.unquoted s.activeMaster = [h.name] := by
  rw [he, s.globbing.unquoted_plain h.isWord h.plain]

/-- **The guard keeps the host from compacting without being named exactly on conclusive outputs.** The cases are
    those of the number of words that the unquoted output splits into, since `[` gets each of them as an argument of
    its own. -/
theorem conclusive_iff (s : Site) (h : Fqdn) :
    (guard s h.name ≠ .yes → s.activeMaster = h.name) ↔ Conclusive s h := by
  rw [guard_eq]
  unfold Conclusive
  split
  · rename_i hw
    rw [hw, List.nil_append, test_neTail_nil]
    simp only [ne_eq, reduceCtorEq, not_false_eq_true, true_imp_iff, iff_false]
    intro he
    rw [unquoted_activeMaster he] at hw
    exact absurd hw (by simp)
  · rename_i a hw
    rw [hw, List.singleton_append, test_neTail_one]
    by_cases ha : a = h.name <;> simp [ha]
  · rename_i a b hw
    rw [hw, List.cons_append, List.singleton_append]
    constructor
    · intro himp
      by_contra hcon
      have he := himp (fun hy => hcon ((test_neTail_two s.files h.ne_paren).mp hy))
      rw [unquoted_activeMaster he] at hw
      exact absurd hw (by simp)
    · intro hab hne
      exact absurd ((test_neTail_two s.files h.ne_paren).mpr hab) hne
  · rename_i hnil hone htwo
    constructor
    · intro himp
      by_contra hcon
      exact hone _ (unquoted_activeMaster (himp hcon))
    · intro hy hne; exact absurd hy hne

/-- A sentence: three words or more, with no operator of `[` among the first four. -/
structure Sentence (s : Site) : Prop where
  length : 3 ≤ (s.globbing.unquoted s.activeMaster).length
  no_operator : ∀ w ∈ (s.globbing.unquoted s.activeMaster).take 4, isOperator w = false

/-- With a sentence, the arguments of the guard form no expression. -/
theorem Sentence.guard_eq_error {s : Site} (hs : Sentence s) (h : Fqdn) : guard s h.name = .error := by
  rw [guard_eq]
  exact test_neTail_sentence s.files hs.length hs.no_operator

/-- So it is not conclusive, whatever the name of the host is. -/
theorem Sentence.not_conclusive {s : Site} (hs : Sentence s) (h : Fqdn) : ¬ Conclusive s h := by
  intro hcon
  have hne : s.activeMaster ≠ h.name := by
    intro he
    have hlen := hs.length
    rw [unquoted_activeMaster he, List.length_singleton] at hlen
    omega
  refine hne ((conclusive_iff s h).mpr hcon ?_)
  rw [hs.guard_eq_error]
  decide

/-! ## The cluster

What the hosts do one after the other. At most one of them compacts if each compacts only when it is named, and all
obtain the same output. -/

/-- **Only the active master compacts**: whoever compacts obtained exactly its own name, and hosts that all
    obtain the same output compact at most once. -/
structure OnlyActiveMaster (site : Fqdn → Site) (order : List Fqdn) : Prop where
  named : ∀ h ∈ order, Compacts h (site h) → (site h).activeMaster = h.name
  once : (∀ h ∈ order, ∀ h' ∈ order, (site h).activeMaster = (site h').activeMaster) →
    (compactions site order).length ≤ 1

/-- The compactions of the first host, then those of the others. -/
theorem compactions_cons (site : Fqdn → Site) (h : Fqdn) (order : List Fqdn) :
    compactions site (h :: order) =
      ((maintenance_daily h (site h)).1.filter Action.isCompaction).map (h, ·)
        ++ compactions site order := by
  simp only [compactions, clusterRun, List.flatMap_cons, List.filter_append, List.filter_map]
  rfl

/-- When no host of a run compacts, nothing is compacted. By induction on the order. -/
theorem compactions_eq_nil {site : Fqdn → Site} : ∀ {order : List Fqdn},
    (∀ h ∈ order, (site h).get_active_master.1 = 0) → (∀ h ∈ order, ¬ Compacts h (site h)) →
      compactions site order = []
  | [], _, _ => rfl
  | h :: order, hs, hn => by
      have hg : guard (site h) h.name = .yes := by
        by_contra hg
        exact hn h (by simp) ((compacts_iff h (hs h (by simp))).mpr hg)
      rw [compactions_cons, compactions_of_host h (hs h (by simp)), if_pos hg,
        compactions_eq_nil (fun k hk => hs k (List.mem_cons_of_mem h hk))
          (fun k hk => hn k (List.mem_cons_of_mem h hk))]
      rfl

/-- When at most the host of one name compacts, it does so at most once, since it stands in the order once. -/
theorem length_compactions_le_one {site : Fqdn → Site} {m : Text} : ∀ {order : List Fqdn},
    (∀ h ∈ order, (site h).get_active_master.1 = 0) → order.Nodup →
      (∀ h ∈ order, Compacts h (site h) → h.name = m) → (compactions site order).length ≤ 1
  | [], _, _, _ => by simp [compactions, clusterRun]
  | h :: order, hs, hnd, hm => by
      obtain ⟨hnot, hnd'⟩ := List.nodup_cons.mp hnd
      have hs' : ∀ k ∈ order, (site k).get_active_master.1 = 0 :=
        fun k hk => hs k (List.mem_cons_of_mem h hk)
      have hm' : ∀ k ∈ order, Compacts k (site k) → k.name = m :=
        fun k hk => hm k (List.mem_cons_of_mem h hk)
      rw [compactions_cons, compactions_of_host h (hs h (by simp))]
      by_cases hg : guard (site h) h.name = .yes
      · rw [if_pos hg]
        simpa using length_compactions_le_one hs' hnd' hm'
      -- this host has the name `m`, so no later one has
      · have hname := hm h (by simp) ((compacts_iff h (hs h (by simp))).mpr hg)
        have hrest : compactions site order = [] := by
          refine compactions_eq_nil hs' fun k hk hc => ?_
          have hkh : k.name = h.name := (hm' k hk hc).trans hname.symm
          have : k = h := by cases k; cases h; simp only at hkh; subst hkh; rfl
          exact hnot (this ▸ hk)
        rw [if_neg hg, hrest]; simp

/-- A host with a sentence compacts: `[` gets arguments that form no expression. -/
theorem Sentence.compacts {s : Site} (hsent : Sentence s) (h : Fqdn) (hs : s.get_active_master.1 = 0) :
    Compacts h s ∧
      posixtest s.files (s.globbing.unquoted s.activeMaster ++ neTail h.name) = .error .syntaxError := by
  have herror := hsent.guard_eq_error h
  refine ⟨(compacts_iff h hs).mpr (by rw [herror]; decide), ?_⟩
  rw [guard_eq] at herror
  exact (test_eq_error_iff _ _).mp herror

/-- **The cluster keeps to its active master exactly on conclusive outputs**, for every set of hosts and every order
    in which the job runs on them. A host that obtains a sentence compacts, since `[` rejects what it gets, and its
    output is not conclusive. One host at a time this is `conclusive_iff`; that at most one host compacts follows
    where all obtain one name. -/
theorem onlyActiveMaster_iff (site : Fqdn → Site) (order : List Fqdn) (hnd : order.Nodup)
    (hs : ∀ h ∈ order, (site h).get_active_master.1 = 0) :
    (OnlyActiveMaster site order ↔ ∀ h ∈ order, Conclusive (site h) h) ∧
    ∀ h ∈ order, Sentence (site h) → ¬ Conclusive (site h) h ∧ Compacts h (site h) ∧
      posixtest (site h).files ((site h).globbing.unquoted (site h).activeMaster ++ neTail h.name) =
        .error .syntaxError := by
  refine ⟨?_, fun h hh hsent => ⟨hsent.not_conclusive h, hsent.compacts h (hs h hh)⟩⟩
  constructor
  · intro hon h hh
    exact (conclusive_iff (site h) h).mp fun hg => hon.named h hh ((compacts_iff h (hs h hh)).mpr hg)
  · intro hcon
    have hnamed : ∀ h ∈ order, Compacts h (site h) → (site h).activeMaster = h.name :=
      fun h hh hc => (conclusive_iff (site h) h).mpr (hcon h hh) ((compacts_iff h (hs h hh)).mp hc)
    refine ⟨hnamed, fun hsame => ?_⟩
    cases order with
    | nil => simp [compactions, clusterRun]
    | cons k ks =>
        refine length_compactions_le_one (m := (site k).activeMaster) hs hnd fun h hh hc => ?_
        rw [← hnamed h hh hc]
        exact hsame h hh k (List.mem_cons_self ..)

/-- Both hosts obtain the name of the first. -/
theorem onlyActiveMaster_of_first :
    let m1 : Fqdn := ⟨"m1.muc".toList, by decide, by decide⟩
    let m2 : Fqdn := ⟨"m2.muc".toList, by decide, by decide⟩
    OnlyActiveMaster (fun _ => ⟨Globbing.empty, Files.empty, (0, "m1.muc\n".toList), 0⟩) [m2, m1] := by
  intro m1 m2
  refine (onlyActiveMaster_iff _ [m2, m1] (by decide) (by simp)).1.mpr ?_
  rw [List.forall_mem_cons, List.forall_mem_singleton]
  constructor
  · show "m1.muc".toList = "m2.muc".toList → _
    intro he; exact absurd he (by decide)
  · show "m1.muc".toList = "m1.muc".toList → _
    intro _; decide

/-- An error sentence on standard output sends every master into the compaction. -/
theorem error_sentence_compacts_everywhere :
    let m1 : Fqdn := ⟨"m1.muc".toList, by decide, by decide⟩
    let m2 : Fqdn := ⟨"m2.muc".toList, by decide, by decide⟩
    let site : Fqdn → Site :=
      fun _ => ⟨Globbing.empty, Files.empty, (0, "no active master\n".toList), 0⟩
    (compactions site [m1, m2]).length = 2 ∧ (site m1).activeMaster ≠ m1.name ∧
      (site m2).activeMaster ≠ m2.name := by
  decide

end Hbase
end StgEnvironment
