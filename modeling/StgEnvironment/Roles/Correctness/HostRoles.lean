import StgEnvironment.Roles.HostRoles

/-!
# `Roles.Correctness.HostRoles`: every name has one set of roles

No two branches of the fact match the same name, so that their order makes no difference (`hostroles_order`), and the
classes of all roles that it names are there (`site_of_when`): a host whose name is known gets them, with the
monitoring among them, and any other has no catalog.

That two branches do not match one name is decided from their patterns: at some place they ask for different
characters (`Puppet.Regex.apart`). A name is one line.
-/

namespace StgEnvironment
namespace Roles
open Puppet

/-! ## The branches -/

theorem whens_apart : whens.Pairwise fun w w' => apart w.1 w'.1 = true := by decide +kernel

theorem when_unique {fqdn : Text} (hline : '\n' ∉ fqdn) {w w' : When} (hw : w ∈ whens) (hw' : w' ∈ whens)
    (h : matchesLine w.1 fqdn = true) (h' : matchesLine w'.1 fqdn = true) : w = w' := by
  have hpair : whens.Pairwise fun w w' => matchesLine w.1 fqdn = true → matchesLine w'.1 fqdn = true → w = w' :=
    whens_apart.imp fun {w w'} hapart hw hw' => by
      rw [matchesLine_eq_matchesAt hline] at hw hw'
      rw [not_matchesAt_of_apart hapart hw] at hw'
      cases hw'
  have hflip : whens.Pairwise fun w w' => matchesLine w'.1 fqdn = true → matchesLine w.1 fqdn = true → w' = w :=
    hpair.imp fun {w w'} hww' hw' hw => (hww' hw hw').symm
  exact hpair.forall_of_forall_of_flip (fun _ _ _ _ => rfl) hflip hw hw' h h'

/-- The order of the branches makes no difference. -/
theorem caseOf_perm {ws : List When} (hp : ws.Perm whens) {fqdn : Text} (hline : '\n' ∉ fqdn) :
    caseOf ws fqdn = hostroles fqdn := by
  have hfind : ws.find? (fun w => matchesLine w.1 fqdn) = whens.find? fun w => matchesLine w.1 fqdn := by
    rw [List.find?_eq_findSome?_guard, List.find?_eq_findSome?_guard]
    refine Hiera.findSome?_perm hp fun w hw w' hw' x y hx hy => ?_
    obtain ⟨rfl, hm⟩ := Option.guard_eq_some_iff.mp hx
    obtain ⟨rfl, hm'⟩ := Option.guard_eq_some_iff.mp hy
    exact when_unique hline (hp.mem_iff.mp hw) (hp.mem_iff.mp hw') hm hm'
  rw [hostroles, caseOf, caseOf, hfind]

/-- A name that a branch matches has the roles of the branch. -/
theorem hostroles_of_when {fqdn : Text} (hline : '\n' ∉ fqdn) {w : When} (hw : w ∈ whens)
    (h : matchesLine w.1 fqdn = true) : hostroles fqdn = .list w.2 := by
  cases hfind : whens.find? fun w => matchesLine w.1 fqdn with
  | none =>
      have hnone := List.find?_eq_none.mp hfind w hw
      exact absurd h hnone
  | some w' =>
      have hw' := List.mem_of_find?_eq_some hfind
      have heq : w' = w := 
        when_unique hline hw' hw (List.find?_some (p := fun w : When => matchesLine w.1 fqdn) hfind) h
      rw [hostroles, caseOf, hfind, heq]

theorem hostroles_of_none {fqdn : Text} (h : ∀ w ∈ whens, matchesLine w.1 fqdn = false) :
    hostroles fqdn = .string "unknown".toList := by
  have hfind : whens.find? (fun w => matchesLine w.1 fqdn) = none :=
    List.find?_eq_none.mpr fun w hw => by rw [h w hw]; exact Bool.false_ne_true
  rw [hostroles, caseOf, hfind]

/-! ## The classes -/

/-- The classes that were there, and those that are added. -/
theorem mem_foldl_addClass {c : Text} {cs : List Text} : ∀ {classes : List Text},
    c ∈ cs.foldl addClass classes ↔ c ∈ classes ∨ c ∈ cs := by
  induction cs with
  | nil => exact fun {classes} => by simp
  | cons d cs ih =>
      intro classes
      rw [List.foldl_cons, ih, List.mem_cons, addClass]
      by_cases hd : classes.contains d = true
      · rw [if_pos hd]
        have hd := List.contains_iff_mem.mp hd
        exact ⟨fun h => h.imp id Or.inr, fun h => h.elim Or.inl fun h => h.elim (fun h => Or.inl (h ▸ hd)) Or.inr⟩
      · rw [if_neg hd, List.mem_append, List.mem_singleton, or_assoc]

/-- The classes of a role. -/
def classesOf (role : Text) : List Text :=
  ("roles::".toList ++ role) :: (Dict.find role manifests).getD []

/-- A role that has a class includes what the class includes. -/
theorem includeRole_eq {role : Text} (h : (Dict.find role manifests).isSome = true) (classes : List Text) :
    includeRole classes role = .ok ((classesOf role).foldl addClass classes) := by
  obtain ⟨included, hincluded⟩ := Option.isSome_iff_exists.mp h
  rw [includeRole, classesOf, hincluded]
  rfl

/-- Roles that have a class are included with all that they include. -/
theorem foldlM_includeRole {roles : List Text} (h : ∀ role ∈ roles, (Dict.find role manifests).isSome = true) :
    ∀ classes, ∃ out, roles.foldlM includeRole classes = .ok out ∧
      ∀ c, c ∈ out ↔ c ∈ classes ∨ ∃ role ∈ roles, c ∈ classesOf role := by
  induction roles with
  | nil => exact fun classes => ⟨classes, rfl, fun c => by simp⟩
  | cons role roles ih =>
      intro classes
      have hrole := includeRole_eq (h role (List.mem_cons_self ..)) classes
      obtain ⟨out, hout, hmem⟩ :=
        ih (fun r hr => h r (List.mem_cons_of_mem _ hr)) ((classesOf role).foldl addClass classes)
      refine ⟨out, ?_, fun c => ?_⟩
      · rw [List.foldlM_cons, hrole]
        exact hout
      · rw [hmem, mem_foldl_addClass, or_assoc, List.exists_mem_cons_iff]

/-- All roles that the fact names have a class, and `base` is always among them. -/
theorem whens_manifests : ∀ w ∈ whens, "base".toList ∈ w.2 ∧
    ∀ role ∈ w.2, (Dict.find role manifests).isSome = true := by decide +kernel

theorem nrpe_of_base : "profiles::nrpe".toList ∈ classesOf "base".toList := by decide +kernel

/-- All roles of a branch have a class, and one of them includes the monitoring. -/
theorem site_of_when {w : When} (hw : w ∈ whens) :
    ∃ classes, site (.list w.2) = .ok classes ∧ "profiles::nrpe".toList ∈ classes := by
  obtain ⟨hbase, hroles⟩ := whens_manifests w hw
  obtain ⟨classes, hclasses, hmem⟩ := foldlM_includeRole hroles []
  exact ⟨classes, hclasses, (hmem _).mpr (Or.inr ⟨_, hbase, nrpe_of_base⟩)⟩

/-- No role has the name of the first character of `unknown`. -/
theorem site_unknown : site (.string "unknown".toList) = .error .evaluation := by decide +kernel

/-- **A name has its roles whatever the order of the branches, and classes if there is a branch for it.** No name
    without a newline matches two branches. Without any the fact is a text instead of a list, and the evaluation of
    `site.pp` fails. -/
theorem hostroles_order {fqdn : Text} (hline : '\n' ∉ fqdn) :
    (∀ ws : List When, ws.Perm whens → caseOf ws fqdn = hostroles fqdn) ∧
      ((∃ w ∈ whens, matchesLine w.1 fqdn = true) →
        ∃ classes, site (hostroles fqdn) = .ok classes ∧ "profiles::nrpe".toList ∈ classes) ∧
      ((∀ w ∈ whens, matchesLine w.1 fqdn = false) → site (hostroles fqdn) = .error .evaluation) := by
  refine ⟨fun ws hp => caseOf_perm hp hline, ?_, fun h => ?_⟩
  · rintro ⟨w, hw, hm⟩
    rw [hostroles_of_when hline hw hm]
    exact site_of_when hw
  · rw [hostroles_of_none h]
    exact site_unknown

/-- A host of Elasticsearch. -/
theorem hostroles_order_dses :
    ∃ classes, site (hostroles "os13dses01.muc.domeus.com".toList) = .ok classes ∧ "profiles::nrpe".toList ∈ classes :=
  (hostroles_order (by decide)).2.1
    ⟨named "os13dses" ["base", "elasticsearch"], by simp [whens], by decide⟩

end Roles
end StgEnvironment
