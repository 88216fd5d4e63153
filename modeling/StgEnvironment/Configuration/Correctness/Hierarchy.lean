import StgEnvironment.Configuration.Hierarchy
import StgEnvironment.Roles.Correctness.HostRoles

/-!
# `Configuration.Correctness.Hierarchy`: what a node gets from the hierarchy

Of a key whose hashes are merged, each entry comes from the first file that has one (`lookup_merged`). From this: every
host with a known name is monitored, by the checks of `common.yaml` at least (`every_host_monitored`); a further role
takes no entry away, and changes none that the files above it have (`role_added`); the order of the roles matters only
for entries that two of them have (`roles_permuted`). And the files of a role concern no node without it
(`role_files_local`).

## Contents
- **Entries** (`defined`): an entry by the paths of a node, and how it is put together from the parts of the hierarchy.
- **The monitoring**: the commands of a node are the entries of its checks (`commandsOf_merged`).
- **The roles of a node**: the hierarchy with a role more (`defined_role_added`), and with the roles in another order.
- **The files of a role** are in the hierarchy of no other node (`ne_of_mem_hierarchy`).

The results are about keys that all files have as hashes and that an option of the data merges (`MergedAsHash`), as it
is with the checks of the repository. Each is followed by the sample of two files it is applied to.
-/

namespace StgEnvironment
namespace Configuration
open Puppet Puppet.Hiera Roles

variable {d : Datadir} {n : Node} {m key : Text}

/-- The files of the hierarchy, in their order. -/
def files (d : Datadir) (n : Node) (module_name : Text) : List File := (hierarchy n module_name).flatten.filterMap d

/-- Level by level or one after the other, the files are the same. -/
theorem flatten_levels (d : Datadir) (n : Node) (m : Text) : (levels d n m).flatten = files d n m := by
  rw [levels, files]
  induction hierarchy n m with
  | nil => rfl
  | cons level levels ih => rw [List.map_cons, List.flatten_cons, List.flatten_cons, ih, List.filterMap_append]

/-- The entry that the files at the paths have under a key, the first of them having precedence. -/
def defined (d : Datadir) (paths : List Text) (key sub : Text) : Option Value :=
  (values (paths.filterMap d) key).findSome? (entry sub)

/-- An entry of the upper paths hides the one of the lower paths. -/
theorem defined_append (d : Datadir) (paths paths' : List Text) (key sub : Text) :
    defined d (paths ++ paths') key sub = (defined d paths key sub).or (defined d paths' key sub) := by
  rw [defined, List.filterMap_append, values, List.filterMap_append, List.findSome?_append]
  rfl

/-- What one file has. -/
def definition (d : Datadir) (key sub path : Text) : Option Value :=
  ((d path).bind fun f => f.get? key).bind (entry sub)

theorem defined_eq (d : Datadir) (paths : List Text) (key sub : Text) :
    defined d paths key sub = paths.findSome? (definition d key sub) := by
  induction paths with
  | nil => rfl
  | cons p paths ih =>
      have hcons : defined d (p :: paths) key sub = (defined d [p] key sub).or (defined d paths key sub) :=
        defined_append d [p] paths key sub
      have hone : defined d [p] key sub = definition d key sub p := by
        rw [defined, definition]
        cases hd : d p with
        | none => simp [hd, values]
        | some f =>
            cases hf : f.get? key with
            | none => simp [hd, values, hf]
            | some v => simp [hd, values, hf]
      rw [hcons, hone, ih, List.findSome?_cons]
      cases definition d key sub p <;> rfl

/-- **Of a key whose hashes are merged, each entry is that of the first file with one.** The merged hash has each
    entry once. -/
theorem lookup_merged (h : MergedAsHash (files d n m) key) (hne : values (files d n m) key ≠ []) :
    ∃ es, lookup d n m key = .ok (some (.hash es)) ∧ (es.map Prod.fst).Nodup ∧
      ∀ sub, Dict.find sub es = defined d (hierarchy n m).flatten key sub := by
  rw [← flatten_levels] at h hne
  obtain ⟨es, hes, hnodup, hfind⟩ := lookup_hash h hne
  refine ⟨es, hes, hnodup, fun sub => ?_⟩
  rw [hfind, flatten_levels]
  rfl

/-! ## The monitoring -/

/-- The module whose keys are looked up. -/
def profiles : Text := "profiles".toList

/-- The key of the parameter `$checks`. -/
def nrpe_checks : Text := "profiles::nrpe::checks".toList

/-- The attributes of every check of a file are a hash. -/
def AttributesIn (v : Value) : Prop := ∀ es, v = .hash es → ∀ e ∈ es, isAttributes e.2 = true

/-- So of the NRPE commands: each check is there as the first file defines it that has it. -/
theorem commandsOf_merged {classes : List Text} (hnrpe : "profiles::nrpe".toList ∈ classes)
    (h : MergedAsHash (files d n profiles) nrpe_checks) (hne : values (files d n profiles) nrpe_checks ≠ [])
    (hattr : ∀ v ∈ values (files d n profiles) nrpe_checks, AttributesIn v) :
    ∃ es, commandsOf d n classes = .ok es ∧ (es.map Prod.fst).Nodup ∧
      ∀ sub, Dict.find sub es = defined d (hierarchy n profiles).flatten nrpe_checks sub := by
  obtain ⟨es, hes, hnodup, hfind⟩ := lookup_merged h hne
  have hall : ∀ e ∈ es, isAttributes e.2 = true := by
    intro e he
    have hsome : Dict.find e.1 es = some e.2 := Dict.get?_of_mem (d := ⟨es, hnodup⟩) he
    rw [hfind, defined] at hsome
    obtain ⟨v, hv, hentry⟩ := List.exists_of_findSome?_eq_some hsome
    obtain ⟨es', rfl, -⟩ := h.values v hv
    exact hattr _ hv es' rfl (e.1, e.2) (Dict.mem_of_find hentry)
  refine ⟨es, ?_, hnodup, hfind⟩
  have hchecks : checks d n = .ok (.hash es) := by
    rw [checks]
    show (lookup d n profiles nrpe_checks).map _ = _
    rw [hes]
    rfl
  rw [commandsOf, if_pos (List.contains_iff_mem.mpr hnrpe), hchecks]
  show (if es.all fun e => isAttributes e.2 then Except.ok es else Except.error Failure.evaluation) = .ok es
  rw [if_pos (List.all_eq_true.mpr hall)]

theorem common_mem_files {common : File} (hcommon : d "common.yaml".toList = some common) :
    common ∈ files d n m := by
  refine List.mem_filterMap.mpr ⟨"common.yaml".toList, ?_, hcommon⟩
  refine List.mem_flatten.mpr ⟨["common.yaml".toList], ?_, List.mem_singleton_self _⟩
  exact List.mem_append_right _ (by simp [general])

/-! ## A node with Elasticsearch -/

/-- A check that is a command and nothing else. -/
def command (c : String) : Value := .hash [("command".toList, .str c.toList)]

/-- Of `common.yaml`: the option for the checks, and two of them. -/
def sampleCommon : File where
  entries :=
    [(lookup_options, .hash [(nrpe_checks, .hash [(merge_option, .str "hash".toList)])]),
     (nrpe_checks, .hash [("check_users".toList, command "check_users 10 15"),
       ("check_disks".toList, command "check_disk -e -l")])]
  nodup := by decide

/-- Of `roles/elasticsearch.yaml`. -/
def sampleRole : File where
  entries :=
    [(nrpe_checks, .hash [("check_es".toList, command "check_procs -c 2:2 -C java -a Elasticsearch"),
       ("check_disks".toList, command "sudo check_disk -e -l")])]
  nodup := by decide

/-- The two files, and no others. -/
def sampleData : Datadir := fun p =>
  if p = "common.yaml".toList then some sampleCommon
  else if p = "roles/elasticsearch.yaml".toList then some sampleRole
  else none

def sampleNode : Node :=
  ⟨"os13dses01.muc.domeus.com".toList, "physical".toList, "Debian".toList, "jessie".toList,
    hostroles "os13dses01.muc.domeus.com".toList⟩

/-- The checks of the first file are merged as hashes, by its own option. -/
theorem sampleCommon_merged : MergedAsHash [sampleCommon] nrpe_checks where
  options v hv := by
    obtain rfl : v = .hash _ := List.mem_singleton.mp hv
    exact ⟨_, rfl, by decide⟩
  hash := ⟨_, rfl, rfl⟩
  values v hv := by
    obtain rfl : v = .hash _ := List.mem_singleton.mp hv
    exact ⟨_, rfl, by decide⟩

/-- So are those of both files, by the option of the lower one. -/
theorem sample_merged : MergedAsHash [sampleRole, sampleCommon] nrpe_checks where
  options v hv := by
    obtain rfl : v = .hash _ := List.mem_singleton.mp hv
    exact ⟨_, rfl, by decide⟩
  hash := ⟨_, rfl, rfl⟩
  values v hv := by
    rcases List.mem_pair.mp hv with rfl | rfl
    all_goals exact ⟨_, rfl, by decide⟩

/-- Two roles whose files are those of the sample. -/
def sampleRoles : List Text := ["base".toList, "elasticsearch".toList]

/-! ## The checks of a host -/

/-- **A host whose name is known is monitored**: its catalog, as far as that is modelled, has the class of the checks,
and the commands of `common.yaml`, each as the first file defines it that has it. -/
theorem every_host_monitored {fqdn : Text} {common : File} {own : List (Text × Value)} (hline : '\n' ∉ fqdn)
    (hknown : ∃ w ∈ whens, matchesLine w.1 fqdn = true) (hroles : n.hostroles = hostroles fqdn)
    (h : MergedAsHash (files d n profiles) nrpe_checks)
    (hattr : ∀ v ∈ values (files d n profiles) nrpe_checks, AttributesIn v)
    (hcommon : d "common.yaml".toList = some common) (hown : common.get? nrpe_checks = some (.hash own)) :
    ∃ c, catalog d n = .ok c ∧ "profiles::nrpe".toList ∈ c.classes ∧ (c.commands.map Prod.fst).Nodup ∧
      (∀ check ∈ own.map Prod.fst, check ∈ c.commands.map Prod.fst) ∧
      ∀ check, Dict.find check c.commands = defined d (hierarchy n profiles).flatten nrpe_checks check := by
  obtain ⟨w, hw, hm⟩ := hknown
  obtain ⟨classes, hsite, hnrpe⟩ := site_of_when hw
  have hmem : Value.hash own ∈ values (files d n profiles) nrpe_checks :=
    List.mem_filterMap.mpr ⟨common, common_mem_files hcommon, hown⟩
  obtain ⟨es, hes, hnodup, hfind⟩ := commandsOf_merged hnrpe h (List.ne_nil_of_mem hmem) hattr
  refine ⟨⟨classes, es⟩, ?_, hnrpe, hnodup, fun check hcheck => ?_, hfind⟩
  · rw [catalog, hroles, hostroles_of_when hline hw hm, hsite]
    show (commandsOf d n classes).map _ = _
    rw [hes]
    rfl
  · rw [← Dict.find_isSome_iff, hfind, defined, List.findSome?_isSome_iff]
    exact ⟨_, hmem, Dict.find_isSome_iff.mpr hcheck⟩

/-- The host `os13dses01`, which gets the check of `common.yaml` beside that of its role. -/
theorem every_host_monitored_dses : ∃ c, catalog sampleData sampleNode = .ok c ∧
    "profiles::nrpe".toList ∈ c.classes ∧
      Dict.find "check_disks".toList c.commands = some (command "sudo check_disk -e -l") := by
  obtain ⟨c, hc, hclass, -, -, hfind⟩ := every_host_monitored (d := sampleData) (n := sampleNode)
    (show '\n' ∉ "os13dses01.muc.domeus.com".toList by decide)
    ⟨named "os13dses" ["base", "elasticsearch"], by simp [whens], by decide⟩ rfl sample_merged
    (fun v hv => by
      rcases List.mem_pair.mp hv with rfl | rfl
      all_goals
        rintro es heq e he
        obtain rfl := Value.hash.inj heq
        rcases List.mem_pair.mp he with rfl | rfl <;> rfl)
    (show sampleData _ = some sampleCommon from rfl) rfl
  exact ⟨c, hc, hclass, (hfind _).trans rfl⟩

/-! ## The roles of a node -/

section RolesOfNode
variable {roles : List Text}

/-- The node with these roles. -/
def Node.withRoles (n : Node) (roles : List Text) : Node := { n with hostroles := .list roles }

/-- The paths of a node with these roles, in their order. -/
theorem flatten_hierarchy (n : Node) (roles : List Text) (m : Text) :
    (hierarchy (n.withRoles roles) m).flatten =
      secrets m ++ (roles.map secretsOf ++ ((machine n).flatten ++ (roles.map dataOf ++ (general m).flatten))) := by
  simp only [hierarchy, List.flatten_append, List.flatten_cons, List.flatten_nil, List.append_nil, List.append_assoc]
  rfl

/-- The paths of a node that come before the general ones. -/
def specific (n : Node) (roles : List Text) (m : Text) : List Text :=
  secrets m ++ (roles.map secretsOf ++ ((machine n).flatten ++ roles.map dataOf))

/-- An entry of a node, from the parts of the hierarchy: the first part that has it decides. -/
theorem defined_hierarchy (d : Datadir) (n : Node) (roles : List Text) (m key sub : Text) :
    defined d (hierarchy (n.withRoles roles) m).flatten key sub =
      (defined d (secrets m) key sub).or ((defined d (roles.map secretsOf) key sub).or
        ((defined d (machine n).flatten key sub).or
          ((defined d (roles.map dataOf) key sub).or (defined d (general m).flatten key sub)))) := by
  rw [flatten_hierarchy]
  simp only [defined_append]

theorem defined_specific (d : Datadir) (n : Node) (roles : List Text) (m key sub : Text) :
    defined d (specific n roles m) key sub =
      (defined d (secrets m) key sub).or ((defined d (roles.map secretsOf) key sub).or
        ((defined d (machine n).flatten key sub).or (defined d (roles.map dataOf) key sub))) := by
  simp only [specific, defined_append]

theorem defined_singleton (d : Datadir) (key sub path : Text) :
    defined d [path] key sub = definition d key sub path := by
  rw [defined_eq, List.findSome?_cons]
  cases definition d key sub path <;> rfl

/-- The entries with one more role: its two files come last among those of the roles, each at its level. -/
theorem defined_role_added (d : Datadir) (n : Node) (roles : List Text) (r m key sub : Text) :
    defined d (hierarchy (n.withRoles (roles ++ [r])) m).flatten key sub =
      (defined d (secrets m) key sub).or
        (((defined d (roles.map secretsOf) key sub).or (definition d key sub (secretsOf r))).or
          ((defined d (machine n).flatten key sub).or
            (((defined d (roles.map dataOf) key sub).or (definition d key sub (dataOf r))).or
              (defined d (general m).flatten key sub)))) := by
  rw [defined_hierarchy, List.map_append, List.map_append, defined_append, defined_append]
  show (_ : Option Value).or ((Option.or _ (defined d [secretsOf r] key sub)).or
    (Option.or _ ((Option.or _ (defined d [dataOf r] key sub)).or _))) = _
  rw [defined_singleton, defined_singleton]

theorem values_ne_nil {roles' : List Text} (hsub : roles ⊆ roles')
    (hne : values (files d (n.withRoles roles) m) key ≠ []) :
    values (files d (n.withRoles roles') m) key ≠ [] := by
  obtain ⟨v, hv⟩ := List.exists_mem_of_ne_nil _ hne
  obtain ⟨f, hf, hfv⟩ := List.mem_filterMap.mp hv
  obtain ⟨p, hp, hpf⟩ := List.mem_filterMap.mp hf
  refine List.ne_nil_of_mem (List.mem_filterMap.mpr ⟨f, List.mem_filterMap.mpr ⟨p, ?_, hpf⟩, hfv⟩)
  rw [flatten_hierarchy] at hp ⊢
  simp only [List.mem_append] at hp ⊢
  exact hp.imp id (Or.imp (fun h => List.map_subset _ hsub h)
    (Or.imp id (Or.imp (fun h => List.map_subset _ hsub h) id)))

/-- **A further role takes no entry away. It changes none that comes before the general files unless it is a secret of
    the role, and none at all that its files do not have.** This is of a key whose hashes are merged: there an entry
    is that of the first file along the hierarchy with one (`lookup_merged`), and a new role stands behind the others
    in two places of it. -/
theorem role_added {r : Text} (h : MergedAsHash (files d (n.withRoles roles) m) key)
    (h' : MergedAsHash (files d (n.withRoles (roles ++ [r])) m) key)
    (hne : values (files d (n.withRoles roles) m) key ≠ []) :
    ∃ es es', lookup d (n.withRoles roles) m key = .ok (some (.hash es)) ∧
      lookup d (n.withRoles (roles ++ [r])) m key = .ok (some (.hash es')) ∧
      (∀ sub ∈ es.map Prod.fst, sub ∈ es'.map Prod.fst) ∧
      (∀ sub v, defined d (specific n roles m) key sub = some v → definition d key sub (secretsOf r) = none →
        Dict.find sub es' = some v) ∧
      ∀ sub, definition d key sub (secretsOf r) = none → definition d key sub (dataOf r) = none →
        Dict.find sub es' = Dict.find sub es := by
  obtain ⟨es, hes, -, hfind⟩ := lookup_merged h hne
  obtain ⟨es', hes', -, hfind'⟩ := lookup_merged h' (values_ne_nil (List.subset_append_left ..) hne)
  refine ⟨es, es', hes, hes', fun sub hsub => ?_, fun sub v hv hsecret => ?_, fun sub hsecret hdata => ?_⟩
  · rw [← Dict.find_isSome_iff, hfind, defined_hierarchy] at hsub
    rw [← Dict.find_isSome_iff, hfind', defined_role_added]
    simp only [Option.isSome_or, Bool.or_eq_true] at hsub ⊢
    tauto
  · rw [hfind', defined_role_added, hsecret, Option.or_none]
    rw [defined_specific] at hv
    -- what the role has stands behind what was there, and before the general files
    calc (defined d (secrets m) key sub).or ((defined d (roles.map secretsOf) key sub).or
          ((defined d (machine n).flatten key sub).or
            (((defined d (roles.map dataOf) key sub).or (definition d key sub (dataOf r))).or
              (defined d (general m).flatten key sub))))
        = ((defined d (secrets m) key sub).or ((defined d (roles.map secretsOf) key sub).or
            ((defined d (machine n).flatten key sub).or (defined d (roles.map dataOf) key sub)))).or
              ((definition d key sub (dataOf r)).or (defined d (general m).flatten key sub)) := by
          simp only [Option.or_assoc]
      _ = some v := by rw [hv]; rfl
  · rw [hfind', hfind, defined_role_added, defined_hierarchy, hsecret, hdata, Option.or_none, Option.or_none]

/-- The role `elasticsearch` beside `base` takes no check away. -/
theorem role_added_dses : ∃ es es',
    lookup sampleData (sampleNode.withRoles ["base".toList]) profiles nrpe_checks = .ok (some (.hash es)) ∧
      lookup sampleData (sampleNode.withRoles sampleRoles) profiles nrpe_checks = .ok (some (.hash es')) ∧
      ∀ sub ∈ es.map Prod.fst, sub ∈ es'.map Prod.fst := by
  obtain ⟨es, es', hes, hes', hkeys, -⟩ := @role_added sampleData sampleNode profiles nrpe_checks
    ["base".toList] "elasticsearch".toList sampleCommon_merged sample_merged
    (show [Value.hash _] ≠ [] from List.cons_ne_nil _ _)
  exact ⟨es, es', hes, hes', hkeys⟩

/-- **The order of the roles makes no difference to an entry that at most one of them has**, among the secrets and
    among the data. Both lookups are merged hashes, and the part of the hierarchy that belongs to the roles is
    searched with the same outcome in both orders. -/
theorem roles_permuted {roles' : List Text} (hp : roles.Perm roles')
    (h : MergedAsHash (files d (n.withRoles roles) m) key) (h' : MergedAsHash (files d (n.withRoles roles') m) key)
    (hne : values (files d (n.withRoles roles) m) key ≠ [])
    (hsecrets : ∀ sub, ∀ r ∈ roles, ∀ r' ∈ roles, r ≠ r' →
      definition d key sub (secretsOf r) = none ∨ definition d key sub (secretsOf r') = none)
    (hdata : ∀ sub, ∀ r ∈ roles, ∀ r' ∈ roles, r ≠ r' →
      definition d key sub (dataOf r) = none ∨ definition d key sub (dataOf r') = none) :
    ∃ es es', lookup d (n.withRoles roles) m key = .ok (some (.hash es)) ∧
      lookup d (n.withRoles roles') m key = .ok (some (.hash es')) ∧
      ∀ sub, Dict.find sub es' = Dict.find sub es := by
  have hpart : ∀ (path : Text → Text) (sub : Text), (∀ r ∈ roles, ∀ r' ∈ roles, r ≠ r' →
      definition d key sub (path r) = none ∨ definition d key sub (path r') = none) →
      defined d (roles.map path) key sub = defined d (roles'.map path) key sub := by
    intro path sub hone
    rw [defined_eq, defined_eq, List.findSome?_map, List.findSome?_map]
    refine findSome?_perm hp fun r hr r' hr' x y hx hy => ?_
    by_cases heq : r = r'
    · rw [heq] at hx
      exact Option.some.inj (hx.symm.trans hy)
    · rcases hone r hr r' hr' heq with hnone | hnone
      · rw [Function.comp_apply, hnone] at hx; cases hx
      · rw [Function.comp_apply, hnone] at hy; cases hy
  obtain ⟨es, hes, -, hfind⟩ := lookup_merged h hne
  obtain ⟨es', hes', -, hfind'⟩ := lookup_merged h' (values_ne_nil hp.subset hne)
  refine ⟨es, es', hes, hes', fun sub => ?_⟩
  rw [hfind, hfind', defined_hierarchy, defined_hierarchy, hpart secretsOf sub (hsecrets sub),
    hpart dataOf sub (hdata sub)]

/-- The two roles of the sample in the other order. -/
theorem roles_permuted_dses : ∃ es es',
    lookup sampleData (sampleNode.withRoles sampleRoles) profiles nrpe_checks = .ok (some (.hash es)) ∧
      lookup sampleData (sampleNode.withRoles sampleRoles.reverse) profiles nrpe_checks = .ok (some (.hash es')) ∧
      ∀ sub, Dict.find sub es' = Dict.find sub es :=
  roles_permuted (List.reverse_perm _).symm sample_merged sample_merged (List.cons_ne_nil _ _)
    (fun sub r hr r' hr' _ => Or.inl (by
      rcases List.mem_pair.mp hr with rfl | rfl <;> rfl))
    (fun sub r hr r' hr' hne => by
      rcases List.mem_pair.mp hr with rfl | rfl
      · exact Or.inl rfl
      · rcases List.mem_pair.mp hr' with rfl | rfl
        · exact Or.inr rfl
        · exact absurd rfl hne)

end RolesOfNode

/-! ## The files of a role -/

theorem ne_of_getElem? {p q : Text} {x y : Char} (i : ℕ) (hp : p[i]? = some x) (hq : q[i]? = some y) (h : x ≠ y) :
    p ≠ q := by
  rintro rfl
  exact h (Option.some.inj (hp.symm.trans hq))

theorem secretsOf_inj {r r' : Text} (h : secretsOf r = secretsOf r') : r = r' :=
  List.append_cancel_left (List.append_cancel_right h)

theorem dataOf_inj {r r' : Text} (h : dataOf r = dataOf r') : r = r' :=
  List.append_cancel_left (List.append_cancel_right h)

/-- The paths of a node are those of its own roles. The secrets and the data of a role that it does not have are none
    of its paths, at any level. -/
theorem ne_of_mem_hierarchy {r p : Text} (hr : r ∉ mapped n.hostroles) (hp : p ∈ (hierarchy n m).flatten) :
    p ≠ secretsOf r ∧ p ≠ dataOf r := by
  simp only [hierarchy, List.flatten_append, List.mem_append, List.flatten_singleton, List.mem_map] at hp
  rcases hp with (((hp | ⟨role, hrole, rfl⟩) | hp) | ⟨role, hrole, rfl⟩) | hp
  · simp only [secrets, List.mem_cons, List.not_mem_nil, or_false] at hp
    rcases hp with rfl | rfl
    · exact ⟨ne_of_getElem? 8 rfl rfl (by decide), ne_of_getElem? 0 rfl rfl (by decide)⟩
    · exact ⟨ne_of_getElem? 8 rfl rfl (by decide), ne_of_getElem? 0 rfl rfl (by decide)⟩
  · exact ⟨fun h => hr (secretsOf_inj h ▸ hrole), ne_of_getElem? 0 rfl rfl (by decide)⟩
  · simp only [machine, List.flatten_cons, List.flatten_nil, List.cons_append, List.nil_append, List.mem_cons,
      List.not_mem_nil, or_false] at hp
    rcases hp with rfl | rfl | rfl | rfl
    all_goals exact ⟨ne_of_getElem? 0 rfl rfl (by decide), ne_of_getElem? 0 rfl rfl (by decide)⟩
  · exact ⟨ne_of_getElem? 0 rfl rfl (by decide), fun h => hr (dataOf_inj h ▸ hrole)⟩
  · simp only [general, List.flatten_cons, List.flatten_nil, List.cons_append, List.nil_append, List.mem_cons,
      List.not_mem_nil, or_false] at hp
    rcases hp with rfl | rfl | rfl
    all_goals exact ⟨ne_of_getElem? 0 rfl rfl (by decide), ne_of_getElem? 0 rfl rfl (by decide)⟩

/-- Of two data directories that differ in the files of one role only, a node without the role sees no difference. -/
theorem levels_local {d' : Datadir} {r : Text} (hd : ∀ p, p ≠ secretsOf r → p ≠ dataOf r → d p = d' p)
    (hr : r ∉ mapped n.hostroles) (m : Text) : levels d n m = levels d' n m := by
  refine List.map_congr_left fun level hlevel => List.filterMap_congr fun p hp => ?_
  obtain ⟨hsecrets, hdata⟩ := ne_of_mem_hierarchy hr (List.mem_flatten.mpr ⟨level, hlevel, hp⟩)
  exact hd p hsecrets hdata

/-- **The files of a role concern no node that does not have the role.** Two data directories that agree on all other
    files give the same answer to every lookup, and the same catalog, since the levels of the node do not name the
    files of the role. -/
theorem role_files_local {d' : Datadir} {r : Text} (hd : ∀ p, p ≠ secretsOf r → p ≠ dataOf r → d p = d' p)
    (hr : r ∉ mapped n.hostroles) :
    (∀ m key, lookup d n m key = lookup d' n m key) ∧ catalog d n = catalog d' n := by
  have hlookup : ∀ m key, lookup d n m key = lookup d' n m key := fun m key => by
    rw [lookup, lookup, levels_local hd hr]
  refine ⟨hlookup, ?_⟩
  have hcommands : ∀ classes, commandsOf d n classes = commandsOf d' n classes := fun classes => by
    rw [commandsOf, commandsOf, checks, checks, hlookup]
  simp only [catalog, hcommands]

/-- A node with the role `base` alone gets the same catalog with and without the file of `elasticsearch`. -/
theorem role_files_local_base :
    catalog sampleData (sampleNode.withRoles ["base".toList]) =
      catalog (fun p => if p = "common.yaml".toList then some sampleCommon else none)
        (sampleNode.withRoles ["base".toList]) :=
  (role_files_local (r := "elasticsearch".toList) (fun p _ hdata => by
    show (if p = _ then _ else if p = dataOf "elasticsearch".toList then _ else _) = _
    rw [if_neg hdata]) (by decide)).2

end Configuration
end StgEnvironment
