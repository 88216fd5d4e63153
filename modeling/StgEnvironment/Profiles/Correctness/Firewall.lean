import StgEnvironment.Profiles.Firewall
import StgEnvironment.Configuration.Correctness.Hierarchy

/-!
# `Profiles.Correctness.Firewall`: what the rules of a host add

The rules of all files are merged, and sorted by their titles with those of the role. Wherever the rules in the file of
a host come to stand, they only let more packets in, and change nothing for those they do not match
(`own_rules_add`).

## Contents
- **The merged rules**: by title, the rule of the first file that has one (`rulesOf_merged`).
- **Without the file of the host**: every look-up as it is then, and from these that the rules are those without the
  titles of the file (`OwnRules.firewall_without`).
- **The packets**: the verdict of a chain and that of the chain without some rules that accept
  (`PacketFilter.accept_of_filter`), for any types of the resources.
-/

namespace StgEnvironment
namespace Profiles.Firewall
open Puppet Puppet.Hiera StgEnvironment.Configuration

variable {d : Datadir} {n : Node} {s : Stack}

/-! ## The rules that are merged

Where every value for the rules is a hash, the class creates the resources of the merged hash, each with the
attributes of the first file that has its title. -/

/-- The entries of the rules, merged. -/
def merged (d : Datadir) (n : Node) (s : Stack) (title : Text) : Option Value :=
  defined d (hierarchy n module_name).flatten s.rules title

/-- Every value for the rules is a hash. -/
def Hashes (d : Datadir) (n : Node) (s : Stack) : Prop :=
  ∀ v ∈ values (files d n module_name) s.rules, IsHash v

def resourceOf (s : Stack) (e : Text × Value) : Rule := ⟨e.1, attributesOf s e.2⟩

/-- Entries are resources if each of them has attributes. -/
theorem create_resources_hash (es : List (Text × Value)) :
    create_resources (.hash es) = if es.all fun e => isAttributes e.2 then .ok es else .error .evaluation := rfl

/-- The resources of the rules, from what is merged. -/
theorem rulesOf_merged (h : Hashes d n s) : ∃ es : List (Text × Value), (es.map Prod.fst).Nodup ∧
    (∀ title, Dict.find title es = merged d n s title) ∧
    ((∀ e ∈ es, isAttributes e.2 = true) → ∃ ms, rulesOf d n s = .ok ⟨ms, [], es.map (resourceOf s)⟩) ∧
    ∀ r, rulesOf d n s = .ok r → ∀ e ∈ es, isAttributes e.2 = true := by
  have hlookup : lookupWith .hash (levels d n module_name) s.rules =
      reduce Strategy.hash.merge (values (files d n module_name) s.rules) := by
    rw [lookupWith_eq, flatten_levels]
  by_cases hne : values (files d n module_name) s.rules = []
  · refine ⟨[], List.nodup_nil, fun title => ?_, fun _ => ⟨[s.noRules], ?_⟩, fun _ _ e he => by cases he⟩
    · show none = (values (files d n module_name) s.rules).findSome? (entry title)
      rw [hne]
      rfl
    · rw [rulesOf, hlookup, hne]
      rfl
  · obtain ⟨es, hes, hnodup, hfind⟩ := reduce_hash h hne
    have hrules : rulesOf d n s = (ruleResources s (.hash es)).map fun rules => ⟨[], [], rules⟩ := by
      rw [rulesOf, hlookup, hes]
      rfl
    rw [ruleResources, create_resources_hash] at hrules
    refine ⟨es, hnodup, hfind, fun hall => ⟨[], ?_⟩, fun r hr => ?_⟩
    · rw [hrules, if_pos (List.all_eq_true.mpr hall)]
      rfl
    · by_cases hall : (es.all fun e => isAttributes e.2) = true
      · exact List.all_eq_true.mp hall
      · rw [hrules, if_neg hall] at hr
        cases hr

/-! ## The file of a host

A file that has rules only, under titles of its own, adds its entries to the merged hash and changes none of the
others. Chains and options are looked up as before. -/

def ownPath (n : Node) : Text := "hosts/".toList ++ n.certname

/-- The files, less one. -/
def without (d : Datadir) (path : Text) : Datadir := fun p => if p = path then none else d p

/-- Whether a file has a rule with the title. -/
def hasRule (d : Datadir) (path title : Text) : Bool :=
  [Stack.ipv4, Stack.ipv6].any fun s => (definition d s.rules title path).isSome

/-- A file has a rule if it has one for either family. -/
theorem hasRule_iff {path title : Text} :
    hasRule d path title = true ↔ ∃ s : Stack, (definition d s.rules title path).isSome = true := by
  refine List.any_eq_true.trans ⟨fun ⟨s, _, h⟩ => ⟨s, h⟩, fun ⟨s, h⟩ => ⟨s, ?_, h⟩⟩
  cases s
  · exact List.mem_cons_self ..
  · exact List.mem_cons_of_mem _ (List.mem_singleton_self _)

/-- The file of a host says nothing about the firewall but rules, whose titles are its own. -/
structure OwnRules (d : Datadir) (n : Node) (own : File) : Prop where
  here : d (ownPath n) = some own
  options : own.get? lookup_options = none
  chains : ∀ s : Stack, own.get? s.chains = none
  fresh : ∀ title, hasRule d (ownPath n) title = true →
    ∀ path ∈ (hierarchy n module_name).flatten, path ≠ ownPath n → hasRule d path title = false
  hashes : ∀ s, Hashes d n s

section OwnRules
variable {own : File}

/-- What a file has under a key. -/
def valueAt (d : Datadir) (key path : Text) : Option Value := (d path).bind fun f => f.get? key

/-- What the files have under a key, in the order of the hierarchy. -/
theorem values_files (d : Datadir) (n : Node) (m key : Text) :
    values (files d n m) key = (hierarchy n m).flatten.filterMap (valueAt d key) :=
  List.filterMap_filterMap ..

theorem valueAt_without {path p key : Text} (h : p ≠ path) : valueAt (without d path) key p = valueAt d key p := by
  rw [valueAt, without, if_neg h, valueAt]

theorem valueAt_without_self {path key : Text} : valueAt (without d path) key path = none := by
  rw [valueAt, without, if_pos rfl]
  rfl

/-- A file without a key makes no difference to it. -/
theorem values_without {path key : Text} (h : valueAt d key path = none) (n : Node) (m : Text) :
    values (files (without d path) n m) key = values (files d n m) key := by
  rw [values_files, values_files]
  refine List.filterMap_congr fun p _ => ?_
  by_cases hp : p = path
  · rw [hp, valueAt_without_self, h]
  · exact valueAt_without hp

/-- A key that the file does not have is looked up as before. -/
theorem lookup_without {path key : Text} (hoptions : valueAt d lookup_options path = none)
    (h : valueAt d key path = none) (n : Node) (m : Text) : lookup (without d path) n m key = lookup d n m key := by
  have hwith : ∀ (st : Strategy) (k : Text), valueAt d k path = none →
      lookupWith st (levels (without d path) n m) k = lookupWith st (levels d n m) k := by
    intro st k hk
    rw [lookupWith_eq, lookupWith_eq, flatten_levels, flatten_levels, values_without hk]
  rw [Configuration.lookup, Hiera.lookup, hwith _ _ hoptions, Configuration.lookup, Hiera.lookup]
  simp only [hwith _ _ h]

theorem OwnRules.chainsOf_eq (h : OwnRules d n own) (s : Stack) :
    chainsOf (without d (ownPath n)) n s = chainsOf d n s := by
  have hnone : ∀ {key : Text}, own.get? key = none → valueAt d key (ownPath n) = none := by
    intro key hkey
    rw [valueAt, h.here]
    exact hkey
  rw [chainsOf, lookup_without (hnone h.options) (hnone (h.chains s)), chainsOf]

theorem OwnRules.hashes_without (h : OwnRules d n own) (s : Stack) : Hashes (without d (ownPath n)) n s := by
  intro v hv
  rw [values_files] at hv
  obtain ⟨p, hp, hpv⟩ := List.mem_filterMap.mp hv
  refine h.hashes s v ?_
  rw [values_files]
  refine List.mem_filterMap.mpr ⟨p, hp, ?_⟩
  have hne : p ≠ ownPath n := by
    rintro rfl
    rw [valueAt_without_self] at hpv
    cases hpv
  rw [← valueAt_without hne, hpv]

/-- The rules without the file of the host are those whose titles it does not have. -/
theorem OwnRules.merged_without (h : OwnRules d n own) (s : Stack) (title : Text) :
    merged (without d (ownPath n)) n s title =
      if hasRule d (ownPath n) title then none else merged d n s title := by
  have hself : definition (without d (ownPath n)) s.rules title (ownPath n) = none := by
    show (valueAt _ s.rules (ownPath n)).bind _ = none
    rw [valueAt_without_self]
    rfl
  have hother : ∀ p, p ≠ ownPath n →
      definition (without d (ownPath n)) s.rules title p = definition d s.rules title p := by
    intro p hp
    show (valueAt _ s.rules p).bind _ = (valueAt d s.rules p).bind _
    rw [valueAt_without hp]
  rw [merged, merged, defined_eq, defined_eq]
  cases hown : hasRule d (ownPath n) title with
  | true =>
      rw [if_pos rfl]
      refine List.findSome?_eq_none_iff.mpr fun p hp => ?_
      by_cases hpath : p = ownPath n
      · rw [hpath, hself]
      · rw [hother p hpath]
        refine Option.not_isSome_iff_eq_none.mp fun hsome => ?_
        have hrule := hasRule_iff.mpr ⟨s, hsome⟩
        rw [h.fresh title hown p hp hpath] at hrule
        cases hrule
  | false =>
      have hnone : definition d s.rules title (ownPath n) = none := by
        refine Option.not_isSome_iff_eq_none.mp fun hsome => ?_
        have hrule := hasRule_iff.mpr ⟨s, hsome⟩
        rw [hown] at hrule
        cases hrule
      rw [if_neg Bool.false_ne_true]
      refine congrArg (fun f => (hierarchy n module_name).flatten.findSome? f) (funext fun p => ?_)
      by_cases hpath : p = ownPath n
      · rw [hpath, hself, hnone]
      · exact hother p hpath

/-- Whether the rule is there without the file of the host. -/
def general (d : Datadir) (n : Node) (r : Rule) : Bool := !hasRule d (ownPath n) r.title

/-- Two lists without repeated keys that have the same entries are permutations of each other. -/
theorem perm_of_find {es es' : List (Text × Value)} {q : Text → Bool} (hnd : (es.map Prod.fst).Nodup)
    (hnd' : (es'.map Prod.fst).Nodup)
    (h : ∀ k, Dict.find k es' = if q k then none else Dict.find k es) : es'.Perm (es.filter fun e => !q e.1) := by
  refine (List.perm_ext_iff_of_nodup hnd'.of_map (hnd.of_map.filter _)).mpr fun e => ?_
  have hmem : ∀ {l : List (Text × Value)}, (l.map Prod.fst).Nodup → (e ∈ l ↔ Dict.find e.1 l = some e.2) :=
    fun {l} hl => ⟨fun he => Dict.get?_of_mem (d := ⟨l, hl⟩) he, Dict.mem_of_find⟩
  rw [List.mem_filter, hmem hnd', hmem hnd, h]
  cases q e.1 with
  | true => exact ⟨fun hnone => (by cases hnone), fun hand => (by cases hand.2)⟩
  | false => exact ⟨fun he => ⟨he, rfl⟩, fun hand => hand.1⟩

/-- The rules without the file of the host. -/
theorem OwnRules.rulesOf_without (h : OwnRules d n own) {r : Resources} (hr : rulesOf d n s = .ok r) :
    ∃ r', rulesOf (without d (ownPath n)) n s = .ok r' ∧ r.chains = [] ∧ r'.chains = [] ∧
      r'.rules.Perm (r.rules.filter (general d n)) := by
  obtain ⟨es, hnodup, hfind, hok, hall⟩ := rulesOf_merged (h.hashes s)
  obtain ⟨es', hnodup', hfind', hok', -⟩ := rulesOf_merged (h.hashes_without s)
  have hperm : es'.Perm (es.filter fun e => !hasRule d (ownPath n) e.1) :=
    perm_of_find hnodup hnodup' fun k => by rw [hfind', h.merged_without, hfind]
  obtain ⟨ms, heq⟩ := hok (hall r hr)
  obtain ⟨ms', heq'⟩ := hok' fun e he => hall r hr e (List.mem_filter.mp (hperm.mem_iff.mp he)).1
  obtain rfl := Except.ok.inj (hr.symm.trans heq)
  refine ⟨_, heq', rfl, rfl, ?_⟩
  have hmap : (es.map (resourceOf s)).filter (general d n) =
      (es.filter fun e => !hasRule d (ownPath n) e.1).map (resourceOf s) := List.filter_map
  show (es'.map (resourceOf s)).Perm ((es.map (resourceOf s)).filter (general d n))
  rw [hmap]
  exact hperm.map _

/-! ## The class without the file of a host

The evaluation of the class, taken apart into its lookups: without the file it succeeds if it did with it, with the
same chains and the rules that are left. -/

theorem except_bind_eq_ok {α β : Type} {x : Except Failure α} {f : α → Except Failure β} {b : β}
    (h : x.bind f = .ok b) : ∃ a, x = .ok a ∧ f a = .ok b := by
  cases x with
  | error e => cases h
  | ok a => exact ⟨a, rfl, h⟩

/-- So does one whose result is put into another form. -/
theorem except_map_eq_ok {α β : Type} {x : Except Failure α} {f : α → β} {b : β} (h : x.map f = .ok b) :
    ∃ a, x = .ok a ∧ f a = b := by
  cases x with
  | error e => cases h
  | ok a => exact ⟨a, rfl, Except.ok.inj h⟩

theorem chainsOf_rules {r : Resources} (hr : chainsOf d n s = .ok r) : r.rules = [] := by
  obtain ⟨found, -, hr⟩ := except_bind_eq_ok hr
  by_cases hempty : isEmpty (orEmpty found) = true
  · rw [if_pos hempty] at hr
    obtain rfl := Except.ok.inj hr
    rfl
  · rw [if_neg hempty] at hr
    obtain ⟨chains, -, rfl⟩ := except_map_eq_ok hr
    rfl

theorem stackResources_eq_ok {r : Resources} (hr : stackResources d n s = .ok r) :
    ∃ c q, chainsOf d n s = .ok c ∧ rulesOf d n s = .ok q ∧ r = c.append q ∧ r.rules = q.rules := by
  obtain ⟨c, hc, hr⟩ := except_bind_eq_ok hr
  obtain ⟨q, hq, rfl⟩ := except_map_eq_ok hr
  refine ⟨c, q, hc, hq, rfl, ?_⟩
  show c.rules ++ q.rules = q.rules
  rw [chainsOf_rules hc]
  rfl

theorem firewall_eq_ok {r : Resources} (hr : firewall d n = .ok r) :
    ∃ v4 v6, stackResources d n .ipv4 = .ok v4 ∧ stackResources d n .ipv6 = .ok v6 ∧ r = v4.append v6 ∧ r.Unique := by
  obtain ⟨v4, hv4, hr⟩ := except_bind_eq_ok hr
  obtain ⟨v6, hv6, hr⟩ := except_bind_eq_ok hr
  by_cases hunique : (v4.append v6).Unique
  · rw [if_pos hunique] at hr
    obtain rfl := Except.ok.inj hr
    exact ⟨v4, v6, hv4, hv6, rfl, hunique⟩
  · rw [if_neg hunique] at hr
    cases hr

/-- Without the file of the host, a family has the rules that are not in it. -/
theorem OwnRules.stackResources_without (h : OwnRules d n own) {r : Resources} (hr : stackResources d n s = .ok r) :
    ∃ r', stackResources (without d (ownPath n)) n s = .ok r' ∧ r'.chains = r.chains ∧
      r'.rules.Perm (r.rules.filter (general d n)) := by
  obtain ⟨c, q, hc, hq, rfl, hrules⟩ := stackResources_eq_ok hr
  obtain ⟨q', hq', hchains, hchains', hperm⟩ := h.rulesOf_without hq
  have hr' : stackResources (without d (ownPath n)) n s = .ok (c.append q') := by
    rw [stackResources, h.chainsOf_eq, hc]
    show (rulesOf _ n s).map c.append = _
    rw [hq']
    rfl
  refine ⟨c.append q', hr', ?_, ?_⟩
  · show c.chains ++ q'.chains = c.chains ++ q.chains
    rw [hchains, hchains']
  · show (c.rules ++ q'.rules).Perm _
    rw [chainsOf_rules hc, hrules]
    exact hperm

/-- Without the file of the host there are the same chains, and the rules that are not its own. -/
theorem OwnRules.firewall_without (h : OwnRules d n own) {r : Resources} (hr : firewall d n = .ok r) :
    (r.rules.map Rule.title).Nodup ∧ ∃ r', firewall (without d (ownPath n)) n = .ok r' ∧ r'.chains = r.chains ∧
      r'.rules.Perm (r.rules.filter (general d n)) := by
  obtain ⟨v4, v6, hv4, hv6, rfl, hunique⟩ := firewall_eq_ok hr
  obtain ⟨v4', hv4', hchains4, hperm4⟩ := h.stackResources_without hv4
  obtain ⟨v6', hv6', hchains6, hperm6⟩ := h.stackResources_without hv6
  have hchains : (v4'.append v6').chains = (v4.append v6).chains := by
    show v4'.chains ++ v6'.chains = v4.chains ++ v6.chains
    rw [hchains4, hchains6]
  have hperm : (v4'.append v6').rules.Perm ((v4.append v6).rules.filter (general d n)) := by
    show (v4'.rules ++ v6'.rules).Perm ((v4.rules ++ v6.rules).filter (general d n))
    rw [List.filter_append]
    exact hperm4.append hperm6
  have hunique' : (v4'.append v6').Unique := by
    refine ⟨by rw [hchains]; exact hunique.chains, ?_⟩
    exact (hperm.map Rule.title).nodup_iff.mpr (hunique.rules.sublist (List.filter_sublist.map _))
  refine ⟨hunique.rules, _, ?_, hchains, hperm⟩
  rw [firewall, hv4']
  show (stackResources _ n .ipv6).bind _ = _
  rw [hv6']
  exact if_pos hunique'

/-! ## A host with a rule of its own

The data of `os13dsapi02` as far as they concern the firewall: its own file and that of its role. -/

/-- Of `hosts/os13dsapi02.muc.domeus.com`. -/
def hostFile : File where
  entries := [(Stack.ipv4.rules, .hash [("801 allow 8182 - kafka rest proxy".toList,
    .hash [("dport".toList, .int 8182), ("action".toList, .str "accept".toList)])])]
  nodup := by decide

/-- Of `roles/dsapi.yaml`. -/
def roleFile : File where
  entries :=
    [(Stack.ipv4.chains, .hash [("INPUT".toList, .str "drop".toList)]),
     (Stack.ipv4.rules, .hash [("015 allow ssh".toList,
      .hash [("dport".toList, .int 22), ("action".toList, .str "accept".toList)])])]
  nodup := by decide

def hostNode : Node :=
  ⟨"os13dsapi02.muc.domeus.com".toList, "physical".toList, "Debian".toList, "jessie".toList, .list ["dsapi".toList]⟩

/-- Its data: its own file and that of its role. -/
def hostData : Datadir := fun p =>
  if p = ownPath hostNode then some hostFile
  else if p = "roles/dsapi.yaml".toList then some roleFile
  else none

/-- Its file has rules, and nothing that the chains depend on. -/
theorem hostOwn : OwnRules hostData hostNode hostFile where
  here := if_pos rfl
  options := rfl
  chains s := by cases s <;> rfl
  fresh title hown p hp hne := by
    have htitle : title = "801 allow 8182 - kafka rest proxy".toList := by
      obtain ⟨s, hs⟩ := hasRule_iff.mp hown
      cases s with
      | ipv4 =>
          have hkey := Dict.find_isSome_iff.mp hs
          exact List.mem_singleton.mp hkey
      | ipv6 => cases hs
    rw [htitle]
    by_cases hrole : p = "roles/dsapi.yaml".toList
    · rw [hrole]
      rfl
    · have hnone : hostData p = none := by rw [hostData, if_neg hne, if_neg hrole]
      simp only [hasRule, definition, hnone, Option.bind_none, Option.isSome_none, List.any_cons, List.any_nil,
        Bool.or_self]
  hashes s v hv := by
    cases s with
    | ipv4 =>
        rcases List.mem_pair.mp hv with rfl | rfl
        all_goals exact ⟨_, rfl, by decide⟩
    | ipv6 => cases hv

/-- The resources of the class on that host. -/
def hostResources : Resources where
  messages := [Stack.ipv6.noChains, Stack.ipv6.noRules]
  chains := [⟨chainTitle .ipv4 "INPUT".toList, true, .str "drop".toList⟩]
  rules :=
    [⟨"015 allow ssh".toList, [("dport".toList, .int 22), ("action".toList, .str "accept".toList)]⟩,
     ⟨"801 allow 8182 - kafka rest proxy".toList,
      [("dport".toList, .int 8182), ("action".toList, .str "accept".toList)]⟩]

theorem firewall_hostData : firewall hostData hostNode = .ok hostResources := rfl

/-! ## The packets

From the resources to the verdicts: the chain without the rules of the file is the filtered chain, and the general
lemmas on packet filters compare the two. -/

section Types
variable {π : Type} {T : Types π}

theorem IsChain.filter {rules rules' chain chain' : List Rule} {c : Text} {q : Rule → Bool}
    (hnd : (rules.map Rule.title).Nodup) (hperm : rules'.Perm (rules.filter q)) (h : T.IsChain rules s c chain)
    (h' : T.IsChain rules' s c chain') : chain' = chain.filter q := by
  have hrows : (chain.filter q).Perm (rules'.filter fun r => T.place r.attributes == (s, c)) := by
    refine (h.perm.filter q).trans ?_
    rw [List.filter_comm]
    exact (hperm.filter _).symm
  have hsub : (rules'.map Rule.title).Nodup :=
    (hperm.map Rule.title).nodup_iff.mpr (hnd.sublist (List.filter_sublist.map _))
  have hsame := Collation.Answers.map_eq (f := id) (fun a ha b hb hkey => ?_) h'
    ⟨hrows, h.sorted.sublist List.filter_sublist⟩
  · rwa [List.map_id, List.map_id] at hsame
  · exact List.inj_on_of_nodup_map hsub (List.mem_filter.mp ha).1 (List.mem_filter.mp hb).1 hkey

/-- **Rules in the file of a host that accept only let more in**, and concern no packet that they do not match.
    Without the file the catalog compiles with the same chains, and each chain is the filtered one, to which the
    general lemmas on packet filters apply. -/
theorem own_rules_add (h : OwnRules d n own) {r : Resources} (hr : firewall d n = .ok r)
    (haccept : ∀ x ∈ r.rules, hasRule d (ownPath n) x.title = true → (T.meaning x).verdict = .accept) :
    ∃ r', firewall (without d (ownPath n)) n = .ok r' ∧ r'.chains = r.chains ∧
      ∀ s c chain chain', T.IsChain r.rules s c chain → T.IsChain r'.rules s c chain' → ∀ policy p,
        (T.verdict policy chain' p = .accept → T.verdict policy chain p = .accept) ∧
        ((∀ x ∈ chain, hasRule d (ownPath n) x.title = true → (T.meaning x).test p = false) →
          T.verdict policy chain p = T.verdict policy chain' p) := by
  obtain ⟨hnd, r', hr', hchains, hperm⟩ := h.firewall_without hr
  refine ⟨r', hr', hchains, fun s c chain chain' hchain hchain' policy p => ?_⟩
  have hown : ∀ x, general d n x = false → hasRule d (ownPath n) x.title = true := by
    intro x hx
    rwa [general, Bool.not_eq_false'] at hx
  rw [IsChain.filter hnd hperm hchain hchain']
  refine ⟨fun hin => PacketFilter.accept_of_filter (fun x hx hq => ?_) hin, fun hmiss => ?_⟩
  · exact haccept x (List.mem_filter.mp (hchain.mem_iff.mp hx)).1 (hown x hq)
  · exact (PacketFilter.verdict_filter fun x hx hq => hmiss x hx (hown x hq)).symm

end Types

end OwnRules

/-- What came in to `os13dsapi02` without its own rule comes in with it. -/
theorem own_rules_add_os13dsapi02 : ∃ r', firewall (without hostData (ownPath hostNode)) hostNode = .ok r' ∧
    ∀ s c chain chain', documentedTypes.IsChain hostResources.rules s c chain →
      documentedTypes.IsChain r'.rules s c chain' → ∀ policy p,
        documentedTypes.verdict policy chain' p = .accept → documentedTypes.verdict policy chain p = .accept := by
  obtain ⟨r', hr', -, hadd⟩ := own_rules_add (T := documentedTypes) hostOwn firewall_hostData fun x hx _ => by
    rcases List.mem_pair.mp hx with rfl | rfl <;> rfl
  exact ⟨r', hr', fun s c chain chain' h h' policy p => (hadd s c chain chain' h h' policy p).1⟩

end Profiles.Firewall
end StgEnvironment
