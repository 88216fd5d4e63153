import StgEnvironment.Profiles.Hosts

/-!
# `Profiles.Correctness.Hosts`: when `/etc/hosts` is a function of the facts

The queries order their rows by `certname` alone, and ask for several facts of one host. `mapsTo_hostsErb_iff`
reads the rendered file back: a name has the addresses of the rows it names, besides those of the static lines. So
the file resolves each host to one address exactly when the selected rows do (`Unambiguous`), and in that case
rows that may change places render to the same line (`Collation.Answers.map_eq`), so that the file is the same on
every run.

## Contents
- **Reading the file**: a line of the template is an entry with the names of its row (`hostsEntry_hostLine`).
- **One address**: `oneAddress_iff`, for the answers of any run.
- **One file**: the answers of two runs, whatever the collation, and the converse: two rows of one host with two
  addresses may change places, and then the files differ (`hostsErb_function_iff`).
-/

namespace StgEnvironment
namespace Profiles.Hosts

/-- The name is the certname of the row, or its short name. -/
def Names (k : Fact) (name : Text) : Prop := name = k.certname ∨ name = short k.certname

instance (k : Fact) (name : Text) : Decidable (Names k name) := inferInstanceAs (Decidable (_ ∨ _))

/-- What the static lines say. -/
def staticEntries : List (Text × List Text) :=
  [("127.0.0.1".toList, ["localhost".toList]),
   ("::1".toList, ["ip6-localhost".toList, "ip6-loopback".toList]),
   ("fe00::0".toList, ["ip6-localnet".toList]),
   ("ff00::0".toList, ["ip6-mcastprefix".toList]),
   ("ff02::1".toList, ["ip6-allnodes".toList]),
   ("ff02::2".toList, ["ip6-allrouters".toList])]

/-- Each host of the file is mapped to one address. -/
def OneAddress (rows : List Fact) (file : Text) : Prop :=
  ∀ k ∈ rows, ∀ address address', MapsTo file k.certname address → MapsTo file k.certname address' →
    address = address'

/-- Selected rows that name one host have one value, which is also that of a static line for it. -/
def Unambiguous (db : PuppetDB) (env : Text) : Prop :=
  (∀ k ∈ db.facts, ∀ k' ∈ db.facts, selected env k = true → selected env k' = true →
    Names k' k.certname → k.value = k'.value) ∧
  ∀ k ∈ db.facts, selected env k = true → ∀ e ∈ staticEntries, k.certname ∈ e.2 → k.value = e.1

/-! ## One line -/

theorem Token.newline_notMem {t : Text} (h : Token t) : '\n' ∉ t := by
  intro hmem
  exact absurd (h.1.2 '\n' hmem) (by decide)

/-- **What a resolver reads on the line of a row.** -/
theorem hostsEntry_hostLine {k : Fact} (hv : Token k.value) (hc : Token k.certname) :
    hostsEntry (hostLine k) = some (k.value, k.certname :: words (short k.certname)) := by
  have hs : '#' ∉ short k.certname := fun hmem => hc.2 ((short_isPrefix k.certname).subset hmem)
  have hnone : '#' ∉ hostLine k := by simp [hostLine_eq, hv.2, hc.2, hs]
  have hcut : (hostLine k).takeWhile (· != '#') = hostLine k := by
    refine List.takeWhile_eq_self_iff.mpr fun c hc' => ?_
    have hne : c ≠ '#' := fun heq => hnone (heq ▸ hc')
    simpa using hne
  have hblank : isBlank ' ' = true := rfl
  have hwords : words (hostLine k) = k.value :: k.certname :: words (short k.certname) := by
    rw [hostLine_eq, words, wordsBy_word_cons hv.1 hblank, wordsBy_cons_sep _ hblank,
      wordsBy_cons_sep _ hblank, wordsBy_cons_sep _ hblank, wordsBy_word_cons hc.1 hblank,
      wordsBy_cons_sep _ hblank, wordsBy_cons_sep _ hblank, wordsBy_cons_sep _ hblank]
    rfl
  rw [hostsEntry, hcut, hwords]

theorem mem_names_iff {k : Fact} (hc : Token k.certname) {name : Text} (hname : name ≠ []) :
    name ∈ k.certname :: words (short k.certname) ↔ Names k name := by
  have hblank : ∀ c ∈ short k.certname, isBlank c = false :=
    fun c hmem => hc.1.2 c ((short_isPrefix k.certname).subset hmem)
  by_cases hs : short k.certname = []
  · simp [hs, words, Names, hname]
  · rw [words_word ⟨hs, hblank⟩]
    simp [Names]

/-! ## The file -/

/-- The rows that are selected are facts of the names in the two queries. -/
theorem name_mem_of_selected {env : Text} {k : Fact} (h : selected env k = true) :
    k.name ∈ queryNames ++ queryDmzNames := by
  simp only [selected, query, query_dmz, Bool.or_eq_true, Bool.and_eq_true, List.contains_iff_mem] at h
  rcases h with ⟨⟨hname, -⟩, -⟩ | ⟨⟨hname, -⟩, -⟩
  · exact List.mem_append_left _ hname
  · exact List.mem_append_right _ hname

section Answers
variable {C : Collation Text} {db : PuppetDB} {env : Text} {ips ips_dmz : List Fact}

/-- The rows of the answers are the selected ones. -/
theorem Answered.mem_iff (h : Answered C db env ips ips_dmz) {k : Fact} :
    k ∈ ips ++ ips_dmz ↔ k ∈ db.facts ∧ selected env k = true := by
  rw [List.mem_append, h.query.mem_iff, h.query_dmz.mem_iff, List.mem_filter, List.mem_filter, selected,
    Bool.or_eq_true, and_or_left]

theorem Answered.tokens (h : Answered C db env ips ips_dmz) {k : Fact} (hk : k ∈ ips ++ ips_dmz) :
    Token k.value ∧ Token k.certname := by
  obtain ⟨hmem, hsel⟩ := h.mem_iff.mp hk
  exact ⟨db.value_token k hmem (name_mem_of_selected hsel), db.certname_token k hmem⟩

theorem hostsEntries_hostsErb (h : Answered C db env ips ips_dmz) :
    hostsEntries (hostsErb ips ips_dmz) = staticEntries ++
      (ips ++ ips_dmz).map fun k => (k.value, k.certname :: words (short k.certname)) := by
  have hstatic : staticLines.filterMap hostsEntry = staticEntries := by decide
  have hrows : ((ips ++ ips_dmz).map hostLine).filterMap hostsEntry
      = (ips ++ ips_dmz).map fun k => (k.value, k.certname :: words (short k.certname)) := by
    rw [List.filterMap_map, ← List.filterMap_eq_map]
    refine List.filterMap_congr fun k hk => ?_
    obtain ⟨hv, hc⟩ := h.tokens hk
    exact hostsEntry_hostLine hv hc
  have hlines := splitOn_hostsErb fun k (hk : k ∈ ips ++ ips_dmz) =>
    newline_notMem_hostLine (h.tokens hk).1.newline_notMem (h.tokens hk).2.newline_notMem
  rw [hostsEntries, hlines, List.filterMap_append, List.filterMap_append, hstatic, hrows]
  simp [hostsEntry, words]

/-- **What the file says about a name**: the static lines, and the rows that name it. -/
theorem mapsTo_hostsErb_iff (h : Answered C db env ips ips_dmz) {name address : Text} (hname : name ≠ []) :
    MapsTo (hostsErb ips ips_dmz) name address ↔
      (∃ e ∈ staticEntries, e.1 = address ∧ name ∈ e.2) ∨
        ∃ k ∈ ips ++ ips_dmz, k.value = address ∧ Names k name := by
  rw [MapsTo, hostsEntries_hostsErb h]
  constructor
  · rintro ⟨names, hmem, hin⟩
    rcases List.mem_append.mp hmem with hs | hr
    · exact Or.inl ⟨_, hs, rfl, hin⟩
    · obtain ⟨k, hk, heq⟩ := List.mem_map.mp hr
      obtain ⟨rfl, rfl⟩ := Prod.mk.inj heq
      exact Or.inr ⟨k, hk, rfl, (mem_names_iff (h.tokens hk).2 hname).mp hin⟩
  · rintro (⟨e, he, rfl, hin⟩ | ⟨k, hk, rfl, hin⟩)
    · exact ⟨e.2, List.mem_append_left _ he, hin⟩
    · exact ⟨_, List.mem_append_right _ (List.mem_map_of_mem hk), (mem_names_iff (h.tokens hk).2 hname).mpr hin⟩

/-- Each host of the file has one address exactly when the selected rows agree. A row maps its own name to its value;
    and whatever the name is mapped to is the value of a row that names it. -/
theorem oneAddress_iff (h : Answered C db env ips ips_dmz) :
    OneAddress (ips ++ ips_dmz) (hostsErb ips ips_dmz) ↔ Unambiguous db env := by
  constructor
  · intro hone
    -- a row maps its own certname to its value
    have hself : ∀ k ∈ ips ++ ips_dmz, ∀ address, MapsTo (hostsErb ips ips_dmz) k.certname address →
        k.value = address := fun k hk address hmaps =>
      hone k hk k.value address
        ((mapsTo_hostsErb_iff h (h.tokens hk).2.1.1).mpr (Or.inr ⟨k, hk, rfl, Or.inl rfl⟩)) hmaps
    refine ⟨fun k hk k' hk' hsel hsel' hnames => ?_, fun k hk hsel e he hin => ?_⟩
    · have hrow : k ∈ ips ++ ips_dmz := h.mem_iff.mpr ⟨hk, hsel⟩
      have hrow' : k' ∈ ips ++ ips_dmz := h.mem_iff.mpr ⟨hk', hsel'⟩
      exact hself k hrow k'.value
        ((mapsTo_hostsErb_iff h (h.tokens hrow).2.1.1).mpr (Or.inr ⟨k', hrow', rfl, hnames⟩))
    · have hrow : k ∈ ips ++ ips_dmz := h.mem_iff.mpr ⟨hk, hsel⟩
      exact hself k hrow e.1
        ((mapsTo_hostsErb_iff h (h.tokens hrow).2.1.1).mpr (Or.inl ⟨e, he, rfl, hin⟩))
  · rintro ⟨hrows, hstatic⟩ k hk
    obtain ⟨hkdb, hksel⟩ := h.mem_iff.mp hk
    -- whatever the name is mapped to is the value of its own row
    have hvalue : ∀ address, MapsTo (hostsErb ips ips_dmz) k.certname address → k.value = address := by
      intro address hmaps
      rcases (mapsTo_hostsErb_iff h (h.tokens hk).2.1.1).mp hmaps with ⟨e, he, rfl, hin⟩ | ⟨k', hk', rfl, hnames⟩
      · exact hstatic k hkdb hksel e he hin
      · obtain ⟨hkdb', hksel'⟩ := h.mem_iff.mp hk'
        exact hrows k hkdb k' hkdb' hksel hksel' hnames
    intro address address' hmaps hmaps'
    exact (hvalue address hmaps).symm.trans (hvalue address' hmaps')

theorem hostsErb_eq_of_unambiguous {ips' ips_dmz' : List Fact} (hun : Unambiguous db env)
    (h : Answered C db env ips ips_dmz) (h' : Answered C db env ips' ips_dmz') :
    hostsErb ips ips_dmz = hostsErb ips' ips_dmz' := by
  have hline : ∀ k ∈ db.facts, ∀ k' ∈ db.facts, selected env k = true → selected env k' = true →
      k.certname = k'.certname → hostLine k = hostLine k' := by
    intro k hk k' hk' hsel hsel' hcert
    have hvalue := hun.1 k hk k' hk' hsel hsel' (Or.inl hcert)
    rw [hostLine, hostLine, hcert, hvalue]
  have hips : ips.map hostLine = ips'.map hostLine := by
    refine h.query.map_eq (fun k hk k' hk' hcert => ?_) h'.query
    obtain ⟨hk, hq⟩ := List.mem_filter.mp hk
    obtain ⟨hk', hq'⟩ := List.mem_filter.mp hk'
    exact hline k hk k' hk' (by simp [selected, hq]) (by simp [selected, hq']) hcert
  have hdmz : ips_dmz.map hostLine = ips_dmz'.map hostLine := by
    refine h.query_dmz.map_eq (fun k hk k' hk' hcert => ?_) h'.query_dmz
    obtain ⟨hk, hq⟩ := List.mem_filter.mp hk
    obtain ⟨hk', hq'⟩ := List.mem_filter.mp hk'
    exact hline k hk k' hk' (by simp [selected, hq]) (by simp [selected, hq']) hcert
  rw [hostsErb, hostsErb, hips, hdmz]

end Answers

/-- **When the file is a function of the facts, with one address for each host**: exactly when the selected rows agree
    on the address of each host. The order of the answers is only fixed up to rows with equal names, so that two such
    rows with different addresses give two files. -/
theorem hostsErb_function_iff (C : Collation Text) (db : PuppetDB) (env : Text) :
    (∀ ips ips_dmz ips' ips_dmz', Answered C db env ips ips_dmz → Answered C db env ips' ips_dmz' →
      hostsErb ips ips_dmz = hostsErb ips' ips_dmz' ∧
        OneAddress (ips ++ ips_dmz) (hostsErb ips ips_dmz)) ↔ Unambiguous db env := by
  constructor
  · intro h
    obtain ⟨ips, hips⟩ := C.exists_answers Fact.certname (db.facts.filter (query env))
    obtain ⟨ips_dmz, hdmz⟩ := C.exists_answers Fact.certname (db.facts.filter (query_dmz env))
    have hans : Answered C db env ips ips_dmz := ⟨hips, hdmz⟩
    exact (oneAddress_iff hans).mp (h ips ips_dmz ips ips_dmz hans hans).2
  · intro hun ips ips_dmz ips' ips_dmz' h h'
    exact ⟨hostsErb_eq_of_unambiguous hun h h', (oneAddress_iff h).mpr hun⟩

/-! ## A host in the DMZ with a bonded interface -/

def dsapi1 (name value : Text) : Fact := ⟨"dsapi1.muc.domeus.com".toList, name, value, "bigdatastg".toList⟩

/-- Its address in the DMZ, and the one of the internal network. -/
def dsapiDb : PuppetDB where
  facts := [dsapi1 "ipaddress_eth1".toList "194.1.1.5".toList, dsapi1 "ipaddress_bond0".toList "10.1.1.5".toList]
  nodup := by decide
  certname_token := by decide
  value_token := by decide

theorem answered_dsapiDb (C : Collation Text) {ips_dmz : List Fact} (h : ips_dmz.Perm dsapiDb.facts) :
    Answered C dsapiDb "bigdatastg".toList [] ips_dmz := by
  have hall : ∀ k ∈ dsapiDb.facts, k.certname = "dsapi1.muc.domeus.com".toList := by decide
  have hcert := fun k hk => hall k (h.mem_iff.mp hk)
  have hsel : dsapiDb.facts.filter (query_dmz "bigdatastg".toList) = dsapiDb.facts := by decide
  have hnone : dsapiDb.facts.filter (query "bigdatastg".toList) = [] := by decide
  refine ⟨⟨by rw [hnone], List.Pairwise.nil⟩, ⟨by rw [hsel]; exact h, ?_⟩⟩
  refine List.pairwise_iff_forall_sublist.mpr fun {a b} hab => ?_
  rw [hcert a (hab.subset (by simp)), hcert b (hab.subset (by simp))]
  exact C.refl _

/-- **The host may point to the other interface**: the two rows may come in either order, the files differ, and
each maps the host to both addresses. -/
theorem hostsErb_dsapi : ∃ ips_dmz ips_dmz',
    Answered .codePoints dsapiDb "bigdatastg".toList [] ips_dmz ∧
    Answered .codePoints dsapiDb "bigdatastg".toList [] ips_dmz' ∧
    hostsErb [] ips_dmz ≠ hostsErb [] ips_dmz' ∧
    MapsTo (hostsErb [] ips_dmz) "dsapi1.muc.domeus.com".toList "194.1.1.5".toList ∧
    MapsTo (hostsErb [] ips_dmz) "dsapi1.muc.domeus.com".toList "10.1.1.5".toList := by
  have h := answered_dsapiDb .codePoints (List.Perm.refl dsapiDb.facts)
  have h' := answered_dsapiDb .codePoints (List.reverse_perm dsapiDb.facts)
  have hname : "dsapi1.muc.domeus.com".toList ≠ [] := by decide
  refine ⟨_, _, h, h', ?_, (mapsTo_hostsErb_iff h hname).mpr (Or.inr ?_),
    (mapsTo_hostsErb_iff h hname).mpr (Or.inr ?_)⟩
  · -- equal files would have their entries in the same order
    intro heq
    have hentries := congrArg hostsEntries heq
    rw [hostsEntries_hostsErb h, hostsEntries_hostsErb h'] at hentries
    exact absurd (List.append_cancel_left hentries) (by decide)
  · exact ⟨dsapi1 "ipaddress_eth1".toList "194.1.1.5".toList, by decide, rfl, Or.inl rfl⟩
  · exact ⟨dsapi1 "ipaddress_bond0".toList "10.1.1.5".toList, by decide, rfl, Or.inl rfl⟩

end Profiles.Hosts
end StgEnvironment
