import StgEnvironment.Ha.Heartbeat
import StgEnvironment.Profiles.Correctness.Hosts

/-!
# `Ha.Correctness.Heartbeat`: who sends heartbeats to whom

What `ha.cf` says in its format is what the template was given (`reading_haCf`): all nodes, and the addresses of the
others at the port of the class. So the nodes of a cluster, whatever the order of the rows that each of them gets, send
their heartbeats to each other, and none to itself (`heartbeats_mutual`).

## Contents
- **One line**: the words of each line of the template.
- **The directives**: what the lines change, and from it what their loops change, by induction on the rows.
- **The file**: it is split into its lines again, and says what was put in.
- **The cluster**: the rows of the answer, and the peers they become.
- **The heartbeats**: the result, for any number of nodes with any number of addresses.
-/

namespace StgEnvironment
namespace Ha
open Profiles.Hosts (Fact PuppetDB Token)

variable {s : Settings} {db : PuppetDB} {domain : Text}

/-! ## One line

A directive is a name with values behind it, and a clean value is one word of its line. -/

theorem fields_eq {line : Text} (h : '#' ∉ line) : fields line = words line := by
  have hall : ∀ c ∈ line, (c != '#') = true := by
    intro c hc
    rw [bne_iff_ne]
    rintro rfl
    exact h hc
  rw [fields, List.takeWhile_eq_self_iff.mpr hall]

/-- A line of a key and a value is these two words. -/
theorem fields_pair {key : String} {v : Text} (hkey : IsWord key.toList) (hhash : '#' ∉ key.toList) (hv : Token v) :
    fields (key.toList ++ ' ' :: v) = [key.toList, v] := by
  have hnone : '#' ∉ key.toList ++ ' ' :: v := by
    rw [List.mem_append, List.mem_cons]
    rintro (h | h | h)
    · exact hhash h
    · exact absurd h (by decide)
    · exact hv.2 h
  rw [fields_eq hnone, words, wordsBy_word_cons hkey rfl, wordsBy_word hv.1]

theorem token_toDigits (n : ℕ) : Token (Nat.toDigits 10 n) := by
  have hdigit : ∀ c ∈ Nat.toDigits 10 n, c.isDigit = true := List.all_eq_true.mp (isDecimal_toDigits n).2
  exact ⟨⟨Nat.toDigits_ne_nil, fun c hc => isBlank_of_isDigit (hdigit c hc)⟩,
    fun hmem => absurd (hdigit '#' hmem) (by decide)⟩

/-- The line of an address has three words, the interface among them. -/
theorem fields_ucast {k : Fact} (hv : Token k.value) : fields (ucast k) = ["ucast".toList, eth0, k.value] := by
  have hnone : '#' ∉ ucast k := by
    intro h
    rcases List.mem_append.mp h with h | h
    · exact absurd h (by decide)
    · exact hv.2 h
  have hcut : ucast k = "ucast".toList ++ ' ' :: (eth0 ++ ' ' :: k.value) := by
    have hhead : "ucast eth0 ".toList = "ucast".toList ++ ' ' :: (eth0 ++ [' ']) := by decide
    show "ucast eth0 ".toList ++ k.value = _
    rw [hhead, List.append_assoc, List.cons_append, List.append_assoc, List.singleton_append]
  rw [fields_eq hnone, hcut, words, wordsBy_word_cons (by decide) rfl, wordsBy_word_cons (by decide) rfl,
    wordsBy_word hv.1]

/-- The line of a node has two words, though the template aligns them with four blanks. -/
theorem fields_node {v : Text} (hv : Token v) : fields (node v) = ["node".toList, v] := by
  have hnone : '#' ∉ node v := by
    intro h
    rcases List.mem_append.mp h with h | h
    · exact absurd h (by decide)
    · exact hv.2 h
  have hcut : node v = "node".toList ++ ' ' :: (' ' :: (' ' :: (' ' :: v))) := by
    have hhead : "node    ".toList = "node".toList ++ [' ', ' ', ' ', ' '] := by decide
    show "node    ".toList ++ v = _
    rw [hhead, List.append_assoc]
    rfl
  have hblank : isBlank ' ' = true := rfl
  rw [fields_eq hnone, hcut, words, wordsBy_word_cons (by decide) hblank, wordsBy_cons_sep _ hblank,
    wordsBy_cons_sep _ hblank, wordsBy_cons_sep _ hblank, wordsBy_word hv.1]

/-! ## The directives

A line of each kind adds its own to what has been read: the port, a peer, or a node. Every other directive leaves it
as it is. -/

theorem directive_udpport (r : Reading) (n : ℕ) : directive r (number "udpport" n) = { r with port := n } := by
  have hread : ofDecimal (Nat.toDigits 10 n) = some n := by
    rw [ofDecimal_of_isDecimal (isDecimal_toDigits n), Nat.ofDigitChars_ten_toDigits]
  rw [directive, number, fields_pair (by decide) (by decide) (token_toDigits n)]
  show ({ r with port := (ofDecimal (Nat.toDigits 10 n)).getD r.port } : Reading) = _
  rw [hread]
  rfl

/-- A directive that is not about the cluster leaves everything as it is. -/
theorem directive_other {key : String} {v : Text} (r : Reading) (hkey : IsWord key.toList) (hhash : '#' ∉ key.toList)
    (hv : Token v) (h : key.toList ≠ "udpport".toList ∧ key.toList ≠ "ucast".toList ∧ key.toList ≠ "node".toList) :
    directive r (key.toList ++ ' ' :: v) = r := by
  rw [directive, fields_pair hkey hhash hv]
  show (if key.toList = _ then _ else if key.toList = _ then _ else if key.toList = _ then _ else r) = r
  rw [if_neg h.1, if_neg h.2.1, if_neg h.2.2]

theorem directive_ucast {k : Fact} (r : Reading) (hv : Token k.value) :
    directive r (ucast k) = { r with peers := r.peers ++ [⟨eth0, k.value, r.port⟩] } := by
  rw [directive, fields_ucast hv]
  rfl

theorem directive_node {v : Text} (r : Reading) (hv : Token v) :
    directive r (node v) = { r with nodes := r.nodes ++ [v] } := by
  rw [directive, fields_node hv]
  rfl

/-- All peers of the template, in the order of the rows. -/
theorem foldl_ucast {ks : List Fact} (hks : ∀ k ∈ ks, Token k.value) : ∀ r : Reading,
    (ks.map ucast).foldl directive r =
      { r with peers := r.peers ++ ks.map fun k => ⟨eth0, k.value, r.port⟩ } := by
  induction ks with
  | nil => intro r; rw [List.map_nil, List.map_nil, List.append_nil]; rfl
  | cons k ks ih =>
      intro r
      rw [List.map_cons, List.foldl_cons, directive_ucast r (hks k (List.mem_cons_self ..)),
        ih fun k' hk' => hks k' (List.mem_cons_of_mem _ hk')]
      simp only [List.append_assoc, List.map_cons, List.singleton_append]

/-- All nodes of the template, in the order of the parameter. -/
theorem foldl_node {vs : List Text} (hvs : ∀ v ∈ vs, Token v) : ∀ r : Reading,
    (vs.map node).foldl directive r = { r with nodes := r.nodes ++ vs } := by
  induction vs with
  | nil => intro r; rw [List.map_nil, List.append_nil]; rfl
  | cons v vs ih =>
      intro r
      rw [List.map_cons, List.foldl_cons, directive_node r (hvs v (List.mem_cons_self ..)),
        ih fun v' hv' => hvs v' (List.mem_cons_of_mem _ hv')]
      simp only [List.append_assoc, List.singleton_append]

/-- Of the lines above the peers only the port matters. -/
theorem foldl_headLines (s : Settings) (r : Reading) :
    (headLines s).foldl directive r = { r with port := s.udpport } := by
  have hother : ∀ (key : String) (n : ℕ) (r : Reading), IsWord key.toList → '#' ∉ key.toList →
      (key.toList ≠ "udpport".toList ∧ key.toList ≠ "ucast".toList ∧ key.toList ≠ "node".toList) →
      directive r (number key n) = r :=
    fun key n r hkey hhash h => directive_other r hkey hhash (token_toDigits n) h
  simp only [headLines, List.foldl_cons, List.foldl_nil]
  rw [hother "keepalive" _ _ (by decide) (by decide) (by decide),
    hother "deadtime" _ _ (by decide) (by decide) (by decide),
    hother "warntime" _ _ (by decide) (by decide) (by decide),
    hother "initdead" _ _ (by decide) (by decide) (by decide), directive_udpport]
  rfl

/-! ## The file

All the lines of the template are read at once: the peers come from the answer of the database, everything else from
the settings. -/

/-- No line has a newline in it, so that the file is split where the template joined it. -/
theorem newline_notMem_lines (fqdn : Text) {ipaddr : List Fact} (h : ∀ k ∈ ipaddr, Token k.value) :
    ∀ line ∈ lines s fqdn ipaddr, '\n' ∉ line := by
  have hnumber : ∀ (key : String) (n : ℕ), '\n' ∉ key.toList → '\n' ∉ number key n := by
    intro key n hkey hmem
    rcases List.mem_append.mp hmem with hmem | hmem
    · exact hkey hmem
    · rcases List.mem_cons.mp hmem with hmem | hmem
      · exact absurd hmem (by decide)
      · exact (token_toDigits n).newline_notMem hmem
  have happend : ∀ (t : String) {v : Text}, '\n' ∉ t.toList → Token v → '\n' ∉ t.toList ++ v := by
    intro t v ht hv hmem
    exact (List.mem_append.mp hmem).elim ht hv.newline_notMem
  intro line hline
  rcases List.mem_append.mp hline with hline | hline
  · simp only [headLines, List.mem_cons, List.not_mem_nil, or_false] at hline
    rcases hline with rfl | rfl | rfl | rfl | rfl | rfl | rfl | rfl | rfl
    all_goals first | decide | exact hnumber _ _ (by decide)
  · rcases List.mem_append.mp hline with hline | hline
    · obtain ⟨k, hk, rfl⟩ := List.mem_map.mp hline
      exact happend "ucast eth0 " (by decide) (h k (List.mem_filter.mp hk).1)
    · rcases List.mem_cons.mp hline with rfl | hline
      · exact happend "auto_failback " (by decide) s.autofailback_token
      · rcases List.mem_append.mp hline with hline | hline
        · obtain ⟨v, hv, rfl⟩ := List.mem_map.mp hline
          exact happend "node    " (by decide) (s.nodes_token v hv)
        · rw [List.mem_singleton.mp hline]
          decide

/-- **The file says what the template was given**: the port, a peer for each address of another node, and the nodes. -/
theorem reading_haCf (fqdn : Text) {ipaddr : List Fact} (h : ∀ k ∈ ipaddr, Token k.value) :
    reading (haCf s fqdn ipaddr) =
      ⟨s.udpport, (others fqdn ipaddr).map fun k => ⟨eth0, k.value, s.udpport⟩, s.nodes⟩ := by
  have hothers : ∀ k ∈ others fqdn ipaddr, Token k.value := fun k hk => h k (List.mem_filter.mp hk).1
  have hfailback : ∀ r : Reading, directive r ("auto_failback ".toList ++ s.autofailback) = r := by
    intro r
    have hcut : "auto_failback ".toList ++ s.autofailback = "auto_failback".toList ++ ' ' :: s.autofailback := by
      have hhead : "auto_failback ".toList = "auto_failback".toList ++ [' '] := by decide
      rw [hhead, List.append_assoc, List.singleton_append]
    rw [hcut]
    exact directive_other r (by decide) (by decide) s.autofailback_token (by decide)
  rw [reading, haCf, List.splitOn_intercalate '\n' (newline_notMem_lines fqdn h) (List.cons_ne_nil _ _), lines,
    List.foldl_append, foldl_headLines, List.foldl_append, foldl_ucast hothers, List.foldl_cons, hfailback,
    List.foldl_append, foldl_node s.nodes_token]
  rfl

/-! ## The cluster

The query asks for the addresses of all nodes but the one that is configured. So a node has the addresses of the
others as its peers, in whatever order the answer has them. -/

/-- The addresses that PuppetDB has for a node. Usually it is one. -/
def addresses (db : PuppetDB) (domain v : Text) : List Text :=
  (db.facts.filter fun k => k.name == ipaddress_eth0 && k.certname == certnameOf domain v).map Fact.value

theorem mem_addresses {v a : Text} : a ∈ addresses db domain v ↔
    ∃ k ∈ db.facts, k.name = ipaddress_eth0 ∧ k.certname = certnameOf domain v ∧ k.value = a := by
  rw [addresses, List.mem_map]
  simp only [List.mem_filter, Bool.and_eq_true, beq_iff_eq, and_assoc]

/-- Two nodes of one domain have different certificate names. -/
theorem certnameOf_inj {v v' : Text} (h : certnameOf domain v = certnameOf domain v') : v = v' :=
  List.append_cancel_right h

/-- The rows of an answer are the addresses of the nodes, no more and no less. -/
theorem Answered.mem_iff {ipaddr : List Fact} (h : Answered db s domain ipaddr) {k : Fact} :
    k ∈ ipaddr ↔ k ∈ db.facts ∧ k.name = ipaddress_eth0 ∧ ∃ v ∈ s.nodes, k.certname = certnameOf domain v := by
  refine (List.Perm.mem_iff h).trans ?_
  rw [List.mem_filter, ipaddr_query, Bool.and_eq_true, beq_iff_eq, List.contains_iff_mem, List.mem_map]
  simp only [eq_comm]

/-- The values in an answer are words, as PuppetDB's facts about addresses are. -/
theorem Answered.tokens {ipaddr : List Fact} (h : Answered db s domain ipaddr) : ∀ k ∈ ipaddr, Token k.value := by
  intro k hk
  obtain ⟨hfact, hname, -⟩ := h.mem_iff.mp hk
  refine db.value_token k hfact ?_
  rw [hname]
  exact List.mem_append_left _ (List.mem_cons_self ..)

/-- The peers in the file of a node: all addresses of the other nodes, at the port of the class. -/
theorem Answered.mem_peers {ipaddr : List Fact} (h : Answered db s domain ipaddr) {v : Text} {peer : Peer} :
    peer ∈ (reading (haCf s (certnameOf domain v) ipaddr)).peers ↔
      ∃ v' ∈ s.nodes, v' ≠ v ∧ ∃ a ∈ addresses db domain v', peer = ⟨eth0, a, s.udpport⟩ := by
  rw [reading_haCf _ h.tokens]
  simp only [List.mem_map, others, List.mem_filter, bne_iff_ne, h.mem_iff]
  constructor
  · rintro ⟨k, ⟨⟨hk, hname, v', hv', hcert⟩, hne⟩, rfl⟩
    refine ⟨v', hv', ?_, k.value, mem_addresses.mpr ⟨k, hk, hname, hcert, rfl⟩, rfl⟩
    rintro rfl
    exact hne hcert
  · rintro ⟨v', hv', hne, a, ha, rfl⟩
    obtain ⟨k, hk, hname, hcert, rfl⟩ := mem_addresses.mp ha
    exact ⟨k, ⟨⟨hk, hname, v', hv', hcert⟩, fun heq => hne (certnameOf_inj (hcert.symm.trans heq))⟩, rfl⟩

/-! ## `os13dsapi02` and `os13dsapi03` -/

/-- The parameters in `hadoop.yaml`, where two nodes make a cluster. -/
def stgSettings : Settings where
  nodes := ["os13dsapi02".toList, "os13dsapi03".toList]
  keepalive := 2
  deadtime := 30
  warntime := 10
  initdead := 35
  udpport := 694
  autofailback := "off".toList
  nodes_token := by decide
  autofailback_token := by decide

def stgDomain : Text := "muc.domeus.com".toList

def stgFact (v a : String) : Fact :=
  ⟨certnameOf stgDomain v.toList, ipaddress_eth0, a.toList, "production".toList⟩

/-- A PuppetDB with the addresses of the two nodes, and of a host that is in no cluster. -/
def stgDb : PuppetDB where
  facts := [stgFact "os13dsapi02" "192.168.139.102", stgFact "os13dsapi03" "192.168.139.103",
    stgFact "os13dses01" "192.168.139.111"]
  nodup := by decide
  certname_token := by decide
  value_token := by decide

/-- The answer in the order of the database. -/
def stgAnswer : List Fact := stgDb.facts.filter (ipaddr_query stgSettings stgDomain)

theorem stg_distinct : ∀ v ∈ stgSettings.nodes, ∀ v' ∈ stgSettings.nodes,
    ∀ a ∈ addresses stgDb stgDomain v, a ∈ addresses stgDb stgDomain v' → v = v' := by decide +kernel

theorem stgAnswer_answered : Answered stgDb stgSettings stgDomain stgAnswer := List.Perm.refl _

/-! ## The heartbeats -/

/-- **Every node has the same cluster in its file, and sends heartbeats to all addresses of the others, none of its
    own**, on `eth0` and to the port of the settings. No address may belong to two nodes; in which order the database
    answers a node makes no difference. -/
theorem heartbeats_mutual {ipaddr : Text → List Fact} (h : ∀ v ∈ s.nodes, Answered db s domain (ipaddr v))
    (hdistinct : ∀ v ∈ s.nodes, ∀ v' ∈ s.nodes, ∀ a ∈ addresses db domain v, a ∈ addresses db domain v' → v = v') :
    ∀ v ∈ s.nodes,
      (reading (haCf s (certnameOf domain v) (ipaddr v))).nodes = s.nodes ∧
      (∀ peer ∈ (reading (haCf s (certnameOf domain v) (ipaddr v))).peers,
        peer.device = eth0 ∧ peer.port = s.udpport ∧ ∃ v' ∈ s.nodes, peer.address ∈ addresses db domain v') ∧
      ∀ v' ∈ s.nodes, ∀ a ∈ addresses db domain v',
        ((⟨eth0, a, s.udpport⟩ : Peer) ∈ (reading (haCf s (certnameOf domain v) (ipaddr v))).peers ↔ v' ≠ v) := by
  intro v hv
  have hmem : ∀ {peer : Peer}, peer ∈ (reading (haCf s (certnameOf domain v) (ipaddr v))).peers ↔
      ∃ v' ∈ s.nodes, v' ≠ v ∧ ∃ a ∈ addresses db domain v', peer = ⟨eth0, a, s.udpport⟩ := (h v hv).mem_peers
  refine ⟨by rw [reading_haCf _ (h v hv).tokens], fun peer hpeer => ?_, fun v' hv' a ha => ?_⟩
  · obtain ⟨v', hv', -, a, ha, rfl⟩ := hmem.mp hpeer
    exact ⟨rfl, rfl, v', hv', ha⟩
  · rw [hmem]
    constructor
    · rintro ⟨w, hw, hne, b, hb, heq⟩
      obtain rfl : a = b := congrArg Peer.address heq
      rwa [hdistinct v' hv' w hw a ha hb]
    · exact fun hne => ⟨v', hv', hne, a, ha, rfl⟩

/-- `os13dsapi02` sends its heartbeats to `os13dsapi03`, and none to itself. -/
theorem heartbeats_mutual_stg :
    (⟨eth0, "192.168.139.103".toList, 694⟩ : Peer) ∈
        (reading (haCf stgSettings (certnameOf stgDomain "os13dsapi02".toList) stgAnswer)).peers ∧
      (⟨eth0, "192.168.139.102".toList, 694⟩ : Peer) ∉
        (reading (haCf stgSettings (certnameOf stgDomain "os13dsapi02".toList) stgAnswer)).peers := by
  obtain ⟨-, -, hsent⟩ :=
    heartbeats_mutual (fun _ _ => stgAnswer_answered) stg_distinct "os13dsapi02".toList (by decide)
  constructor
  · exact (hsent "os13dsapi03".toList (by decide) _ (by decide +kernel)).mpr (by decide)
  · intro hself
    exact (hsent "os13dsapi02".toList (by decide) _ (by decide +kernel)).mp hself rfl

end Ha
end StgEnvironment
