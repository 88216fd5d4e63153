import StgEnvironment.Zookeeper.Config

/-!
# `Zookeeper.Correctness.Ensemble`: the members and the clients of an ensemble agree on it

`properties_zooCfg` reads every setting of the template back, and `servers_zooCfg` the server lines: one for each host
of the quorum. From these, a member finds itself by its `myid` exactly when no two hosts have one ID
(`members_find_themselves_iff`), and the strings that clients get name the servers and the port of `zoo.cfg`
(`clients_find_servers`).

## Contents
- **What is assumed**: settings are single lines (`Settings.Clean`), and hosts and ports of an ensemble have none of the
  characters that part them (`EnsembleClean`).
- **Reading `zoo.cfg`**: every line of the template, and the servers among them.
- **The members**: `own` is what a host finds of itself in its two files.
- **The clients**: the two strings of an ensemble against the same file, and that the strings of two ensembles are the
  same only for the same hosts and port (`quorums_spec`).
-/

namespace StgEnvironment
namespace Zookeeper

open Dsglobals (Ensemble Data)
open Properties

/-- A value that stays in its line. -/
abbrev OneLine (t : Text) : Prop := '\n' ∉ t

/-- The parameters are single lines. -/
structure Settings.Clean (s : Settings) : Prop where
  ticktime : OneLine s.ticktime
  initlimit : OneLine s.initlimit
  synclimit : OneLine s.synclimit
  datadir : OneLine s.datadir
  snapretaincount : OneLine s.snapretaincount
  purgeinterval : OneLine s.purgeinterval
  maxclientcnxns : OneLine s.maxclientcnxns
  jute_maxbuffer : OneLine s.jute_maxbuffer

/-- Hosts, ports and IDs have none of the characters that a server line puts between them. -/
structure EnsembleClean (e : Ensemble) : Prop where
  peerport : OneLine e.ports.peerport ∧ ':' ∉ e.ports.peerport
  leaderport : OneLine e.ports.leaderport ∧ ':' ∉ e.ports.leaderport
  clientport : OneLine e.ports.clientport ∧ ',' ∉ e.ports.clientport
  host : ∀ kv ∈ e.quorumsrv.entries, OneLine kv.1 ∧ ':' ∉ kv.1 ∧ ',' ∉ kv.1
  id : ∀ kv ∈ e.quorumsrv.entries, OneLine kv.2 ∧ '=' ∉ kv.2 ∧ '#' ∉ kv.2

/-! ## The ensembles of the environment

The two ensembles of `hadoop.yaml` and the parameters of the class, on which the results are evaluated. All values
are clean. -/

/-- Of `hadoop.yaml`. -/
def stgHadoop : Ensemble where
  ports := ⟨"2991".toList, "1981".toList, "3991".toList⟩
  quorumsrv := ⟨[("os13dshdz01.muc.domeus.com".toList, "0".toList), ("os13dshdz02.muc.domeus.com".toList, "1".toList),
    ("os13dshdz03.muc.domeus.com".toList, "2".toList)], by decide⟩

/-- The other ensemble of `hadoop.yaml`. -/
def stgApi : Ensemble where
  ports := ⟨"2992".toList, "2081".toList, "3992".toList⟩
  quorumsrv := ⟨[("os13dsapz01.muc.domeus.com".toList, "0".toList), ("os13dsapz02.muc.domeus.com".toList, "1".toList),
    ("os13dsapz03.muc.domeus.com".toList, "2".toList)], by decide⟩

/-- The parameters of the class in the environment. -/
def stgSettings : Settings where
  ticktime := "2000".toList
  initlimit := "10".toList
  synclimit := "5".toList
  datadir := "/var/lib/zookeeper".toList
  snapretaincount := "5".toList
  purgeinterval := "1".toList
  maxclientcnxns := "10000".toList
  jute_maxbuffer := "UNSET".toList
  configuration_directory := "/etc/zookeeper/conf-puppet".toList

theorem stgHadoop_clean : EnsembleClean stgHadoop :=
  ⟨by decide, by decide, by decide, by decide, by decide⟩

theorem stgApi_clean : EnsembleClean stgApi :=
  ⟨by decide, by decide, by decide, by decide, by decide⟩

theorem stgSettings_clean : stgSettings.Clean :=
  ⟨by decide, by decide, by decide, by decide, by decide, by decide, by decide, by decide⟩

/-- The data of the environment, without Kafka and Elasticsearch. -/
def stgData : Data :=
  ⟨stgHadoop, stgApi, "8485".toList, Dict.empty, "9092".toList, [], "9300".toList, "9200".toList⟩

/-! ## Reading `zoo.cfg`

The file is a properties file, and its lines are clean if what is put into them is. So its settings are those that
the template writes, and the servers among them are the hosts of the quorum. -/

section Reading
variable {s : Settings} {e : Ensemble}

/-- The settings above the servers are lines of their own. -/
theorem headLines_clean (hs : s.Clean) (he : EnsembleClean e) : ∀ l ∈ headLines s e, l.Clean := by
  have hset : ∀ {key v : Text}, key ≠ [] → '#' ∉ key → '=' ∉ key → '\n' ∉ key → OneLine v →
      (Line.setting key v).Clean := fun h1 h2 h3 h4 h5 => ⟨h1, h2, h3, h4, h5⟩
  intro l hl
  simp only [headLines, List.mem_cons, List.not_mem_nil, or_false] at hl
  rcases hl with rfl | rfl | rfl | rfl | rfl | rfl | rfl | rfl | rfl | rfl | rfl | rfl | rfl | rfl | rfl | rfl
  · show '\n' ∉ _; decide
  · exact hset (by decide) (by decide) (by decide) (by decide) hs.ticktime
  · show '\n' ∉ _; decide
  · show '\n' ∉ _; decide
  · exact hset (by decide) (by decide) (by decide) (by decide) hs.initlimit
  · show '\n' ∉ _; decide
  · show '\n' ∉ _; decide
  · exact hset (by decide) (by decide) (by decide) (by decide) hs.synclimit
  · show '\n' ∉ _; decide
  · exact hset (by decide) (by decide) (by decide) (by decide) hs.datadir
  · show '\n' ∉ _; decide
  · exact hset (by decide) (by decide) (by decide) (by decide) hs.snapretaincount
  · exact hset (by decide) (by decide) (by decide) (by decide) hs.purgeinterval
  · show '\n' ∉ _; decide
  · exact hset (by decide) (by decide) (by decide) (by decide) he.clientport.1
  · exact hset (by decide) (by decide) (by decide) (by decide) hs.maxclientcnxns

theorem tailLines_clean (hs : s.Clean) : ∀ l ∈ tailLines s, l.Clean := by
  intro l hl
  unfold tailLines at hl
  split at hl
  · simp only [List.mem_cons, List.not_mem_nil, or_false, or_self] at hl
    subst hl
    trivial
  · simp only [List.mem_cons, List.not_mem_nil, or_false] at hl
    rcases hl with rfl | rfl | rfl | rfl | rfl
    · trivial
    · trivial
    · show '\n' ∉ _; decide
    · exact ⟨by decide, by decide, by decide, by decide, hs.jute_maxbuffer⟩
    · trivial

theorem serverLine_clean (he : EnsembleClean e) {kv : Text × Text} (hkv : kv ∈ e.quorumsrv.entries) :
    (serverLine e kv.1 kv.2).Clean := by
  obtain ⟨hid, hideq, hidhash⟩ := he.id kv hkv
  have hkey : ∀ {c : Char}, c ∉ "server.".toList → c ∉ kv.2 → c ∉ "server.".toList ++ kv.2 := fun h1 h2 h =>
    (List.mem_append.mp h).elim h1 h2
  refine ⟨by simp, hkey (by decide) hidhash, hkey (by decide) hideq, hkey (by decide) hid, fun h => ?_⟩
  rcases List.mem_append.mp h with h | h
  · rcases List.mem_append.mp h with h | h
    · exact (he.host kv hkv).1 h
    · exact he.peerport.1 ((List.mem_cons.mp h).resolve_left (by decide))
  · exact he.leaderport.1 ((List.mem_cons.mp h).resolve_left (by decide))

/-- The settings that the template writes. -/
def settings (s : Settings) (e : Ensemble) : List (Text × Text) := (zooCfgLines s e).filterMap Line.setting?

/-- **Everything that the template writes is read back.** -/
theorem properties_zooCfg (hs : s.Clean) (he : EnsembleClean e) : properties (zooCfg s e) = settings s e := by
  apply properties_render
  intro l hl
  rcases List.mem_append.mp hl with hl | hl
  · rcases List.mem_append.mp hl with hl | hl
    · exact headLines_clean hs he l hl
    · obtain ⟨kv, hkv, rfl⟩ := List.mem_map.mp hl
      exact serverLine_clean he hkv
  · exact tailLines_clean hs l hl

theorem serverOf_serverLine (he : EnsembleClean e) {kv : Text × Text} (hkv : kv ∈ e.quorumsrv.entries) :
    serverOf ("server.".toList ++ kv.2, kv.1 ++ ':' :: e.ports.peerport ++ ':' :: e.ports.leaderport) =
      some ⟨kv.2, kv.1, e.ports.peerport, e.ports.leaderport⟩ := by
  have hsplit : (kv.1 ++ ':' :: e.ports.peerport ++ ':' :: e.ports.leaderport).splitOn ':' =
      [kv.1, e.ports.peerport, e.ports.leaderport] := by
    rw [List.append_assoc, List.cons_append, List.splitOn_append_cons_self_of_not_mem (he.host kv hkv).2.1,
      List.splitOn_append_cons_self_of_not_mem he.peerport.2, List.splitOn_eq_singleton he.leaderport.2]
  unfold serverOf
  rw [if_pos (List.prefix_append _ _), hsplit]
  rfl

/-- **The servers of `zoo.cfg` are the hosts of the quorum**, with their IDs and the two ports, in the order of the
    hash; none of the settings above them is taken for a server. -/
theorem servers_zooCfg (hs : s.Clean) (he : EnsembleClean e) :
    servers (zooCfg s e) =
      e.quorumsrv.entries.map fun kv => ⟨kv.2, kv.1, e.ports.peerport, e.ports.leaderport⟩ := by
  have hhead : ((headLines s e).filterMap Line.setting?).filterMap serverOf = [] := rfl
  have htail : ((tailLines s).filterMap Line.setting?).filterMap serverOf = [] := by
    unfold tailLines
    split
    · rfl
    · rfl
  have hmid : ∀ l : List (Text × Text), (∀ kv ∈ l, kv ∈ e.quorumsrv.entries) →
      ((l.map fun kv => serverLine e kv.1 kv.2).filterMap Line.setting?).filterMap serverOf =
        l.map fun kv => (⟨kv.2, kv.1, e.ports.peerport, e.ports.leaderport⟩ : Server) := by
    intro l hl
    induction l with
    | nil => rfl
    | cons kv l ih =>
        show List.filterMap serverOf (_ :: _) = _
        rw [List.filterMap_cons_some (serverOf_serverLine he (hl kv (List.mem_cons_self ..))),
          ih fun kv' hkv' => hl kv' (List.mem_cons_of_mem _ hkv')]
        rfl
  rw [servers, properties_zooCfg hs he, settings, zooCfgLines, List.filterMap_append, List.filterMap_append,
    List.filterMap_append, List.filterMap_append, hhead, htail, hmid _ fun _ h => h]
  simp

end Reading

/-! ## Members

A member has its own ID in `myid`, and finds itself in `zoo.cfg` by it. The class writes both from one hash, so that
two hosts with one ID find each other. -/

/-- The values of a list of entries are distinct exactly if each selects its own entry. -/
theorem nodup_values_iff {α β : Type*} [DecidableEq β] (l : List (α × β)) :
    (l.map Prod.snd).Nodup ↔ ∀ kv ∈ l, l.filter (fun kv' => kv'.2 = kv.2) = [kv] := by
  constructor
  · induction l with
    | nil => intro _ kv hkv; cases hkv
    | cons a l ih =>
        intro hnd kv hkv
        rw [List.map_cons, List.nodup_cons] at hnd
        have hout : ∀ kv' ∈ l, kv'.2 ≠ a.2 := fun kv' h h' => hnd.1 (h' ▸ List.mem_map_of_mem h)
        rcases List.mem_cons.mp hkv with rfl | hkv
        · rw [List.filter_cons_of_pos (by simp), List.filter_eq_nil_iff.mpr fun kv' h => by simpa using hout kv' h]
        · rw [List.filter_cons_of_neg (by simpa using (hout kv hkv).symm), ih hnd.2 kv hkv]
  · intro h
    rw [List.nodup_iff_count_le_one]
    intro b
    by_cases hb : b ∈ l.map Prod.snd
    · obtain ⟨kv, hkv, rfl⟩ := List.mem_map.mp hb
      have hlen := congrArg List.length (h kv hkv)
      rw [← List.countP_eq_length_filter] at hlen
      rw [List.count, List.countP_map]
      refine le_of_eq (Eq.trans (List.countP_congr fun kv' _ => ?_) hlen)
      simp
    · rw [List.count_eq_zero_of_not_mem hb]
      omega

/-- What a host finds in its `zoo.cfg` under the ID in its `myid`, if the class does not fail. -/
def own (env : Text) (s : Settings) (e : Ensemble) (fqdn : Text) : Option (List Server) := do
  let files ← config env s e fqdn
  let cfg ← Dict.find (s.configuration_directory ++ "/zoo.cfg".toList) files
  let myid ← Dict.find (s.datadir ++ "/myid".toList) files
  pure ((servers cfg).filter fun v => v.id = myid)

theorem own_eq {env : Text} (henv : ¬(env.map Char.toLower = "undef".toList ∨ env = [])) (s : Settings) (e : Ensemble)
    (fqdn : Text) :
    own env s e fqdn = some ((servers (zooCfg s e)).filter fun v => v.id = myId e fqdn) := by
  -- the two paths end in different names
  have hne : s.configuration_directory ++ "/zoo.cfg".toList ≠ s.datadir ++ "/myid".toList := by
    intro h
    have hlast := congrArg List.getLast? h
    rw [List.getLast?_append_of_ne_nil _ (by decide), List.getLast?_append_of_ne_nil _ (by decide)] at hlast
    exact absurd hlast (by decide)
  have hmyid : Dict.find (s.datadir ++ "/myid".toList)
      [(s.configuration_directory ++ "/zoo.cfg".toList, zooCfg s e), (s.datadir ++ "/myid".toList, myId e fqdn)] =
        some (myId e fqdn) := by
    rw [Dict.find, if_neg hne, Dict.find, if_pos rfl]
  rw [own, config, if_neg henv]
  show (Dict.find _ _).bind _ = _
  rw [Dict.find, if_pos rfl, Option.bind_some]
  show (Dict.find _ _).bind _ = _
  rw [hmyid]
  rfl

/-- **Each member finds itself, and nothing else, exactly if no two hosts have one ID.** A member reads its ID from
    `myid` and looks it up among the servers of `zoo.cfg`, which are the hosts of the quorum (`servers_zooCfg`); it
    finds every host with this ID. -/
theorem members_find_themselves_iff {env : Text} {s : Settings} {e : Ensemble}
    (henv : ¬(env.map Char.toLower = "undef".toList ∨ env = [])) (hs : s.Clean) (he : EnsembleClean e) :
    (∀ fqdn ∈ e.quorumsrv.keys,
      own env s e fqdn = some [⟨myId e fqdn, fqdn, e.ports.peerport, e.ports.leaderport⟩]) ↔
        e.quorumsrv.values.Nodup := by
  have hid : ∀ kv ∈ e.quorumsrv.entries, myId e kv.1 = kv.2 := by
    intro kv hkv
    rw [myId, Dict.get?_of_mem hkv]
    rfl
  have hown : ∀ kv ∈ e.quorumsrv.entries, own env s e kv.1 =
      some ((e.quorumsrv.entries.filter fun kv' => kv'.2 = kv.2).map fun kv' =>
        ⟨kv'.2, kv'.1, e.ports.peerport, e.ports.leaderport⟩) := by
    intro kv hkv
    rw [own_eq henv, servers_zooCfg hs he, hid kv hkv, List.filter_map]
    rfl
  rw [Dict.values, nodup_values_iff]
  constructor
  · intro h kv hkv
    have hself := h kv.1 (List.mem_map_of_mem hkv)
    rw [hown kv hkv] at hself
    have hinj : Function.Injective fun kv' : Text × Text =>
        (⟨kv'.2, kv'.1, e.ports.peerport, e.ports.leaderport⟩ : Server) := by
      rintro ⟨a, b⟩ ⟨c, d⟩ heq
      injection heq with h1 h2
      exact Prod.ext h2 h1
    apply List.map_injective_iff.mpr hinj
    rw [Option.some.inj hself, hid kv hkv]
    rfl
  · intro h fqdn hfqdn
    obtain ⟨kv, hkv, rfl⟩ := List.mem_map.mp hfqdn
    rw [hown kv hkv, h kv hkv, hid kv hkv]
    rfl

/-- The second member of the Hadoop ensemble. -/
theorem members_find_themselves_stg :
    own "stg".toList stgSettings stgHadoop "os13dshdz02.muc.domeus.com".toList =
      some [⟨"1".toList, "os13dshdz02.muc.domeus.com".toList, "2991".toList, "3991".toList⟩] :=
  (members_find_themselves_iff (by decide) stgSettings_clean stgHadoop_clean).mpr (by decide) _ (by decide)

/-! ## Clients

The string of an ensemble is made from the same hash as the server lines, with the port that the file tells the
servers to listen on. -/

/-- A host of the quorum has no comma and no colon in its name. -/
theorem host_of_mem_keys {e : Ensemble} (he : EnsembleClean e) {n : Text} (hn : n ∈ e.quorumsrv.keys) :
    ',' ∉ n ∧ ':' ∉ n := by
  obtain ⟨kv, hkv, rfl⟩ := List.mem_map.mp hn
  exact ⟨(he.host kv hkv).2.2, (he.host kv hkv).2.1⟩

/-- The setting before the server lines that clients connect to. -/
theorem clientPort_zooCfg {s : Settings} {e : Ensemble} (hs : s.Clean) (he : EnsembleClean e) :
    Dict.find "clientPort".toList (properties (zooCfg s e)) = some e.ports.clientport := by
  rw [properties_zooCfg hs he, settings, zooCfgLines, List.filterMap_append, List.filterMap_append,
    List.append_assoc, Dict.find_append]
  rfl

/-- The servers are the hosts of the quorum, in its order. -/
theorem hosts_servers {s : Settings} {e : Ensemble} (hs : s.Clean) (he : EnsembleClean e) :
    (servers (zooCfg s e)).map Server.host = e.quorumsrv.keys := by
  rw [servers_zooCfg hs he, List.map_map]
  rfl

/-- The string of an ensemble, taken apart. -/
theorem connections_quorum {s : Settings} {e : Ensemble} (hs : s.Clean) (he : EnsembleClean e)
    (hne : e.quorumsrv.keys ≠ []) :
    connections ',' e.zookeeper_quorum =
      (servers (zooCfg s e)).map fun v => (v.host, e.ports.clientport) :=
  calc connections ',' e.zookeeper_quorum
      = e.quorumsrv.keys.map fun node => (node, e.ports.clientport) :=
        connections_connect (by decide) he.clientport.2 hne fun n hn => host_of_mem_keys he hn
    _ = (servers (zooCfg s e)).map fun v => (v.host, e.ports.clientport) := by
        rw [← hosts_servers hs he, List.map_map]
        rfl

/-- **Clients are sent to the servers.** The string of an ensemble names the hosts of the server lines of `zoo.cfg`, in
    their order, each with the port that `zoo.cfg` opens for clients; the list without ports names the same hosts. -/
theorem clients_find_servers {s : Settings} {e : Ensemble} (hs : s.Clean) (he : EnsembleClean e)
    (hne : e.quorumsrv.keys ≠ []) :
    ∃ port, Dict.find "clientPort".toList (properties (zooCfg s e)) = some port ∧
      connections ',' e.zookeeper_quorum = (servers (zooCfg s e)).map (fun v => (v.host, port)) ∧
      e.zookeeper_list.splitOn ',' = (servers (zooCfg s e)).map Server.host := by
  refine ⟨e.ports.clientport, clientPort_zooCfg hs he, connections_quorum hs he hne, ?_⟩
  rw [hosts_servers hs he]
  exact List.splitOn_intercalate ',' (fun n hn => (host_of_mem_keys he hn).1) hne

/-- The clients of the Hadoop ensemble. -/
theorem clients_find_servers_stg :
    ∃ port, Dict.find "clientPort".toList (properties (zooCfg stgSettings stgHadoop)) = some port ∧
      connections ',' stgHadoop.zookeeper_quorum =
        (servers (zooCfg stgSettings stgHadoop)).map (fun v => (v.host, port)) ∧
      stgHadoop.zookeeper_list.splitOn ',' = (servers (zooCfg stgSettings stgHadoop)).map Server.host :=
  clients_find_servers stgSettings_clean stgHadoop_clean (by decide)

/-- **Two ensembles are taken for one exactly if they are one.** The `-write` services get each ensemble once, and a
    single one exactly if both have the same hosts in the same order and the same port. -/
theorem quorums_spec {d : Data} (hhd : EnsembleClean d.hadoop) (hapi : EnsembleClean d.api)
    (hne : d.hadoop.quorumsrv.keys ≠ []) (hne' : d.api.quorumsrv.keys ≠ []) :
    d.quorums.Nodup ∧ (∀ q, q ∈ d.quorums ↔ q = d.api_zookeeper_quorum ∨ q = d.hd_zookeeper_quorum) ∧
      (d.quorums.length = 1 ↔
        d.api.quorumsrv.keys = d.hadoop.quorumsrv.keys ∧ d.api.ports.clientport = d.hadoop.ports.clientport) := by
  have hiff : d.api_zookeeper_quorum = d.hd_zookeeper_quorum ↔
      d.api.quorumsrv.keys = d.hadoop.quorumsrv.keys ∧ d.api.ports.clientport = d.hadoop.ports.clientport :=
    connect_inj (by decide) hapi.clientport.2 hhd.clientport.2 hne' hne
      (fun n hn => host_of_mem_keys hapi hn) fun n hn => host_of_mem_keys hhd hn
  rw [← hiff]
  unfold Data.quorums
  by_cases h : d.api_zookeeper_quorum = d.hd_zookeeper_quorum
  · rw [if_pos h]
    exact ⟨List.nodup_singleton _, fun q => by simp [← h], by simp [h]⟩
  · rw [if_neg h]
    exact ⟨by simpa using h, fun q => by simp, by simp [h]⟩

/-- Here they are two. -/
theorem quorums_stg : stgData.quorums.Nodup ∧
    (∀ q, q ∈ stgData.quorums ↔ q = stgData.api_zookeeper_quorum ∨ q = stgData.hd_zookeeper_quorum) ∧
    stgData.quorums.length ≠ 1 := by
  have hspec := quorums_spec (d := stgData) stgHadoop_clean stgApi_clean (by decide) (by decide)
  exact ⟨hspec.1, hspec.2.1, fun hlength => absurd (hspec.2.2.mp hlength).1 (by decide)⟩

end Zookeeper
end StgEnvironment
