import StgEnvironment.Kafka.Server
import StgEnvironment.Zookeeper.Correctness.Ensemble

/-!
# `Kafka.Correctness.Brokers`: the brokers of a cluster, their clients and their ensemble

`setting_server` reads a setting of `server.properties` back. What clients get as the list of brokers is what the
brokers advertise, in the same order (`bootstrap_is_advertised`), and every broker is sent to the servers of the
ensemble, under one path (`brokers_find_ensemble`).

Both results join files that different classes write from the same data: `server.properties` of the class `kafka`, the
lists of `dsglobals`, and `zoo.cfg` of the class `zookeeper`. What is assumed is that the values are single lines,
and that those which stand in a list have none of the characters that part it (`Clean`, `BrokersClean`).
-/

namespace StgEnvironment
namespace Kafka

open Dsglobals (Data)
open Properties
open Zookeeper (OneLine EnsembleClean servers zooCfg)

/-- The parameters are single lines, so that each stays in its own line of the file. -/
structure Settings.Clean (s : Settings) : Prop where
  lines : ∀ t ∈ [s.inter_broker_protocol_version, s.log_flush_interval_messages, s.log_flush_interval_ms,
    s.log_message_format_version, s.log_retention_hours, s.log_segment_bytes, s.num_io_threads,
    s.num_network_threads, s.num_partitions, s.num_replica_fetchers, s.socket_receive_buffer_bytes,
    s.socket_send_buffer_bytes], OneLine t
  log_dirs : ∀ t ∈ s.log_dirs, OneLine t
  zookeeper_chroot : ∀ t ∈ s.zookeeper_chroot, OneLine t

/-- The data of the brokers are single lines, and hosts and port have none of the characters that part a list. -/
structure BrokersClean (d : Data) : Prop where
  broker_port : OneLine d.broker_port ∧ ',' ∉ d.broker_port
  host : ∀ h ∈ d.brokers.keys, OneLine h ∧ ',' ∉ h
  id : ∀ h ∈ d.brokers.keys, ∀ id ∈ brokerId d h, OneLine id

/-! ## The cluster of the environment -/

/-- The brokers and ensembles of `hadoop.yaml`. -/
def stgData : Data where
  hadoop := Zookeeper.stgHadoop
  api := Zookeeper.stgApi
  journalnodeport := "8485".toList
  brokers := ⟨[("os13dsqueue01.muc.domeus.com".toList, ⟨[("id".toList, "1".toList)], by decide⟩),
    ("os13dsqueue02.muc.domeus.com".toList, ⟨[("id".toList, "2".toList)], by decide⟩),
    ("os13dsqueue03.muc.domeus.com".toList, ⟨[("id".toList, "3".toList)], by decide⟩)], by decide⟩
  broker_port := "9092".toList
  es_nodes := []
  es_transport_port := "9300".toList
  es_http_port := "9200".toList

/-- The parameters of the brokers of the environment. -/
def stgSettings : Settings where
  auto_create_topics_enable := false
  inter_broker_protocol_version := "2.3".toList
  log_dirs := ["/DATA1/kafka-logs".toList, "/DATA2/kafka-logs".toList]
  log_flush_interval_messages := "10000".toList
  log_flush_interval_ms := "3000".toList
  log_message_format_version := "2.3".toList
  log_retention_hours := "168".toList
  log_segment_bytes := "536870912".toList
  num_io_threads := "64".toList
  num_network_threads := "32".toList
  num_partitions := "40".toList
  num_replica_fetchers := "4".toList
  socket_receive_buffer_bytes := "1048576".toList
  socket_send_buffer_bytes := "1048576".toList
  zookeeper_chroot := some "/kafka".toList

theorem stgSettings_clean : stgSettings.Clean := ⟨by decide, by decide, by decide⟩

theorem stgData_clean : BrokersClean stgData := ⟨by decide, by decide, by decide⟩

/-! ## Reading `server.properties` -/

/-- The quorum string of a clean ensemble is a single line. -/
theorem oneLine_quorum {e : Dsglobals.Ensemble} (he : EnsembleClean e) : OneLine e.zookeeper_quorum := by
  refine notMem_connect (by decide) (by decide) he.clientport.1 fun n hn => ?_
  obtain ⟨kv, hkv, rfl⟩ := List.mem_map.mp hn
  exact (he.host kv hkv).1

section Reading
variable {s : Settings} {d : Data}

/-- No line of the template is broken by what is put into it. -/
theorem lines_clean (hs : s.Clean) (hd : BrokersClean d) (he : EnsembleClean d.hadoop) {h id : Text}
    (hh : h ∈ d.brokers.keys) (hid : brokerId d h = some id) : ∀ l ∈ serverPropertiesLines s d h id, l.Clean := by
  have hset : ∀ {key v : Text}, (key ≠ [] ∧ '#' ∉ key ∧ '=' ∉ key ∧ '\n' ∉ key) → OneLine v →
      (Line.setting key v).Clean := fun hk hv => ⟨hk.1, hk.2.1, hk.2.2.1, hk.2.2.2, hv⟩
  have happ : ∀ {a b : Text}, OneLine a → OneLine b → OneLine (a ++ b) := fun ha hb hm =>
    (List.mem_append.mp hm).elim ha hb
  have hchroot : OneLine (s.zookeeper_chroot.getD []) := by
    cases hc : s.zookeeper_chroot with
    | none => exact List.not_mem_nil
    | some t => exact hs.zookeeper_chroot t hc
  have hcolon : OneLine (h ++ ':' :: d.broker_port) :=
    happ (hd.host h hh).1 fun hm => hd.broker_port.1 ((List.mem_cons.mp hm).resolve_left (by decide))
  have htopics : OneLine (if s.auto_create_topics_enable then "true".toList else "false".toList) := by
    split <;> decide
  intro l hl
  simp only [serverPropertiesLines, List.mem_cons, List.not_mem_nil, or_false] at hl
  have hline := hs.lines
  simp only [List.mem_cons, List.not_mem_nil, or_false, forall_eq_or_imp, forall_eq] at hline
  obtain ⟨h1, h2, h3, h4, h5, h6, h7, h8, h9, h10, h11, h12⟩ := hline
  rcases hl with rfl | rfl | rfl | rfl | rfl | rfl | rfl | rfl | rfl | rfl | rfl | rfl | rfl | rfl | rfl | rfl | rfl |
    rfl | rfl | rfl | rfl
  · show '\n' ∉ _; decide
  · trivial
  · exact hset (by decide) htopics
  · exact hset (by decide) (hd.id h hh id hid)
  · exact hset (by decide) (by decide)
  · exact hset (by decide) h1
  · exact hset (by decide) (happ (by decide) hd.broker_port.1)
  · exact hset (by decide) (happ (by decide) hcolon)
  · exact hset (by decide) (notMem_intercalate (by decide) hs.log_dirs)
  · exact hset (by decide) h2
  · exact hset (by decide) h3
  · exact hset (by decide) h4
  · exact hset (by decide) h5
  · exact hset (by decide) h6
  · exact hset (by decide) h7
  · exact hset (by decide) h8
  · exact hset (by decide) h9
  · exact hset (by decide) h10
  · exact hset (by decide) h11
  · exact hset (by decide) h12
  · exact hset (by decide) (happ (oneLine_quorum he) hchroot)

/-- A setting of a broker, read back from its file. -/
theorem setting_server (hs : s.Clean) (hd : BrokersClean d) (he : EnsembleClean d.hadoop) {h : Text}
    (hh : h ∈ d.brokers.keys) : ∃ id t, brokerId d h = some id ∧ serverProperties s d h = some t ∧
      ∀ key, settingOf key t = Dict.find key ((serverPropertiesLines s d h id).filterMap Line.setting?) := by
  obtain ⟨attributes, hattr⟩ := Option.isSome_iff_exists.mp (Dict.mem_keys_iff.mp hh)
  have hid : brokerId d h = some ((attributes.get? "id".toList).getD []) := by rw [brokerId, hattr]; rfl
  refine ⟨_, _, hid, by rw [serverProperties, hid]; rfl, fun key => ?_⟩
  rw [settingOf, properties_render (lines_clean hs hd he hh hid)]

/-- **Clients are told what the brokers advertise.** Cut at its commas, the list of brokers is what the brokers
    advertise, host by host, each behind the protocol; a host that is no broker gets no file. -/
theorem bootstrap_is_advertised (hs : s.Clean) (hd : BrokersClean d) (he : EnsembleClean d.hadoop)
    (hne : d.brokers.keys ≠ []) :
    (d.brokers.keys.map fun h => (serverProperties s d h).bind (settingOf "advertised.listeners".toList)) =
        (d.kafka_brokers.splitOn ',').map (fun c => some ("PLAINTEXT://".toList ++ c)) ∧
      ∀ h, serverProperties s d h = none ↔ h ∉ d.brokers.keys := by
  refine ⟨?_, fun h => ?_⟩
  · have hsplit : d.kafka_brokers.splitOn ',' = d.brokers.keys.map fun node => node ++ ':' :: d.broker_port :=
      splitOn_connect (by decide) hd.broker_port.2 hne fun n hn => (hd.host n hn).2
    rw [hsplit, List.map_map]
    refine List.map_congr_left fun h hh => ?_
    obtain ⟨id, t, -, ht, hsetting⟩ := setting_server hs hd he hh
    rw [ht, Option.bind_some, hsetting]
    rfl
  · rw [Dict.mem_keys_iff, serverProperties, brokerId]
    cases d.brokers.get? h with
    | none => simp
    | some _ => simp

/-- In the staging environment, with its three brokers. -/
theorem bootstrap_is_advertised_stg :
    (stgData.brokers.keys.map fun h =>
        (serverProperties stgSettings stgData h).bind (settingOf "advertised.listeners".toList)) =
      (stgData.kafka_brokers.splitOn ',').map (fun c => some ("PLAINTEXT://".toList ++ c)) :=
  (bootstrap_is_advertised stgSettings_clean stgData_clean Zookeeper.stgHadoop_clean (by decide)).1

/-- **Every broker joins one ensemble.** The address in its file is that of the servers of `zoo.cfg`, each with the port
    for clients, followed by the path of the cluster, which is the same for all; and its ID is the one of its own
    entry. -/
theorem brokers_find_ensemble (hs : s.Clean) (hd : BrokersClean d) (he : EnsembleClean d.hadoop)
    (hne : d.hadoop.quorumsrv.keys ≠ []) {z : Zookeeper.Settings} (hz : z.Clean) {h : Text}
    (hh : h ∈ d.brokers.keys) :
    ∃ t quorum port, serverProperties s d h = some t ∧
      settingOf "zookeeper.connect".toList t = some (quorum ++ s.zookeeper_chroot.getD []) ∧
      Dict.find "clientPort".toList (properties (zooCfg z d.hadoop)) = some port ∧
      connections ',' quorum = (servers (zooCfg z d.hadoop)).map (fun v => (v.host, port)) ∧
      settingOf "broker.id".toList t = brokerId d h := by
  obtain ⟨id, t, hid, ht, hsetting⟩ := setting_server hs hd he hh
  refine ⟨t, d.hd_zookeeper_quorum, d.hadoop.ports.clientport, ht, ?_, Zookeeper.clientPort_zooCfg hz he,
    Zookeeper.connections_quorum hz he hne, ?_⟩
  · rw [hsetting]; rfl
  · rw [hsetting, hid]; rfl

end Reading

/-- The second broker of the staging environment. -/
theorem brokers_find_ensemble_stg : ∃ t quorum port,
    serverProperties stgSettings stgData "os13dsqueue02.muc.domeus.com".toList = some t ∧
      settingOf "zookeeper.connect".toList t = some (quorum ++ "/kafka".toList) ∧
      Dict.find "clientPort".toList (properties (zooCfg Zookeeper.stgSettings stgData.hadoop)) = some port ∧
      connections ',' quorum = (servers (zooCfg Zookeeper.stgSettings stgData.hadoop)).map (fun v => (v.host, port)) ∧
      settingOf "broker.id".toList t = brokerId stgData "os13dsqueue02.muc.domeus.com".toList :=
  brokers_find_ensemble stgSettings_clean stgData_clean Zookeeper.stgHadoop_clean (by decide)
    Zookeeper.stgSettings_clean (by decide)

end Kafka
end StgEnvironment
