import StgEnvironment.Dsglobals.Globals

/-!
# `Kafka.Server`: `server.properties` of a broker

The class `kafka` on a host: its ID comes from the host's own entry of `kafka::brokers`, the ensemble from
`dsglobals`. Without an entry the class fails, since the template asks an undefined value for its ID.

The lines are written with `Lib.Properties`, whose `properties` reads such a file back: comments and blank lines are
passed over, and a setting is a key and a value.
-/

namespace StgEnvironment
namespace Kafka

open Dsglobals (Data)
open Properties

/-- The parameters of the class `kafka` that the template uses, apart from those of the cluster. -/
structure Settings where
  auto_create_topics_enable : Bool
  inter_broker_protocol_version : Text
  log_dirs : List Text
  log_flush_interval_messages : Text
  log_flush_interval_ms : Text
  log_message_format_version : Text
  log_retention_hours : Text
  log_segment_bytes : Text
  num_io_threads : Text
  num_network_threads : Text
  num_partitions : Text
  num_replica_fetchers : Text
  socket_receive_buffer_bytes : Text
  socket_send_buffer_bytes : Text
  zookeeper_chroot : Option Text

/-- `$brokers[$fqdn]['id']`: an error on a host without an entry, and undefined for an entry without an ID. -/
def brokerId (d : Data) (fqdn : Text) : Option Text :=
  (d.brokers.get? fqdn).map fun attributes => (attributes.get? "id".toList).getD []

/-- The lines of `server.properties.erb`, in its order. -/
def serverPropertiesLines (s : Settings) (d : Data) (fqdn broker_id : Text) : List Line :=
  [.comment " Note: This file is managed by Puppet.".toList,
    .blank,
    .setting "auto.create.topics.enable".toList
      (if s.auto_create_topics_enable then "true".toList else "false".toList),
    .setting "broker.id".toList broker_id,
    .setting "confluent.support.metrics.enable".toList "false".toList,
    .setting "inter.broker.protocol.version".toList s.inter_broker_protocol_version,
    .setting "listeners".toList ("PLAINTEXT://0.0.0.0:".toList ++ d.broker_port),
    .setting "advertised.listeners".toList ("PLAINTEXT://".toList ++ (fqdn ++ ':' :: d.broker_port)),
    .setting "log.dirs".toList ([','].intercalate s.log_dirs),
    .setting "log.flush.interval.messages".toList s.log_flush_interval_messages,
    .setting "log.flush.interval.ms".toList s.log_flush_interval_ms,
    .setting "log.message.format.version".toList s.log_message_format_version,
    .setting "log.retention.hours".toList s.log_retention_hours,
    .setting "log.segment.bytes".toList s.log_segment_bytes,
    .setting "num.io.threads".toList s.num_io_threads,
    .setting "num.network.threads".toList s.num_network_threads,
    .setting "num.partitions".toList s.num_partitions,
    .setting "num.replica.fetchers".toList s.num_replica_fetchers,
    .setting "socket.receive.buffer.bytes".toList s.socket_receive_buffer_bytes,
    .setting "socket.send.buffer.bytes".toList s.socket_send_buffer_bytes,
    .setting "zookeeper.connect".toList (d.hd_zookeeper_quorum ++ s.zookeeper_chroot.getD [])]

/-- `/etc/kafka/server.properties` of a host. A host without an entry among the brokers has none. -/
def serverProperties (s : Settings) (d : Data) (fqdn : Text) : Option Text :=
  (brokerId d fqdn).map fun id => render (serverPropertiesLines s d fqdn id)

/-- The first value of a setting. The template writes none twice. -/
def settingOf (key : Text) (t : Text) : Option Text := Dict.find key (properties t)

end Kafka
end StgEnvironment
