import StgEnvironment.Lib.Dict
import StgEnvironment.Lib.Properties

/-!
# `Dsglobals.Globals`: the clusters of the environment, and the strings that name them

`Data` is what `hadoop.yaml` says of the ZooKeeper ensembles, the Kafka brokers and the Elasticsearch nodes. The class
`dsglobals` joins the nodes of each into one string for the templates. The classes `hadoop`, `hbase`, `datastore` and
`confluentapp` compute the strings of ZooKeeper in the same words, and `hadoop` that of the journal nodes as well.

All strings but the lists without ports are made by one function, `connect`, whose inverse is `connections`; what the
strings mean to their readers is stated where the configuration of the readers is modelled.

Numbers stand as the text they are written as.
-/

namespace StgEnvironment
namespace Dsglobals

open Properties (connect)

/-- `zookeeper::ports`, for one ensemble. -/
structure Ports where
  peerport : Text
  clientport : Text
  leaderport : Text

/-- One ensemble: its ports, and the ID of each host. -/
structure Ensemble where
  ports : Ports
  quorumsrv : Dict Text Text

/-- What `hadoop.yaml` says of the clusters of the environment, as far as the class reads it. -/
structure Data where
  hadoop : Ensemble
  api : Ensemble
  journalnodeport : Text
  /-- `kafka::brokers`: the attributes of each host. -/
  brokers : Dict Text (Dict Text Text)
  broker_port : Text
  es_nodes : List Text
  es_transport_port : Text
  es_http_port : Text

section Strings
variable (d : Data)

/-- `$zookeeper_nodes.keys.map |$node| { "$node" }.join(',')`: the hosts of an ensemble without ports. -/
def Ensemble.zookeeper_list (e : Ensemble) : Text := [','].intercalate e.quorumsrv.keys

/-- The hosts of an ensemble, each with the port for clients. -/
def Ensemble.zookeeper_quorum (e : Ensemble) : Text := connect ',' e.ports.clientport e.quorumsrv.keys

def Data.hd_zookeeper_list : Text := d.hadoop.zookeeper_list

def Data.api_zookeeper_list : Text := d.api.zookeeper_list

/-- `hd_zookeeper_quorum`, the one that Hadoop and Kafka use. -/
def Data.hd_zookeeper_quorum : Text := d.hadoop.zookeeper_quorum

def Data.api_zookeeper_quorum : Text := d.api.zookeeper_quorum

/-- `hadoop::qjournalnodes`: the journal nodes are on the hosts of the Hadoop ensemble. -/
def Data.qjournalnodes : Text := connect ';' d.journalnodeport d.hadoop.quorumsrv.keys

/-- `kafka_brokers`, what clients of Kafka are given to start from. -/
def Data.kafka_brokers : Text := connect ',' d.broker_port d.brokers.keys

def Data.es_transport_nodes : Text := connect ',' d.es_transport_port d.es_nodes

def Data.es_http_nodes : Text := connect ',' d.es_http_port d.es_nodes

/-- `quorums` in the configuration of the `-write` services, which name an ensemble once if its two strings are
    equal. -/
def Data.quorums : List Text :=
  if d.api_zookeeper_quorum = d.hd_zookeeper_quorum then [d.api_zookeeper_quorum]
  else [d.api_zookeeper_quorum, d.hd_zookeeper_quorum]

end Strings

end Dsglobals
end StgEnvironment
