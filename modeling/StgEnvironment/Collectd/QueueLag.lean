import StgEnvironment.Lib.Dict
import StgEnvironment.Lib.Text

/-!
# `Collectd.QueueLag`: the plugin `kafka_queue_lag.py`

Burrow is a function from URLs to replies. A read of the plugin is a computation that dispatches values as it
goes and may fail on the way, with the values dispatched so far (`Read`). The order in which Python walks
through a dictionary is a parameter (`KeyOrder`).

## Contents
- **Requests** (`get`, `get_clusters`, `get_consumers`), with their failures.
- **The read callback** (`queue_lag`): for each consumer of each cluster the lags by topic, one value for each.
- **A state of Burrow** (`Snapshot`), and when a Burrow answers from it (`Serves`).

The registration of the callback with collectd, and what collectd does with a value, are left out.
-/

namespace StgEnvironment
namespace Collectd.QueueLag

/-- The fields of a partition that the plugin reads; Burrow has more of them. -/
structure Partition where
  topic : Text
  current_lag : Int
deriving DecidableEq

/-- The `status` of a consumer. A consumer that has not been evaluated has no partitions in it. -/
structure Status where
  partitions : Option (List Partition)

/-- The fields of a document that the plugin reads, where they are there. -/
structure Document where
  clusters : Option (List Text) := none
  consumers : Option (List Text) := none
  status : Option Status := none

/-- What becomes of a request: `requests` raises, the text is no JSON, or it is a document. -/
inductive Reply where
  | requestException
  /-- An answer whose text is not JSON. -/
  | notJson
  | document (d : Document)

/-- Burrow, as a client sees it: what comes of a request for each URL. -/
abbrev Burrow := Text → Reply

/-- The exceptions that end a read. What was dispatched before one of them stays dispatched. -/
inductive Failure where
  /-- `sys.exit` after a failed request: the plugin does not import `sys`. -/
  | nameError
  | valueError
  | keyError (key : Text)
deriving DecidableEq

/-- `collectd.Values`, with the fields that the plugin sets. -/
structure Values where
  plugin : Text
  plugin_instance : Text
  host : Text
  interval : Nat
  type : Text
  type_instance : Text
  values : List Int
deriving DecidableEq

/-- What collectd stores a value under. Two values with one identifier are two points of one series. -/
structure Identifier where
  host : Text
  plugin : Text
  plugin_instance : Text
  type : Text
  type_instance : Text
deriving DecidableEq

/-- The identifier of a value, from the five fields that collectd makes it of. -/
def Values.identifier (val : Values) : Identifier :=
  ⟨val.host, val.plugin, val.plugin_instance, val.type, val.type_instance⟩

/-- A computation of the plugin, over the values dispatched so far. What is dispatched before an exception stays
    dispatched. -/
abbrev Read (α : Type) := ExceptT Failure (StateM (List Values)) α

/-- `val.dispatch()`. -/
def dispatch (val : Values) : Read Unit := modify (· ++ [val])

/-- `requests.get` and `json.loads`. After a failed request the plugin calls `sys.exit`, which is another failure. -/
def get (burrow : Burrow) (url : Text) : Read Document :=
  match burrow url with
  | .requestException => throw .nameError
  | .notJson => throw .valueError
  | .document d => pure d

/-- `resp[key]`, which raises if the document has no such field. -/
def field {α : Type} (key : Text) : Option α → Read α
  | none => throw (.keyError key)
  | some a => pure a

/-! ## The requests -/

def localhost : Text := "localhost".toList
def port8000 : Text := "8000".toList

/-- `'http://' + bhost + ':' + bport + '/v3/kafka'`. -/
def kafkaUrl (bhost bport : Text) : Text :=
  "http://".toList ++ bhost ++ ":".toList ++ bport ++ "/v3/kafka".toList

/-- Where the consumers of a cluster are listed. -/
def consumerUrl (bhost bport cluster : Text) : Text :=
  kafkaUrl bhost bport ++ "/".toList ++ cluster ++ "/consumer".toList

/-- Where the status of a consumer is. -/
def lagUrl (bhost bport cluster consumer : Text) : Text :=
  consumerUrl bhost bport cluster ++ "/".toList ++ consumer ++ "/lag".toList

/-- `get_clusters`: the clusters that Burrow lists. -/
def get_clusters (burrow : Burrow) (bhost bport : Text) : Read (List Text) := do
  let resp ← get burrow (kafkaUrl bhost bport)
  field "clusters".toList resp.clusters

/-- `get_consumers`: the consumers of one cluster. -/
def get_consumers (burrow : Burrow) (cluster bhost bport : Text) : Read (List Text) := do
  let resp ← get burrow (consumerUrl bhost bport cluster)
  field "consumers".toList resp.consumers

/-! ## The read callback -/

/-- The order in which `for v in lag` walks through the keys. Python 2 promises no more than that each key comes
    once. -/
structure KeyOrder where
  keys : Dict Text Int → List Text
  perm : ∀ d, (keys d).Perm d.keys

/-- Keys in the order of insertion. -/
def KeyOrder.insertion : KeyOrder := ⟨Dict.keys, fun _ => List.Perm.refl _⟩

/-- One turn of the loop over the partitions, which adds to the lag of the topic or begins it. -/
def tally (lag : Dict Text Int) (partition : Partition) : Dict Text Int :=
  match lag.get? partition.topic with
  | some n => lag.set partition.topic (n + partition.current_lag)
  | none => lag.set partition.topic partition.current_lag

/-- The value of a topic. `env` is `@agent_specified_environment`. -/
def lagValues (env consumer v : Text) (lag : Int) : Values where
  plugin := "queue_lag".toList
  plugin_instance := consumer
  host := "burrow-".toList ++ env
  interval := 60
  type := "gauge".toList
  type_instance := v
  values := [lag]

/-- The loop over the dictionary. -/
def dispatchLag (env consumer : Text) (order : KeyOrder) (lag : Dict Text Int) : Read Unit :=
  (order.keys lag).forM fun v => do
    let n ← field v (lag.get? v)
    dispatch (lagValues env consumer v n)

/-- The body of the loop over the consumers: the lags of the partitions are collected by topic, and dispatched. -/
def consumer_lag (env : Text) (order : KeyOrder) (burrow : Burrow) (bhost bport cluster consumer : Text) :
    Read Unit := do
  let data ← get burrow (lagUrl bhost bport cluster consumer)
  let status ← field "status".toList data.status
  let partitions ← field "partitions".toList status.partitions
  dispatchLag env consumer order (partitions.foldl tally Dict.empty)

/-- The read callback. It leaves the host and the port of the first two requests at their defaults, so that only the
    last one goes to the Burrow that is configured. -/
def queue_lag (env : Text) (order : KeyOrder) (burrow : Burrow) (bhost bport : Text) : Read Unit := do
  let clusters ← get_clusters burrow localhost port8000
  clusters.forM fun cluster => do
    let consumers ← get_consumers burrow cluster localhost port8000
    consumers.forM fun consumer => consumer_lag env order burrow bhost bport cluster consumer

/-- The values dispatched by a computation, and how it ended. -/
def execute (m : Read Unit) : Except Failure Unit × List Values := m.run.run []

/-! ## A state of Burrow -/

/-- The clusters, the consumers of each, and the partitions in the status of each. -/
structure Snapshot where
  clusters : List Text
  consumers : Text → List Text
  partitions : Text → Text → List Partition

/-- The pairs that the plugin asks for, in order. -/
def Snapshot.listed (s : Snapshot) : List (Text × Text) :=
  s.clusters.flatMap fun cluster => (s.consumers cluster).map fun consumer => (cluster, consumer)

/-- The topics of a consumer. -/
def Snapshot.topics (s : Snapshot) (cluster consumer : Text) : List Text :=
  (s.partitions cluster consumer).map Partition.topic

/-- Every request that the plugin makes succeeds, with a document of the state. What Burrow answers to other requests
    is left open. -/
structure Serves (burrow : Burrow) (bhost bport : Text) (s : Snapshot) : Prop where
  clusters : ∃ d, burrow (kafkaUrl localhost port8000) = .document d ∧ d.clusters = some s.clusters
  consumers : ∀ cluster ∈ s.clusters, ∃ d, burrow (consumerUrl localhost port8000 cluster) = .document d ∧
    d.consumers = some (s.consumers cluster)
  lag : ∀ cluster ∈ s.clusters, ∀ consumer ∈ s.consumers cluster,
    ∃ d, burrow (lagUrl bhost bport cluster consumer) = .document d ∧
      d.status = some ⟨some (s.partitions cluster consumer)⟩

/-- A Burrow that answers from a state, and knows no other URLs: the clusters, their consumers, and the partitions of
    each. -/
def Snapshot.serve (s : Snapshot) (bhost bport : Text) : Burrow := fun url =>
  if url = kafkaUrl localhost port8000 then .document { clusters := some s.clusters }
  else match s.clusters.find? fun cluster => url = consumerUrl localhost port8000 cluster with
    | some cluster => .document { consumers := some (s.consumers cluster) }
    | none =>
        match s.listed.find? fun x => url = lagUrl bhost bport x.1 x.2 with
        | some x => .document { status := some ⟨some (s.partitions x.1 x.2)⟩ }
        | none => .document {}

end Collectd.QueueLag
end StgEnvironment
