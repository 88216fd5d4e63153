import StgEnvironment.Lib.Yaml
import StgEnvironment.Puppet.Value

/-!
# `Es.Docker`: the template `elasticsearch_docker.yml.erb`

`es::docker` renders the template for each of its instances. The pools of threads are written out in it, and below
them comes what the common configuration says about the pool `write`.

## Contents
- **The static lines**: the parameters of an instance, the block of its roles, and the pools (`thread_pool`).
- **The common configuration**, as far as the template looks at it, and the lines of the override (`override`).
- **The file** (`elasticsearch_yml`).

## What is left out
How Ruby prints a value, and which texts are whole YAML values, is a parameter (`Env`). The comments above the pools are
left out, and of `es::docker` everything but the parameters of this template.
-/

namespace StgEnvironment
namespace Es
open Puppet Yaml

/-- A plain word: what a host, a number or a size is written as. YAML takes it for a value, in quotes and without. -/
def isPlain (w : Text) : Bool := w.head?.any Char.isAlphanum && w.all fun c => isKeyChar c || c == '%'

/-- Ruby and YAML, as far as the template goes: how a value is printed, and what YAML takes for a value on the line of
    its key. Only what is documented for plain words and numbers is asked of them. -/
structure Env where
  to_s : Value → Text
  /-- The texts that YAML takes for a value that starts and ends on the line of its key. -/
  inline : Text → Bool
  to_s_nat : ∀ n : ℕ, to_s (.int n) = Nat.toDigits 10 n
  inline_plain : ∀ w, isPlain w = true → inline w = true
  inline_quoted : ∀ w, isPlain w = true → inline ('"' :: (w ++ ['"'])) = true

/-- What is printed behind a key, if anything is: nothing, or a value that ends on its line. -/
abbrev Printed (env : Env) := { v : Text // v = [] ∨ IsValue env.inline v }

/-- The name of a host or an instance. -/
abbrev Name := { w : Text // isPlain w = true }

/-- The parameters of an instance, as they are printed. Those that the template does not read are left out. -/
structure Instance (env : Env) where
  hostname : Name
  name : Name
  cluster_name : Printed env
  unicast_hosts : Printed env
  logs_path : Printed env
  /-- Whether the parameter is `true`. -/
  is_master : Bool
  is_node : Bool
  auto_create_index : Printed env
  instance_ip : Printed env
  datapath : Printed env
  disk_type : Printed env
  discovery_zen_ping_timeout : Printed env
  allocation_balance_shard : Printed env

/-! ## The static lines -/

/-- The keys that the template writes itself. A common setting with one of them would be there twice. -/
def templateKeys : List Text :=
  ["cluster.name", "node.attr.disk_type", "path.data", "path.logs", "bootstrap.memory_lock", "network.host",
    "node.name", "node.master", "node.data", "node.ingest", "search.remote.connect", "cluster.initial_master_nodes",
    "discovery.zen.ping.unicast.hosts", "discovery.zen.ping_timeout", "node.attr.machine_id",
    "cluster.routing.allocation.awareness.attributes", "cluster.routing.allocation.balance.shard",
    "action.auto_create_index", "indices.memory.index_buffer_size", "processors", "thread_pool",
    "xpack.security.enabled", "cluster.publish.timeout"].map String.toList

/-- `es::common_settings`: plain keys, none of them one of the template. -/
structure Settings (env : Env) where
  entries : List (Text × Printed env)
  keys : ∀ e ∈ entries, isKey e.1 = true ∧ e.1 ∉ templateKeys
  nodup : (entries.map Prod.fst).Nodup

/-- A line `key: value`. -/
def setting (key : Text) (v : Text) : Text := key ++ ": ".toList ++ v

/-- The hosts that can be the first masters. -/
def masterNodes : List Text := ["os13dses01-es1".toList, "os13dses02-es1".toList, "os13dses03-es1".toList]

/-- The block of each case of the roles. -/
def roleLines (node_master node_data : Text) : List Text :=
  [setting "node.master".toList node_master, setting "node.data".toList node_data,
    setting "node.ingest".toList "false".toList, setting "search.remote.connect".toList "false".toList,
    "cluster.initial_master_nodes:".toList] ++ masterNodes.map fun n => "  - ".toList ++ n

/-- The pools of threads. `get` is the last of them, and has no size. -/
def thread_pool : List Text :=
  ["thread_pool:".toList,
    "  search:".toList, "    size: 300".toList, "    queue_size: 3000".toList, "    min_queue_size: 2000".toList,
    "    max_queue_size: 3000".toList, "    auto_queue_frame_size: 2000".toList, "    target_response_time: 2s".toList,
    "  write:".toList, "    size: 32".toList, "    queue_size: 9000".toList,
    "  get:".toList, "    queue_size: 1000".toList,
    []]

section Template
variable {env : Env} (i : Instance env)

/-- The case of the roles. All but the first leave an empty line, where the template has the tag of a branch. -/
def Instance.roles : List Text :=
  if i.is_master && i.is_node then roleLines "true".toList "true".toList
  else if i.is_node then [] :: roleLines "false".toList "true".toList
  else if i.is_master then [] :: roleLines "true".toList "false".toList
  else []

/-- The lines up to the pools. The blank lines are those of the template. -/
def Instance.head : List Text :=
  [setting "cluster.name".toList i.cluster_name, setting "node.attr.disk_type".toList i.disk_type,
    setting "path.data".toList i.datapath, setting "path.logs".toList i.logs_path,
    setting "bootstrap.memory_lock".toList "true".toList, setting "network.host".toList i.instance_ip,
    setting "node.name".toList (i.hostname.val ++ '-' :: i.name.val)] ++
  i.roles ++
  [setting "discovery.zen.ping.unicast.hosts".toList i.unicast_hosts, [],
    setting "discovery.zen.ping_timeout".toList i.discovery_zen_ping_timeout, [], [],
    setting "node.attr.machine_id".toList ('"' :: (i.hostname.val ++ ['"'])),
    setting "cluster.routing.allocation.awareness.attributes".toList "machine_id".toList,
    setting "cluster.routing.allocation.balance.shard".toList i.allocation_balance_shard, [],
    setting "action.auto_create_index".toList i.auto_create_index, [],
    setting "indices.memory.index_buffer_size".toList "20%".toList, [],
    setting "processors".toList "32".toList]

/-- The lines below the common settings, the last of them for masters only. -/
def Instance.tail : List Text :=
  [[], setting "xpack.security.enabled".toList "false".toList] ++
  if i.is_master then
    [[], "# Because we're huge".toList, setting "cluster.publish.timeout".toList "300s".toList]
  else []

end Template

/-! ## The common configuration -/

/-- `v[key]` in Ruby, which fails for values without keys. A text has the part that is asked for, or nothing. -/
def index (v : Value) (key : Text) : Option Value :=
  match v with
  | .hash es => some (Value.get es key)
  | .str t => some (if Occurs key t then .str key else .undefined)
  | _ => none

/-- `@common_es_conf['thread_pool']['write']`, as far as it is looked at. -/
def thread_pool_write (common_es_conf : Value) : Option Value :=
  if common_es_conf.isUndefined then some .undefined
  else (index common_es_conf "thread_pool".toList).bind fun pools =>
    if pools.isUndefined then some .undefined else index pools "write".toList

/-- `@common_es_conf['thread_pool']['write']['size']`, as far as it is looked at. -/
def thread_pool_write_size (common_es_conf : Value) : Option Value :=
  (thread_pool_write common_es_conf).bind fun write =>
    if write.isUndefined then some .undefined else index write "size".toList

/-- The lines of the override. They are written below the last pool, and `write` is indented deeper than the pools. -/
def override (env : Env) (common_es_conf : Value) : Option (List Text) :=
  (thread_pool_write common_es_conf).bind fun write =>
    if write.isUndefined then some []
    else (index write "size".toList).map fun size =>
      "    write:".toList ::
        if size.isUndefined then [] else [setting "        size".toList (env.to_s size)]

/-- What the template renders to, unless it fails on the common configuration. -/
def elasticsearch_yml (env : Env) (i : Instance env) (es_common_settings : Settings env) (common_es_conf : Value) :
    Option Text :=
  (override env common_es_conf).map fun lines =>
    endLines (i.head ++ thread_pool ++ lines ++ [[], "# Common settings".toList] ++
      es_common_settings.entries.map (fun e => setting e.1 e.2) ++ i.tail)

/-- The default of the common configuration: an empty text. -/
def commonconf : Value := .str []

end Es
end StgEnvironment
