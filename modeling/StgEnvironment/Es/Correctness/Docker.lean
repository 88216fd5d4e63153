import StgEnvironment.Es.Docker

/-!
# `Es.Correctness.Docker`: where the override of a pool ends up

The common configuration of the instances may give the pool `write` a size of its own, and `elasticsearch.yml.erb` has
lines for it below the static pools. YAML goes by depth, so what these lines mean is decided by how deep they are: they
are as deep as the settings of a pool, and the pool above them is `get` (`reads_thread_pool`).

So the rendered file is a document for every instance (`document_eq`), and its pools are those that the common
configuration asks for exactly when it does not mention the pool `write` (`takes_effect_iff`).

## Contents
- **Lines**: the rules of `Lib.Yaml` for the lines of this template.
- **The pools**: the static lines as a mapping (`thread_pool_eq`, `reads_static`), and the override in it
  (`reads_override`, `misplaced`).
- **The rest of the template**: all other lines are entries with keys of their own (`HasKeys`), for each instance.
- **The document**: the parts put together.
- **The override**: `TakesEffect`, and both directions of the result.
-/

namespace StgEnvironment
namespace Es
open Puppet Yaml

/-! ## Values

What is put into the template are single words and numbers, which stand for scalars in whatever way the scanner
reads inline values. -/

section Values
variable {env : Env}

theorem isValue_plain {w : Text} (h : isPlain w = true) : IsValue env.inline w := by
  obtain ⟨hhead, hall⟩ := Bool.and_eq_true_iff.mp h
  have hnot : ∀ c, isKeyChar c = false → c ≠ '%' → c ∉ w := by
    intro c hkey hpercent hmem
    have hc := List.all_eq_true.mp hall c hmem
    simp [hkey, hpercent] at hc
  have hblank : ' ' ∉ w := hnot ' ' (by decide) (by decide)
  refine ⟨env.inline_plain w h, ?_, fun hw => hblank (List.mem_of_mem_head? hw),
    fun hw => hblank (List.mem_of_mem_getLast? hw), hnot _ (by decide) (by decide)⟩
  rintro rfl
  cases hhead

/-- A plain word in double quotes stands for a value too, whatever `inline` says of other texts. -/
theorem isValue_quoted {w : Text} (h : isPlain w = true) : IsValue env.inline ('"' :: (w ++ ['"'])) := by
  have hplain : IsValue env.inline w := isValue_plain h
  have hline := hplain.line
  refine ⟨env.inline_quoted w h, nofun, by simp, ?_, by simp [hline]⟩
  rw [← List.cons_append, List.getLast?_append]
  simp

/-- The name of a node is that of its host and that of the instance with a hyphen between, so it is a plain word if
    both are. -/
theorem isPlain_append {v w : Text} (hv : isPlain v = true) (hw : isPlain w = true) :
    isPlain (v ++ '-' :: w) = true := by
  obtain ⟨hhead, hall⟩ := Bool.and_eq_true_iff.mp hv
  obtain ⟨-, hall'⟩ := Bool.and_eq_true_iff.mp hw
  refine Bool.and_eq_true_iff.mpr ⟨?_, ?_⟩
  · cases v with
    | nil => cases hhead
    | cons c v => exact hhead
  · rw [List.all_append, List.all_cons, hall, hall']
    rfl

theorem isPlain_toDigits (n : ℕ) : isPlain (Nat.toDigits 10 n) = true := by
  have hdigit : ∀ c ∈ Nat.toDigits 10 n, c.isAlphanum = true := by
    intro c hc
    rw [Char.isAlphanum, Nat.isDigit_of_mem_toDigits (by decide) (by decide) hc, Bool.or_true]
  refine Bool.and_eq_true_iff.mpr ⟨?_, List.all_eq_true.mpr fun c hc => ?_⟩
  · obtain ⟨c, t, ht⟩ := List.exists_cons_of_ne_nil (Nat.toDigits_ne_nil (b := 10) (n := n))
    rw [ht]
    exact hdigit c (ht ▸ List.mem_cons_self ..)
  · rw [isKeyChar, hdigit c hc]
    rfl

/-! ## Lines

The lines of the template are settings, pools and blank lines. Each lemma puts one of them in front of what is read
already. -/

/-- A setting of the template is a line of a key and a value at depth 0, the form for which `Lib.Yaml` has its
    rules. -/
theorem setting_eq (k v : Text) : setting k v = pairLine 0 k v := by
  rw [setting, List.append_assoc]
  rfl

/-- One more setting above what is read already. An empty value is read as the empty scalar. -/
theorem reads_setting {k : Text} (hk : isKey k = true) {v : Text} (hv : v = [] ∨ IsValue env.inline v)
    {ts : List Text} {es : List (Text × Node)} (rest : Reads env.inline 0 ts es) :
    Reads env.inline 0 (setting k v :: ts) ((k, .scalar v) :: es) :=
  .pair (setting_eq k v) hk hv rest

/-- Lines whose keys and values are plain words are read as the entries they show, at any depth. -/
theorem reads_plain (n : ℕ) {kvs : List (Text × Text)} (h : kvs.all (fun e => isKey e.1 && isPlain e.2) = true) :
    Reads env.inline n (kvs.map fun e => pairLine n e.1 e.2) (kvs.map fun e => (e.1, .scalar e.2)) := by
  induction kvs with
  | nil => exact .nil
  | cons e kvs ih =>
      rw [List.all_cons, Bool.and_eq_true, Bool.and_eq_true] at h
      exact .pair rfl h.1.1 (Or.inr (isValue_plain h.1.2)) (ih h.2)

/-- An empty line, which ERB leaves where a tag stood alone, changes nothing. -/
theorem reads_blank {n : ℕ} {ts : List Text} {es : List (Text × Node)} (rest : Reads env.inline n ts es) :
    Reads env.inline n ([] :: ts) es :=
  .skip (by decide) rest

end Values

/-! ## The pools

The static pools are literal lines. What comes behind them at the depth of their settings is read as a setting of
the last pool, and that is where the lines of the override stand. -/

/-- The settings of the static pool `search`, in the order of the template. -/
def searchPool : List (Text × Text) :=
  [("size".toList, "300".toList), ("queue_size".toList, "3000".toList), ("min_queue_size".toList, "2000".toList),
    ("max_queue_size".toList, "3000".toList), ("auto_queue_frame_size".toList, "2000".toList),
    ("target_response_time".toList, "2s".toList)]

/-- The settings of the static pool `write`, whose size the override is meant to change. -/
def writePool : List (Text × Text) := [("size".toList, "32".toList), ("queue_size".toList, "9000".toList)]

/-- The settings of the static pool `get`, the last one. -/
def getPool : List (Text × Text) := [("queue_size".toList, "1000".toList)]

/-- Settings as entries of a mapping, each value a scalar. -/
def scalars (kvs : List (Text × Text)) : List (Text × Node) := kvs.map fun e => (e.1, .scalar e.2)

/-- The three static pools, with more entries in the last of them. Without such entries they are what the template has
    above the override. -/
def threadPool (extra : List (Text × Node)) : Node := .map
  [("search".toList, .map (scalars searchPool)), ("write".toList, .map (scalars writePool)),
    ("get".toList, .map (scalars getPool ++ extra))]

/-- The lines of a pool: its name at depth 2, its settings at depth 4. -/
def poolLines (pool : Text) (kvs : List (Text × Text)) : List Text :=
  keyLine 2 pool :: kvs.map fun e => pairLine 4 e.1 e.2

/-- The literal lines of the template, put together pool by pool. -/
theorem thread_pool_eq : thread_pool = keyLine 0 "thread_pool".toList ::
    (poolLines "search".toList searchPool ++ (poolLines "write".toList writePool ++
      (poolLines "get".toList getPool ++ [[]]))) := by
  decide +kernel

section Pools
variable {env : Env}

/-- The lines of a block are one entry, whose mapping is what the deeper lines are read as. Nothing follows the block
    here. -/
theorem reads_block {n : ℕ} (m : ℕ) {k : Text} {body : List Text} {es : List (Text × Node)} (hk : isKey k = true)
    (hm : n < m) (hne : es ≠ []) (hnd : (es.map Prod.fst).Nodup) (below : Reads env.inline m body es) :
    Reads env.inline n (keyLine n k :: body) [(k, .map es)] := by
  have hblock := Reads.map rfl hk hm hne hnd below .nil
  rwa [List.append_nil] at hblock

/-- A pool with its settings, and what follows them at their depth, which belongs to the same pool. -/
theorem reads_pool (pool : Text) (kvs : List (Text × Text)) (hpool : isKey pool = true) (hne : kvs ≠ [])
    (hkvs : kvs.all (fun e => isKey e.1 && isPlain e.2) = true) {lines : List Text} {extra : List (Text × Node)}
    (h : Reads env.inline 4 lines extra) (hnd : (kvs.map Prod.fst ++ extra.map Prod.fst).Nodup) :
    Reads env.inline 2 (poolLines pool kvs ++ lines) [(pool, .map (scalars kvs ++ extra))] := by
  have hkeys : (scalars kvs ++ extra).map Prod.fst = kvs.map Prod.fst ++ extra.map Prod.fst := by
    rw [List.map_append, scalars, List.map_map]
    rfl
  refine reads_block 4 hpool (by decide) ?_ (hkeys ▸ hnd) ((reads_plain 4 hkvs).append h)
  simp [scalars, hne]

/-- A pool with its settings and nothing after them, as `search` and `write` are. -/
theorem reads_static (pool : Text) (kvs : List (Text × Text)) (hpool : isKey pool = true) (hne : kvs ≠ [])
    (hkvs : kvs.all (fun e => isKey e.1 && isPlain e.2) = true) (hnd : (kvs.map Prod.fst).Nodup) :
    Reads env.inline 2 (poolLines pool kvs) [(pool, .map (scalars kvs))] := by
  have hreads : Reads env.inline 2 (poolLines pool kvs ++ []) [(pool, .map (scalars kvs ++ []))] :=
    reads_pool pool kvs hpool hne hkvs .nil (by simpa using hnd)
  rwa [List.append_nil, List.append_nil] at hreads

/-- **What is as deep as the settings of the pools belongs to the last of them**, which is `get` and not `write`. -/
theorem reads_thread_pool {lines : List Text} {extra : List (Text × Node)} (h : Reads env.inline 4 lines extra)
    (hnd : ("queue_size".toList :: extra.map Prod.fst).Nodup) :
    Reads env.inline 0 (thread_pool ++ lines) [("thread_pool".toList, threadPool extra)] := by
  have hsearch : Reads env.inline 2 (poolLines "search".toList searchPool)
      [("search".toList, .map (scalars searchPool))] :=
    reads_static "search".toList searchPool (by decide) (by decide) (by decide) (by decide)
  have hwrite : Reads env.inline 2 (poolLines "write".toList writePool)
      [("write".toList, .map (scalars writePool))] :=
    reads_static "write".toList writePool (by decide) (by decide) (by decide) (by decide)
  have hget : Reads env.inline 2 (poolLines "get".toList getPool ++ [] :: lines)
      [("get".toList, .map (scalars getPool ++ extra))] :=
    reads_pool "get".toList getPool (by decide) (by decide) (by decide) (reads_blank h) hnd
  have hkeys : ["search".toList, "write".toList, "get".toList].Nodup := by decide
  have hpools : Reads env.inline 0 (keyLine 0 "thread_pool".toList :: (poolLines "search".toList searchPool ++
      (poolLines "write".toList writePool ++ (poolLines "get".toList getPool ++ [] :: lines))))
      [("thread_pool".toList, threadPool extra)] :=
    reads_block 2 (by decide) (by decide) (by simp) hkeys (hsearch.append (hwrite.append hget))
  rw [thread_pool_eq, List.cons_append, List.append_assoc, List.append_assoc, List.append_assoc]
  exact hpools

/-- What the override adds to the last pool: an entry `write`, with the size in it if there is one. -/
def misplaced (env : Env) (size : Value) : List (Text × Node) :=
  [("write".toList, if size.isUndefined then .scalar [] else .map [("size".toList, .scalar (env.to_s size))])]

/-- The lines of the override are as deep as the settings of the pools, since the name `write` is at depth 4 in the
    template where the names of the pools are at depth 2. -/
theorem reads_override {size : Value} (hsize : size.isUndefined = true ∨ ∃ n : ℕ, size = .int n) : Reads env.inline 4
    ("    write:".toList :: if size.isUndefined then [] else [setting "        size".toList (env.to_s size)])
    (misplaced env size) := by
  rcases hsize with hnil | ⟨n, rfl⟩
  · rw [misplaced, if_pos hnil, if_pos hnil]
    exact .null (by decide) (by decide) .nil
  · have hvalue : isPlain (env.to_s (.int n)) = true := by
      rw [env.to_s_nat]
      exact isPlain_toDigits n
    have hline : setting "        size".toList (env.to_s (.int n)) = pairLine 8 "size".toList (env.to_s (.int n)) := by
      rw [setting, List.append_assoc]
      rfl
    have hsize : Reads env.inline 8 [setting "        size".toList (env.to_s (.int n))]
        [("size".toList, .scalar (env.to_s (.int n)))] :=
      .pair hline (by decide) (Or.inr (isValue_plain hvalue)) .nil
    have hwrite : Reads env.inline 4
        (keyLine 4 "write".toList :: [setting "        size".toList (env.to_s (.int n))])
        [("write".toList, .map [("size".toList, .scalar (env.to_s (.int n)))])] :=
      reads_block 8 (by decide) (by decide) (by simp) (by simp) hsize
    exact hwrite

end Pools

/-! ## The rest of the template

Of the other lines only the keys matter: that they are different from each other and from `thread_pool`, so that the
file is one mapping. -/

/-- The keys of the lines above the roles of the node. -/
def firstKeys : List Text :=
  ["cluster.name".toList, "node.attr.disk_type".toList, "path.data".toList, "path.logs".toList,
    "bootstrap.memory_lock".toList, "network.host".toList, "node.name".toList]

/-- The keys that only a master or a node of data has. -/
def roleKeys : List Text :=
  ["node.master".toList, "node.data".toList, "node.ingest".toList, "search.remote.connect".toList,
    "cluster.initial_master_nodes".toList]

/-- The keys between the roles and the pools. -/
def secondKeys : List Text :=
  ["discovery.zen.ping.unicast.hosts".toList, "discovery.zen.ping_timeout".toList, "node.attr.machine_id".toList,
    "cluster.routing.allocation.awareness.attributes".toList, "cluster.routing.allocation.balance.shard".toList,
    "action.auto_create_index".toList, "indices.memory.index_buffer_size".toList, "processors".toList]

/-- The keys above the pools. The lines about the roles are there for an instance of one of the two kinds only. -/
def keysAbove (is_master is_node : Bool) : List Text :=
  firstKeys ++ (if is_master || is_node then roleKeys else []) ++ secondKeys

/-- The keys below the common settings. -/
def keysBelow (is_master : Bool) : List Text :=
  "xpack.security.enabled".toList :: if is_master then ["cluster.publish.timeout".toList] else []

/-- Whatever the instance is, its keys are among those of the template, in the same order. -/
theorem keys_sublist (is_master is_node : Bool) :
    (keysAbove is_master is_node ++ "thread_pool".toList :: keysBelow is_master).Sublist templateKeys := by
  have hroles : (if is_master || is_node then roleKeys else []).Sublist roleKeys := by
    split
    · exact List.Sublist.refl _
    · exact List.nil_sublist _
  have hbelow : (keysBelow is_master).Sublist ["xpack.security.enabled".toList, "cluster.publish.timeout".toList] := by
    refine List.Sublist.cons_cons _ ?_
    split
    · exact List.Sublist.refl _
    · exact List.nil_sublist _
  have habove : (keysAbove is_master is_node).Sublist (firstKeys ++ roleKeys ++ secondKeys) :=
    ((List.Sublist.refl firstKeys).append hroles).append (List.Sublist.refl secondKeys)
  exact habove.append (hbelow.cons_cons "thread_pool".toList)

/-- No key stands twice in the template, so that the file is a mapping for YAML. -/
theorem nodup_templateKeys : templateKeys.Nodup := by decide +kernel

/-- Lines that are entries under some keys, whatever their values are. It is all that the rest of the template has to
    do for the pools to be read. -/
def HasKeys (env : Env) (ts ks : List Text) : Prop := ∃ es, Reads env.inline 0 ts es ∧ es.map Prod.fst = ks

section HasKeys
variable {env : Env}

theorem HasKeys.nil : HasKeys env [] [] := ⟨[], .nil, rfl⟩

theorem HasKeys.setting {k : Text} (hk : isKey k = true) {v : Text} (hv : v = [] ∨ IsValue env.inline v)
    {ts ks : List Text} (rest : HasKeys env ts ks) : HasKeys env (setting k v :: ts) (k :: ks) := by
  obtain ⟨es, hes, rfl⟩ := rest
  exact ⟨_, reads_setting hk hv hes, rfl⟩

/-- One more setting whose value is a plain word. -/
theorem HasKeys.plain {k : Text} (hk : isKey k = true) {v : Text} (hv : isPlain v = true) {ts ks : List Text}
    (rest : HasKeys env ts ks) : HasKeys env (Es.setting k v :: ts) (k :: ks) :=
  rest.setting hk (Or.inr (isValue_plain hv))

theorem HasKeys.skip {t : Text} (ht : IsSkip t) {ts ks : List Text} (rest : HasKeys env ts ks) :
    HasKeys env (t :: ts) ks := by
  obtain ⟨es, hes, rfl⟩ := rest
  exact ⟨es, .skip ht hes, rfl⟩

theorem HasKeys.append {ts us ks ls : List Text} (h : HasKeys env ts ks) (h' : HasKeys env us ls) :
    HasKeys env (ts ++ us) (ks ++ ls) := by
  obtain ⟨es, hes, rfl⟩ := h
  obtain ⟨fs, hfs, rfl⟩ := h'
  exact ⟨es ++ fs, hes.append hfs, List.map_append⟩

end HasKeys

section Rest
variable {env : Env} (i : Instance env)

/-- The lines about the roles, for any two answers to what the node is. -/
theorem hasKeys_roleLines {node_master node_data : Text} (hmaster : isPlain node_master = true)
    (hdata : isPlain node_data = true) : HasKeys env (roleLines node_master node_data) roleKeys := by
  have hplain : masterNodes.all isPlain = true := by decide
  have hnodes : ∀ n ∈ masterNodes, IsValue env.inline n :=
    fun n hn => isValue_plain (List.all_eq_true.mp hplain n hn)
  have hseq : Reads env.inline 0
      ("cluster.initial_master_nodes:".toList :: (masterNodes.map (fun n => "  - ".toList ++ n) ++ []))
      [("cluster.initial_master_nodes".toList, .seq masterNodes)] :=
    .seq (m := 2) (by decide) (by decide) (by decide) nofun hnodes rfl .nil
  rw [List.append_nil] at hseq
  refine .plain (by decide) hmaster ?_
  refine .plain (by decide) hdata ?_
  refine .plain (by decide) (by decide) ?_
  refine .plain (by decide) (by decide) ?_
  exact ⟨_, hseq, rfl⟩

/-- The three branches of the template about the roles. An instance of neither kind has none of these keys. -/
theorem hasKeys_roles : HasKeys env i.roles (if i.is_master || i.is_node then roleKeys else []) := by
  rw [Instance.roles]
  cases i.is_master <;> cases i.is_node
  · exact .nil
  · exact .skip (by decide) (hasKeys_roleLines (by decide) (by decide))
  · exact .skip (by decide) (hasKeys_roleLines (by decide) (by decide))
  · exact hasKeys_roleLines (by decide) (by decide)

theorem hasKeys_head : HasKeys env i.head (keysAbove i.is_master i.is_node) := by
  have hfirst : HasKeys env
      [setting "cluster.name".toList i.cluster_name, setting "node.attr.disk_type".toList i.disk_type,
        setting "path.data".toList i.datapath, setting "path.logs".toList i.logs_path,
        setting "bootstrap.memory_lock".toList "true".toList, setting "network.host".toList i.instance_ip,
        setting "node.name".toList (i.hostname.val ++ '-' :: i.name.val)] firstKeys := by
    refine .setting (by decide) i.cluster_name.property ?_
    refine .setting (by decide) i.disk_type.property ?_
    refine .setting (by decide) i.datapath.property ?_
    refine .setting (by decide) i.logs_path.property ?_
    refine .plain (by decide) (by decide) ?_
    refine .setting (by decide) i.instance_ip.property ?_
    exact .plain (by decide) (isPlain_append i.hostname.property i.name.property) .nil
  have hsecond : HasKeys env
      [setting "discovery.zen.ping.unicast.hosts".toList i.unicast_hosts, [],
        setting "discovery.zen.ping_timeout".toList i.discovery_zen_ping_timeout, [], [],
        setting "node.attr.machine_id".toList ('"' :: (i.hostname.val ++ ['"'])),
        setting "cluster.routing.allocation.awareness.attributes".toList "machine_id".toList,
        setting "cluster.routing.allocation.balance.shard".toList i.allocation_balance_shard, [],
        setting "action.auto_create_index".toList i.auto_create_index, [],
        setting "indices.memory.index_buffer_size".toList "20%".toList, [],
        setting "processors".toList "32".toList] secondKeys := by
    have hblank : IsSkip [] := by decide
    refine .setting (by decide) i.unicast_hosts.property (.skip hblank ?_)
    refine .setting (by decide) i.discovery_zen_ping_timeout.property (.skip hblank (.skip hblank ?_))
    refine .setting (by decide) (Or.inr (isValue_quoted i.hostname.property)) ?_
    refine .plain (by decide) (by decide) ?_
    refine .setting (by decide) i.allocation_balance_shard.property (.skip hblank ?_)
    refine .setting (by decide) i.auto_create_index.property (.skip hblank ?_)
    refine .plain (by decide) (by decide) (.skip hblank ?_)
    exact .plain (by decide) (by decide) .nil
  exact (hfirst.append (hasKeys_roles i)).append hsecond

theorem hasKeys_tail : HasKeys env i.tail (keysBelow i.is_master) := by
  rw [Instance.tail]
  cases i.is_master
  · exact .skip (by decide) (.plain (by decide) (by decide) .nil)
  · refine .skip (by decide) (.plain (by decide) (by decide) (.skip (by decide) (.skip (by decide) ?_)))
    exact .plain (by decide) (by decide) .nil

/-- The common settings, which stand between the pools and the last lines. -/
theorem hasKeys_settings (settings : List (Text × Printed env)) (hkeys : ∀ e ∈ settings, isKey e.1 = true) :
    HasKeys env (settings.map fun e => setting e.1 e.2) (settings.map Prod.fst) := by
  induction settings with
  | nil => exact .nil
  | cons e settings ih =>
      have hrest := ih fun e' he' => hkeys e' (List.mem_cons_of_mem e he')
      exact .setting (hkeys e (List.mem_cons_self ..)) e.2.property hrest

end Rest

/-! ## The document

The parts in the order of the template are the entries of one mapping, which the scanner of the library returns as a
document. -/

/-- The document that an instance reads: the rendered file, taken by the YAML scanner. It is `none` if the template
    fails or the file is no document. -/
def document (env : Env) (i : Instance env) (settings : Settings env) (common_es_conf : Value) : Option Node :=
  (elasticsearch_yml env i settings common_es_conf).bind (parse env.inline)

section Document
variable {env : Env} (i : Instance env) (settings : Settings env)

/-- The keys of the document are distinct, because the common settings have keys that the template does not. -/
theorem nodup_keys : (keysAbove i.is_master i.is_node ++ ("thread_pool".toList ::
    (settings.entries.map Prod.fst ++ keysBelow i.is_master))).Nodup := by
  have hsub := keys_sublist i.is_master i.is_node
  have hnd := hsub.nodup nodup_templateKeys
  have hfresh : ∀ k ∈ settings.entries.map Prod.fst,
      k ∉ keysAbove i.is_master i.is_node ++ "thread_pool".toList :: keysBelow i.is_master := by
    intro k hk hmem
    obtain ⟨e, he, rfl⟩ := List.mem_map.mp hk
    exact (settings.keys e he).2 (hsub.subset hmem)
  have hperm : (keysAbove i.is_master i.is_node ++ ("thread_pool".toList ::
      (settings.entries.map Prod.fst ++ keysBelow i.is_master))).Perm (settings.entries.map Prod.fst ++
      (keysAbove i.is_master i.is_node ++ "thread_pool".toList :: keysBelow i.is_master)) :=
    (List.perm_middle.symm.append_left _).trans (List.perm_append_comm_assoc _ _ _)
  refine hperm.nodup_iff.mpr (List.nodup_append.mpr ⟨settings.nodup, hnd, fun k hk k' hk' heq => ?_⟩)
  exact hfresh k hk (heq ▸ hk')

/-- **The file is a document**, and its pools are the static ones with what the override adds to the last. The
    template is read part by part: what is above the pools, the pools, the settings and what is below them are entries
    with different keys. -/
theorem document_eq {common_es_conf : Value} {lines : List Text} {extra : List (Text × Node)}
    (hlines : override env common_es_conf = some lines) (h : Reads env.inline 4 lines extra)
    (hnd : ("queue_size".toList :: extra.map Prod.fst).Nodup) :
    ∃ doc, document env i settings common_es_conf = some doc ∧
      ∀ path, doc.at ("thread_pool".toList :: path) = (threadPool extra).at path := by
  obtain ⟨above, habove, hkeys₁⟩ := hasKeys_head i
  obtain ⟨middle, hmiddle, hkeys₂⟩ := hasKeys_settings settings.entries fun e he => (settings.keys e he).1
  obtain ⟨below, hbelow, hkeys₃⟩ := hasKeys_tail i
  have hreads := habove.append ((reads_thread_pool h hnd).append
    (.skip (t := []) (by decide) (.skip (t := "# Common settings".toList) (by decide) (hmiddle.append hbelow))))
  have hkeys : (above ++ ([("thread_pool".toList, threadPool extra)] ++ (middle ++ below))).map Prod.fst =
      keysAbove i.is_master i.is_node ++ ("thread_pool".toList ::
        (settings.entries.map Prod.fst ++ keysBelow i.is_master)) := by
    simp [hkeys₁, hkeys₂, hkeys₃]
  have hnodup := nodup_keys i settings
  refine ⟨.map (above ++ ([("thread_pool".toList, threadPool extra)] ++ (middle ++ below))), ?_, fun path => ?_⟩
  · have hparse := parse_of_reads hreads (by simp) (hkeys ▸ hnodup)
    rw [document, elasticsearch_yml, hlines, Option.map_some, Option.bind_some, ← hparse]
    simp only [List.append_assoc]
    rfl
  · have hnone : Dict.find "thread_pool".toList above = none := by
      by_contra hsome
      have hmem := Dict.find_isSome_iff.mp (Option.isSome_iff_ne_none.mpr hsome)
      rw [hkeys₁] at hmem
      exact (List.nodup_append.mp hnodup).2.2 _ hmem _ (List.mem_cons_self ..) rfl
    rw [Node.at, Dict.find_append, hnone, Option.none_or]
    rfl

/-- Without an override the pools of the document are the static ones. -/
theorem document_of_override_nil {common_es_conf : Value} (h : override env common_es_conf = some []) :
    ∃ doc, document env i settings common_es_conf = some doc ∧
      ∀ path, doc.at ("thread_pool".toList :: path) = (threadPool []).at path :=
  document_eq i settings h .nil (List.nodup_singleton _)

end Document

/-! ## The override

What the override makes of the document, by whether the common configuration has a pool `write`, and whether it has
a size for it. -/

/-- The size of the pool `write` is the one of the common configuration, if there is one, and nothing else changes. -/
structure TakesEffect (env : Env) (i : Instance env) (settings : Settings env) (common_es_conf : Value) : Prop where
  size : ∀ n : ℕ, 0 < n → thread_pool_write_size common_es_conf = some (.int n) → ∃ doc base,
    document env i settings common_es_conf = some doc ∧ document env i settings commonconf = some base ∧
    doc.scalarAt ["thread_pool".toList, "write".toList, "size".toList] = some (Nat.toDigits 10 n) ∧
    ∀ path, path ≠ ["write".toList, "size".toList] →
      doc.scalarAt ("thread_pool".toList :: path) = base.scalarAt ("thread_pool".toList :: path)
  static : (∀ size, thread_pool_write_size common_es_conf = some size → size.isUndefined = true) →
    ∃ doc, document env i settings common_es_conf = some doc ∧ doc.at ["thread_pool".toList] = some (threadPool [])

section Override
variable {env : Env} {i : Instance env} {settings : Settings env} {common_es_conf : Value}

/-- The default configuration says nothing about `write`, so that no line is added. -/
theorem override_commonconf : override env commonconf = some [] := by
  have hwrite : thread_pool_write commonconf = some .undefined := rfl
  rw [override, hwrite]
  rfl

/-- A path into the last pool leads into its settings, then into what was added to them. -/
theorem at_get (extra : List (Text × Node)) (path : List Text) : (threadPool extra).at ("get".toList :: path) =
    (Node.map (scalars getPool ++ extra)).at path := by
  rw [threadPool, Node.at, Dict.find, if_neg (by decide), Dict.find, if_neg (by decide), Dict.find, if_pos rfl]
  rfl

/-- The static pool `get` has no setting of the name `write`. -/
theorem find_getPool_write : Dict.find "write".toList (scalars getPool) = none := rfl

/-- What the override leaves in the pool `get` under the name `write`. -/
theorem at_get_write (env : Env) (size : Value) (path : List Text) :
    (threadPool (misplaced env size)).at ("get".toList :: "write".toList :: path) =
      (if size.isUndefined then Node.scalar [] else .map [("size".toList, .scalar (env.to_s size))]).at path := by
  rw [at_get, misplaced, Node.at, Dict.find_append, find_getPool_write, Option.none_or, Dict.find, if_pos rfl]
  rfl

/-- Without an override there is nothing at that path. -/
theorem at_get_write_nil (path : List Text) :
    (threadPool []).at ("get".toList :: "write".toList :: path) = none := by
  rw [at_get, Node.at, Dict.find_append, find_getPool_write]
  rfl

/-- The document with an override: the static pools, and what the override says in the last of them. -/
theorem document_of_write (i : Instance env) (settings : Settings env) {write size : Value}
    (hwrite : thread_pool_write common_es_conf = some write)
    (hpresent : write.isUndefined = false) (hsize : index write "size".toList = some size)
    (hprinted : size.isUndefined = true ∨ ∃ n : ℕ, size = .int n) :
    ∃ doc, document env i settings common_es_conf = some doc ∧
      ∀ path, doc.at ("thread_pool".toList :: path) = (threadPool (misplaced env size)).at path := by
  have hlines : override env common_es_conf = some
      ("    write:".toList :: if size.isUndefined then [] else [setting "        size".toList (env.to_s size)]) := by
    rw [override, hwrite, Option.bind_some, if_neg (by simp [hpresent]), hsize]
    rfl
  have hkeys : ["queue_size".toList, "write".toList].Nodup := by decide
  exact document_eq i settings hlines (reads_override hprinted) hkeys

/-- The size in the common configuration is the one that the template looks up. -/
theorem write_size_eq {write : Value} (hwrite : thread_pool_write common_es_conf = some write)
    (hpresent : write.isUndefined = false) : thread_pool_write_size common_es_conf = index write "size".toList := by
  rw [thread_pool_write_size, hwrite, Option.bind_some, if_neg (by simp [hpresent])]

/-- A file that is rendered comes from a configuration that the template could look into, `write` and its size
    included. -/
theorem write_of_document {doc : Node} (h : document env i settings common_es_conf = some doc) :
    ∃ write, thread_pool_write common_es_conf = some write ∧
      (write.isUndefined = false → ∃ size, index write "size".toList = some size) := by
  obtain ⟨text, htext, -⟩ := Option.bind_eq_some_iff.mp h
  obtain ⟨lines, hlines, -⟩ := Option.map_eq_some_iff.mp htext
  obtain ⟨write, hwrite, hlines⟩ := Option.bind_eq_some_iff.mp hlines
  refine ⟨write, hwrite, fun hpresent => ?_⟩
  rw [if_neg (by simp [hpresent])] at hlines
  obtain ⟨size, hsize, -⟩ := Option.map_eq_some_iff.mp hlines
  exact ⟨size, hsize⟩

/-- **A size does not take effect**: the document has it in the pool `get`, and the pool `write` keeps its static
    size. -/
theorem not_takesEffect_of_size {write : Value} (hwrite : thread_pool_write common_es_conf = some write)
    (hpresent : write.isUndefined = false) {n : ℕ} (hn : 0 < n) (hsize : index write "size".toList = some (.int n)) :
    ¬ TakesEffect env i settings common_es_conf := by
  intro h
  obtain ⟨doc, base, hdoc, hbase, -, hothers⟩ := h.size n hn ((write_size_eq hwrite hpresent).trans hsize)
  obtain ⟨doc', hdoc', hat⟩ := document_of_write i settings hwrite hpresent hsize (Or.inr ⟨n, rfl⟩)
  obtain ⟨base', hbase', hat'⟩ := document_of_override_nil i settings override_commonconf
  obtain rfl : doc = doc' := Option.some.inj (hdoc.symm.trans hdoc')
  obtain rfl : base = base' := Option.some.inj (hbase.symm.trans hbase')
  have heq := hothers ["get".toList, "write".toList, "size".toList] (by decide)
  rw [Node.scalarAt, Node.scalarAt, hat, hat', at_get_write, at_get_write_nil] at heq
  cases heq

/-- Nor does a pool `write` without a size leave the pools as they are: it adds an empty entry to `get`. -/
theorem not_takesEffect_of_nil {write size : Value} (hwrite : thread_pool_write common_es_conf = some write)
    (hpresent : write.isUndefined = false) (hsize : index write "size".toList = some size)
    (hnil : size.isUndefined = true) :
    ¬ TakesEffect env i settings common_es_conf := by
  intro h
  have hnone : ∀ size', thread_pool_write_size common_es_conf = some size' → size'.isUndefined = true := by
    intro size' hsize'
    rw [write_size_eq hwrite hpresent, hsize] at hsize'
    exact Option.some.inj hsize' ▸ hnil
  obtain ⟨doc, hdoc, hpools⟩ := h.static hnone
  obtain ⟨doc', hdoc', hat⟩ := document_of_write i settings hwrite hpresent hsize (Or.inl hnil)
  obtain rfl : doc = doc' := Option.some.inj (hdoc.symm.trans hdoc')
  have heq : threadPool (misplaced env size) = threadPool [] := Option.some.inj ((hat []).symm.trans hpools)
  have hwrite' := at_get_write env size []
  rw [heq, at_get_write_nil] at hwrite'
  cases hwrite'

/-- **The override takes effect exactly when there is none**, that is, when the common configuration does not mention
    the pool `write`. Where it does, the lines of the override stand behind the pool `get` and as deep as its
    settings, so that they belong to it (`not_takesEffect_of_nil`, `not_takesEffect_of_size`). -/
theorem takes_effect_iff (env : Env) (i : Instance env) (settings : Settings env) (common_es_conf : Value)
    (hconf : (∀ size, thread_pool_write_size common_es_conf = some size → size.isUndefined = true) ∨
      ∃ n : ℕ, 0 < n ∧ thread_pool_write_size common_es_conf = some (.int n)) :
    TakesEffect env i settings common_es_conf ↔
      ∃ write, thread_pool_write common_es_conf = some write ∧ write.isUndefined = true := by
  constructor
  · intro h
    have hdoc : ∃ doc, document env i settings common_es_conf = some doc := by
      rcases hconf with hnone | ⟨n, hn, hsize⟩
      · exact (h.static hnone).imp fun _ => And.left
      · obtain ⟨doc, -, hdoc, -⟩ := h.size n hn hsize
        exact ⟨doc, hdoc⟩
    obtain ⟨doc, hdoc⟩ := hdoc
    obtain ⟨write, hwrite, hsizes⟩ := write_of_document hdoc
    by_contra hnot
    have hpresent : write.isUndefined = false := Bool.eq_false_iff.mpr fun hnil => hnot ⟨write, hwrite, hnil⟩
    obtain ⟨size, hsize⟩ := hsizes hpresent
    have hlook := (write_size_eq hwrite hpresent).trans hsize
    rcases hconf with hnone | ⟨n, hn, hn'⟩
    · exact not_takesEffect_of_nil hwrite hpresent hsize (hnone size hlook) h
    · obtain rfl : size = .int n := Option.some.inj (hlook.symm.trans hn')
      exact not_takesEffect_of_size hwrite hpresent hn hsize h
  · rintro ⟨write, hwrite, hnil⟩
    have hlines : override env common_es_conf = some [] := by
      rw [override, hwrite, Option.bind_some, if_pos hnil]
    have hsize : thread_pool_write_size common_es_conf = some .undefined := by
      rw [thread_pool_write_size, hwrite, Option.bind_some, if_pos hnil]
    refine ⟨fun n _ hn => ?_, fun _ => ?_⟩
    · rw [hsize] at hn
      cases hn
    · obtain ⟨doc, hdoc, hat⟩ := document_of_override_nil i settings hlines
      exact ⟨doc, hdoc, hat []⟩

end Override

/-! ## One instance

A scanner and an instance with which the results can be evaluated, one with an override that is about another pool
and one with an override of `write`. -/

/-- A text of letters, digits and a few signs, which YAML takes for a plain value. -/
def plainText (t : Text) : Bool :=
  t.head?.any (fun c => c.isAlphanum || c == '/') && t.all fun c => isKeyChar c || "/,%".toList.contains c

/-- The plain words of the template are among these texts. -/
theorem plainText_of_isPlain {w : Text} (h : isPlain w = true) : plainText w = true := by
  obtain ⟨hhead, hall⟩ := Bool.and_eq_true_iff.mp h
  refine Bool.and_eq_true_iff.mpr ⟨?_, List.all_eq_true.mpr fun c hc => ?_⟩
  · obtain ⟨c, hc, halnum⟩ := (Option.any_eq_true ..).mp hhead
    exact (Option.any_eq_true ..).mpr ⟨c, hc, by rw [halnum, Bool.true_or]⟩
  · rcases Bool.or_eq_true_iff.mp (List.all_eq_true.mp hall c hc) with hkey | hpercent
    · rw [hkey, Bool.true_or]
    · rw [beq_iff_eq.mp hpercent]
      decide

/-- Such a text, or such a text in quotes. -/
def plainInline (t : Text) : Bool :=
  plainText t || (t.head? == some '"' && t.tail.getLast? == some '"' && plainText t.tail.dropLast)

/-- YAML for such values. -/
def plainEnv : Env where
  to_s := Value.print
  inline := plainInline
  to_s_nat n := by
    rw [Value.print]
    show (Nat.repr n).toList = _
    rw [Nat.repr, String.toList_ofList]
  inline_plain w h := by rw [plainInline, plainText_of_isPlain h, Bool.true_or]
  inline_quoted w h := by
    rw [plainInline, List.tail_cons, List.dropLast_concat, plainText_of_isPlain h]
    simp

/-- Such a text without blanks is a value for this scanner. -/
theorem isValue_plainText {t : Text} (h : plainText t = true) (hne : t ≠ [] ∧ ' ' ∉ t ∧ '\n' ∉ t) :
    IsValue plainEnv.inline t := by
  refine ⟨?_, hne.1, fun ht => hne.2.1 (List.mem_of_mem_head? ht), fun ht => hne.2.1 (List.mem_of_mem_getLast? ht),
    hne.2.2⟩
  show plainInline t = true
  rw [plainInline, h, Bool.true_or]

/-- A value that is printed so. -/
def printed (t : Text) (h : plainText t = true ∧ t ≠ [] ∧ ' ' ∉ t ∧ '\n' ∉ t) : Printed plainEnv :=
  ⟨t, Or.inr (isValue_plainText h.1 h.2)⟩

/-- The first instance. -/
def es1 : Instance plainEnv where
  hostname := ⟨"os13dses01".toList, by decide⟩
  name := ⟨"es1".toList, by decide⟩
  cluster_name := printed "DS-STG-ES".toList (by decide)
  unicast_hosts := ⟨[], Or.inl rfl⟩
  logs_path := printed "/data1/elasticsearch".toList (by decide)
  is_master := true
  is_node := true
  auto_create_index := printed "false".toList (by decide)
  instance_ip := printed "192.168.139.101".toList (by decide)
  datapath := printed "/data1/es-data,/data2/es-data".toList (by decide)
  disk_type := printed "ssd".toList (by decide)
  discovery_zen_ping_timeout := printed "30s".toList (by decide)
  allocation_balance_shard := printed "0.25".toList (by decide)

/-- One common setting. -/
def painless : Settings plainEnv where
  entries := [("script.painless.regex.enabled".toList, printed "true".toList (by decide))]
  keys e he := by
    obtain rfl := List.mem_singleton.mp he
    decide +kernel
  nodup := List.nodup_singleton _

/-- A common configuration with 64 threads for `write`. -/
def write64 : Value :=
  .hash [("thread_pool".toList, .hash [("write".toList, .hash [("size".toList, .int 64)])])]

/-- One with fewer threads for `search`, which says nothing about `write`. -/
def search100 : Value :=
  .hash [("thread_pool".toList, .hash [("search".toList, .hash [("size".toList, .int 100)])])]

/-- A configuration about another pool is left alone. -/
theorem takes_effect_search100 : TakesEffect plainEnv es1 painless search100 :=
  (takes_effect_iff plainEnv es1 painless search100 (Or.inl fun size hsize => by
    obtain rfl : Value.undefined = size := Option.some.inj hsize
    rfl)).mpr ⟨.undefined, rfl, rfl⟩

/-- **The 64 threads are in the pool `get`.** The instance keeps 32 threads for `write`. -/
theorem not_takes_effect_write64 : ¬ TakesEffect plainEnv es1 painless write64 := by
  have hwrite : thread_pool_write write64 = some (.hash [("size".toList, .int 64)]) := rfl
  exact not_takesEffect_of_size (n := 64) hwrite rfl (by decide) rfl

end Es
end StgEnvironment
