import StgEnvironment.Hadoop.Site
import StgEnvironment.Zookeeper.Correctness.Ensemble

/-!
# `Hadoop.Correctness.HighAvailability`: two name nodes, two resource managers

The names of the properties for one of two nodes end in its alias. So clients find both name nodes, and each resource
manager finds itself, exactly if the aliases are different or the hosts are the same (`namenodes_found_iff`,
`resourcemanagers_find_themselves_iff`). The journal of the name nodes is on the hosts of the ZooKeeper ensemble
(`journal_on_ensemble`).

## Contents
- **Properties by what their names start with**: a template has many properties, of which few start like the ones that
  are read, and `valueOf_of_start` reads a value from these few.
- **The name nodes**: from the default file system to two addresses.
- **The resource managers**: the values of all seven endpoints at once, on any host.

What is assumed of the parameters is `Clean`: names that stand in a list can be read back from it.
-/

namespace StgEnvironment
namespace Hadoop.Site
open SiteConfiguration Properties
open Dsglobals (Data)

variable {d : Data} {p : Params}

/-- The names that stand in lists can be read back from them: they are not empty, have no comma in them and no blanks
    at their ends. -/
structure Clean (p : Params) : Prop where
  master_cluster_dfs : Element p.master_cluster_dfs
  namenode_aliases : Element p.master_namenode1_alias ∧ Element p.master_namenode2_alias
  jobtracker_aliases : Element p.master_jobtracker1_alias ∧ Element p.master_jobtracker2_alias

/-! ## The cluster of the environment

The parameters of the staging environment, on which the results are evaluated. -/

/-- The parameters of the environment, as `hadoop.yaml` has them. -/
def stg : Params where
  master_cluster_dfs := "dsstg1cluster".toList
  master_namenode1 := "os13dshdm01.muc.domeus.com".toList
  master_namenode1_alias := "dsstg1nn1".toList
  master_namenode2 := "os13dshdm02.muc.domeus.com".toList
  master_namenode2_alias := "dsstg1nn2".toList
  namenode_rpc_port := "54312".toList
  master_jobtracker1_alias := "dsstg1nn1".toList
  master_jobtracker2_alias := "dsstg1nn2".toList
  master_resourcemanager := "os13dshdm01.muc.domeus.com".toList
  master_historyserver := "os13dshdm02.muc.domeus.com".toList
  data_mounts := ["/DATA1".toList, "/DATA2".toList]
  zkfc_sshfence_params := some ":10022".toList
  dfs_datanode_failed_volumes_tolerated := "1".toList
  dfs_client_read_shortcircuit := "true".toList
  dfs_client_read_shortcircuit_buffer_size := "131072".toList
  dfs_client_read_shortcircuit_streams_cache_size := "1000".toList
  dfs_client_read_shortcircuit_streams_cache_size_expiry_ms := "1000".toList
  yarn_app_mapreduce_am_resource_mb := "2048".toList
  yarn_log_aggregation_enable := "true".toList
  yarn_nodemanager_remote_app_log_dir := "/var/log/hadoop-yarn/apps".toList
  yarn_nodemanager_resource_cpu_vcores := "16".toList
  yarn_nodemanager_resource_memory_mb := "24576".toList
  yarn_resourcemanager_am_max_attempts := "5".toList
  yarn_resourcemanager_zk_state_store_parent_path := "/rmstore".toList
  yarn_scheduler_maximum_allocation_mb := "24576".toList
  yarn_scheduler_maximum_allocation_vcores := "288".toList
  yarn_scheduler_minimum_allocation_mb := "1024".toList

theorem stg_clean : Clean stg := ⟨by decide, by decide, by decide⟩

/-! ## Properties by what their names start with

The files have many properties, of which few matter for a name that is put together from others. They are told apart
by how their names start, which can be decided on the literal parts alone. -/

/-- Whether a name starts like one of these, which parts the properties that matter from the rest of a template. -/
def startsLike (starts : List Text) (name : Text) : Bool := starts.any fun start => start.isPrefixOf name

/-- A name that is put together from one of them does. -/
theorem startsLike_append {starts : List Text} {start : Text} (h : start ∈ starts) (rest : Text) :
    startsLike starts (start ++ rest) = true :=
  List.any_eq_true.mpr ⟨start, h, List.isPrefixOf_iff_prefix.mpr (List.prefix_append ..)⟩

/-- Properties that start differently do not matter for the value of a name that does. -/
theorem valueOf_startsLike {starts : List Text} {c : List Property} {name : Text} (h : startsLike starts name = true) :
    valueOf (c.filter fun q => startsLike starts q.name) name = valueOf c name :=
  valueOf_filter fun q hq => by rw [hq, h]

section Starts
variable {starts : List Text} {c site : List Property}

/-- The value of a name, from the properties that start like it. They are few, and so can be written down. -/
theorem valueOf_of_start (hsite : c.filter (fun q => startsLike starts q.name) = site) (start : Text)
    (h : start ∈ starts) (rest : Text) {c' : List Property} (hc : startingWith start site = c') :
    valueOf c (start ++ rest) = valueOf c' (start ++ rest) := by
  rw [← valueOf_startsLike (startsLike_append h rest), hsite, ← hc, valueOf_startingWith]

/-- There may be one property that starts so, and then its value is the one. -/
theorem valueOf_of_only (hsite : c.filter (fun q => startsLike starts q.name) = site) (start : Text)
    (h : start ∈ starts) {rest value : Text} (hc : startingWith start site = [property (start ++ rest) value]) :
    valueOf c (start ++ rest) = some value :=
  (valueOf_of_start hsite start h rest hc).trans (valueOf_singleton (property (start ++ rest) value))

/-- The name may be no longer than that, so that nothing was put together. -/
theorem valueOf_of_name (hsite : c.filter (fun q => startsLike starts q.name) = site) (start : Text)
    (h : start ∈ starts) {value : Text} (hc : startingWith start site = [property start value]) :
    valueOf c start = some value := by
  have hc' : startingWith start site = [property (start ++ []) value] := by rwa [List.append_nil]
  have hvalue := valueOf_of_only hsite start h hc'
  rwa [List.append_nil] at hvalue

end Starts

/-! ## The name nodes

A client reads the address of its file system, the service in it, the IDs of the name nodes and the address of each.
With one ID for two nodes the later property is the one that is read. -/

/-- The two files that a client of HDFS has. -/
def clientSite (d : Data) (p : Params) : List Property := coreSite d p ++ hdfsSite d p

/-- What the names start with that matter for the name nodes. -/
def namenodeStarts : List Text :=
  ["fs.defaultFS".toList, "dfs.nameservices".toList, "dfs.ha.namenodes.".toList, rpcAddress,
   "dfs.namenode.shared.edits.dir".toList]

/-- The properties that start so, in the order of the two templates. -/
def namenodeSite (d : Data) (p : Params) : List Property :=
  [property "fs.defaultFS".toList (hdfs ++ p.master_cluster_dfs),
   property "dfs.nameservices".toList p.master_cluster_dfs,
   property ("dfs.ha.namenodes.".toList ++ p.master_cluster_dfs)
     (p.master_namenode1_alias ++ ',' :: p.master_namenode2_alias),
   property (rpcAddress ++ ofNode p.master_cluster_dfs p.master_namenode1_alias)
     (p.master_namenode1 ++ ':' :: p.namenode_rpc_port),
   property (rpcAddress ++ ofNode p.master_cluster_dfs p.master_namenode2_alias)
     (p.master_namenode2 ++ ':' :: p.namenode_rpc_port),
   property "dfs.namenode.shared.edits.dir".toList
     ("qjournal://".toList ++ (d.qjournalnodes ++ '/' :: p.master_cluster_dfs))]

theorem filter_clientSite :
    (clientSite d p).filter (fun q => startsLike namenodeStarts q.name) = namenodeSite d p := (rfl)

/-- **The journal of the name nodes is on the hosts of the ensemble**, and has the name of the cluster. The URI of the
    shared edits is taken apart as it is documented: hosts with ports up to the first slash behind the scheme, then
    the name of the journal. -/
theorem journal_on_ensemble (hne : d.hadoop.quorumsrv.keys ≠ [])
    (hhosts : ∀ n ∈ d.hadoop.quorumsrv.keys, ';' ∉ n ∧ ':' ∉ n ∧ '/' ∉ n)
    (hport : ';' ∉ d.journalnodeport ∧ '/' ∉ d.journalnodeport) :
    journal (clientSite d p) =
      some (d.hadoop.quorumsrv.keys.map fun n => (n, d.journalnodeport), p.master_cluster_dfs) := by
  have hdir : valueOf (clientSite d p) "dfs.namenode.shared.edits.dir".toList =
      some ("qjournal://".toList ++ (d.qjournalnodes ++ '/' :: p.master_cluster_dfs)) :=
    valueOf_of_name filter_clientSite _ (by simp [namenodeStarts]) rfl
  have hslash : ∀ c ∈ d.qjournalnodes, (c != '/') = true := by
    intro c hc
    rw [bne_iff_ne]
    rintro rfl
    exact notMem_connect (by decide) (by decide) hport.2 (fun n hn => (hhosts n hn).2.2) hc
  rw [journal, hdir, Option.map_some, List.drop_left, List.takeWhile_append_of_pos hslash,
    List.dropWhile_append_of_pos hslash]
  -- The first slash after the scheme is the one in front of the journal.
  have htaken : ('/' :: p.master_cluster_dfs).takeWhile (· != '/') = [] := rfl
  have hdropped : (('/' :: p.master_cluster_dfs).dropWhile (· != '/')).drop 1 = p.master_cluster_dfs := rfl
  rw [htaken, hdropped, List.append_nil, Dsglobals.Data.qjournalnodes, connections_connect (by decide) hport.1 hne
    fun n hn => ⟨(hhosts n hn).1, (hhosts n hn).2.1⟩]

/-- In the staging environment it is on the three hosts of the Hadoop ensemble. -/
theorem journal_on_ensemble_stg :
    journal (clientSite Zookeeper.stgData stg) =
      some (Zookeeper.stgHadoop.quorumsrv.keys.map fun n => (n, "8485".toList), "dsstg1cluster".toList) :=
  journal_on_ensemble (d := Zookeeper.stgData) (p := stg) (by decide) (by decide) (by decide)

/-! ## The resource managers

For each endpoint there is a property for either ID. A host finds itself by the ID that the template gives it, which
depends on whether it is the history server. -/

/-- What the names start with that matter for the resource managers. -/
def resourceManagerStarts : List Text :=
  "yarn.resourcemanager.ha.rm-ids".toList :: "yarn.resourcemanager.ha.id".toList :: endpoints.map Prod.fst

/-- The properties that start so, on a host. -/
def resourceManagerSite (p : Params) (fqdn : Text) : List Property :=
  [property "yarn.resourcemanager.ha.rm-ids".toList (p.master_jobtracker1_alias ++ ',' :: p.master_jobtracker2_alias),
   property "yarn.resourcemanager.ha.id".toList
     (if p.master_historyserver = fqdn then p.master_jobtracker2_alias else p.master_jobtracker1_alias)] ++
  resourceManager p.master_jobtracker1_alias p.master_resourcemanager ++
  resourceManager p.master_jobtracker2_alias p.master_historyserver

theorem filter_yarnSite {fqdn : Text} :
    (yarnSite d p fqdn).filter (fun q => startsLike resourceManagerStarts q.name) = resourceManagerSite p fqdn := (rfl)

/-- The properties of one endpoint: no endpoint's name starts like that of another. -/
theorem startingWith_endpoint {e : Text × Text} (he : e ∈ endpoints) (fqdn : Text) :
    startingWith e.1 (resourceManagerSite p fqdn) =
      [property (e.1 ++ p.master_jobtracker1_alias) (p.master_resourcemanager ++ e.2),
       property (e.1 ++ p.master_jobtracker2_alias) (p.master_historyserver ++ e.2)] := by
  simp only [endpoints, List.mem_cons, List.not_mem_nil, or_false] at he
  rcases he with rfl | rfl | rfl | rfl | rfl | rfl | rfl <;> exact (rfl)

/-- The values of an endpoint for the two IDs. With one ID for both, the second resource manager has it. -/
theorem valueOf_endpoint {e : Text × Text} (he : e ∈ endpoints) (fqdn : Text) :
    valueOf (yarnSite d p fqdn) (e.1 ++ p.master_jobtracker2_alias) = some (p.master_historyserver ++ e.2) ∧
      valueOf (yarnSite d p fqdn) (e.1 ++ p.master_jobtracker1_alias) =
        some ((if p.master_jobtracker1_alias = p.master_jobtracker2_alias then p.master_historyserver
          else p.master_resourcemanager) ++ e.2) := by
  have hstart : e.1 ∈ resourceManagerStarts :=
    List.mem_cons_of_mem _ (List.mem_cons_of_mem _ (List.mem_map_of_mem he))
  have hvalue := fun id => valueOf_of_start (filter_yarnSite (d := d)) _ hstart id
    (startingWith_endpoint (p := p) he fqdn)
  obtain ⟨hsecond, hfirst⟩ := valueOf_pair (f := (e.1 ++ ·)) List.append_cancel_left p.master_jobtracker1_alias
    p.master_jobtracker2_alias p.master_resourcemanager p.master_historyserver e.2
  exact ⟨(hvalue _).trans hsecond, (hvalue _).trans hfirst⟩

/-- There are two resource managers, by their aliases. -/
theorem listOf_rmIds (h : Clean p) (fqdn : Text) :
    listOf (yarnSite d p fqdn) "yarn.resourcemanager.ha.rm-ids".toList =
      [p.master_jobtracker1_alias, p.master_jobtracker2_alias] :=
  listOf_pair h.jobtracker_aliases.1 h.jobtracker_aliases.2
    (valueOf_of_name filter_yarnSite _ (List.mem_cons_self ..) rfl)

/-- The ID that a host is given: the second alias on the host of the history server, the first one on every other. -/
theorem valueOf_haId (fqdn : Text) :
    valueOf (yarnSite d p fqdn) "yarn.resourcemanager.ha.id".toList =
      some (if p.master_historyserver = fqdn then p.master_jobtracker2_alias else p.master_jobtracker1_alias) :=
  valueOf_of_name filter_yarnSite _ (List.mem_cons_of_mem _ (List.mem_cons_self ..)) rfl

/-- What the clients of YARN find on any host: the first resource manager, or the second one again, and the second. -/
theorem resourceManagers_yarnSite (h : Clean p) {e : Text × Text} (he : e ∈ endpoints) (fqdn : Text) :
    resourceManagers (yarnSite d p fqdn) e.1 =
      [some ((if p.master_jobtracker1_alias = p.master_jobtracker2_alias then p.master_historyserver
          else p.master_resourcemanager) ++ e.2),
       some (p.master_historyserver ++ e.2)] := by
  obtain ⟨hsecond, hfirst⟩ := valueOf_endpoint (d := d) (p := p) he fqdn
  rw [resourceManagers, listOf_rmIds h, List.map_cons, List.map_cons, List.map_nil, hfirst, hsecond]

/-- The second resource manager always finds itself, as its properties are the later ones. -/
theorem own_historyserver {e : Text × Text} (he : e ∈ endpoints) :
    own (yarnSite d p p.master_historyserver) e.1 = some (p.master_historyserver ++ e.2) := by
  rw [own, valueOf_haId, if_pos rfl, Option.bind_some]
  exact (valueOf_endpoint he _).1

/-- The first one finds what its clients find, which is the second one if the two have one alias. -/
theorem own_resourcemanager {e : Text × Text} (he : e ∈ endpoints) :
    own (yarnSite d p p.master_resourcemanager) e.1 =
      some ((if p.master_jobtracker1_alias = p.master_jobtracker2_alias then p.master_historyserver
        else p.master_resourcemanager) ++ e.2) := by
  rw [own, valueOf_haId, Option.bind_some]
  -- On a host that is both, the template gives the second alias.
  by_cases hhost : p.master_historyserver = p.master_resourcemanager
  · rw [if_pos hhost, (valueOf_endpoint he _).1, hhost, ite_self]
  · rw [if_neg hhost]
    exact (valueOf_endpoint he _).2

/-- **Both resource managers find themselves, where their clients find them, if and only if they have two aliases or
    are one host.** For each of the endpoints, what a client has for the two is what each has for itself; whether that
    is its own address and the right port is the question of the aliases. -/
theorem resourcemanagers_find_themselves_iff (h : Clean p) (fqdn : Text) :
    (∀ e ∈ endpoints, resourceManagers (yarnSite d p fqdn) e.1 =
        [p.master_resourcemanager, p.master_historyserver].map fun host => own (yarnSite d p host) e.1) ∧
      ((∀ host ∈ [p.master_resourcemanager, p.master_historyserver], ∀ e ∈ endpoints,
          own (yarnSite d p host) e.1 = some (host ++ e.2)) ↔
        p.master_jobtracker1_alias ≠ p.master_jobtracker2_alias ∨
          p.master_resourcemanager = p.master_historyserver) := by
  constructor
  · intro e he
    rw [resourceManagers_yarnSite h he, List.map_cons, List.map_cons, List.map_nil, own_resourcemanager he,
      own_historyserver he]
  · constructor
    · intro hown
      by_cases heq : p.master_jobtracker1_alias = p.master_jobtracker2_alias
      · have hfirst := hown _ (List.mem_cons_self ..) _ (List.mem_cons_self ..)
        rw [own_resourcemanager (List.mem_cons_self ..), if_pos heq] at hfirst
        exact Or.inr (List.append_cancel_right (Option.some.inj hfirst)).symm
      · exact Or.inl heq
    · intro hor host hhost e he
      rcases List.mem_cons.mp hhost with rfl | hhost
      · rw [own_resourcemanager he]
        rcases hor with hne | hsame
        · rw [if_neg hne]
        · rw [hsame, ite_self]
      · rw [List.mem_singleton.mp hhost]
        exact own_historyserver he

/-- In the staging environment both find themselves. -/
theorem resourcemanagers_find_themselves_stg :
    own (yarnSite Zookeeper.stgData stg "os13dshdm01.muc.domeus.com".toList) "yarn.resourcemanager.address.".toList =
        some "os13dshdm01.muc.domeus.com:8032".toList ∧
      own (yarnSite Zookeeper.stgData stg "os13dshdm02.muc.domeus.com".toList) "yarn.resourcemanager.address.".toList =
        some "os13dshdm02.muc.domeus.com:8032".toList := by
  have hown := (resourcemanagers_find_themselves_iff stg_clean stg.master_resourcemanager
    (d := Zookeeper.stgData)).2.mpr (Or.inl (by decide))
  have haddress : ("yarn.resourcemanager.address.".toList, ":8032".toList) ∈ endpoints :=
    List.mem_cons_of_mem _ (List.mem_cons_self ..)
  exact ⟨hown _ (List.mem_cons_self ..) _ haddress,
    hown _ (List.mem_cons_of_mem _ (List.mem_singleton_self _)) _ haddress⟩

end Hadoop.Site
end StgEnvironment
