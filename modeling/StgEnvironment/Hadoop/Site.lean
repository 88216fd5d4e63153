import StgEnvironment.Dsglobals.Globals
import StgEnvironment.Lib.SiteConfiguration

/-!
# `Hadoop.Site`: `core-site.xml`, `hdfs-site.xml` and `yarn-site.xml`

The properties of the three templates, in their order, and how the documentation of Hadoop says that they belong
together. From the default file system one gets to the addresses of the name nodes through the name of the cluster and
the IDs of the nodes; a resource manager knows its host through the ID that it is given.

## Contents
- **The templates**: `coreSite`, `hdfsSite` and `yarnSite`, with every property, as the order of properties with one
  name decides which of them counts (`Lib.SiteConfiguration`).
- **The documented format**: the name nodes of the default file system (`defaultNamenodes`), the journal (`journal`) and
  the resource managers (`resourceManagers`, `own`).

## What is left out
Hadoop is not in the repository. What is here is the documented format of the properties alone: which name has which
value, and how a list, an address of a file system and an address of a journal are put together. What a program does
with them beyond that is left out.
-/

namespace StgEnvironment
namespace Hadoop.Site
open SiteConfiguration
open Dsglobals (Data)

/-- The parameters of the classes `hadoop` and `hadoop::config` that the templates have. The name nodes and the
    resource managers are pairs, and each node of a pair has an alias. -/
structure Params where
  master_cluster_dfs : Text
  master_namenode1 : Text
  master_namenode1_alias : Text
  master_namenode2 : Text
  master_namenode2_alias : Text
  namenode_rpc_port : Text
  master_jobtracker1_alias : Text
  master_jobtracker2_alias : Text
  master_resourcemanager : Text
  master_historyserver : Text
  data_mounts : List Text
  zkfc_sshfence_params : Option Text
  dfs_datanode_failed_volumes_tolerated : Text
  dfs_client_read_shortcircuit : Text
  dfs_client_read_shortcircuit_buffer_size : Text
  dfs_client_read_shortcircuit_streams_cache_size : Text
  dfs_client_read_shortcircuit_streams_cache_size_expiry_ms : Text
  yarn_app_mapreduce_am_resource_mb : Text
  yarn_log_aggregation_enable : Text
  yarn_nodemanager_remote_app_log_dir : Text
  yarn_nodemanager_resource_cpu_vcores : Text
  yarn_nodemanager_resource_memory_mb : Text
  yarn_resourcemanager_am_max_attempts : Text
  yarn_resourcemanager_zk_state_store_parent_path : Text
  yarn_scheduler_maximum_allocation_mb : Text
  yarn_scheduler_maximum_allocation_vcores : Text
  yarn_scheduler_minimum_allocation_mb : Text

/-! ## The templates -/

def property (name value : Text) : Property := ⟨name, value, false⟩

/-- A property that a job may not override. -/
def finalProperty (name value : Text) : Property := ⟨name, value, true⟩

/-- A property whose name and value are literal in the template. -/
def fixed (name value : String) : Property := property name.toList value.toList

/-- A literal property that a job may not override. -/
def fixedFinal (name value : String) : Property := finalProperty name.toList value.toList

/-- `$data_mounts.map |$dm| { "$dm/…" }.join(',')`. -/
def onMounts (p : Params) (dir : String) : Text := [','].intercalate (p.data_mounts.map fun dm => dm ++ dir.toList)

/-- The scheme of an address of a file system. -/
def hdfs : Text := "hdfs://".toList

/-- `core-site.xml.erb`, in its order. Only two of the properties depend on the parameters. -/
def coreSite (d : Data) (p : Params) : List Property :=
  [property "fs.defaultFS".toList (hdfs ++ p.master_cluster_dfs),
   property "ha.zookeeper.quorum".toList d.hd_zookeeper_quorum,
   fixed "io.file.buffer.size" "65536",
   fixed "fs.trash.interval" "1440",
   property "io.compression.codecs".toList
     ("org.apache.hadoop.io.compress.DefaultCodec,org.apache.hadoop.io.compress.GzipCodec,".toList ++
      "com.hadoop.compression.lzo.LzoCodec,com.hadoop.compression.lzo.LzopCodec,".toList ++
      "org.apache.hadoop.io.compress.BZip2Codec,org.apache.hadoop.io.compress.SnappyCodec".toList),
   fixed "io.compression.codec.lzo.class" "com.hadoop.compression.lzo.LzoCodec",
   fixed "net.topology.script.file.name" "/etc/hadoop/conf/topology.py",
   fixed "hadoop.http.staticuser.user" "yarn",
   fixed "hadoop.proxyuser.hue.hosts" "*",
   fixed "hadoop.proxyuser.hue.groups" "*",
   fixed "hadoop.proxyuser.httpfs.hosts" "*",
   fixed "hadoop.proxyuser.httpfs.groups" "*"]

/-- What the names of the properties for the addresses of the name nodes start with. -/
def rpcAddress : Text := "dfs.namenode.rpc-address.".toList

/-- What the names for their web pages start with. -/
def httpAddress : Text := "dfs.namenode.http-address.".toList

/-- The suffix of the names for one name node: the cluster and the alias. -/
def ofNode (cluster id : Text) : Text := cluster ++ '.' :: id

/-- `sshfence`, with parameters if there are any. -/
def fencing (p : Params) : Text :=
  match p.zkfc_sshfence_params with
  | some params => "sshfence(".toList ++ params ++ [')']
  | none => "sshfence".toList

/-- `hdfs-site.xml.erb`, in its order. There is one property for each of the two aliases, so that with one alias the
    second property has the name of the first. -/
def hdfsSite (d : Data) (p : Params) : List Property :=
  [property "dfs.nameservices".toList p.master_cluster_dfs,
   property ("dfs.ha.namenodes.".toList ++ p.master_cluster_dfs)
     (p.master_namenode1_alias ++ ',' :: p.master_namenode2_alias),
   property (rpcAddress ++ ofNode p.master_cluster_dfs p.master_namenode1_alias)
     (p.master_namenode1 ++ ':' :: p.namenode_rpc_port),
   property (rpcAddress ++ ofNode p.master_cluster_dfs p.master_namenode2_alias)
     (p.master_namenode2 ++ ':' :: p.namenode_rpc_port),
   property (httpAddress ++ ofNode p.master_cluster_dfs p.master_namenode1_alias)
     (p.master_namenode1 ++ ":50070".toList),
   property (httpAddress ++ ofNode p.master_cluster_dfs p.master_namenode2_alias)
     (p.master_namenode2 ++ ":50070".toList),
   property "dfs.namenode.shared.edits.dir".toList
     ("qjournal://".toList ++ (d.qjournalnodes ++ '/' :: p.master_cluster_dfs)),
   property "dfs.journalnode.edits.dir".toList ("/data_journal/".toList ++ p.master_cluster_dfs ++ "/edits".toList),
   property ("dfs.client.failover.proxy.provider.".toList ++ p.master_cluster_dfs)
     "org.apache.hadoop.hdfs.server.namenode.ha.ConfiguredFailoverProxyProvider".toList,
   fixed "dfs.ha.automatic-failover.enabled" "true",
   property "dfs.ha.fencing.methods".toList (fencing p),
   fixed "dfs.ha.fencing.ssh.private-key-files" "/var/lib/hdfs/.ssh/id_rsa",
   fixed "dfs.ha.fencing.ssh.connect-timeout" "15000",
   finalProperty "dfs.datanode.data.dir".toList (onMounts p "/hadoop-datastore/dfs/data"),
   fixedFinal "dfs.datanode.du.reserved" "104857600",
   fixedFinal "dfs.namenode.name.dir" "file:///data_master/fsimage",
   fixedFinal "dfs.permissions" "true",
   fixed "dfs.permissions.supergroup" "supergroup",
   fixedFinal "dfs.blocksize" "134217728",
   fixedFinal "dfs.namenode.handler.count" "32",
   fixed "dfs.datanode.handler.count" "10",
   fixed "dfs.replication" "3",
   fixed "dfs.hosts.exclude" "/etc/hadoop/conf/exclude-nodes",
   fixed "dfs.datanode.max.transfer.threads" "8192",
   finalProperty "dfs.datanode.failed.volumes.tolerated".toList p.dfs_datanode_failed_volumes_tolerated,
   property "dfs.datanode.fsdataset.volume.choosing.policy".toList
     ("org.apache.hadoop.hdfs.server.datanode.fsdataset.".toList ++ "AvailableSpaceVolumeChoosingPolicy".toList),
   property "dfs.client.read.shortcircuit".toList p.dfs_client_read_shortcircuit,
   property "dfs.client.read.shortcircuit.buffer.size".toList p.dfs_client_read_shortcircuit_buffer_size,
   property "dfs.client.read.shortcircuit.streams.cache.size".toList p.dfs_client_read_shortcircuit_streams_cache_size,
   property "dfs.client.read.shortcircuit.streams.cache.size.expiry.ms".toList
     p.dfs_client_read_shortcircuit_streams_cache_size_expiry_ms,
   fixed "dfs.domain.socket.path" "/var/run/hadoop-hdfs/dn._PORT",
   fixed "dfs.ha.log-roll.period" "90",
   fixed "dfs.ha.tail-edits.period" "45",
   fixed "dfs.datanode.balance.bandwidthPerSec" "10485760",
   fixed "dfs.webhdfs.enabled" "true"]

/-- The names of the properties of one resource manager, up to its ID, and what follows its host in their values. The
    template has them twice, once for each of the pair. -/
def endpoints : List (Text × Text) :=
  [("yarn.resourcemanager.hostname.".toList, []),
   ("yarn.resourcemanager.address.".toList, ":8032".toList),
   ("yarn.resourcemanager.scheduler.address.".toList, ":8030".toList),
   ("yarn.resourcemanager.webapp.https.address.".toList, ":8090".toList),
   ("yarn.resourcemanager.webapp.address.".toList, ":50060".toList),
   ("yarn.resourcemanager.resource-tracker.address.".toList, ":8031".toList),
   ("yarn.resourcemanager.admin.address.".toList, ":8033".toList)]

/-- The seven properties of one resource manager. -/
def resourceManager (id host : Text) : List Property := endpoints.map fun e => property (e.1 ++ id) (host ++ e.2)

/-- `yarn.application.classpath`, with its blanks. -/
def classpath : Text :=
  "\n        $HADOOP_CONF_DIR,\n        $HADOOP_COMMON_HOME/*,$HADOOP_COMMON_HOME/lib/*,\n".toList ++
    "        $HADOOP_HDFS_HOME/*,$HADOOP_HDFS_HOME/lib/*,\n".toList ++
    "        $HADOOP_MAPRED_HOME/*,$HADOOP_MAPRED_HOME/lib/*,\n".toList ++
    "        $HADOOP_YARN_HOME/*,$HADOOP_YARN_HOME/lib/*\n      ".toList

/-- `yarn-site.xml.erb` on a host, which is given its own ID by the comparison with `$master_historyserver`. -/
def yarnSite (d : Data) (p : Params) (fqdn : Text) : List Property :=
  [property "yarn.application.classpath".toList classpath,
   fixed "yarn.resourcemanager.connect.retry-interval.ms" "2000",
   fixed "yarn.resourcemanager.ha.enabled" "true",
   fixed "yarn.resourcemanager.ha.automatic-failover.enabled" "true",
   fixed "yarn.resourcemanager.ha.automatic-failover.embedded" "true",
   property "yarn.resourcemanager.cluster-id".toList (p.master_cluster_dfs ++ "_yarn".toList),
   property "yarn.resourcemanager.ha.rm-ids".toList (p.master_jobtracker1_alias ++ ',' :: p.master_jobtracker2_alias),
   property "yarn.resourcemanager.ha.id".toList
     (if p.master_historyserver = fqdn then p.master_jobtracker2_alias else p.master_jobtracker1_alias),
   property "yarn.resourcemanager.scheduler.class".toList
     ("org.apache.hadoop.yarn.server.resourcemanager.scheduler.".toList ++ "capacity.CapacityScheduler".toList),
   fixed "yarn.resourcemanager.recovery.enabled" "true",
   fixed "yarn.resourcemanager.store.class"
     "org.apache.hadoop.yarn.server.resourcemanager.recovery.ZKRMStateStore",
   property "yarn.resourcemanager.zk-address".toList d.hd_zookeeper_quorum,
   fixed "yarn.app.mapreduce.am.scheduler.connection.wait.interval-ms" "5000",
   fixed "yarn.resourcemanager.work-preserving-recovery.enabled" "true",
   property "yarn.resourcemanager.am.max-attempts".toList p.yarn_resourcemanager_am_max_attempts] ++
  resourceManager p.master_jobtracker1_alias p.master_resourcemanager ++
  resourceManager p.master_jobtracker2_alias p.master_historyserver ++
  [fixed "yarn.nodemanager.localizer.address" "0.0.0.0:8044",
   fixed "yarn.nodemanager.webapp.address" "0.0.0.0:8042",
   fixed "yarn.nodemanager.aux-services" "mapreduce_shuffle",
   property "yarn.nodemanager.local-dirs".toList (onMounts p "/hadoop-datastore/yarn"),
   property "yarn.nodemanager.log-dirs".toList (onMounts p "/hadoop-datastore/yarn/logs"),
   fixed "mapreduce.shuffle.port" "23080",
   fixed "yarn.resourcemanager.work-preserving-recovery.enabled" "true",
   fixed "yarn.nodemanager.aux-services" "mapreduce_shuffle",
   fixed "yarn.nodemanager.aux-services.mapreduce.shuffle.class" "org.apache.hadoop.mapred.ShuffleHandler",
   property "mapreduce.jobhistory.address".toList (p.master_historyserver ++ ":10020".toList),
   property "mapreduce.jobhistory.webapp.address".toList (p.master_historyserver ++ ":19888".toList),
   fixed "hadoop.proxyuser.mapred.groups" "*",
   fixed "hadoop.proxyuser.mapred.hosts" "*",
   fixed "mapreduce.map.output.compress" "true",
   fixed "mapred.map.output.compress.codec" "org.apache.hadoop.io.compress.SnappyCodec",
   property "yarn.nodemanager.resource.memory-mb".toList p.yarn_nodemanager_resource_memory_mb,
   property "yarn.scheduler.minimum-allocation-mb".toList p.yarn_scheduler_minimum_allocation_mb,
   property "yarn.scheduler.maximum-allocation-mb".toList p.yarn_scheduler_maximum_allocation_mb,
   property "yarn.app.mapreduce.am.resource.mb".toList p.yarn_app_mapreduce_am_resource_mb,
   property "yarn.log-aggregation-enable".toList p.yarn_log_aggregation_enable,
   property "yarn.nodemanager.remote-app-log-dir".toList p.yarn_nodemanager_remote_app_log_dir,
   fixed "yarn.log-aggregation.retain-seconds" "604800",
   fixed "yarn.log-aggregation.retain-check-interval-seconds" "3600",
   fixed "yarn.nodemanager.log.retain-seconds" "172800",
   fixed "yarn.nodemanager.delete.thread-count" "6",
   fixed "yarn.nodemanager.delete.debug-delay-sec" "86400",
   property "yarn.resourcemanager.zk-state-store.parent-path".toList
     p.yarn_resourcemanager_zk_state_store_parent_path,
   property "yarn.nodemanager.resource.cpu-vcores".toList p.yarn_nodemanager_resource_cpu_vcores,
   fixed "yarn.nodemanager.disk-health-checker.max-disk-utilization-per-disk-percentage" "95.0",
   property "yarn.scheduler.maximum-allocation-vcores".toList p.yarn_scheduler_maximum_allocation_vcores,
   fixed "hadoop.proxyuser.hue.groups" "*",
   fixed "hadoop.proxyuser.hue.hosts" "*",
   fixed "hadoop.proxyuser.yarn.groups" "*",
   fixed "hadoop.proxyuser.yarn.hosts" "*"]

/-! ## The documented format -/

/-- The journal nodes and the journal, of `qjournal://host:port;…/journal`. -/
def journal (c : List Property) : Option (List (Text × Text) × Text) :=
  (valueOf c "dfs.namenode.shared.edits.dir".toList).map fun v =>
    (Properties.connections ';' ((v.drop "qjournal://".toList.length).takeWhile (· != '/')),
      ((v.drop "qjournal://".toList.length).dropWhile (· != '/')).drop 1)

/-- The values of an endpoint, for all IDs in `yarn.resourcemanager.ha.rm-ids`. -/
def resourceManagers (c : List Property) (endpoint : Text) : List (Option Text) :=
  (listOf c "yarn.resourcemanager.ha.rm-ids".toList).map fun id => valueOf c (endpoint ++ id)

/-- The value of an endpoint for the ID in `yarn.resourcemanager.ha.id`, the one of this host: where a resource
    manager listens. -/
def own (c : List Property) (endpoint : Text) : Option Text :=
  (valueOf c "yarn.resourcemanager.ha.id".toList).bind fun id => valueOf c (endpoint ++ id)

end Hadoop.Site
end StgEnvironment
