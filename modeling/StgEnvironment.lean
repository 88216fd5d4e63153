import StgEnvironment.Nrpe.Correctness.FlinkContainers
import StgEnvironment.Nrpe.Correctness.ClusterHealth
import StgEnvironment.Hbase.Correctness.MaintenanceDaily
import StgEnvironment.Datastore.Correctness.Concurrent
import StgEnvironment.Datastore.Correctness.Reuse
import StgEnvironment.Collectd.Correctness.QueueLag
import StgEnvironment.Azkaban.Correctness.Updates
import StgEnvironment.Hadoop.Correctness.Topology
import StgEnvironment.Reporting.Correctness.Hosts
import StgEnvironment.Reporting.Correctness.Report
import StgEnvironment.Reporting.Correctness.Sshcmd
import StgEnvironment.Profiles.Correctness.Hosts
import StgEnvironment.Hadoop.Correctness.Roles
import StgEnvironment.Nrpe.Correctness.CheckIo
import StgEnvironment.Nrpe.Correctness.CheckIoProbes
import StgEnvironment.Hbase.Correctness.Maintenance
import StgEnvironment.Es.Correctness.Docker
import StgEnvironment.Nrpe.Correctness.AzkabanJob
import StgEnvironment.Nrpe.Correctness.CheckIoPy
import StgEnvironment.Nrpe.Correctness.CheckIoPyLimits
import StgEnvironment.Nrpe.Correctness.CheckIoPyDevices
import StgEnvironment.Nrpe.Correctness.CheckIoPyTimeout
import StgEnvironment.Datastore.Correctness.Shutdown
import StgEnvironment.Nrpe.Correctness.CheckIoRows
import StgEnvironment.Nrpe.Correctness.IfTraffic
import StgEnvironment.Nrpe.Correctness.CheckIoVerdict
import StgEnvironment.Hadoop.Correctness.TopologyFailure
import StgEnvironment.Nrpe.Correctness.AzkabanDuration
import StgEnvironment.Nrpe.Correctness.CheckCamus
import StgEnvironment.Nrpe.Correctness.CheckFlink
import StgEnvironment.Nrpe.Correctness.PuppetAgentProcess
import StgEnvironment.Es.Correctness.CurlJson
import StgEnvironment.Nrpe.Correctness.LongRunningJobs
import StgEnvironment.Nrpe.Correctness.PuppetLastRun
import StgEnvironment.Reporting.Correctness.DataUsage
import StgEnvironment.Lib.Rotation
import StgEnvironment.Hadoop.Daemon
import StgEnvironment.Hadoop.Correctness.Daemon
import StgEnvironment.Lib.Properties
import StgEnvironment.Dsglobals.Globals
import StgEnvironment.Zookeeper.Config
import StgEnvironment.Kafka.Server
import StgEnvironment.Zookeeper.Correctness.Ensemble
import StgEnvironment.Kafka.Correctness.Brokers
import StgEnvironment.Nrpe.CheckZookeeper
import StgEnvironment.Nrpe.Correctness.CheckZookeeper
import StgEnvironment.Nrpe.Correctness.ZookeeperReplies
import StgEnvironment.Configuration.Hierarchy
import StgEnvironment.Roles.Correctness.HostRoles
import StgEnvironment.Configuration.Correctness.Hierarchy
import StgEnvironment.Lib.PacketFilter
import StgEnvironment.Profiles.Firewall
import StgEnvironment.Profiles.Correctness.Firewall
import StgEnvironment.Profiles.Correctness.DsapiFirewall
import StgEnvironment.Ha.Heartbeat
import StgEnvironment.Ha.Correctness.Heartbeat
import StgEnvironment.Ha.Correctness.Arrival
import StgEnvironment.Lib.SiteConfiguration
import StgEnvironment.Hadoop.Site
import StgEnvironment.Hadoop.Correctness.HighAvailability
