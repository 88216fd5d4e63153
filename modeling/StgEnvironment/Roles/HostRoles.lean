import StgEnvironment.Puppet.Hiera
import StgEnvironment.Puppet.Regex

/-!
# `Roles.HostRoles`: the fact `hostroles`, and the role classes

The fact gives a host its roles by the name that it has, and `site.pp` includes the class of each of them, which
includes what makes the role. A host with no known name has the text `unknown` for roles. In Puppet `each` runs through
the characters of a text, so `site.pp` asks for the class `roles::u`, which does not exist.

## Contents
- **The fact**: the branches of `hostrole.rb` as patterns with their roles (`whens`), of which the first that matches
  counts.
- **The role classes**: what each of them includes (`manifests`).
- **`site.pp`**: the classes that a host gets, or an error (`site`). A class is included once.
-/

namespace StgEnvironment
namespace Roles
open Puppet

/-- The fact `hostroles`. -/
inductive HostRoles where
  | list (roles : List Text)
  | string (s : Text)

def texts (l : List String) : List Text := l.map String.toList

/-! ## `hostrole.rb` -/

/-- A branch of the `case`: a pattern, and the roles. -/
abbrev When := Pattern × List Text

def named (name : String) (roles : List String) : When := (literal name.toList, texts roles)

/-- `when /^name[a-b]/`. -/
def numbered (name : String) (a b : Char) (roles : List String) : When :=
  (literal name.toList ++ [.repeated (between a b) 1 (some 1)], texts roles)

/-- The branches of the fact, in their order. Ruby takes the first that matches. -/
def whens : List When :=
  [named "os13azkaban01" ["base", "dockers", "azkaban", "hadoopclient", "jumphost"],
   named "os13dshdm01"
     ["base", "hadoopmaster", "hadoop_kinga", "hadoopmaster_kinga", "resourcemanager", "flink_kinga"],
   named "os13dshdm02"
     ["base", "hadoopmaster", "hadoop_kinga", "hadoopmaster_kinga", "resourcemanager", "historyserver",
      "flink_streaming"],
   numbered "os13dshdp0" '1' '6'
     ["base", "hadoopslave", "hadoop_hbase", "hadoopslave_hbase", "hadoop_kinga", "hadoopslave_kinga", "nodemanager"],
   named "os13dses" ["base", "elasticsearch"],
   named "os13dsapi01" ["base", "dsapimaintainer", "hadoopclient", "hadoop_kinga"],
   numbered "os13dsapi0" '2' '3'
     ["base", "dsapi", "kafkarest", "ha", "schemaregistry", "nginx", "nginx_confluentapp", "nginx_dashboard"],
   named "os13dsqueue" ["base", "kafka"],
   named "os13dshdz" ["base", "zookeeper_hadoop", "dfsjournal"],
   named "os13dsapz" ["base", "zookeeper_api"]]

/-- A `case` with these branches: the first one that matches. -/
def caseOf (ws : List When) (fqdn : Text) : HostRoles :=
  match ws.find? fun w => matchesLine w.1 fqdn with
  | some w => .list w.2
  | none => .string "unknown".toList

/-- The fact, on a host of this name. -/
def hostroles (fqdn : Text) : HostRoles := caseOf whens fqdn

/-! ## The classes of the roles -/

/-- A role, and the classes that it includes. -/
def role (name : String) (classes : List String) : Text × List Text := (name.toList, texts classes)

/-- Classes of the module `datastore`. -/
def datastore (applications : List String) : List String := applications.map ("datastore::applications::" ++ ·)

/-- The applications of `roles::dsapi`. -/
def dsapiApplications : List String :=
  ["userread", "userwrite", "userresponseread", "userresponsewrite", "messagestatsread", "mobileresponseread",
   "mobileresponsewrite", "relateddataread", "relateddatawrite", "membershipwrite", "dsreader", "selectionengine",
   "etlservice", "relateddatareadbatch", "lockingservicequeryserver", "schemarepository", "kpiread", "mobilewrite",
   "mobileread", "metadatawrite", "connectwrite"]

/-- The applications of `roles::dsapimaintainer`. -/
def dsapimaintainerApplications : List String :=
  ["userread", "userwrite", "userreadbatch", "userresponseread", "userresponsewrite", "messagestatsread",
   "mobileresponseread", "mobileresponsewrite", "relateddataread", "relateddatawrite", "membershipwrite", "dsreader",
   "selectionengine", "etlservicemaintainer", "relateddatareadbatch", "lockingservicequeryserver", "schemarepository",
   "smoketestexport", "smoketestmember", "smoketestrelateddata", "smoketeststatistics", "smoketestuser",
   "smoketestuserresponse", "statscollector", "kpiread", "mobilewrite", "mobileread", "metadatawrite", "connectwrite"]

/-- The role classes, with what each of them includes. -/
def manifests : List (Text × List Text) :=
  [role "apptest" ["datastore::applications::mobilewrite", "datastore::applications::kpiread"],
   role "azkaban"
     ["azkaban", "azkaban::config", "azkaban::tools::speedoffsetloader", "azkaban::tools::speedoffsetwatcher"],
   role "base"
     ["profiles::baseprofile", "profiles::collectd", "profiles::nrpe", "profiles::pamd", "profiles::sysctl"],
   role "dfsjournal" ["hadoop::roles::dfsjournal"],
   role "dfsmaster" ["hadoop::roles::dfsmaster"],
   role "dfsslave" ["hadoop::roles::dfsslave"],
   role "dockers"
     ["dockers", "dockers::containers::burrow", "dockers::containers::kafkamanager", "dockers::containers::cerebro"],
   role "dsapi" (["profiles::firewall"] ++ datastore dsapiApplications ++ ["filebeat"]),
   role "dsapimaintainer" (["profiles::firewall"] ++ datastore dsapimaintainerApplications ++ ["filebeat"]),
   role "elasticsearch" ["profiles::dockerengine", "es::docker", "es::docker::collectd::curl_json"],
   role "flink_kinga" ["hadoop::roles::flinkmanager", "flink", "flink::manager", "flink::applications"],
   role "flink_streaming" ["hadoop::roles::flinkmanager", "flink", "flink::manager", "flink::applications"],
   role "flinkmanager" ["hadoop::roles::flinkmanager", "flink", "flink::manager", "flink::applications"],
   role "gitlab" ["gitlab"],
   role "ha" ["ha"],
   role "hadoop" [],
   role "hadoop_hbase" [],
   role "hadoop_kinga" [],
   role "hadoop_streaming" [],
   role "hadoop_streaming_dsapi" [],
   role "hadoopclient" ["hadoop::roles::hadoopclient"],
   role "hadoopmaster" ["hadoop::roles::dfsmaster", "hbase::roles::master"],
   role "hadoopmaster_hbase" [],
   role "hadoopmaster_kinga" [],
   role "hadoopmaster_streaming" [],
   role "hadoopslave" ["hadoop::roles::dfsslave", "hbase::roles::regionserver"],
   role "hadoopslave_hbase" [],
   role "hadoopslave_kinga" [],
   role "hadoopslave_streaming" [],
   role "hbasemaster" ["hbase::roles::master"],
   role "hbaseregionserver" ["hbase::roles::regionserver"],
   role "historyserver" ["hadoop::roles::historyserver"],
   role "jenkinsmaster" ["java", "profiles::dockerengine", "jenkins", "jenkins::master"],
   role "jenkinsslave" ["java", "profiles::dockerengine", "jenkins::slave"],
   role "jumphost" ["reporting::reports::datausage", "reporting::reports::bdapps"],
   role "kafka" ["kafka"],
   role "kafkarest" ["confluentapp::kafkarest"],
   role "mapredmaster" ["hadoop::roles::mapredmaster"],
   role "nagios" ["nagios"],
   role "nginx" ["nginx"],
   role "nginx_confluentapp" [],
   role "nginx_dashboard" [],
   role "nodemanager" ["hadoop::roles::nodemanager", "filebeat"],
   role "resourcemanager" ["hadoop::roles::resourcemanager"],
   role "schemaregistry" ["confluentapp::schemaregistry"],
   role "zookeeper" ["zookeeper"],
   role "zookeeper_api" ["zookeeper"],
   role "zookeeper_hadoop" ["zookeeper"],
   role "zookeeper_lab" ["zookeeper"]]

/-! ## `site.pp` -/

/-- `include`: a class is evaluated once. -/
def addClass (classes : List Text) (c : Text) : List Text := if classes.contains c then classes else classes ++ [c]

/-- `include "roles::${role}"`. -/
def includeRole (classes : List Text) (role : Text) : Except Hiera.Failure (List Text) :=
  match Dict.find role manifests with
  | none => .error .evaluation
  | some included => .ok ((("roles::".toList ++ role) :: included).foldl addClass classes)

/-- What `each` runs through. -/
def HostRoles.each : HostRoles → List Text
  | .list roles => roles
  | .string s => s.map fun c => [c]

/-- `$hostroles.each |$role| { include "roles::${role}" }`. -/
def site (hostroles : HostRoles) : Except Hiera.Failure (List Text) := hostroles.each.foldlM includeRole []

end Roles
end StgEnvironment
