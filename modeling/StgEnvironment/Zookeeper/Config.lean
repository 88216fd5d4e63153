import StgEnvironment.Dsglobals.Globals

/-!
# `Zookeeper.Config`: the class `zookeeper::config` on the members of an ensemble

`config` gives the files of one host: `zoo.cfg`, the same on every host, and `myid`, which tells the host which of the
server lines is its own. The roles `zookeeper_hadoop` and `zookeeper_api` take the ports and the quorum of one ensemble
of `hadoop.yaml`.

`servers` reads `zoo.cfg` in the format that is documented for it, as properties of which those of the servers have a
host and two ports. The reader of ZooKeeper itself is not in the repository; it accepts more than this format.

In an environment that is not set, or has the name `undef` in any case of letters, the class fails.
-/

namespace StgEnvironment
namespace Zookeeper

open Dsglobals (Ensemble)
open Properties

/-- The parameters of `zookeeper::config` that are not those of an ensemble. -/
structure Settings where
  ticktime : Text
  initlimit : Text
  synclimit : Text
  datadir : Text
  snapretaincount : Text
  purgeinterval : Text
  maxclientcnxns : Text
  jute_maxbuffer : Text
  configuration_directory : Text

/-- The line of a host in the template. -/
def serverLine (e : Ensemble) (k v : Text) : Line :=
  .setting ("server.".toList ++ v) (k ++ ':' :: e.ports.peerport ++ ':' :: e.ports.leaderport)

/-- The lines of `zoo.cfg.erb` before those of the hosts. All settings are parameters of the class or of the
    ensemble. -/
def headLines (s : Settings) (e : Ensemble) : List Line :=
  [.comment " The number of milliseconds of each tick".toList,
    .setting "tickTime".toList s.ticktime,
    .comment " The number of ticks that the initial".toList,
    .comment " synchronization phase can take".toList,
    .setting "initLimit".toList s.initlimit,
    .comment " The number of ticks that can pass between".toList,
    .comment " sending a request and getting an acknowledgement".toList,
    .setting "syncLimit".toList s.synclimit,
    .comment " the directory where the snapshot is stored.".toList,
    .setting "dataDir".toList s.datadir,
    .comment "autopurge config".toList,
    .setting "autopurge.snapRetainCount".toList s.snapretaincount,
    .setting "autopurge.purgeInterval".toList s.purgeinterval,
    .comment " the port at which the clients will connect".toList,
    .setting "clientPort".toList e.ports.clientport,
    .setting "maxClientCnxns".toList s.maxclientcnxns]

/-- The lines after those of the hosts: the tags of the `if` leave blank ones. -/
def tailLines (s : Settings) : List Line :=
  if s.jute_maxbuffer = "UNSET".toList then [.blank, .blank]
  else
    [.blank, .blank,
      .comment " The maximum size of the data that can be stored in a znode in bytes".toList,
      .setting "jute.maxbuffer".toList s.jute_maxbuffer,
      .blank]

/-- `zoo.cfg.erb`: the settings, a line for each server, and the settings below them. -/
def zooCfgLines (s : Settings) (e : Ensemble) : List Line :=
  headLines s e ++ e.quorumsrv.entries.map (fun kv => serverLine e kv.1 kv.2) ++ tailLines s

/-- The file `zoo.cfg`. Nothing in it depends on the host. -/
def zooCfg (s : Settings) (e : Ensemble) : Text := render (zooCfgLines s e)

/-- `"$my_id"`: a host that is not in the quorum has no ID. -/
def myId (e : Ensemble) (fqdn : Text) : Text := (e.quorumsrv.get? fqdn).getD []

/-- The class on a host, by the paths of the two files that depend on the ensemble. It fails if `$env` is not known,
where `==` takes no account of case. -/
def config (env : Text) (s : Settings) (e : Ensemble) (fqdn : Text) : Option (List (Text × Text)) :=
  if env.map Char.toLower = "undef".toList ∨ env = [] then none
  else
    some [(s.configuration_directory ++ "/zoo.cfg".toList, zooCfg s e), (s.datadir ++ "/myid".toList, myId e fqdn)]

/-! ## The documented format of `zoo.cfg` -/

/-- A member of the ensemble. -/
structure Server where
  id : Text
  host : Text
  peerport : Text
  leaderport : Text
deriving DecidableEq

/-- `server.id=host:peer:leader`: the documented format of a member, read from a setting. -/
def serverOf (kv : Text × Text) : Option Server :=
  if "server.".toList <+: kv.1 then
    match kv.2.splitOn ':' with
    | [host, peerport, leaderport] => some ⟨kv.1.drop 7, host, peerport, leaderport⟩
    | _ => none
  else none

/-- The members that a text in this format has, in the order of their lines. -/
def servers (cfg : Text) : List Server := (properties cfg).filterMap serverOf

end Zookeeper
end StgEnvironment
