import StgEnvironment.Lib.Decimal
import StgEnvironment.Profiles.Hosts

/-!
# `Ha.Heartbeat`: the class `ha` on the nodes of a cluster

Each node asks PuppetDB for the addresses of all nodes and sends heartbeats to those of the others, as its file `ha.cf`
says.

## Contents
- **The query**: the facts of the nodes, in any order (`Answered`).
- **The templates**: `ha.cf.erb`, line by line (`lines`, `haCf`).
- **The documented format**: what such a file says of peers and nodes (`reading`).

## What is left out
`reading` is the documented format of `ha.cf`, as far as it is about the cluster: a directive is a line of words, what
follows a `#` is a comment, and a directive holds for the lines after it, so that a peer has the port that was set
before. The daemon is not in the repository, and what it does beyond this format is left out. So is the file
`haresources`, which says what runs on a node and not who is in the cluster.
-/

namespace StgEnvironment
namespace Ha
open Profiles.Hosts (Fact PuppetDB Token)

/-- The parameters of the class, without those of `haresources`. Of the nodes the class knows host names without their
    domain. -/
structure Settings where
  nodes : List Text
  keepalive : ℕ
  deadtime : ℕ
  warntime : ℕ
  initdead : ℕ
  udpport : ℕ
  autofailback : Text
  nodes_token : ∀ v ∈ nodes, Token v
  autofailback_token : Token autofailback

/-- The interface of the cluster. -/
def eth0 : Text := "eth0".toList

/-- The fact with the address of that interface. -/
def ipaddress_eth0 : Text := "ipaddress_eth0".toList

/-! ## The query -/

/-- `"$v.$domain"`: the certificate name of a node, as the class puts it together. -/
def certnameOf (domain v : Text) : Text := v ++ '.' :: domain

/-- `facts{name = 'ipaddress_eth0' and certname in $qhosts}`: the addresses of all nodes, the one that asks
    included. -/
def ipaddr_query (s : Settings) (domain : Text) (k : Fact) : Bool :=
  k.name == ipaddress_eth0 && (s.nodes.map (certnameOf domain)).contains k.certname

/-- An answer to the query. PuppetDB promises no order of the rows. -/
def Answered (db : PuppetDB) (s : Settings) (domain : Text) (ipaddr : List Fact) : Prop :=
  ipaddr.Perm (db.facts.filter (ipaddr_query s domain))

/-! ## The templates -/

/-- A directive with a number, such as `udpport 694`. -/
def number (key : String) (n : ℕ) : Text := key.toList ++ ' ' :: Nat.toDigits 10 n

/-- The line of an address. All heartbeats go out on `eth0`. -/
def ucast (k : Fact) : Text := "ucast eth0 ".toList ++ k.value

/-- The line of a node of the cluster. -/
def node (v : Text) : Text := "node    ".toList ++ v

/-- The lines above the loop over the addresses. The port is among them, so that it holds for all peers. -/
def headLines (s : Settings) : List Text :=
  ["debugfile /var/log/ha-debug".toList,
   "logfile /var/log/ha-log".toList,
   "logfacility     daemon".toList,
   number "keepalive" s.keepalive,
   number "deadtime" s.deadtime,
   number "warntime" s.warntime,
   number "initdead" s.initdead,
   number "udpport" s.udpport,
   "#bcast eth0".toList]

/-- The addresses of the other nodes: the template leaves out the row with the `fqdn` of the host. -/
def others (fqdn : Text) (ipaddr : List Fact) : List Fact := ipaddr.filter fun k => k.certname != fqdn

/-- The lines of the template on a host: first what it sends and to whom, then who is in the cluster. -/
def lines (s : Settings) (fqdn : Text) (ipaddr : List Fact) : List Text :=
  headLines s ++ ((others fqdn ipaddr).map ucast ++ (("auto_failback ".toList ++ s.autofailback) ::
    (s.nodes.map node ++ ["respawn hacluster /usr/lib/heartbeat/ipfail".toList])))

/-- `ha.cf.erb`, which has no newline at its end. -/
def haCf (s : Settings) (fqdn : Text) (ipaddr : List Fact) : Text := ['\n'].intercalate (lines s fqdn ipaddr)

/-! ## The documented format of `ha.cf` -/

/-- Where heartbeats are sent to: an interface, an address and a port. -/
structure Peer where
  device : Text
  address : Text
  port : ℕ
deriving DecidableEq

/-- What the lines so far say: the port for the next peer, the peers and the nodes. -/
structure Reading where
  port : ℕ
  peers : List Peer
  nodes : List Text

/-- What a line has before a comment, as words. -/
def fields (line : Text) : List Text := words (line.takeWhile (· != '#'))

/-- `ucast dev peer-ip`. A line of another shape is no peer. -/
def peersOf (port : ℕ) : List Text → List Peer
  | [device, address] => [⟨device, address, port⟩]
  | _ => []

/-- One line. A directive that is not about the cluster changes nothing here. -/
def directive (r : Reading) (line : Text) : Reading :=
  match fields line with
  | [] => r
  | key :: args =>
      if key = "udpport".toList then { r with port := (args.head?.bind ofDecimal).getD r.port }
      else if key = "ucast".toList then { r with peers := r.peers ++ peersOf r.port args }
      else if key = "node".toList then { r with nodes := r.nodes ++ args }
      else r

/-- What a whole file says. The port is 694 unless the file says otherwise. -/
def reading (file : Text) : Reading := (file.splitOn '\n').foldl directive ⟨694, [], []⟩

end Ha
end StgEnvironment
