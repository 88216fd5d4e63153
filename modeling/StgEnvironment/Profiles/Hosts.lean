import StgEnvironment.Lib.Collation

/-!
# `Profiles.Hosts`: the file `/etc/hosts` of `baseprofile`

`query` and `query_dmz` are the conditions of the two PuppetDB queries, each ordered by `certname`, and `hostsErb`
is the template that writes their answers below its static lines. `hostsEntries` reads such a file the way a
resolver does: an address, and the names for it.

PuppetDB holds facts whose names and values are words (`PuppetDB`), and orders the rows of an answer by a collation of
which nothing is known but that it is one (`Lib.Collation`). Rows with one certificate name may come in any order.
-/

namespace StgEnvironment
namespace Profiles.Hosts

/-- A row of the answer to a `facts` query: a fact of a host, with the environment of the host. -/
structure Fact where
  certname : Text
  name : Text
  value : Text
  environment : Text
deriving DecidableEq

/-- A text that a line of a hosts file keeps in one piece. -/
def Token (t : Text) : Prop := IsWord t ∧ '#' ∉ t

instance (t : Text) : Decidable (Token t) := inferInstanceAs (Decidable (_ ∧ _))

/-- The names in `$query`. -/
def queryNames : List Text :=
  ["ipaddress_eth0".toList, "ipaddress_bond0".toList, "ipaddress_eno1".toList, "ipaddress_extbr0".toList]

/-- The names in `$query_dmz`. -/
def queryDmzNames : List Text := ["ipaddress_eth1".toList, "ipaddress_bond0".toList]

/-- The facts that PuppetDB stores. The names of hosts and their addresses have no blank and no comment sign. -/
structure PuppetDB where
  facts : List Fact
  nodup : facts.Nodup
  certname_token : ∀ k ∈ facts, Token k.certname
  value_token : ∀ k ∈ facts, k.name ∈ queryNames ++ queryDmzNames → Token k.value

/-! ## The queries -/

/-- `certname ~ '^dsapi' or certname ~ '^mp13dsapi'`. -/
def dsapi (certname : Text) : Bool :=
  "dsapi".toList.isPrefixOf certname || "mp13dsapi".toList.isPrefixOf certname

/-- The rows of `$query`. -/
def query (agent_specified_environment : Text) (k : Fact) : Bool :=
  queryNames.contains k.name && !dsapi k.certname && k.environment == agent_specified_environment

/-- The rows of `$query_dmz`. -/
def query_dmz (agent_specified_environment : Text) (k : Fact) : Bool :=
  queryDmzNames.contains k.name && dsapi k.certname && k.environment == agent_specified_environment

/-- The rows of either. -/
def selected (agent_specified_environment : Text) (k : Fact) : Bool :=
  query agent_specified_environment k || query_dmz agent_specified_environment k

/-- Answers to the two queries, ordered by `certname`: rows of one host may come in any order. -/
structure Answered (C : Collation Text) (db : PuppetDB) (agent_specified_environment : Text)
    (ips ips_dmz : List Fact) : Prop where
  query : C.Answers Fact.certname (db.facts.filter (query agent_specified_environment)) ips
  query_dmz : C.Answers Fact.certname (db.facts.filter (query_dmz agent_specified_environment)) ips_dmz

/-! ## The template -/

/-- `certname.split('.')[0]`, as the template writes it. -/
def short (certname : Text) : Text := certname.takeWhile (· != '.')

/-- The line for one row. -/
def hostLine (k : Fact) : Text :=
  k.value ++ ("    ".toList ++ (k.certname ++ ("    ".toList ++ short k.certname)))

/-- The lines above the loops. -/
def staticLines : List Text :=
  ["# This file is managed by Puppet".toList,
   [],
   "127.0.0.1\t\tlocalhost".toList,
   "\t\t".toList,
   "# The following lines are desirable for IPv6 capable hosts\t\t".toList,
   "::1     ip6-localhost ip6-loopback\t\t".toList,
   "fe00::0 ip6-localnet\t\t".toList,
   "ff00::0 ip6-mcastprefix\t\t".toList,
   "ff02::1 ip6-allnodes\t\t".toList,
   "ff02::2 ip6-allrouters\t\t".toList,
   []]

/-- The template `hosts.erb`. -/
def hostsErb (ips ips_dmz : List Fact) : Text :=
  endLines (staticLines ++ (ips.map hostLine ++ ips_dmz.map hostLine))

/-- The short name is what the certificate name starts with. -/
theorem short_isPrefix (certname : Text) : short certname <+: certname := List.takeWhile_prefix _

theorem hostLine_eq (k : Fact) : hostLine k =
    k.value ++ ' ' :: ' ' :: (' ' :: ' ' :: (k.certname ++ ' ' :: ' ' :: (' ' :: ' ' :: short k.certname))) := rfl

theorem newline_notMem_hostLine {k : Fact} (hv : '\n' ∉ k.value) (hc : '\n' ∉ k.certname) :
    '\n' ∉ hostLine k := by
  have hs : '\n' ∉ short k.certname := fun hmem => hc ((short_isPrefix k.certname).subset hmem)
  simp [hostLine_eq, hv, hc, hs]

theorem splitOn_hostsErb {ips ips_dmz : List Fact} (h : ∀ k ∈ ips ++ ips_dmz, '\n' ∉ hostLine k) :
    (hostsErb ips ips_dmz).splitOn '\n' = staticLines ++ ((ips ++ ips_dmz).map hostLine ++ [[]]) := by
  have hstatic : ∀ line ∈ staticLines, '\n' ∉ line := by decide
  rw [hostsErb, ← List.map_append, splitOn_endLines, List.append_assoc]
  intro line hline
  rcases List.mem_append.mp hline with hl | hl
  · exact hstatic line hl
  · obtain ⟨k, hk, rfl⟩ := List.mem_map.mp hl
    exact h k hk

/-! ## Reading it -/

/-- The address and the names on a line, if there are any before the comment. -/
def hostsEntry (line : Text) : Option (Text × List Text) :=
  match words (line.takeWhile (· != '#')) with
  | [] => none
  | address :: names => some (address, names)

/-- The entries of a file, in the order in which a resolver finds them. -/
def hostsEntries (file : Text) : List (Text × List Text) := (file.splitOn '\n').filterMap hostsEntry

/-- The file maps the name to the address. -/
def MapsTo (file name address : Text) : Prop := ∃ names, (address, names) ∈ hostsEntries file ∧ name ∈ names

end Profiles.Hosts
end StgEnvironment
