import StgEnvironment.Configuration.Hierarchy
import StgEnvironment.Lib.Collation
import StgEnvironment.Lib.Decimal
import StgEnvironment.Lib.PacketFilter

/-!
# `Profiles.Firewall`: `firewall.pp`, and the packets that come in

The class looks up policies of chains and rules for a node, for IPv4 and for IPv6, and declares a resource for each of
them. The rules of all files are merged, so that a host can add its own.

## Contents
- **The class**: its look-ups in the hierarchy (`Configuration.Hierarchy`), its resources, and the notices that it
  declares where there is nothing to look up (`firewall`).
- **The types of the resources**: what they make of attributes is not part of the repository and a parameter (`Types`).
  The rules of a chain are in the order of their titles.
- **The documented types**: `Documented` is what their documentation says of the attributes that the data use, for
  values of the usual forms (`Usual`) and for packets as far as these attributes look at them (`Packet`).
-/

namespace StgEnvironment
namespace Profiles.Firewall
open Puppet Puppet.Hiera StgEnvironment.Configuration

/-- The two address families, which the class goes through in the same words. -/
inductive Stack where
  | ipv4
  | ipv6
deriving DecidableEq

namespace Stack

/-- As the keys of the data have them. -/
def name : Stack → Text
  | ipv4 => "ipv4".toList
  | ipv6 => "ipv6".toList

/-- As it stands in the title of a chain. -/
def protocol : Stack → Text
  | ipv4 => "IPv4".toList
  | ipv6 => "IPv6".toList

/-- The keys that are looked up. -/
def chains (s : Stack) : Text := "profiles::firewall::chain".toList ++ s.name

/-- `profiles::firewall::rules::ipv4`, and its like. -/
def rules (s : Stack) : Text := "profiles::firewall::rules::".toList ++ s.name

/-- What the rules are created with if they do not say it themselves. -/
def defaults : Stack → List (Text × Value)
  | ipv4 => []
  | ipv6 => [("provider".toList, .str "ip6tables".toList)]

/-- The titles and texts of the messages. -/
def noChains : Stack → Text × Text
  | ipv4 => ("Firewall ipv4 - chain - message".toList, "No chain rules defined".toList)
  | ipv6 => ("Firewall ipv6 - chain -message".toList, "No chain rules defined".toList)

/-- What is said without rules. -/
def noRules : Stack → Text × Text
  | ipv4 => ("Firewall ipv4 - rules - message".toList, "No rules defined".toList)
  | ipv6 => ("Firewall ipv6 - rules - message".toList, "No rules defined".toList)

end Stack

/-! ## The resources

The class looks up chains and rules for each family, and creates a resource for each entry of the hash. -/

/-- A resource of the type `firewallchain`. -/
structure Chain where
  title : Text
  purge : Bool
  policy : Value

/-- A resource of the type `firewall`. -/
structure Rule where
  title : Text
  attributes : List (Text × Value)

/-- What is declared. -/
structure Resources where
  messages : List (Text × Text)
  chains : List Chain
  rules : List Rule

/-- The module of the class, whose own data are looked up last. -/
def module_name : Text := "profiles".toList

/-- `lookup` with `default_value => "empty"`. -/
def orEmpty : Option Value → Value
  | none => .str "empty".toList
  | some v => v

/-- `== "empty"`, which takes no account of case. -/
def isEmpty : Value → Bool
  | .str t => t.map Char.toLower == "empty".toList
  | _ => false

/-- `"$k:filter:$protocol"`: a chain of the table `filter`. -/
def chainTitle (s : Stack) (k : Text) : Text := k ++ ":filter:".toList ++ s.protocol

def chainResources (s : Stack) (v : Value) : Except Failure (List Chain) :=
  (entries v).map fun es => es.map fun e => ⟨chainTitle s e.1, true, e.2⟩

/-- The attributes of a rule, with the defaults. -/
def attributesOf (s : Stack) : Value → List (Text × Value)
  | .hash es => mergeHash es s.defaults
  | _ => s.defaults

/-- `create_resources('firewall', …)`. -/
def ruleResources (s : Stack) (v : Value) : Except Failure (List Rule) :=
  (create_resources v).map fun es => es.map fun e => ⟨e.1, attributesOf s e.2⟩

/-- The chains of one family, or a notice that there are none. -/
def chainsOf (d : Datadir) (n : Node) (s : Stack) : Except Failure Resources :=
  (lookup d n module_name s.chains).bind fun found =>
    if isEmpty (orEmpty found) then .ok ⟨[s.noChains], [], []⟩
    else (chainResources s (orEmpty found)).map fun chains => ⟨[], chains, []⟩

/-- The rules are looked up with `merge => hash`. -/
def rulesOf (d : Datadir) (n : Node) (s : Stack) : Except Failure Resources :=
  (lookupWith .hash (levels d n module_name) s.rules).bind fun found =>
    if isEmpty (orEmpty found) then .ok ⟨[s.noRules], [], []⟩
    else (ruleResources s (orEmpty found)).map fun rules => ⟨[], [], rules⟩

/-- The resources of both families. -/
def Resources.append (r r' : Resources) : Resources :=
  ⟨r.messages ++ r'.messages, r.chains ++ r'.chains, r.rules ++ r'.rules⟩

/-- All that the class declares for one family. -/
def stackResources (d : Datadir) (n : Node) (s : Stack) : Except Failure Resources :=
  (chainsOf d n s).bind fun chains => (rulesOf d n s).map chains.append

/-- No resource is declared twice. -/
structure Resources.Unique (r : Resources) : Prop where
  chains : (r.chains.map Chain.title).Nodup
  rules : (r.rules.map Rule.title).Nodup

instance (r : Resources) : Decidable r.Unique :=
  decidable_of_iff ((r.chains.map Chain.title).Nodup ∧ (r.rules.map Rule.title).Nodup)
    ⟨fun h => ⟨h.1, h.2⟩, fun h => ⟨h.chains, h.rules⟩⟩

def firewall (d : Datadir) (n : Node) : Except Failure Resources :=
  (stackResources d n .ipv4).bind fun v4 => (stackResources d n .ipv6).bind fun v6 =>
    if (v4.append v6).Unique then .ok (v4.append v6) else .error .evaluation

/-! ## What the types make of them

A type says in which chain a rule is, where in the chain, what it matches and what it decides. It is a parameter,
since the types come from a module that is not part of the repository. -/

/-- The types `firewall` and `firewallchain`, for packets of a kind. -/
structure Types (π : Type) where
  /-- The order of the rules of a chain, by their titles. -/
  order : Collation Text
  /-- The chain that a rule belongs to. -/
  place : List (Text × Value) → Stack × Text
  rule : Text → List (Text × Value) → PacketFilter.Rule π
  policy : Value → PacketFilter.Verdict

section Types
variable {π : Type} (T : Types π)

/-- A resource as a rule for packets. -/
def Types.meaning (r : Rule) : PacketFilter.Rule π := T.rule r.title r.attributes

/-- The rules of a chain, in their order. -/
def Types.IsChain (rules : List Rule) (s : Stack) (c : Text) (chain : List Rule) : Prop :=
  T.order.Answers Rule.title (rules.filter fun r => T.place r.attributes == (s, c)) chain

/-- What a chain does with a packet, under a policy. -/
def Types.verdict (policy : Value) (chain : List Rule) (p : π) : PacketFilter.Verdict :=
  PacketFilter.verdict (T.policy policy) (chain.map T.meaning) p

end Types

/-! ## The types, as they are documented

The attributes that the rules of the repository have, and what they ask of a packet by the documentation. Values of
other kinds are left open. -/

/-- A packet, as far as rules look at it: where it comes in, its protocol with port or type, and the state of its
    connection. -/
structure Packet where
  iniface : Text
  proto : Text
  dport : Option ℕ
  /-- The type of an ICMP packet. -/
  icmp : Option ℕ
  state : Text
  /-- Whether the limit of a rule, by its title, is not yet reached. -/
  within : Text → Bool

/-- An attribute that is this text. -/
def isText (v : Value) (t : Text) : Bool :=
  match v with
  | .str u => u == t
  | _ => false

/-- A port, or ports from one to another with a hyphen between them, as an integer or a text. -/
def inPorts (v : Value) (port : ℕ) : Bool :=
  match v with
  | .int n => n == port
  | .str t =>
      match t.splitOn '-' with
      | [a] => ofDecimal a == some port
      | [a, b] => (ofDecimal a).any (fun a => a ≤ port) && (ofDecimal b).any fun b => port ≤ b
      | _ => false
  | _ => false

/-- An attribute that is this number of a type of ICMP. -/
def isType (v : Value) (type : ℕ) : Bool :=
  match v with
  | .int n => n == type
  | _ => false

/-- One of several states, or the only one. -/
def inStates (v : Value) (state : Text) : Bool :=
  match v with
  | .array vs => vs.any fun v => isText v state
  | v => isText v state

/-- What an attribute asks of a packet: the place of a rule and its verdict ask nothing. -/
def asks (title : Text) (p : Packet) (a : Text × Value) : Bool :=
  if a.1 = "iniface".toList then isText a.2 p.iniface
  else if a.1 = "proto".toList then isText a.2 "all".toList || isText a.2 p.proto
  else if a.1 = "dport".toList then p.dport.any fun port => inPorts a.2 port
  else if a.1 = "icmp".toList then p.icmp.any fun type => isType a.2 type
  else if a.1 = "state".toList then inStates a.2 p.state
  else if a.1 = "limit".toList then p.within title
  else true

/-! ### The attributes that are meant

The types know more than the data of the repository use: lists of ports, negations with `!`, interfaces that end in `+`,
names of ports and of messages. `Usual` leaves those out, since `asks` does not read them. -/

/-- An attribute that is a text of this kind. -/
def isStr (q : Text → Bool) : Value → Bool
  | .str t => q t
  | _ => false

/-- A name that stands for itself. -/
def isPlain (t : Text) : Bool := !t.isEmpty && !t.contains '!' && !t.contains '+'

/-- One of these texts. -/
def isOneOf (l : List String) (t : Text) : Bool := (l.map String.toList).contains t

/-- A port, or a range of two ports. -/
def isPorts : Value → Bool
  | .int n => decide (0 ≤ n) && decide (n ≤ 65535)
  | .str t => (t.splitOn '-').length ≤ 2 && (t.splitOn '-').all fun a => (ofDecimal a).isSome
  | _ => false

def isMessage : Value → Bool
  | .int n => decide (0 ≤ n) && decide (n ≤ 255)
  | _ => false

def isState : Text → Bool := isOneOf ["INVALID", "ESTABLISHED", "NEW", "RELATED"]

def isStates : Value → Bool
  | .array vs => vs.all (isStr isState)
  | v => isStr isState v

/-- The attributes that the data of the repository has, each with the kind of value that it has there. -/
def usual : List (Text × (Value → Bool)) :=
  [("chain".toList, isStr isPlain), ("iniface".toList, isStr isPlain),
   ("proto".toList, isStr (isOneOf ["tcp", "udp", "icmp", "all"])), ("dport".toList, isPorts),
   ("icmp".toList, isMessage), ("state".toList, isStates), ("limit".toList, isStr isPlain),
   ("action".toList, isStr (isOneOf ["accept", "reject", "drop"])), ("reject".toList, isStr isPlain),
   ("provider".toList, isStr (isOneOf ["iptables", "ip6tables"]))]

/-- An attribute with a value that the documentation has for it. -/
def isUsual (a : Text × Value) : Bool := (Dict.find a.1 usual).any fun q => q a.2

/-- Whether an attribute has a text for its value. -/
def hasText (attributes : List (Text × Value)) (key value : String) : Bool :=
  (Dict.find key.toList attributes).any fun v => isText v value.toList

/-- Ports are for TCP, which is also meant if there is no protocol, and for UDP; messages are for ICMP. -/
def isFitting (attributes : List (Text × Value)) : Bool :=
  ((Dict.find "dport".toList attributes).isNone ||
    !hasText attributes "proto" "icmp" && !hasText attributes "proto" "all") &&
  ((Dict.find "icmp".toList attributes).isNone || hasText attributes "proto" "icmp")

/-- All attributes of a rule are such ones, and fit together. -/
def allUsual (attributes : List (Text × Value)) : Bool := attributes.all isUsual && isFitting attributes

/-- A rule of this kind, of which the documentation says what it matches. -/
def Usual (attributes : List (Text × Value)) : Prop := allUsual attributes = true

/-! ### The documentation -/

/-- The number at the start of a title, by which rules are ordered. -/
def number (title : Text) : Text := title.take 3

/-- What the documentation of the types says about rules with these attributes. -/
structure Documented (T : Types Packet) : Prop where
  order : ∀ t t', number t < number t' → T.order.le t t' = true
  place : ∀ attributes, Usual attributes → Dict.find "provider".toList attributes = none →
    Dict.find "chain".toList attributes = some (.str "INPUT".toList) → T.place attributes = (.ipv4, "INPUT".toList)
  place_ipv6 : ∀ attributes, Dict.find "provider".toList attributes = some (.str "ip6tables".toList) →
    (T.place attributes).1 = .ipv6
  test : ∀ title attributes p, Usual attributes →
    (T.rule title attributes).test p =
      (attributes.all (asks title p) && ((Dict.find "proto".toList attributes).isSome || p.proto == "tcp".toList))
  accept : ∀ title attributes, Usual attributes →
    Dict.find "action".toList attributes = some (.str "accept".toList) → (T.rule title attributes).verdict = .accept
  reject : ∀ title attributes, Usual attributes →
    Dict.find "action".toList attributes = some (.str "reject".toList) → (T.rule title attributes).verdict = .reject
  drop : T.policy (.str "drop".toList) = .drop

/-- The chain of a rule, `INPUT` if it does not say. -/
def chainNamed : Option Value → Text
  | some (.str c) => c
  | _ => "INPUT".toList

/-- Types that are as documented: a title sorts as a text, all attributes of a rule have to match, and without a
    protocol the rule is for `tcp`. -/
def documentedTypes : Types Packet where
  order := Collation.codePoints
  place attributes :=
    (if hasText attributes "provider" "ip6tables" then .ipv6 else .ipv4,
      chainNamed (Dict.find "chain".toList attributes))
  rule title attributes :=
    ⟨fun p => attributes.all (asks title p) &&
        ((Dict.find "proto".toList attributes).isSome || p.proto == "tcp".toList),
      if hasText attributes "action" "accept" then .accept
      else if hasText attributes "action" "reject" then .reject
      else .drop⟩
  policy v := if isText v "drop".toList then .drop else .accept

/-- Titles compare as their beginnings do, if these differ. -/
theorem lt_of_take_lt : ∀ {k : ℕ} {t t' : Text}, t.take k < t'.take k → t < t' := by
  intro k
  induction k with
  | zero =>
      intro t t' h
      rw [List.take_zero, List.take_zero] at h
      exact absurd h (lt_irrefl _)
  | succ k ih =>
      intro t t' h
      cases t' with
      | nil => rw [List.take_nil] at h; exact absurd h (List.not_lt_nil _)
      | cons c t' =>
          cases t with
          | nil => exact List.nil_lt_cons ..
          | cons b t =>
              rw [List.take_succ_cons, List.take_succ_cons, List.cons_lt_cons_iff] at h
              rw [List.cons_lt_cons_iff]
              exact h.imp id fun hand => ⟨hand.1, ih hand.2⟩

theorem documentedTypes_documented : Documented documentedTypes where
  order t t' h := decide_eq_true (le_of_lt (lt_of_take_lt h))
  place attributes _ hprovider hchain := by
    show (if hasText attributes _ _ then _ else _, chainNamed _) = _
    rw [hasText, hprovider, hchain]
    rfl
  place_ipv6 attributes hprovider := by
    show (if hasText attributes _ _ then _ else _) = _
    rw [hasText, hprovider]
    rfl
  test _ _ _ _ := rfl
  accept title attributes _ haction := by
    show (if hasText attributes "action" "accept" then _ else _) = _
    rw [hasText, haction]
    rfl
  reject title attributes _ haction := by
    show (if hasText attributes "action" "accept" then _ else if hasText attributes "action" "reject" then _ else _) = _
    rw [hasText, hasText, haction]
    rfl
  drop := rfl

end Profiles.Firewall
end StgEnvironment
