import StgEnvironment.Ha.Correctness.Heartbeat
import StgEnvironment.Profiles.Correctness.DsapiFirewall

/-!
# `Ha.Correctness.Arrival`: heartbeats at the firewall

The nodes of the cluster have the role `dsapi`, whose rules let only TCP in on `eth0`. So the heartbeats, which are UDP,
come in to a node if its own rules have the port of the class, and are dropped if they do not (`heartbeats_arrive`).

The result joins two parts of the repository that do not know of each other: the peers are those of the file `ha.cf`
(`Ha.Heartbeat`), and the verdict is that of the chain `INPUT` which the rules of role and node make
(`Profiles.Firewall`). The types of the rules are a parameter with the documented behaviour (`Documented`).
-/

namespace StgEnvironment
namespace Ha
open Profiles.Hosts (Fact PuppetDB)
open Profiles.Firewall StgEnvironment.Configuration

/-- What a peer receives: a packet on its interface to its port, over UDP. -/
structure IsHeartbeat (peer : Peer) (p : Packet) : Prop where
  iniface : p.iniface = peer.device
  proto : p.proto = "udp".toList
  dport : p.dport = some peer.port

/-- A packet that belongs to nothing before it, as the first heartbeat of a node does. -/
def New (p : Packet) : Prop := p.state ≠ "RELATED".toList ∧ p.state ≠ "ESTABLISHED".toList

/-- The rule that a node needs among its own, and that `dsapi.yaml` does not have. -/
def heartbeatRule (title : String) (port : ℕ) : Text × Puppet.Value :=
  input title [text "proto" "udp", int "dport" port, text "action" "accept"]

variable {s : Settings} {db : PuppetDB} {domain : Text} {d : Datadir} {n : Node} {own : List (Text × Puppet.Value)}
  {T : Types Packet} {p : Packet}

/-- No rule of the role is for packets like this: they are not from the host itself, not for `ident`, and not TCP. -/
theorem IsHeartbeat.closed {peer : Peer} (h : IsHeartbeat peer p) (hnew : New p) :
    ¬ Trusted p ∧ ¬ Ident p ∧ ¬ Open p := by
  have htcp : ¬ Tcp p := fun htcp => absurd (h.proto.symm.trans htcp) (by decide)
  have hicmp : ¬ Icmp p := fun hicmp => absurd (h.proto.symm.trans hicmp) (by decide)
  refine ⟨?_, fun hident => htcp hident.1, ?_⟩
  · rintro (⟨-, hin⟩ | hrelated | hestablished)
    · exact htcp hin
    · exact hnew.1 hrelated
    · exact hnew.2 hestablished
  · rintro (⟨hin, -⟩ | ⟨hin, -⟩)
    · exact htcp hin
    · exact hicmp hin

/-- **Heartbeats come in where the rules of the node have their port, and are dropped where no rule of it matches.**
    For each address of each other node there is a peer in `ha.cf`; a datagram to it is judged by the chain of a
    `dsapi` node (`verdict_chain`), where the rules of the node decide about it unless it is trusted. -/
theorem heartbeats_arrive {ipaddr : List Fact} (hanswer : Answered db s domain ipaddr) (D : Documented T)
    (h : DsapiNode d n own) {r : Resources} (hr : firewall d n = .ok r) {chain : List Rule}
    (hchain : T.IsChain r.rules .ipv4 "INPUT".toList chain) :
    ∃ c ∈ r.chains, c.title = chainTitle .ipv4 "INPUT".toList ∧
      ∀ v ∈ s.nodes, ∀ v' ∈ s.nodes, v' ≠ v → ∀ a ∈ addresses db domain v',
        ∃ peer ∈ (reading (haCf s (certnameOf domain v) ipaddr)).peers, peer.address = a ∧
          ∀ p, IsHeartbeat peer p →
            ((∃ title, heartbeatRule title s.udpport ∈ own) → T.verdict c.policy chain p = .accept) ∧
            ((∀ e ∈ own, matched p e = false) → New p → T.verdict c.policy chain p = .drop) := by
  refine ⟨_, h.policy hr, rfl, fun v _ v' hv' hne a ha =>
    ⟨_, hanswer.mem_peers.mpr ⟨v', hv', hne, a, ha, rfl⟩, rfl, fun p hp => ?_⟩⟩
  obtain ⟨haccept, -, hopened, hdrop⟩ :=
    h.beside.verdict_chain D hchain.sorted (fun x => h.mem_chain D hr hchain) (.str "drop".toList) p
  refine ⟨?_, fun hnone hnew => ?_⟩
  · rintro ⟨title, htitle⟩
    by_cases htrusted : Trusted p
    · exact haccept htrusted
    · have hident : ¬ Ident p := fun hident => absurd (hp.proto.symm.trans hident.1) (by decide)
      refine hopened htrusted hident (Or.inr ⟨_, htitle, ?_⟩)
      exact (matched_port p title "udp" rfl s.udpport).mpr ⟨hp.proto, hp.dport⟩
  · obtain ⟨htrusted, hident, hopen⟩ := hp.closed hnew
    rw [hdrop htrusted hident, D.drop]
    rintro (hin | ⟨e, he, hm⟩)
    · exact hopen hin
    · rw [hnone e he] at hm
      cases hm

/-- The heartbeats from `os13dsapi03` to `os13dsapi02` come in, where the rule is among those of the node. -/
theorem heartbeats_arrive_os13dsapi02 :
    ∃ chain, documentedTypes.IsChain dsapiResources.rules .ipv4 "INPUT".toList chain ∧
    ∃ c ∈ dsapiResources.chains, ∃ peer ∈
      (reading (haCf stgSettings (certnameOf stgDomain "os13dsapi03".toList) stgAnswer)).peers,
      ∀ p, IsHeartbeat peer p → documentedTypes.verdict c.policy chain p = .accept := by
  obtain ⟨chain, hchain⟩ := documentedTypes.order.exists_answers Rule.title
    (dsapiResources.rules.filter fun x => documentedTypes.place x.attributes == (.ipv4, "INPUT".toList))
  obtain ⟨c, hc, -, hsend⟩ :=
    heartbeats_arrive stgAnswer_answered documentedTypes_documented dsapiNode_os13dsapi02 firewall_dsapiData hchain
  obtain ⟨peer, hpeer, -, harrive⟩ := hsend "os13dsapi03".toList (by decide) "os13dsapi02".toList (by decide)
    (by decide) "192.168.139.102".toList (by decide +kernel)
  exact ⟨chain, hchain, c, hc, peer, hpeer, fun p hp =>
    (harrive p hp).1 ⟨"800 Allow Kafka hearthbeat", List.mem_cons_self ..⟩⟩

end Ha
end StgEnvironment
