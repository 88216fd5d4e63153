import StgEnvironment.Profiles.Correctness.Firewall

/-!
# `Profiles.Correctness.DsapiFirewall`: what comes in to a host of the role `dsapi`

The rules of the role, and the packets that they are for. Whatever the order of the rules that share a number, the chain
`INPUT` lets in the packets of the first three rules, those to a port that is open and four types of ICMP, and rejects
what else goes to port 113 (`dsapi_admits`). The rule that is named for type 4 has type 8, so that there is no limit on
type 8, and type 4 does not come in.

## Contents
- **The rules of `dsapi.yaml`**, one by one, and the packets in the terms of a reader (`Trusted`, `Open`, `Ident`).
- **What a rule matches**: one lemma for each form of a rule; and for each kind of packet that some rule is for it
  (`exists_open` and its likes), and that no rule is for more (`dsapi_of_matched`).
- **The chain**: the rules of role and host, in the order of their titles. It is enough that the first three have
  smaller numbers than the rule for `ident`, and this one a smaller number than all that accept TCP.
- **A node of the role**: from the data of the node to its chain, with rules of its own (`DsapiNode`).
-/

namespace StgEnvironment
namespace Profiles.Firewall
open Puppet Puppet.Hiera StgEnvironment.Configuration

variable {d : Datadir} {n : Node}

/-! ## The rules

The rules as the file has them, and the kinds of packets that they are for. The kinds are those of a reader of the
file: what is trusted, what is open, and the one port that is rejected. -/

abbrev text (key value : String) : Text × Value := (key.toList, .str value.toList)

/-- An attribute that is a number. -/
abbrev int (key : String) (value : ℤ) : Text × Value := (key.toList, .int value)

/-- A rule for the chain `INPUT`. -/
def input (title : String) (attributes : List (Text × Value)) : Text × Value :=
  (title.toList, .hash (text "chain" "INPUT" :: attributes))

/-- `profiles::firewall::chainipv4` in `roles/dsapi.yaml`. -/
def dsapiChains : List (Text × Value) := [text "INPUT" "drop", text "FORWARD" "drop", text "OUTPUT" "accept"]

/-- `profiles::firewall::rules::ipv4` in `roles/dsapi.yaml`, in the order of the file. Two titles have the number 014,
    and rule 013 is for type 8 like rule 011. -/
def dsapiRules : List (Text × Value) :=
  [input "001 allow loopback" [text "iniface" "lo", text "action" "accept"],
   input "002 allow eth0 internal interface" [text "iniface" "eth0", text "action" "accept"],
   input "003 allow established / related"
     [text "proto" "all", ("state".toList, .array [.str "RELATED".toList, .str "ESTABLISHED".toList]),
      text "action" "accept"],
   input "004 allow datastore applications" [text "proto" "tcp", text "dport" "8079-8101", text "action" "accept"],
   input "005 accept datastore application admin ports"
     [text "proto" "tcp", text "dport" "9990-10009", text "action" "accept"],
   input "006 accept port 60022" [text "proto" "tcp", int "dport" 60022, text "action" "accept"],
   input "007 accept port 60098:60099" [text "proto" "tcp", text "dport" "60098-60099", text "action" "accept"],
   input "008 reject ident"
     [text "proto" "tcp", int "dport" 113, text "action" "reject", text "reject" "icmp-port-unreachable"],
   input "009 accept icmp type 11" [text "proto" "icmp", int "icmp" 11, text "action" "accept"],
   input "010 accept icmp type 3" [text "proto" "icmp", int "icmp" 3, text "action" "accept"],
   input "011 accept icmp type 8"
     [text "proto" "icmp", int "icmp" 8, text "limit" "15/sec", text "action" "accept"],
   input "012 accept icmp type 0"
     [text "proto" "icmp", int "icmp" 0, text "limit" "15/sec", text "action" "accept"],
   input "013 accept icmp type 4" [text "proto" "icmp", int "icmp" 8, text "action" "accept"],
   input "014 allow nagios" [text "proto" "tcp", int "dport" 5666, text "action" "accept"],
   input "015 allow ssh" [text "proto" "tcp", int "dport" 22, text "action" "accept"],
   input "014 allow ds-reader" [text "proto" "tcp", int "dport" 8889, text "action" "accept"]]

/-- The rule that rejects. -/
def ident : Text := "008 reject ident".toList

def Tcp (p : Packet) : Prop := p.proto = "tcp".toList

def Icmp (p : Packet) : Prop := p.proto = "icmp".toList

/-- The packets for which the first three rules are. -/
def Trusted (p : Packet) : Prop :=
  (p.iniface = "lo".toList ∨ p.iniface = "eth0".toList) ∧ Tcp p ∨
    p.state = "RELATED".toList ∨ p.state = "ESTABLISHED".toList

/-- The ports that are open. -/
def OpenPort (port : ℕ) : Prop :=
  8079 ≤ port ∧ port ≤ 8101 ∨ 9990 ≤ port ∧ port ≤ 10009 ∨ port = 60022 ∨ 60098 ≤ port ∧ port ≤ 60099 ∨
    port = 5666 ∨ port = 22 ∨ port = 8889

/-- The messages that come in: answers to a ping have a limit. -/
def OpenType (within : Text → Bool) (type : ℕ) : Prop :=
  type = 11 ∨ type = 3 ∨ type = 8 ∨ type = 0 ∧ within "012 accept icmp type 0".toList = true

/-- What the rules behind the first three let in. -/
def Open (p : Packet) : Prop :=
  (Tcp p ∧ ∃ port, p.dport = some port ∧ OpenPort port) ∨ (Icmp p ∧ ∃ type, p.icmp = some type ∧ OpenType p.within type)

/-- `113`, the port of the rule that rejects. -/
def Ident (p : Packet) : Prop := Tcp p ∧ p.dport = some 113

/-! ## What the rules ask

One lemma for each kind of attribute. Together they say of every rule, by its attributes alone, which packets match
it. -/

/-- Whether a rule of the data matches, as it is documented. -/
def matched (p : Packet) (e : Text × Value) : Bool :=
  (attributesOf .ipv4 e.2).all (asks e.1 p) &&
    ((Dict.find "proto".toList (attributesOf .ipv4 e.2)).isSome || p.proto == "tcp".toList)

/-- For IPv4 nothing is added to the attributes of a rule. -/
theorem attributesOf_ipv4 (es : List (Text × Value)) : attributesOf .ipv4 (.hash es) = es := by
  rw [attributesOf, mergeHash]
  exact List.filter_eq_self.mpr fun _ _ => rfl

section Shapes
variable (p : Packet) (title : String)

/-- A rule for an interface is for TCP, the default of `proto`. -/
theorem matched_iniface (i a : String) :
    matched p (input title [text "iniface" i, text "action" a]) =
      (i.toList == p.iniface && p.proto == "tcp".toList) := by
  rw [matched, input, attributesOf_ipv4]
  show (true && (isText (.str i.toList) p.iniface && (true && true)) && (false || p.proto == "tcp".toList)) = _
  rw [Bool.true_and, Bool.true_and, Bool.and_true, Bool.false_or]
  rfl

theorem matched_state (v : Value) (a : String) :
    matched p (input title [text "proto" "all", ("state".toList, v), text "action" a]) = inStates v p.state := by
  rw [matched, input, attributesOf_ipv4]
  show (true && (true && (inStates v p.state && (true && true))) && true) = _
  simp only [Bool.true_and, Bool.and_true]

/-- A rule for a port, with or without a kind of rejection. -/
theorem matched_dport (proto : String) (hproto : (proto.toList == "all".toList) = false) (v : Value) (a : String)
    {rest : List (Text × Value)} (hrest : rest = [] ∨ ∃ r, rest = [text "reject" r]) :
    matched p (input title (text "proto" proto :: ("dport".toList, v) :: text "action" a :: rest)) =
      (proto.toList == p.proto && p.dport.any fun port => inPorts v port) := by
  rw [matched, input, attributesOf_ipv4]
  have hall : rest.all (asks title.toList p) = true := by
    rcases hrest with rfl | ⟨r, rfl⟩ <;> rfl
  show (true && ((proto.toList == "all".toList || proto.toList == p.proto) &&
    ((p.dport.any fun port => inPorts v port) && (true && rest.all (asks title.toList p)))) && true) = _
  rw [hall, hproto]
  simp only [Bool.true_and, Bool.and_true, Bool.false_or]

theorem matched_icmp (v : Value) (a : String) :
    matched p (input title [text "proto" "icmp", ("icmp".toList, v), text "action" a]) =
      ("icmp".toList == p.proto && p.icmp.any fun type => isType v type) := by
  rw [matched, input, attributesOf_ipv4]
  show (true && ((false || "icmp".toList == p.proto) && ((p.icmp.any fun type => isType v type) &&
    (true && true))) && true) = _
  simp only [Bool.true_and, Bool.and_true, Bool.false_or]

theorem matched_limit (v : Value) (l a : String) :
    matched p (input title [text "proto" "icmp", ("icmp".toList, v), text "limit" l, text "action" a]) =
      ("icmp".toList == p.proto && ((p.icmp.any fun type => isType v type) && p.within title.toList)) := by
  rw [matched, input, attributesOf_ipv4]
  show (true && ((false || "icmp".toList == p.proto) && ((p.icmp.any fun type => isType v type) &&
    (p.within title.toList && (true && true)))) && true) = _
  simp only [Bool.true_and, Bool.and_true, Bool.false_or]

end Shapes

theorem inPorts_int (k port : ℕ) : inPorts (.int k) port = true ↔ port = k := by
  show ((k : ℤ) == (port : ℤ)) = true ↔ _
  rw [beq_iff_eq, Int.natCast_inj, eq_comm]

theorem isType_int (k type : ℕ) : isType (.int k) type = true ↔ type = k := by
  show ((k : ℤ) == (type : ℤ)) = true ↔ _
  rw [beq_iff_eq, Int.natCast_inj, eq_comm]

theorem inPorts_applications (port : ℕ) :
    inPorts (.str "8079-8101".toList) port = (decide (8079 ≤ port) && decide (port ≤ 8101)) := rfl

theorem inPorts_admin (port : ℕ) :
    inPorts (.str "9990-10009".toList) port = (decide (9990 ≤ port) && decide (port ≤ 10009)) := rfl

theorem inPorts_60098 (port : ℕ) :
    inPorts (.str "60098-60099".toList) port = (decide (60098 ≤ port) && decide (port ≤ 60099)) := rfl

/-! ## The packets that a rule is for

Both directions between rules and kinds of packets: what a packet is like that some rule matches, and a rule for
every packet of a kind. -/

variable {p : Packet}

theorem option_any_iff {α : Type} {o : Option α} {q : α → Bool} : o.any q = true ↔ ∃ a, o = some a ∧ q a = true := by
  cases o <;> simp

theorem open_of_dport {v : Value} (hv : ∀ port, inPorts v port = true → OpenPort port)
    (h : ("tcp".toList == p.proto && p.dport.any fun port => inPorts v port) = true) : Open p := by
  obtain ⟨htcp, hport⟩ := (Bool.and_eq_true ..).mp h
  obtain ⟨port, hport, hin⟩ := option_any_iff.mp hport
  exact Or.inl ⟨(beq_iff_eq.mp htcp).symm, port, hport, hv port hin⟩

/-- A rule for a type that is open lets in packets that are open. -/
theorem open_of_icmp {k : ℕ} (hk : OpenType p.within k)
    (h : ("icmp".toList == p.proto && p.icmp.any fun type => isType (.int k) type) = true) : Open p := by
  obtain ⟨hicmp, htype⟩ := (Bool.and_eq_true ..).mp h
  obtain ⟨type, htype, hin⟩ := option_any_iff.mp htype
  exact Or.inr ⟨(beq_iff_eq.mp hicmp).symm, type, htype, (isType_int k type).mp hin ▸ hk⟩

theorem matched_of_dport {v : Value} {port : ℕ} (htcp : Tcp p) (hport : p.dport = some port)
    (hin : inPorts v port = true) : ("tcp".toList == p.proto && p.dport.any fun port => inPorts v port) = true := by
  rw [htcp, hport]
  exact hin

theorem matched_of_icmp {k : ℕ} (hicmp : Icmp p) (htype : p.icmp = some k) :
    ("icmp".toList == p.proto && p.icmp.any fun type => isType (.int k) type) = true := by
  rw [hicmp, htype]
  exact (isType_int k k).mpr rfl

theorem inStates_iff (state : Text) :
    inStates (.array [.str "RELATED".toList, .str "ESTABLISHED".toList]) state = true ↔
      state = "RELATED".toList ∨ state = "ESTABLISHED".toList := by
  show ("RELATED".toList == state || ("ESTABLISHED".toList == state || false)) = true ↔ _
  rw [Bool.or_false, Bool.or_eq_true, beq_iff_eq, beq_iff_eq, eq_comm, @eq_comm _ "ESTABLISHED".toList]

/-- What a packet is like that a rule matches: trusted, sent to `ident`, or open, by where the number of the rule is.
    By cases on the sixteen rules. -/
theorem dsapi_of_matched {e : Text × Value} (he : e ∈ dsapiRules) (h : matched p e = true) :
    (number e.1 < number ident ∧ Trusted p) ∨ (e.1 = ident ∧ Ident p) ∨ (e.1 ≠ ident ∧ Open p) := by
  simp only [dsapiRules, List.mem_cons, List.not_mem_nil, or_false] at he
  rcases he with rfl | rfl | rfl | rfl | rfl | rfl | rfl | rfl | rfl | rfl | rfl | rfl | rfl | rfl | rfl | rfl
  · rw [matched_iniface] at h
    obtain ⟨hi, htcp⟩ := (Bool.and_eq_true ..).mp h
    exact Or.inl ⟨by decide, Or.inl ⟨Or.inl (beq_iff_eq.mp hi).symm, beq_iff_eq.mp htcp⟩⟩
  · rw [matched_iniface] at h
    obtain ⟨hi, htcp⟩ := (Bool.and_eq_true ..).mp h
    exact Or.inl ⟨by decide, Or.inl ⟨Or.inr (beq_iff_eq.mp hi).symm, beq_iff_eq.mp htcp⟩⟩
  · rw [matched_state] at h
    exact Or.inl ⟨by decide, Or.inr ((inStates_iff _).mp h)⟩
  · rw [matched_dport p _ "tcp" rfl _ _ (Or.inl rfl)] at h
    refine Or.inr (Or.inr ⟨by decide, open_of_dport (fun port hin => ?_) h⟩)
    rw [inPorts_applications, Bool.and_eq_true, decide_eq_true_eq, decide_eq_true_eq] at hin
    unfold OpenPort
    omega
  · rw [matched_dport p _ "tcp" rfl _ _ (Or.inl rfl)] at h
    refine Or.inr (Or.inr ⟨by decide, open_of_dport (fun port hin => ?_) h⟩)
    rw [inPorts_admin, Bool.and_eq_true, decide_eq_true_eq, decide_eq_true_eq] at hin
    unfold OpenPort
    omega
  · rw [matched_dport p _ "tcp" rfl _ _ (Or.inl rfl)] at h
    refine Or.inr (Or.inr ⟨by decide, open_of_dport (fun port hin => ?_) h⟩)
    have hport := (inPorts_int 60022 port).mp hin
    unfold OpenPort
    omega
  · rw [matched_dport p _ "tcp" rfl _ _ (Or.inl rfl)] at h
    refine Or.inr (Or.inr ⟨by decide, open_of_dport (fun port hin => ?_) h⟩)
    rw [inPorts_60098, Bool.and_eq_true, decide_eq_true_eq, decide_eq_true_eq] at hin
    unfold OpenPort
    omega
  · rw [matched_dport p _ "tcp" rfl _ _ (Or.inr ⟨_, rfl⟩)] at h
    obtain ⟨htcp, hport⟩ := (Bool.and_eq_true ..).mp h
    obtain ⟨port, hport, hin⟩ := option_any_iff.mp hport
    exact Or.inr (Or.inl ⟨rfl, (beq_iff_eq.mp htcp).symm, (inPorts_int 113 port).mp hin ▸ hport⟩)
  · rw [matched_icmp] at h
    exact Or.inr (Or.inr ⟨by decide, open_of_icmp (k := 11) (Or.inl rfl) h⟩)
  · rw [matched_icmp] at h
    exact Or.inr (Or.inr ⟨by decide, open_of_icmp (k := 3) (Or.inr (Or.inl rfl)) h⟩)
  · rw [matched_limit, ← Bool.and_assoc, Bool.and_eq_true] at h
    exact Or.inr (Or.inr ⟨by decide, open_of_icmp (k := 8) (Or.inr (Or.inr (Or.inl rfl))) h.1⟩)
  · rw [matched_limit, ← Bool.and_assoc, Bool.and_eq_true] at h
    exact Or.inr (Or.inr ⟨by decide, open_of_icmp (k := 0) (Or.inr (Or.inr (Or.inr ⟨rfl, h.2⟩))) h.1⟩)
  · rw [matched_icmp] at h
    exact Or.inr (Or.inr ⟨by decide, open_of_icmp (k := 8) (Or.inr (Or.inr (Or.inl rfl))) h⟩)
  · rw [matched_dport p _ "tcp" rfl _ _ (Or.inl rfl)] at h
    refine Or.inr (Or.inr ⟨by decide, open_of_dport (fun port hin => ?_) h⟩)
    have hport := (inPorts_int 5666 port).mp hin
    unfold OpenPort
    omega
  · rw [matched_dport p _ "tcp" rfl _ _ (Or.inl rfl)] at h
    refine Or.inr (Or.inr ⟨by decide, open_of_dport (fun port hin => ?_) h⟩)
    have hport := (inPorts_int 22 port).mp hin
    unfold OpenPort
    omega
  · rw [matched_dport p _ "tcp" rfl _ _ (Or.inl rfl)] at h
    refine Or.inr (Or.inr ⟨by decide, open_of_dport (fun port hin => ?_) h⟩)
    have hport := (inPorts_int 8889 port).mp hin
    unfold OpenPort
    omega

/-- Trusted packets have a rule with a number below that of `ident`. -/
theorem exists_trusted (h : Trusted p) : ∃ e ∈ dsapiRules, number e.1 < number ident ∧ matched p e = true := by
  rcases h with ⟨hlo | heth, htcp⟩ | hstate
  · refine ⟨dsapiRules.get ⟨0, by decide⟩, List.get_mem .., by decide, (matched_iniface p _ _ _).trans ?_⟩
    rw [hlo, htcp]
    rfl
  · refine ⟨dsapiRules.get ⟨1, by decide⟩, List.get_mem .., by decide, (matched_iniface p _ _ _).trans ?_⟩
    rw [heth, htcp]
    rfl
  · exact ⟨dsapiRules.get ⟨2, by decide⟩, List.get_mem .., by decide,
      (matched_state p _ _ _).trans ((inStates_iff _).mpr hstate)⟩

theorem exists_dport (i : Fin dsapiRules.length) {t a : String} {v : Value}
    (hi : dsapiRules.get i = input t [text "proto" "tcp", ("dport".toList, v), text "action" a])
    (hne : t.toList ≠ ident) {port : ℕ} (htcp : Tcp p) (hport : p.dport = some port) (hin : inPorts v port = true) :
    ∃ e ∈ dsapiRules, e.1 ≠ ident ∧ matched p e = true := by
  refine ⟨dsapiRules.get i, List.get_mem .., ?_, ?_⟩
  · rwa [hi]
  · rw [hi, matched_dport p t "tcp" rfl v a (Or.inl rfl)]
    exact matched_of_dport htcp hport hin

theorem exists_icmp (i : Fin dsapiRules.length) {t a : String} {k : ℕ}
    (hi : dsapiRules.get i = input t [text "proto" "icmp", ("icmp".toList, .int k), text "action" a])
    (hne : t.toList ≠ ident) (hicmp : Icmp p) (htype : p.icmp = some k) :
    ∃ e ∈ dsapiRules, e.1 ≠ ident ∧ matched p e = true := by
  refine ⟨dsapiRules.get i, List.get_mem .., ?_, ?_⟩
  · rwa [hi]
  · rw [hi, matched_icmp]
    exact matched_of_icmp hicmp htype

theorem exists_open (h : Open p) : ∃ e ∈ dsapiRules, e.1 ≠ ident ∧ matched p e = true := by
  rcases h with ⟨htcp, port, hport, hopen⟩ | ⟨hicmp, type, htype, hopen⟩
  · rcases hopen with h | h | h | h | h | h | h
    · refine exists_dport ⟨3, by decide⟩ rfl (by decide) htcp hport ?_
      rw [inPorts_applications, Bool.and_eq_true, decide_eq_true_eq, decide_eq_true_eq]
      exact h
    · refine exists_dport ⟨4, by decide⟩ rfl (by decide) htcp hport ?_
      rw [inPorts_admin, Bool.and_eq_true, decide_eq_true_eq, decide_eq_true_eq]
      exact h
    · exact exists_dport ⟨5, by decide⟩ rfl (by decide) htcp hport ((inPorts_int 60022 port).mpr h)
    · refine exists_dport ⟨6, by decide⟩ rfl (by decide) htcp hport ?_
      rw [inPorts_60098, Bool.and_eq_true, decide_eq_true_eq, decide_eq_true_eq]
      exact h
    · exact exists_dport ⟨13, by decide⟩ rfl (by decide) htcp hport ((inPorts_int 5666 port).mpr h)
    · exact exists_dport ⟨14, by decide⟩ rfl (by decide) htcp hport ((inPorts_int 22 port).mpr h)
    · exact exists_dport ⟨15, by decide⟩ rfl (by decide) htcp hport ((inPorts_int 8889 port).mpr h)
  · rcases hopen with rfl | rfl | rfl | ⟨rfl, hwithin⟩
    · exact exists_icmp ⟨8, by decide⟩ rfl (by decide) hicmp htype
    · exact exists_icmp ⟨9, by decide⟩ rfl (by decide) hicmp htype
    · exact exists_icmp ⟨12, by decide⟩ rfl (by decide) hicmp htype
    · refine ⟨dsapiRules.get ⟨11, by decide⟩, List.get_mem .., by decide, (matched_limit p _ _ _ _).trans ?_⟩
      rw [hwithin, Bool.and_true]
      exact matched_of_icmp (k := 0) hicmp htype

theorem exists_ident (h : Ident p) : ∃ e ∈ dsapiRules, e.1 = ident ∧ matched p e = true :=
  ⟨dsapiRules.get ⟨7, by decide⟩, List.get_mem .., rfl,
    (matched_dport p _ "tcp" rfl _ _ (Or.inr ⟨_, rfl⟩)).trans
      (matched_of_dport h.1 h.2 ((inPorts_int 113 113).mpr rfl))⟩

theorem not_open_of_ident (h : Ident p) : ¬ Open p := by
  rintro (⟨-, port, hport, hopen⟩ | ⟨hicmp, -⟩)
  · obtain rfl : 113 = port := Option.some.inj (h.2.symm.trans hport)
    unfold OpenPort at hopen
    omega
  · exact absurd (h.1.symm.trans hicmp) (by decide)

/-! ## What comes in

The rules are rules for the chain `INPUT`, whose meaning is the documented one. Those of the host itself accept, and
are not for the port that is rejected (`Beside`). -/

/-- A rule for the chain `INPUT`, with attributes and values of the usual kind. -/
def forInput (action : String) (e : Text × Value) : Bool :=
  allUsual (attributesOf .ipv4 e.2) &&
    ((Dict.find "provider".toList (attributesOf .ipv4 e.2)).isNone &&
      (hasText (attributesOf .ipv4 e.2) "chain" "INPUT" && hasText (attributesOf .ipv4 e.2) "action" action))

/-- All rules of the role are for the chain `INPUT`, and all but one of them accept. -/
theorem dsapi_forInput :
    ∀ e ∈ dsapiRules, forInput (if e.1 = ident then "reject" else "accept") e = true := by decide +kernel

theorem find_of_hasText {attributes : List (Text × Value)} {key value : String}
    (h : hasText attributes key value = true) : Dict.find key.toList attributes = some (.str value.toList) := by
  obtain ⟨v, hfind, hv⟩ := option_any_iff.mp h
  rw [hfind]
  cases v with
  | str u => rw [beq_iff_eq.mp hv]
  | _ => cases hv

section Meaning
variable {T : Types Packet} {e : Text × Value} {action : String}

theorem place_of_forInput (D : Documented T) (h : forInput action e = true) :
    T.place (attributesOf .ipv4 e.2) = (.ipv4, "INPUT".toList) := by
  simp only [forInput, Bool.and_eq_true] at h
  exact D.place _ h.1 (Option.isNone_iff_eq_none.mp h.2.1) (find_of_hasText h.2.2.1)

theorem meaning_test (D : Documented T) (h : forInput action e = true) (p : Packet) :
    (T.meaning (resourceOf .ipv4 e)).test p = matched p e :=
  D.test e.1 _ p ((Bool.and_eq_true ..).mp h).1

theorem meaning_accept (D : Documented T) (h : forInput "accept" e = true) :
    (T.meaning (resourceOf .ipv4 e)).verdict = .accept := by
  simp only [forInput, Bool.and_eq_true] at h
  exact D.accept e.1 _ h.1 (find_of_hasText h.2.2.2)

theorem meaning_reject (D : Documented T) (h : forInput "reject" e = true) :
    (T.meaning (resourceOf .ipv4 e)).verdict = .reject := by
  simp only [forInput, Bool.and_eq_true] at h
  exact D.reject e.1 _ h.1 (find_of_hasText h.2.2.2)

end Meaning

/-- Rules that a host has beside those of the role: they accept, and not what goes to port 113. -/
structure Beside (own : List (Text × Value)) : Prop where
  accept : ∀ e ∈ own, forInput "accept" e = true
  nodup : ((own ++ dsapiRules).map Prod.fst).Nodup
  spare : ∀ p, Ident p → ∀ e ∈ own, matched p e = false

/-- No rule for IPv6 names a provider. -/
def NoProvider (d : Datadir) (n : Node) : Prop :=
  ∀ title es, merged d n .ipv6 title = some (.hash es) → Dict.find "provider".toList es = none

/-- For IPv6 the class adds the provider, unless a rule has its own. -/
theorem provider_ipv6 {v : Value} (h : isAttributes v = true)
    (hv : ∀ es, v = .hash es → Dict.find "provider".toList es = none) :
    Dict.find "provider".toList (attributesOf .ipv6 v) = some (.str "ip6tables".toList) := by
  cases v with
  | hash es =>
      rw [attributesOf, find_mergeHash, hv es rfl, Option.none_or]
      rfl
  | undefined => rfl
  | _ => cases h

/-- A node with the rules of `dsapi` and others of its own: what its lookups give, wherever in the hierarchy the
    entries are. -/
structure DsapiNode (d : Datadir) (n : Node) (own : List (Text × Value)) : Prop where
  chains : lookup d n module_name Stack.ipv4.chains = .ok (some (.hash dsapiChains))
  rules : ∀ title, merged d n .ipv4 title = Dict.find title (own ++ dsapiRules)
  hashes : ∀ s, Hashes d n s
  provider : NoProvider d n
  beside : Beside own

section Dsapi
variable {T : Types Packet} {own : List (Text × Value)}

/-- No rule of the host is named as that of the role for `ident`. -/
theorem Beside.ne_ident (h : Beside own) {e : Text × Value} (he : e ∈ own) : e.1 ≠ ident := by
  have hident : ident ∈ dsapiRules.map Prod.fst := by decide +kernel
  have hnodup := h.nodup
  rw [List.map_append] at hnodup
  exact List.disjoint_of_nodup_append hnodup (List.mem_map_of_mem he) |> fun hnot heq => hnot (heq ▸ hident)

/-- The rules of the host are for the chain as well, and accept. -/
theorem Beside.forInput (h : Beside own) {e : Text × Value} (he : e ∈ own ++ dsapiRules) :
    forInput (if e.1 = ident then "reject" else "accept") e = true := by
  rcases List.mem_append.mp he with hown | hrole
  · rw [if_neg (h.ne_ident hown)]
    exact h.accept e hown
  · exact dsapi_forInput e hrole

theorem Beside.verdict (h : Beside own) (D : Documented T) {e : Text × Value} (he : e ∈ own ++ dsapiRules) :
    (T.meaning (resourceOf .ipv4 e)).verdict = if e.1 = ident then .reject else .accept := by
  have hfor := h.forInput he
  by_cases heq : e.1 = ident
  · rw [if_pos heq] at hfor ⊢
    exact meaning_reject D hfor
  · rw [if_neg heq] at hfor ⊢
    exact meaning_accept D hfor

/-- What a packet is like that a rule matches. -/
theorem Beside.of_matched (h : Beside own) {e : Text × Value} (he : e ∈ own ++ dsapiRules) (hm : matched p e = true) :
    (number e.1 < number ident ∧ Trusted p) ∨ (e.1 = ident ∧ Ident p) ∨
      (e.1 ≠ ident ∧ (Open p ∨ ∃ e' ∈ own, matched p e' = true)) := by
  rcases List.mem_append.mp he with hown | hrole
  · exact Or.inr (Or.inr ⟨h.ne_ident hown, Or.inr ⟨e, hown, hm⟩⟩)
  · exact (dsapi_of_matched hrole hm).imp id (Or.imp id fun hand => ⟨hand.1, Or.inl hand.2⟩)

/-! ## The chain

The chain is sorted by the titles, and the first rule that matches decides. So it suffices to compare the rules that
match a packet by the numbers in their titles. -/

/-- The rules for IPv6 are in chains for IPv6. -/
theorem place_ipv6 (D : Documented T) (hv6 : Hashes d n .ipv6) (hprovider : NoProvider d n) {q : Resources}
    (hq : rulesOf d n .ipv6 = .ok q) : ∀ x ∈ q.rules, (T.place x.attributes).1 = .ipv6 := by
  obtain ⟨es, hnodup, hfind, hok, hall⟩ := rulesOf_merged hv6
  obtain ⟨ms, heq⟩ := hok (hall q hq)
  obtain rfl := Except.ok.inj (hq.symm.trans heq)
  intro x hx
  obtain ⟨e, he, rfl⟩ := List.mem_map.mp hx
  refine D.place_ipv6 _ (provider_ipv6 (hall _ hq e he) fun attributes hattributes => hprovider e.1 attributes ?_)
  rw [← hfind, ← hattributes]
  exact Dict.get?_of_mem (d := ⟨es, hnodup⟩) he

/-- The rules for IPv4 are those of the node. -/
theorem DsapiNode.mem_rules (h : DsapiNode d n own) {q : Resources} (hq : rulesOf d n .ipv4 = .ok q) {x : Rule} :
    x ∈ q.rules ↔ ∃ e ∈ own ++ dsapiRules, resourceOf .ipv4 e = x := by
  obtain ⟨es, hnodup, hfind, hok, hall⟩ := rulesOf_merged (h.hashes .ipv4)
  obtain ⟨ms, heq⟩ := hok (hall q hq)
  obtain rfl := Except.ok.inj (hq.symm.trans heq)
  have hmem : ∀ e, e ∈ es ↔ e ∈ own ++ dsapiRules := by
    intro e
    have hiff : ∀ {l : List (Text × Value)}, (l.map Prod.fst).Nodup → (e ∈ l ↔ Dict.find e.1 l = some e.2) :=
      fun {l} hl => ⟨fun he => Dict.get?_of_mem (d := ⟨l, hl⟩) he, Dict.mem_of_find⟩
    rw [hiff hnodup, hiff h.beside.nodup, hfind, h.rules]
  refine List.mem_map.trans ?_
  simp only [hmem]

/-- The chain `INPUT` has the rules of the node: those of the role and its own, with the attributes that the lookups
    merge. -/
theorem DsapiNode.mem_chain (h : DsapiNode d n own) (D : Documented T) {r : Resources} (hr : firewall d n = .ok r)
    {chain : List Rule} (hchain : T.IsChain r.rules .ipv4 "INPUT".toList chain) {x : Rule} :
    x ∈ chain ↔ ∃ e ∈ own ++ dsapiRules, resourceOf .ipv4 e = x := by
  obtain ⟨v4, v6, hv4, hv6, rfl, -⟩ := firewall_eq_ok hr
  obtain ⟨c4, q4, -, hq4, -, hrules4⟩ := stackResources_eq_ok hv4
  obtain ⟨c6, q6, -, hq6, -, hrules6⟩ := stackResources_eq_ok hv6
  have happend : (v4.append v6).rules = q4.rules ++ q6.rules := by
    show v4.rules ++ v6.rules = _
    rw [hrules4, hrules6]
  rw [hchain.mem_iff, happend, List.mem_filter, List.mem_append, h.mem_rules hq4, beq_iff_eq]
  constructor
  · rintro ⟨hx | hx, hplace⟩
    · exact hx
    · have hstack := place_ipv6 D (h.hashes .ipv6) h.provider hq6 x hx
      rw [hplace] at hstack
      cases hstack
  · rintro ⟨e, he, rfl⟩
    exact ⟨Or.inl ⟨e, he, rfl⟩, place_of_forInput D (h.beside.forInput he)⟩

/-- What drops the packets that no rule matches. -/
theorem DsapiNode.policy (h : DsapiNode d n own) {r : Resources} (hr : firewall d n = .ok r) :
    (⟨chainTitle .ipv4 "INPUT".toList, true, .str "drop".toList⟩ : Chain) ∈ r.chains := by
  obtain ⟨v4, v6, hv4, -, rfl, -⟩ := firewall_eq_ok hr
  obtain ⟨c, q, hc, -, rfl, -⟩ := stackResources_eq_ok hv4
  have heq : chainsOf d n .ipv4 = .ok ⟨[], dsapiChains.map fun e => ⟨chainTitle .ipv4 e.1, true, e.2⟩, []⟩ := by
    rw [chainsOf, h.chains]
    rfl
  obtain rfl := Except.ok.inj (hc.symm.trans heq)
  exact List.mem_append_left _ (List.mem_append_left _ (List.mem_cons_self ..))

section Chain
variable {chain : List Rule} {policy : Value}

/-- A rule decides if those that match and do not come behind it agree with it. -/
theorem Beside.verdict_of_rule (h : Beside own) (D : Documented T)
    (hs : chain.Pairwise fun x y => T.order.le x.title y.title = true)
    (hmem : ∀ x, x ∈ chain ↔ ∃ e ∈ own ++ dsapiRules, resourceOf .ipv4 e = x) {e : Text × Value}
    (he : e ∈ own ++ dsapiRules) (hmatched : matched p e = true)
    (hagree : ∀ e' ∈ own ++ dsapiRules, T.order.le e'.1 e.1 = true → matched p e' = true →
      (e'.1 = ident ↔ e.1 = ident)) :
    T.verdict policy chain p = if e.1 = ident then .reject else .accept := by
  rw [← h.verdict D he]
  refine PacketFilter.verdict_of_before (a := resourceOf .ipv4 e) (T.order.refl _) hs ((hmem _).mpr ⟨e, he, rfl⟩)
    ((meaning_test D (h.forInput he) p).trans hmatched) fun x hx hle htest => ?_
  obtain ⟨e', he', rfl⟩ := (hmem x).mp hx
  rw [h.verdict D he', h.verdict D he]
  simp only [hagree e' he' hle ((meaning_test D (h.forInput he') p).symm.trans htest)]

/-- **The verdicts of the chain**, for packets of each kind: by the first rules, by `ident`, by any further rule, by
    the policy. -/
theorem Beside.verdict_chain (h : Beside own) (D : Documented T)
    (hs : chain.Pairwise fun x y => T.order.le x.title y.title = true)
    (hmem : ∀ x, x ∈ chain ↔ ∃ e ∈ own ++ dsapiRules, resourceOf .ipv4 e = x) (policy : Value) (p : Packet) :
    (Trusted p → T.verdict policy chain p = .accept) ∧
      (¬ Trusted p → Ident p → T.verdict policy chain p = .reject) ∧
      (¬ Trusted p → ¬ Ident p → (Open p ∨ ∃ e ∈ own, matched p e = true) → T.verdict policy chain p = .accept) ∧
      (¬ Trusted p → ¬ Ident p → ¬ (Open p ∨ ∃ e ∈ own, matched p e = true) →
        T.verdict policy chain p = T.policy policy) := by
  refine ⟨fun htrusted => ?_, fun hno hident => ?_, fun hno hident hopen => ?_, fun hno hident hopen => ?_⟩
  · obtain ⟨e, he, hlt, hmatched⟩ := exists_trusted htrusted
    have hne : e.1 ≠ ident := fun heq => lt_irrefl _ (heq ▸ hlt)
    rw [h.verdict_of_rule D hs hmem (List.mem_append_right _ he) hmatched fun e' _ hle _ => ?_, if_neg hne]
    refine ⟨fun heq => ?_, fun heq => absurd heq hne⟩
    -- the rule that rejects comes later
    rw [heq] at hle
    exact T.order.antisymm _ _ (D.order _ _ hlt) hle
  · obtain ⟨e, he, heq, hmatched⟩ := exists_ident hident
    rw [h.verdict_of_rule D hs hmem (List.mem_append_right _ he) hmatched fun e' he' _ hmatched' => ?_, if_pos heq]
    rcases h.of_matched he' hmatched' with ⟨-, htrusted⟩ | ⟨heq', -⟩ | ⟨-, hopen | ⟨e'', hown, hm⟩⟩
    · exact absurd htrusted hno
    · exact iff_of_true heq' heq
    · exact absurd hopen (not_open_of_ident hident)
    · rw [h.spare p hident e'' hown] at hm
      cases hm
  · have hrule : ∃ e ∈ own ++ dsapiRules, e.1 ≠ ident ∧ matched p e = true := by
      rcases hopen with hopen | ⟨e, he, hmatched⟩
      · obtain ⟨e, he, hne, hmatched⟩ := exists_open hopen
        exact ⟨e, List.mem_append_right _ he, hne, hmatched⟩
      · exact ⟨e, List.mem_append_left _ he, h.ne_ident he, hmatched⟩
    obtain ⟨e, he, hne, hmatched⟩ := hrule
    rw [h.verdict_of_rule D hs hmem he hmatched fun e' he' _ hmatched' => ?_, if_neg hne]
    rcases h.of_matched he' hmatched' with ⟨-, htrusted⟩ | ⟨-, hident'⟩ | ⟨hne', -⟩
    · exact absurd htrusted hno
    · exact absurd hident' hident
    · exact iff_of_false hne' hne
  · refine PacketFilter.verdict_of_none fun rule hrule => ?_
    obtain ⟨x, hx, rfl⟩ := List.mem_map.mp hrule
    obtain ⟨e, he, rfl⟩ := (hmem x).mp hx
    rw [meaning_test D (h.forInput he)]
    refine Bool.eq_false_iff.mpr fun hmatched => ?_
    rcases h.of_matched he hmatched with ⟨-, htrusted⟩ | ⟨-, hident'⟩ | ⟨-, hopen'⟩
    · exact hno htrusted
    · exact hident hident'
    · exact hopen hopen'

end Chain

end Dsapi

/-! ## `os13dsapi02` and `os13dsapi03`

The two hosts with rules of their own, from the files of the repository: what their lookups give, and that the class
compiles on them. -/

/-- `profiles::firewall::rules::ipv4` in the files of the two hosts. -/
def ownRules : List (Text × Value) :=
  [input "800 Allow Kafka hearthbeat" [text "proto" "udp", int "dport" 694, text "action" "accept"],
   input "801 allow 8182 - kafka rest proxy" [text "proto" "tcp", int "dport" 8182, text "action" "accept"],
   input "802 allow port 80 - for DMC access via proxy" [text "proto" "tcp", int "dport" 80, text "action" "accept"],
   input "803 allow port 8443 - for DMP access via proxy"
    [text "proto" "tcp", int "dport" 8443, text "action" "accept"]]

/-- The packets of a protocol to a port. -/
def To (proto : String) (port : ℕ) (p : Packet) : Prop := p.proto = proto.toList ∧ p.dport = some port

theorem matched_port (p : Packet) (title proto : String) (hproto : (proto.toList == "all".toList) = false) (k : ℕ) :
    matched p (input title [text "proto" proto, int "dport" k, text "action" "accept"]) = true ↔ To proto k p := by
  have heq := matched_dport p title proto hproto (.int k) "accept" (Or.inl rfl)
  rw [heq, Bool.and_eq_true, beq_iff_eq, option_any_iff, To, eq_comm]
  simp only [inPorts_int]
  exact and_congr_right fun _ => ⟨fun ⟨port, hport, hk⟩ => hk ▸ hport, fun hport => ⟨k, hport, rfl⟩⟩

theorem ownRules_matched (p : Packet) : (∃ e ∈ ownRules, matched p e = true) ↔
    To "udp" 694 p ∨ To "tcp" 8182 p ∨ To "tcp" 80 p ∨ To "tcp" 8443 p := by
  simp only [ownRules, List.exists_mem_cons_iff, List.not_mem_nil, false_and, exists_false, or_false]
  exact or_congr (matched_port p _ "udp" rfl 694) (or_congr (matched_port p _ "tcp" rfl 8182)
    (or_congr (matched_port p _ "tcp" rfl 80) (matched_port p _ "tcp" rfl 8443)))

theorem ownRules_beside : Beside ownRules where
  accept := by decide +kernel
  nodup := by decide +kernel
  spare p hident e he := by
    refine Bool.eq_false_iff.mpr fun hm => ?_
    rcases (ownRules_matched p).mp ⟨e, he, hm⟩ with h | h | h | h
    · exact absurd (hident.1.symm.trans h.1) (by decide)
    all_goals exact absurd (Option.some.inj (hident.2.symm.trans h.2)) (by decide)

/-- Of two files with rules, that of the host comes first. -/
theorem merged_of_values {own : List (Text × Value)}
    (h : values (files d n module_name) Stack.ipv4.rules = [.hash own, .hash dsapiRules]) (title : Text) :
    merged d n .ipv4 title = Dict.find title (own ++ dsapiRules) := by
  show (values (files d n module_name) Stack.ipv4.rules).findSome? (entry title) = _
  rw [h, findSome?_hash, findSome?_hash, find_append]
  exact congrArg _ (Option.or_none ..)

/-- The file of the host. -/
def os13dsapi02File : File where
  entries := [(Stack.ipv4.rules, .hash ownRules)]
  nodup := by decide

/-- Of `roles/dsapi.yaml`. -/
def dsapiFile : File where
  entries := [(Stack.ipv4.chains, .hash dsapiChains), (Stack.ipv4.rules, .hash dsapiRules)]
  nodup := by decide

/-- The data of the host: its own file and that of its role. -/
def dsapiData : Datadir := fun p =>
  if p = ownPath hostNode then some os13dsapi02File
  else if p = "roles/dsapi.yaml".toList then some dsapiFile
  else none

theorem dsapiNode_os13dsapi02 : DsapiNode dsapiData hostNode ownRules where
  chains := rfl
  rules := merged_of_values rfl
  hashes s v hv := by
    cases s with
    | ipv4 =>
        rcases List.mem_pair.mp hv with rfl | rfl
        · exact ⟨_, rfl, by decide⟩
        · exact ⟨_, rfl, by decide +kernel⟩
    | ipv6 => cases hv
  provider title es h := by cases h
  beside := ownRules_beside

/-- The resources of the class on that host. -/
def dsapiResources : Resources where
  messages := [Stack.ipv6.noChains, Stack.ipv6.noRules]
  chains := dsapiChains.map fun e => ⟨chainTitle .ipv4 e.1, true, e.2⟩
  rules := (dsapiRules ++ ownRules).map (resourceOf .ipv4)

theorem firewall_dsapiData : firewall dsapiData hostNode = .ok dsapiResources := rfl

/-! ## The verdict -/

section Admits
variable {T : Types Packet} {own : List (Text × Value)}

/-- **What comes in over IPv4 to a host with the rules of `dsapi`**, and what is rejected, whatever accepting rules
    the host has beside them. Everything else is dropped by the policy of the chain. The rules are sorted by their
    titles, and packets fall into kinds that `verdict_chain` decides one by one. -/
theorem dsapi_admits (h : DsapiNode d n own) (D : Documented T) {r : Resources} (hr : firewall d n = .ok r)
    {chain : List Rule} (hchain : T.IsChain r.rules .ipv4 "INPUT".toList chain) :
    ∃ c ∈ r.chains, c.title = chainTitle .ipv4 "INPUT".toList ∧ ∀ p,
      (T.verdict c.policy chain p = .accept ↔ Trusted p ∨ Open p ∨ ∃ e ∈ own, matched p e = true) ∧
      (T.verdict c.policy chain p = .reject ↔ Ident p ∧ ¬ Trusted p) := by
  refine ⟨_, h.policy hr, rfl, fun p => ?_⟩
  obtain ⟨haccept, hreject, hopened, hdrop⟩ :=
    h.beside.verdict_chain D hchain.sorted (fun x => h.mem_chain D hr hchain) (.str "drop".toList) p
  rw [D.drop] at hdrop
  by_cases htrusted : Trusted p
  · rw [haccept htrusted]
    exact ⟨iff_of_true rfl (Or.inl htrusted), iff_of_false (by decide) fun hand => hand.2 htrusted⟩
  · by_cases hident : Ident p
    · rw [hreject htrusted hident]
      refine ⟨iff_of_false (by decide) ?_, iff_of_true rfl ⟨hident, htrusted⟩⟩
      rintro (htrusted' | hopen | ⟨e, he, hm⟩)
      · exact htrusted htrusted'
      · exact not_open_of_ident hident hopen
      · rw [h.beside.spare p hident e he] at hm
        cases hm
    · by_cases hopen : Open p ∨ ∃ e ∈ own, matched p e = true
      · rw [hopened htrusted hident hopen]
        exact ⟨iff_of_true rfl (Or.inr hopen), iff_of_false (by decide) fun hand => hident hand.1⟩
      · rw [hdrop htrusted hident hopen]
        exact ⟨iff_of_false (by decide) fun hor => hor.elim htrusted hopen,
          iff_of_false (by decide) fun hand => hident hand.1⟩

end Admits

/-- What comes in to `os13dsapi02`. -/
theorem dsapi_admits_os13dsapi02 : ∃ chain, documentedTypes.IsChain dsapiResources.rules .ipv4 "INPUT".toList chain ∧
    ∃ c ∈ dsapiResources.chains, ∀ p, documentedTypes.verdict c.policy chain p = .accept ↔
      Trusted p ∨ Open p ∨ ∃ e ∈ ownRules, matched p e = true := by
  obtain ⟨chain, hchain⟩ := documentedTypes.order.exists_answers Rule.title
    (dsapiResources.rules.filter fun x => documentedTypes.place x.attributes == (.ipv4, "INPUT".toList))
  obtain ⟨c, hc, -, hadmits⟩ :=
    dsapi_admits dsapiNode_os13dsapi02 documentedTypes_documented firewall_dsapiData hchain
  exact ⟨chain, hchain, c, hc, fun p => (hadmits p).1⟩

end Profiles.Firewall
end StgEnvironment
