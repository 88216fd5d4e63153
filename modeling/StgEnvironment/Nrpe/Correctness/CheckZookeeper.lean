import StgEnvironment.Nrpe.CheckZookeeper

/-!
# `Nrpe.Correctness.CheckZookeeper`: the verdict over a cluster

The handler for Nagios sorts the hosts by the severity of one value (`foldl_analyzeHost`), and its exit status is the
worst of them, whatever the order of the dictionary (`nagios_status`). The thresholds may stand in either direction
(`severity_eq_two_iff`, `severity_eq_one_iff`). `main_nagios` takes this to the list of servers of the command line.

## Contents
- **Severities**: of a value that is a number or text, which Python 2 sorts behind all numbers.
- **The loop over the hosts**: the three lists, and what is printed of them.
- **The verdict**: by what is among the hosts, for every order of the dictionary (`nagios_verdict`).
- **The list of servers**: which of them answer, in which turn, and where an exception that is no `socket.error` ends
  the plugin. Of several answers of one server the last one stays.
-/

namespace StgEnvironment
namespace Nrpe.CheckZookeeper

open Python
open CheckIoPy (Obj toInt)

/-! ## One value -/

/-- The value is at the critical threshold or past it, away from the warning threshold. A text is past every
    threshold upwards, and past none downwards. -/
def Critical (warning critical : ℤ) : Obj → Prop
  | .int n => (warning < critical ∧ critical ≤ n) ∨ (critical < warning ∧ n ≤ critical)
  | .str _ => warning < critical

/-- The value is at the warning threshold or past it, and not at the critical one. -/
def Warned (warning critical : ℤ) : Obj → Prop
  | .int n => (warning ≤ n ∧ n < critical) ∨ (critical < n ∧ n ≤ warning)
  | .str _ => False

instance (w c : ℤ) (v : Obj) : Decidable (Critical w c v) := by cases v <;> unfold Critical <;> infer_instance

instance (w c : ℤ) (v : Obj) : Decidable (Warned w c v) := by cases v <;> unfold Warned <;> infer_instance

section Severity
variable {w c : ℤ} {v : Obj}

/-- The two conditions of the handler, as predicates. The warning comes first. -/
theorem severity_eq : severity w c v = if Warned w c v then 1 else if Critical w c v then 2 else 0 := by
  unfold severity
  cases v with
  | int n =>
      show (if (decide (w ≥ n) && decide (c < n) || decide (w ≤ n) && decide (c > n)) = true then 1
        else if (decide (w < c) && decide (c ≤ n) || decide (w > c) && decide (c ≥ n)) = true then 2 else 0) =
        if (w ≤ n ∧ n < c) ∨ (c < n ∧ n ≤ w) then 1
        else if (w < c ∧ c ≤ n) ∨ (c < w ∧ n ≤ c) then 2 else 0
      simp only [Bool.or_eq_true, Bool.and_eq_true, decide_eq_true_eq, ge_iff_le, gt_iff_lt]
      congr 1
      · exact propext ⟨fun h => h.elim (fun h => Or.inr ⟨h.2, h.1⟩) Or.inl,
          fun h => h.elim Or.inr fun h => Or.inl ⟨h.2, h.1⟩⟩
  | str t =>
      show (if (false && true || true && false) = true then 1
        else if (decide (w < c) && true || decide (w > c) && false) = true then 2 else 0) =
        if False then 1 else if w < c then 2 else 0
      simp

/-- They exclude each other, since the thresholds differ where one of them holds. -/
theorem not_warned_of_critical (h : Critical w c v) : ¬ Warned w c v := by
  cases v with
  | int n =>
      intro hw
      rcases h with ⟨h1, h2⟩ | ⟨h1, h2⟩ <;> rcases hw with ⟨h3, h4⟩ | ⟨h3, h4⟩ <;> omega
  | str t => exact fun hw => hw

/-- A value is critical from the critical threshold on, in the direction of the two. -/
theorem severity_eq_two_iff : severity w c v = 2 ↔ Critical w c v := by
  rw [severity_eq]
  constructor
  · intro h
    split at h
    · cases h
    · split at h
      · assumption
      · cases h
  · intro h
    rw [if_neg (not_warned_of_critical h), if_pos h]

theorem severity_eq_one_iff : severity w c v = 1 ↔ Warned w c v := by
  rw [severity_eq]
  constructor
  · intro h
    split at h
    · assumption
    · split at h <;> cases h
  · intro h
    rw [if_pos h]

theorem severity_le (w c : ℤ) (v : Obj) : severity w c v ≤ 2 := by
  rw [severity_eq]
  split
  · omega
  · split <;> omega

end Severity

/-! ## The loop over the hosts

The handler goes through the hosts in the order of the dictionary, and sorts each into one of its lists by the
severity of its value; hosts without the key are left out. -/

/-- The hosts that have a value under the key, each with its severity. -/
def judged (key : Text) (w c : ℤ) (l : List (Text × Stats)) : List (Text × ℕ) :=
  l.filterMap fun hs => (hs.2.get? key).map fun v => (hs.1, severity w c v)

/-- The hosts of one severity. -/
def hostsAt (n : ℕ) (l : List (Text × ℕ)) : List Text := (l.filter fun hn => hn.2 = n).map Prod.fst

/-- What the loop shows of each value. -/
def shownValues (key : Text) (w c : ℤ) (l : List (Text × Stats)) : List Text :=
  l.filterMap fun hs => (hs.2.get? key).map fun v => perfdata hs.1 v w c

section Loop
variable {key : Text} {w c : ℤ}

theorem hostsAt_cons (n m : ℕ) (h : Text) (l : List (Text × ℕ)) :
    hostsAt n ((h, m) :: l) = if m = n then h :: hostsAt n l else hostsAt n l := by
  unfold hostsAt
  by_cases hm : m = n <;> simp [hm]

/-- A host with the value is put into the list of its severity. -/
theorem analyzeHost_some {hs : Text × Stats} {v : Obj} (h : hs.2.get? key = some v) (acc : Lists) :
    analyzeHost key w c acc hs =
      ⟨acc.warning_state ++ (if severity w c v = 1 then [hs.1] else []),
        acc.critical_state ++ (if severity w c v = 2 then [hs.1] else []),
        acc.values ++ [perfdata hs.1 v w c]⟩ := by
  have hsev : severity w c v = 0 ∨ severity w c v = 1 ∨ severity w c v = 2 := by
    have := severity_le w c v; omega
  unfold analyzeHost
  rcases hsev with hn | hn | hn
  · simp [h, hn]
  · simp [h, hn]
  · simp [h, hn]

theorem analyzeHost_none {hs : Text × Stats} (h : hs.2.get? key = none) (acc : Lists) :
    analyzeHost key w c acc hs = acc := by
  unfold analyzeHost
  rw [h]

/-- The loop sorts the hosts by the severity of their value. By induction on the hosts, for all lists that it may
    start with. -/
theorem foldl_analyzeHost (l : List (Text × Stats)) (acc : Lists) :
    l.foldl (analyzeHost key w c) acc =
      ⟨acc.warning_state ++ hostsAt 1 (judged key w c l), acc.critical_state ++ hostsAt 2 (judged key w c l),
        acc.values ++ shownValues key w c l⟩ := by
  induction l generalizing acc with
  | nil => simp [judged, hostsAt, shownValues]
  | cons hs l ih =>
      rw [List.foldl_cons, ih]
      cases hv : hs.2.get? key with
      | none =>
          have hj : judged key w c (hs :: l) = judged key w c l := by simp [judged, hv]
          have hs' : shownValues key w c (hs :: l) = shownValues key w c l := by simp [shownValues, hv]
          rw [analyzeHost_none hv, hj, hs']
      | some v =>
          have hj : judged key w c (hs :: l) = (hs.1, severity w c v) :: judged key w c l := by simp [judged, hv]
          have hs' : shownValues key w c (hs :: l) = perfdata hs.1 v w c :: shownValues key w c l := by
            simp [shownValues, hv]
          rw [analyzeHost_some hv, hj, hs', hostsAt_cons, hostsAt_cons]
          by_cases h1 : severity w c v = 1
          · simp [h1]
          · by_cases h2 : severity w c v = 2
            · simp [h2]
            · simp [h1, h2]

end Loop

/-! ## The exit status

The status is the worst of the severities. It depends on which severities occur and not on their order, so that the
order of the dictionary drops out. -/

/-- The worst of the severities of a cluster. -/
def worst (l : List ℕ) : ℕ := l.foldr max 0

/-- The worst of some numbers does not depend on their order. -/
theorem worst_eq_of_perm {l l' : List ℕ} (h : l.Perm l') : worst l = worst l' :=
  h.foldr_eq' (fun a _ b _ n => max_left_comm b a n) 0

theorem le_worst {l : List ℕ} {n : ℕ} (h : n ∈ l) : n ≤ worst l := by
  induction l with
  | nil => cases h
  | cons m l ih =>
      rcases List.mem_cons.mp h with rfl | h
      · exact le_max_left _ _
      · exact (ih h).trans (le_max_right _ _)

theorem worst_le {l : List ℕ} {k : ℕ} (h : ∀ n ∈ l, n ≤ k) : worst l ≤ k := by
  induction l with
  | nil => exact Nat.zero_le k
  | cons m l ih =>
      exact max_le (h m (List.mem_cons_self ..)) (ih fun n hn => h n (List.mem_cons_of_mem _ hn))

/-- The exit status of the report, from its two lists. -/
theorem report_status (key : Text) (acc : Lists) :
    (report key acc).status = if acc.critical_state ≠ [] then 2 else if acc.warning_state ≠ [] then 1 else 0 := by
  unfold report
  split
  · rfl
  · split <;> rfl

/-- There are hosts of a severity if it is one of those that occur. -/
theorem hostsAt_ne_nil_iff {n : ℕ} {l : List (Text × ℕ)} : hostsAt n l ≠ [] ↔ n ∈ l.map Prod.snd := by
  unfold hostsAt
  rw [ne_eq, List.map_eq_nil_iff, List.filter_eq_nil_iff]
  simp only [decide_eq_true_eq, List.mem_map]
  constructor
  · intro h
    by_contra hc
    exact h fun a ha he => hc ⟨a, ha, he⟩
  · rintro ⟨a, ha, rfl⟩ h
    exact h a ha rfl

/-- The worst of three severities, as the handler tests them. -/
theorem worst_eq {l : List ℕ} (h : ∀ n ∈ l, n ≤ 2) : worst l = if 2 ∈ l then 2 else if 1 ∈ l then 1 else 0 := by
  by_cases h2 : 2 ∈ l
  · rw [if_pos h2]
    exact le_antisymm (worst_le h) (le_worst h2)
  · rw [if_neg h2]
    have hne : ∀ n ∈ l, n ≠ 2 := fun n hn he => h2 (he ▸ hn)
    by_cases h1 : 1 ∈ l
    · rw [if_pos h1]
      exact le_antisymm (worst_le fun n hn => by have := h n hn; have := hne n hn; omega) (le_worst h1)
    · rw [if_neg h1]
      have hne' : ∀ n ∈ l, n ≠ 1 := fun n hn he => h1 (he ▸ hn)
      exact Nat.le_zero.mp (worst_le fun n hn => by
        have := h n hn; have := hne n hn; have := hne' n hn; omega)

/-- The severities of the values under a key. -/
def severities (key : Text) (w c : ℤ) (l : List (Text × Stats)) : List ℕ :=
  l.filterMap fun hs => (hs.2.get? key).map (severity w c)

theorem map_snd_judged (key : Text) (w c : ℤ) (l : List (Text × Stats)) :
    (judged key w c l).map Prod.snd = severities key w c l := by
  unfold judged severities
  rw [List.map_filterMap]
  refine List.filterMap_congr fun hs _ => ?_
  cases hs.2.get? key <;> rfl

section Nagios
variable {o : Items} {opts : Opts} {cs : ClusterStats} {w c : ℤ} {key : Text}

/-- **What the handler does**: it reports the lists of the hosts, in the order of the dictionary. The loop is replaced
    by what it leaves in its three lists (`foldl_analyzeHost`). -/
theorem nagios_eq (hw : intOption opts.warning = .ok w) (hc : intOption opts.critical = .ok c)
    (hk : opts.key = some key) :
    nagios o opts cs = report key
      ⟨hostsAt 1 (judged key w c (o.items cs.entries)), hostsAt 2 (judged key w c (o.items cs.entries)),
        shownValues key w c (o.items cs.entries)⟩ := by
  unfold nagios
  rw [hw, hc, hk]
  show report key _ = _
  rw [foldl_analyzeHost]
  rfl

/-- **The worst value decides**, in whatever order the dictionary gives the hosts. -/
theorem nagios_status (hw : intOption opts.warning = .ok w) (hc : intOption opts.critical = .ok c)
    (hk : opts.key = some key) : (nagios o opts cs).status = worst (severities key w c cs.entries) := by
  have hperm : (severities key w c (o.items cs.entries)).Perm (severities key w c cs.entries) :=
    (o.perm cs.entries).filterMap _
  have hle : ∀ n ∈ severities key w c (o.items cs.entries), n ≤ 2 := by
    intro n hn
    obtain ⟨hs, -, hv⟩ := List.mem_filterMap.mp hn
    obtain ⟨v, -, rfl⟩ := Option.map_eq_some_iff.mp hv
    exact severity_le w c v
  rw [nagios_eq hw hc hk, report_status, ← worst_eq_of_perm hperm, worst_eq hle]
  simp only [hostsAt_ne_nil_iff, map_snd_judged]

theorem mem_severities {l : List (Text × Stats)} {n : ℕ} :
    n ∈ severities key w c l ↔ ∃ hs ∈ l, ∃ v, hs.2.get? key = some v ∧ severity w c v = n := by
  simp only [severities, List.mem_filterMap, Option.map_eq_some_iff]

/-- **The verdict of Nagios**, in whatever order the dictionary gives the hosts: critical if some host has a critical
    value, a warning if there is none but some host has a warned one, and else all is well, also where no host has a
    value at all. With two equal thresholds all is always well. -/
theorem nagios_verdict (hw : intOption opts.warning = .ok w) (hc : intOption opts.critical = .ok c)
    (hk : opts.key = some key) :
    ((nagios o opts cs).status = 2 ↔ ∃ hs ∈ cs.entries, ∃ v, hs.2.get? key = some v ∧ Critical w c v) ∧
    ((nagios o opts cs).status = 1 ↔ (∃ hs ∈ cs.entries, ∃ v, hs.2.get? key = some v ∧ Warned w c v) ∧
      ∀ hs ∈ cs.entries, ∀ v, hs.2.get? key = some v → ¬ Critical w c v) ∧
    (nagios o opts cs).status ≤ 2 ∧ (w = c → (nagios o opts cs).status = 0) := by
  have hle : ∀ n ∈ severities key w c cs.entries, n ≤ 2 := by
    intro n hn
    obtain ⟨hs, -, v, -, rfl⟩ := mem_severities.mp hn
    exact severity_le w c v
  have hstatus : (nagios o opts cs).status = worst (severities key w c cs.entries) := nagios_status hw hc hk
  have h2 : 2 ∈ severities key w c cs.entries ↔
      ∃ hs ∈ cs.entries, ∃ v, hs.2.get? key = some v ∧ Critical w c v := by
    rw [mem_severities]
    simp only [severity_eq_two_iff]
  have h1 : 1 ∈ severities key w c cs.entries ↔ ∃ hs ∈ cs.entries, ∃ v, hs.2.get? key = some v ∧ Warned w c v := by
    rw [mem_severities]
    simp only [severity_eq_one_iff]
  have hno : (∀ hs ∈ cs.entries, ∀ v, hs.2.get? key = some v → ¬ Critical w c v) ↔
      2 ∉ severities key w c cs.entries := by
    rw [h2]
    constructor
    · rintro h ⟨hs, hm, v, hv, hcrit⟩
      exact h hs hm v hv hcrit
    · intro h hs hm v hv hcrit
      exact h ⟨hs, hm, v, hv, hcrit⟩
  rw [hstatus, ← h2, ← h1, hno, worst_eq hle]
  refine ⟨?_, ?_, ?_, ?_⟩
  · by_cases ha : 2 ∈ severities key w c cs.entries
    · simp [ha]
    · by_cases hb : 1 ∈ severities key w c cs.entries <;> simp [ha, hb]
  · by_cases ha : 2 ∈ severities key w c cs.entries
    · simp [ha]
    · by_cases hb : 1 ∈ severities key w c cs.entries <;> simp [ha, hb]
  · split
    · omega
    · split <;> omega
  · rintro rfl
    have hequal : ∀ v, ¬ Critical w w v ∧ ¬ Warned w w v := by
      intro v
      cases v with
      | int n => exact ⟨fun h => by rcases h with h | h <;> omega, fun h => by rcases h with h | h <;> omega⟩
      | str t => exact ⟨fun h => absurd h (lt_irrefl w), fun h => h⟩
    rw [if_neg fun h => by obtain ⟨hs, -, v, -, hv⟩ := h2.mp h; exact (hequal v).1 hv,
      if_neg fun h => by obtain ⟨hs, -, v, -, hv⟩ := h1.mp h; exact (hequal v).2 hv]

/-- The options of one of the checks. -/
def sampleOpts : Opts where
  servers := some "zk1:2081,zk2:2081".toList
  output := some "nagios".toList
  key := some "zk_max_latency".toList
  warning := some "5000".toList
  critical := some "8000".toList
  leader := false
  gmetric := "/usr/bin/gmetric".toList

/-- Three servers, of which one has a warned value, and one has a critical one. -/
def sampleStats : ClusterStats :=
  ((Dict.empty.set "zk1:2081".toList (Dict.empty.set "zk_max_latency".toList (.int 120))).set "zk2:2081".toList
    (Dict.empty.set "zk_max_latency".toList (.int 6000))).set "zk3:2081".toList
    (Dict.empty.set "zk_max_latency".toList (.int 9000))

/-- Three hosts, of which one is warned of and one is critical: the status is that of the critical one. -/
theorem nagios_verdict_three :
    (nagios Items.asked sampleOpts sampleStats).status = 2 ∧
      (nagios Items.asked sampleOpts sampleStats).status ≠ 1 := by
  have htwo : (nagios Items.asked sampleOpts sampleStats).status = 2 ↔ ∃ hs ∈ sampleStats.entries, ∃ v,
      hs.2.get? "zk_max_latency".toList = some v ∧ Critical 5000 8000 v := (nagios_verdict rfl rfl rfl).1
  have hcritical : ∃ hs ∈ sampleStats.entries, ∃ v, hs.2.get? "zk_max_latency".toList = some v ∧ Critical 5000 8000 v :=
    ⟨("zk3:2081".toList, Dict.empty.set "zk_max_latency".toList (.int 9000)), Dict.mem_entries_of_get? rfl,
      .int 9000, rfl, by decide⟩
  have hstatus := htwo.mpr hcritical
  exact ⟨hstatus, by rw [hstatus]; decide⟩

end Nagios

/-! ## The servers of the command line

The statistics that the handler gets are those of the servers that answer. A server that is given twice is asked
twice, and its last answer stays, since both are set under one key. -/

/-- What one server adds to the statistics, with its turn: nothing, if it cannot be reached. -/
def answer (net : Network) (server : List Text × ℕ) : Except Exception (Option (Text × Stats)) :=
  match server with
  | ([host, port], turn) => do
      let n ← int port
      let stats ← get_stats net turn host n
      pure (stats.map fun s => (host ++ ':' :: port, s))
  | _ => .error .ValueError

/-- The entries of the servers that answer, in the order in which they were asked. -/
def answers (net : Network) (servers : List (List Text × ℕ)) : List (Text × Stats) :=
  servers.filterMap fun server => (answer net server).toOption.join

section Servers
variable {net : Network}

/-- One turn of the loop sets what the server answers, if it answers. -/
theorem serverStep_eq (stats : ClusterStats) (server : List Text × ℕ) :
    serverStep net stats server = (answer net server).map fun a => Dict.setAll a.toList stats := by
  obtain ⟨server, turn⟩ := server
  match server with
  | [host, port] =>
      show (int port >>= fun n => _) = Except.map _ (int port >>= fun n => _)
      cases int port with
      | error e => rfl
      | ok n =>
          show (get_stats net turn host n >>= fun s => _) = Except.map _ (get_stats net turn host n >>= fun s => _)
          cases get_stats net turn host n with
          | error e => rfl
          | ok r => cases r <;> rfl
  | [] => rfl
  | [_] => rfl
  | _ :: _ :: _ :: _ => rfl

theorem foldlM_serverStep : ∀ {servers : List (List Text × ℕ)} {d : ClusterStats},
    (∀ server ∈ servers, ∃ a, answer net server = .ok a) →
    servers.foldlM (serverStep net) d = .ok (Dict.setAll (answers net servers) d) := by
  intro servers
  induction servers with
  | nil => intro d _; rfl
  | cons server servers ih =>
      intro d h
      obtain ⟨a, ha⟩ := h server (List.mem_cons_self ..)
      have hstep : serverStep net d server = .ok (Dict.setAll a.toList d) := by rw [serverStep_eq, ha]; rfl
      have hans : answers net (server :: servers) = a.toList ++ answers net servers := by
        cases a with
        | none => simp [answers, ha, Except.toOption]
        | some _ => simp [answers, ha, Except.toOption]
      rw [List.foldlM_cons, hstep]
      show List.foldlM (serverStep net) _ servers = _
      rw [ih fun s hs => h s (List.mem_cons_of_mem _ hs), hans, Dict.setAll_append]

theorem foldlM_serverStep_error : ∀ {servers : List (List Text × ℕ)} {d : ClusterStats} {server : List Text × ℕ}
    {e : Exception}, server ∈ servers → answer net server = .error e →
    ∃ e', servers.foldlM (serverStep net) d = .error e' := by
  intro servers
  induction servers with
  | nil => intro d server e h; cases h
  | cons s servers ih =>
      intro d server e h he
      rw [List.foldlM_cons, serverStep_eq]
      cases hs : answer net s with
      | error e' => exact ⟨e', rfl⟩
      | ok a =>
          have hne : server ≠ s := by rintro rfl; rw [hs] at he; cases he
          exact ih ((List.mem_cons.mp h).resolve_left hne) he

/-- The worst depends on what occurs, not on how often. -/
theorem worst_congr {l l' : List ℕ} (h : ∀ n, n ∈ l ↔ n ∈ l') : worst l = worst l' :=
  le_antisymm (worst_le fun n hn => le_worst ((h n).mp hn)) (worst_le fun n hn => le_worst ((h n).mpr hn))

/-- The severities are those of the answers that no later answer of the same server replaced. -/
theorem worst_severities {l : List (Text × Stats)} {key : Text} {w c : ℤ} :
    worst (severities key w c (Dict.setAll l Dict.empty).entries) =
      worst (severities key w c (Dict.latest l)) := by
  refine worst_congr fun n => ?_
  unfold severities
  simp only [List.mem_filterMap, Dict.mem_entries_setAll]

end Servers

/-- **What Nagios is told of a list of servers.** If every server of the list has a port and an answer that can be
    read, or cannot be reached, the exit status is the worst of the severities of the answers: a server that cannot be
    reached, or that does not have the key, counts for nothing, and of two answers of one server the later one counts.
    If some server raises an exception, for a port that is no number or no port, for a third part or none, or for a
    report without a version, it is `1`, whatever the others say. -/
theorem main_nagios {o : Items} {net : Network} {opts : Opts} {servers out key : Text} {w c : ℤ}
    (hservers : opts.servers = some servers) (hout : opts.output = some out)
    (hname : capitalize out = "Nagios".toList) (hw : intOption opts.warning = .ok w)
    (hc : intOption opts.critical = .ok c) (hk : opts.key = some key) :
    ((∀ server ∈ (splitServers servers).zipIdx, ∃ a, answer net server = .ok a) →
      (main o net opts).status =
        worst (severities key w c (Dict.latest (answers net (splitServers servers).zipIdx)))) ∧
    ((∃ server ∈ (splitServers servers).zipIdx, ∃ e, answer net server = .error e) → (main o net opts).status = 1) := by
  constructor
  · intro h
    have hmain : main o net opts =
        nagios o opts (Dict.setAll (answers net (splitServers servers).zipIdx) Dict.empty) := by
      simp only [main, hservers, get_cluster_stats, foldlM_serverStep h, hout, if_pos hname]
    rw [hmain, nagios_status hw hc hk, worst_severities]
  · rintro ⟨server, hmem, e, he⟩
    obtain ⟨e', herr⟩ := foldlM_serverStep_error (d := Dict.empty) hmem he
    have hmain : main o net opts = err e'.name 1 := by
      simp only [main, hservers, get_cluster_stats, herr]
    rw [hmain]
    rfl

/-- `zk1` has recovered when it is asked for the second time, and `zk2` cannot be reached. -/
def sampleNetwork : Network where
  resolves _ _ _ := true
  reply turn cmd _ _ :=
    if turn = 1 ∨ cmd ≠ "mntr".toList then none
    else if turn = 0 then some "zk_version\t3.4.5\nzk_max_latency\t9000\n".toList
    else some "zk_version\t3.4.5\nzk_max_latency\t6000\n".toList

/-- `zk1` is asked twice, and its second answer, which is not critical any more, is the one that counts. -/
theorem main_nagios_unreachable :
    (main Items.asked sampleNetwork { sampleOpts with servers := some "zk1:2081,zk2:2081,zk1:2081".toList }).status =
      1 := by
  have hok : ∀ server ∈ (splitServers "zk1:2081,zk2:2081,zk1:2081".toList).zipIdx,
      ∃ a, answer sampleNetwork server = .ok a := by
    intro server hs
    have hsplit : (splitServers "zk1:2081,zk2:2081,zk1:2081".toList).zipIdx =
        [(["zk1".toList, "2081".toList], 0), (["zk2".toList, "2081".toList], 1),
          (["zk1".toList, "2081".toList], 2)] := by decide
    rw [hsplit] at hs
    simp only [List.mem_cons, List.not_mem_nil, or_false] at hs
    rcases hs with rfl | rfl | rfl
    · exact ⟨_, rfl⟩
    · exact ⟨_, rfl⟩
    · exact ⟨_, rfl⟩
  exact ((main_nagios (w := 5000) (c := 8000) rfl rfl rfl rfl rfl rfl).1 hok).trans (by decide +kernel)

-- a port out of range is no `socket.error`
example : (main Items.asked sampleNetwork { sampleOpts with servers := some "localhost:70000".toList }).stderr =
    "OverflowError\n".toList := by decide +kernel

end Nrpe.CheckZookeeper
end StgEnvironment
