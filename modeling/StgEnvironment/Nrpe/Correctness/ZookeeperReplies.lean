import StgEnvironment.Nrpe.Correctness.CheckIoPyDevices
import StgEnvironment.Nrpe.Correctness.CheckZookeeper

/-!
# `Nrpe.Correctness.ZookeeperReplies`: what `check_zookeeper.py` reads from a server

A reply to `mntr` is a line for each statistic, key and value with a tab between them; `parse_mntr` reads it back, and
`parse_cut` says what is left of a reply that ends anywhere, as it may after one `recv`. A reply to `stat` is a report
with lines of several forms (`Field`); `parse_stat_statReport` reads those in any order. The two agree about a server
(`replies_agree`).

## Contents
- **`mntr`**: a whole reply, and one that is cut at any character.
- **`stat`**: the regular expressions of the plugin, each on the line that it is for and on the others.
- **Both commands**: a server (`Server`) with what either of them reports of it, in the documented formats.
-/

namespace StgEnvironment
namespace Nrpe.CheckZookeeper

open Python
open CheckIoPy (Obj toInt toInt_numeral strip_digits)
open ClusterHealth (isSpace)

/-! ## `mntr`

A reply is a line for each statistic, with a tab between key and value. It is read line by line, so that a complete
reply is read back, and of one that is cut the complete lines are. -/

def mntrLine (kv : Text × Text) : Text := kv.1 ++ '\t' :: kv.2

/-- The reply to `mntr`. -/
def mntr (kvs : List (Text × Text)) : Text := endLines (kvs.map mntrLine)

/-- Key and value are stripped, and stay in their fields. -/
structure Clean (kv : Text × Text) : Prop where
  key_ne : kv.1 ≠ []
  key : strip kv.1 = kv.1 ∧ '\t' ∉ kv.1 ∧ '\n' ∉ kv.1
  value : strip kv.2 = kv.2 ∧ '\t' ∉ kv.2 ∧ '\n' ∉ kv.2

/-- What the values are read as. -/
def readAll (kvs : List (Text × Text)) : List (Text × Obj) := kvs.map fun kv => (kv.1, toInt kv.2)

section Mntr
variable {kv : Text × Text} {kvs : List (Text × Text)}

theorem newline_notMem_mntrLine (h : Clean kv) : '\n' ∉ mntrLine kv := by
  intro hm
  rcases List.mem_append.mp hm with hk | hv
  · exact h.key.2.2 hk
  · exact h.value.2.2 ((List.mem_cons.mp hv).resolve_left (by decide))

/-- A line with a key, and with any text behind the tab. -/
theorem parse_line_tab {k v : Text} (hne : k ≠ []) (hk : strip k = k ∧ '\t' ∉ k) (hv : '\t' ∉ v) :
    parse_line (k ++ '\t' :: v) = some (k, toInt (strip v)) := by
  have hsplit : (k ++ '\t' :: v).splitOn '\t' = [k, v] := splitOn_eq_pair_iff.mpr ⟨rfl, hk.2, hv⟩
  unfold parse_line
  rw [hsplit]
  show (if strip k = [] then none else some (strip k, toInt (strip v))) = _
  rw [hk.1, if_neg hne]

/-- Without a tab there is nothing to read. -/
theorem parse_line_no_tab {t : Text} (h : '\t' ∉ t) : parse_line t = none := by
  unfold parse_line
  rw [List.splitOn_eq_singleton h]
  rfl

theorem parseStep_mntrLine (h : Clean kv) (d : Stats) :
    parseStep d (mntrLine kv ++ ['\n']) = d.set kv.1 (toInt kv.2) := by
  have hv : '\t' ∉ kv.2 ++ ['\n'] := fun hm =>
    (List.mem_append.mp hm).elim h.value.2.1 fun hm => absurd (List.mem_singleton.mp hm) (by decide)
  have hline : parse_line (kv.1 ++ '\t' :: (kv.2 ++ ['\n'])) = some (kv.1, toInt kv.2) := by
    rw [parse_line_tab h.key_ne ⟨h.key.1, h.key.2.1⟩ hv, strip_concat_space (by decide), h.value.1]
  have hassoc : mntrLine kv ++ ['\n'] = kv.1 ++ '\t' :: (kv.2 ++ ['\n']) := by
    rw [mntrLine, List.append_assoc, List.cons_append]
  rw [hassoc, parseStep, hline]

theorem foldl_mntr (h : ∀ kv ∈ kvs, Clean kv) (d : Stats) :
    (fileLines (mntr kvs)).foldl parseStep d = Dict.setAll (readAll kvs) d := by
  have hlines : fileLines (mntr kvs) = (kvs.map mntrLine).map (· ++ ['\n']) := by
    apply fileLines_endLines
    intro line hl
    obtain ⟨kv, hkv, rfl⟩ := List.mem_map.mp hl
    exact newline_notMem_mntrLine (h kv hkv)
  rw [hlines, List.map_map, List.foldl_map, readAll, Dict.setAll, List.foldl_map]
  exact List.foldl_ext _ _ d fun d kv hkv => parseStep_mntrLine (h kv hkv) d

/-- **A complete reply is read back**, the last line of a key for it. -/
theorem parse_mntr (h : ∀ kv ∈ kvs, Clean kv) : parse (mntr kvs) = Dict.setAll (readAll kvs) Dict.empty :=
  foldl_mntr h Dict.empty

/-- The lines of a text without a newline: the text, if there is any. -/
theorem fileLines_of_notMem {t : Text} (h : '\n' ∉ t) : fileLines t = if t = [] then [] else [t] := by
  induction t with
  | nil => rfl
  | cons c t ih =>
      have hc : c ≠ '\n' := fun hc => h (hc ▸ List.mem_cons_self ..)
      rw [fileLines, if_neg hc, ih fun hm => h (List.mem_cons_of_mem _ hm)]
      by_cases ht : t = []
      · simp [ht]
      · simp [ht]

/-- How many lines of a reply are complete in its first `n` characters. -/
def complete (kvs : List (Text × Text)) (n : ℕ) : ℕ := ((mntr kvs).take n).count '\n'

/-- How many characters there are of the line behind them. -/
def begun (kvs : List (Text × Text)) (n : ℕ) : ℕ := n - (mntr (kvs.take (complete kvs n))).length

/-- What is read of the first `i` characters of a line: nothing before the tab, and behind it the key with a beginning
of the value. -/
def readBegun (i : ℕ) (kv : Text × Text) : List (Text × Obj) :=
  if kv.1.length < i then [(kv.1, toInt (strip (kv.2.take (i - kv.1.length - 1))))] else []

theorem foldl_cut_line (h : Clean kv) (n : ℕ) (d : Stats) :
    (fileLines ((mntrLine kv).take n)).foldl parseStep d = Dict.setAll (readBegun n kv) d := by
  have hnl : '\n' ∉ (mntrLine kv).take n := fun hm => newline_notMem_mntrLine h (List.mem_of_mem_take hm)
  rw [fileLines_of_notMem hnl]
  rcases Nat.lt_or_ge kv.1.length n with hlt | hge
  · obtain ⟨m, hm⟩ : ∃ m, n - kv.1.length = m + 1 := ⟨n - kv.1.length - 1, by omega⟩
    have htake : (mntrLine kv).take n = kv.1 ++ '\t' :: kv.2.take (n - kv.1.length - 1) := by
      rw [mntrLine, List.take_append, List.take_of_length_le (by omega), hm, List.take_succ_cons]
      rfl
    have hv : '\t' ∉ kv.2.take (n - kv.1.length - 1) := fun hm => h.value.2.1 (List.mem_of_mem_take hm)
    have hne : (mntrLine kv).take n ≠ [] := by rw [htake]; simp
    rw [if_neg hne, List.foldl_cons, List.foldl_nil, htake, parseStep,
      parse_line_tab h.key_ne ⟨h.key.1, h.key.2.1⟩ hv, readBegun, if_pos hlt]
    rfl
  · have htake : (mntrLine kv).take n = kv.1.take n := by
      rw [mntrLine, List.take_append_of_le_length hge]
    have htab : '\t' ∉ kv.1.take n := fun hm => h.key.2.1 (List.mem_of_mem_take hm)
    rw [readBegun, if_neg (not_lt.mpr hge), Dict.setAll_nil, htake]
    split
    · rfl
    · rw [List.foldl_cons, List.foldl_nil, parseStep, parse_line_no_tab htab]

/-- The lines of a reply that is cut: the complete ones, and what the one that was begun still says. -/
theorem foldl_cut : ∀ {kvs : List (Text × Text)}, (∀ kv ∈ kvs, Clean kv) → ∀ (n : ℕ) (d : Stats),
    (fileLines ((mntr kvs).take n)).foldl parseStep d =
      Dict.setAll (kvs[complete kvs n]?.toList.flatMap (readBegun (begun kvs n)))
        (Dict.setAll (readAll (kvs.take (complete kvs n))) d) := by
  intro kvs
  induction kvs with
  | nil =>
      intro _ n d
      have hnil : (mntr []).take n = [] := List.take_nil
      rw [hnil, List.take_nil, List.getElem?_nil]
      rfl
  | cons kv kvs ih =>
      intro h n d
      have hkv := h kv (List.mem_cons_self ..)
      have hnewline := newline_notMem_mntrLine hkv
      have hcons : ∀ kvs, mntr (kv :: kvs) = mntrLine kv ++ '\n' :: mntr kvs := fun kvs => endLines_cons _ _
      rcases Nat.lt_or_ge (mntrLine kv).length n with hlt | hge
      · -- the first line is complete
        obtain ⟨m, rfl⟩ : ∃ m, n = (mntrLine kv).length + 1 + m := ⟨n - (mntrLine kv).length - 1, by omega⟩
        have htake : (mntr (kv :: kvs)).take ((mntrLine kv).length + 1 + m) =
            mntrLine kv ++ '\n' :: (mntr kvs).take m := by
          rw [hcons, List.take_append, List.take_of_length_le (by omega),
            show (mntrLine kv).length + 1 + m - (mntrLine kv).length = m + 1 by omega, List.take_succ_cons]
        have hcomplete : complete (kv :: kvs) ((mntrLine kv).length + 1 + m) = complete kvs m + 1 := by
          unfold complete
          rw [htake, List.count_append, List.count_eq_zero_of_not_mem hnewline, List.count_cons_self, Nat.zero_add]
        have hbegun : begun (kv :: kvs) ((mntrLine kv).length + 1 + m) = begun kvs m := by
          unfold begun
          rw [hcomplete, List.take_succ_cons, hcons, List.length_append, List.length_cons]
          omega
        rw [htake, fileLines_append hnewline, List.foldl_cons, parseStep_mntrLine hkv,
          ih (fun kv' hkv' => h kv' (List.mem_cons_of_mem _ hkv')), hcomplete, hbegun]
        rfl
      · -- the reply ends in the first line
        have htake : (mntr (kv :: kvs)).take n = (mntrLine kv).take n := by
          rw [hcons, List.take_append_of_le_length hge]
        have hcomplete : complete (kv :: kvs) n = 0 := by
          unfold complete
          rw [htake]
          exact List.count_eq_zero_of_not_mem fun hm => hnewline (List.mem_of_mem_take hm)
        have hbegun : begun (kv :: kvs) n = n := by
          unfold begun
          rw [hcomplete]
          rfl
        rw [htake, foldl_cut_line hkv, hcomplete, hbegun]
        show _ = Dict.setAll (readBegun n kv ++ []) d
        rw [List.append_nil]

/-- **What is left of a reply that is cut.** Of a reply cut at any place, as `recv(2048)` may leave it, the statistics
    are those of the lines that are complete in it; at most one more key is there, that of the line behind them, if
    that one is cut behind its tab, and its value is read from the beginning of the real one that is still there. -/
theorem parse_cut (h : ∀ kv ∈ kvs, Clean kv) (n : ℕ) :
    parse ((mntr kvs).take n) =
      Dict.setAll (kvs[complete kvs n]?.toList.flatMap (readBegun (begun kvs n)))
        (parse (mntr (kvs.take (complete kvs n)))) := by
  rw [parse_mntr fun kv hkv => h kv (List.mem_of_mem_take hkv)]
  exact foldl_cut h n Dict.empty

end Mntr

/-- Two statistics of a server. -/
def sampleReply : List (Text × Text) :=
  [("zk_version".toList, "3.4.5".toList), ("zk_max_latency".toList, "6000".toList)]

/-- The reply ends two characters before its end, and the latency is another number. -/
theorem parse_cut_sample :
    parse ((mntr sampleReply).take 34) =
      (parse (mntr [("zk_version".toList, "3.4.5".toList)])).set "zk_max_latency".toList (.int 60) := by
  have hclean : ∀ kv ∈ sampleReply, Clean kv := by
    intro kv hkv
    simp only [sampleReply, List.mem_cons, List.not_mem_nil, or_false] at hkv
    rcases hkv with rfl | rfl
    · exact ⟨by decide, by decide, by decide⟩
    · exact ⟨by decide, by decide, by decide⟩
  have hcomplete : complete sampleReply 34 = 1 := by decide +kernel
  have hbegun : begun sampleReply 34 = 17 := by decide +kernel
  have hcut := parse_cut hclean 34
  rw [hcomplete, hbegun] at hcut
  exact hcut

/-! ## `stat`

A report has a first line with the version, a line for each client, and the statistics in lines of their own. Each
of the patterns matches its own line and none of the others, so that the order of the lines does not matter. -/

/-- The lines of the report of `stat` behind the clients: the statistics that the plugin knows, and others. -/
inductive Field where
  | latency (min avg max : ℕ)
  | received (n : ℕ)
  | sent (n : ℕ)
  | outstanding (n : ℕ)
  | mode (t : Text)
  | nodes (n : ℕ)
  | other (line : Text)

/-- A statistic of a report on its line, in the format that the regular expressions of the plugin are for. -/
def Field.line : Field → Text
  | .latency min avg max =>
      "Latency min/avg/max: ".toList ++ (Nat.toDigits 10 min ++ ("/".toList ++ (Nat.toDigits 10 avg ++
        ("/".toList ++ Nat.toDigits 10 max))))
  | .received n => "Received: ".toList ++ Nat.toDigits 10 n
  | .sent n => "Sent: ".toList ++ Nat.toDigits 10 n
  | .outstanding n => "Outstanding: ".toList ++ Nat.toDigits 10 n
  | .mode t => "Mode: ".toList ++ t
  | .nodes n => "Node count: ".toList ++ Nat.toDigits 10 n
  | .other line => line

/-- The statistics of a line. -/
def Field.entries : Field → List (Text × Obj)
  | .latency min avg max =>
      [("zk_min_latency".toList, .int min), ("zk_avg_latency".toList, .int avg), ("zk_max_latency".toList, .int max)]
  | .received n => [("zk_packets_received".toList, .int n)]
  | .sent n => [("zk_packets_sent".toList, .int n)]
  | .outstanding n => [("zk_outstanding_requests".toList, .int n)]
  | .mode t => [("zk_server_state".toList, .str t)]
  | .nodes n => [("zk_znode_count".toList, .int n)]
  | .other _ => []

/-- How the lines begin that are looked at. -/
def literals : List Text :=
  ["Latency min/avg/max: ".toList, "Received: ".toList, "Sent: ".toList, "Outstanding: ".toList, "Mode: ".toList,
    "Node count: ".toList]

/-- A line stays a line, and another line does not begin like one of these. -/
def Field.Ok : Field → Prop
  | .mode t => '\n' ∉ t
  | .other line => '\n' ∉ line ∧ ∀ l ∈ literals, ¬ l <+: line ++ ['\n']
  | _ => True

section Numbers
variable {lit t : Text}

theorem number_eq_none (h : ¬ lit <+: t) : number lit t = none := if_neg h

/-- Two literals with different first characters: no text begins with both. -/
theorem not_prefix_other {l l' : Text} (hl : l ≠ []) (hl' : l' ≠ []) (h : l.head? ≠ l'.head?) (rest : Text) :
    ¬ l <+: l' ++ rest := by
  obtain ⟨c, l, rfl⟩ := List.exists_cons_of_ne_nil hl
  obtain ⟨c', l', rfl⟩ := List.exists_cons_of_ne_nil hl'
  rw [List.cons_append, List.cons_prefix_cons]
  exact fun hp => h (congrArg some hp.1)

theorem number_other {l l' : Text} (hl : l ≠ []) (hl' : l' ≠ []) (h : l.head? ≠ l'.head?) (rest : Text) :
    number l (l' ++ rest) = none :=
  number_eq_none (not_prefix_other hl hl' h rest)

/-- A number is read up to the first character that is no digit. -/
theorem number_toDigits (lit : Text) (n : ℕ) {rest : Text} (h : rest.head?.any Char.isDigit = false) :
    number lit (lit ++ (Nat.toDigits 10 n ++ rest)) = some ((n : ℤ), rest) := by
  have hall : ∀ c ∈ Nat.toDigits 10 n, c.isDigit = true := fun c hc =>
    Nat.isDigit_of_mem_toDigits (by decide) (by decide) hc
  have htake : rest.takeWhile Char.isDigit = [] := by
    cases rest with
    | nil => rfl
    | cons c rest => rw [List.takeWhile_cons_of_neg (by rw [show c.isDigit = false from h]; decide)]
  have hdrop : rest.dropWhile Char.isDigit = rest := by
    cases rest with
    | nil => rfl
    | cons c rest => rw [List.dropWhile_cons_of_neg (by rw [show c.isDigit = false from h]; decide)]
  have hread : (lit ++ (Nat.toDigits 10 n ++ rest)).drop lit.length = Nat.toDigits 10 n ++ rest := List.drop_left
  unfold number
  rw [if_pos (List.prefix_append _ _), hread, List.takeWhile_append_of_pos hall, List.dropWhile_append_of_pos hall,
    htake, hdrop, List.append_nil]
  simp only [Nat.toDigits_ne_nil, if_false, Nat.ofDigitChars_ten_toDigits]

theorem mode_eq_none (h : ¬ "Mode: ".toList <+: t) : mode t = none := if_neg h

theorem mode_other {l' : Text} (hl' : l' ≠ []) (h : "Mode: ".toList.head? ≠ l'.head?) (rest : Text) :
    mode (l' ++ rest) = none :=
  mode_eq_none (not_prefix_other (by decide) hl' h rest)

theorem latency_eq_none (h : ¬ "Latency min/avg/max: ".toList <+: t) : latency t = none := by
  unfold latency
  rw [number_eq_none h]
  rfl

theorem latency_other {l' : Text} (hl' : l' ≠ []) (h : "Latency min/avg/max: ".toList.head? ≠ l'.head?) (rest : Text) :
    latency (l' ++ rest) = none :=
  latency_eq_none (not_prefix_other (by decide) hl' h rest)

theorem newline_head : (['\n'] : Text).head?.any Char.isDigit = false := rfl

end Numbers

theorem slash_head (t : Text) : ("/".toList ++ t).head?.any Char.isDigit = false := rfl

theorem latency_line (min avg max : ℕ) :
    latency ((Field.latency min avg max).line ++ ['\n']) = some ((min : ℤ), (avg : ℤ), (max : ℤ)) := by
  have hline : (Field.latency min avg max).line ++ ['\n'] = "Latency min/avg/max: ".toList ++
      (Nat.toDigits 10 min ++ ("/".toList ++ (Nat.toDigits 10 avg ++ ("/".toList ++
        (Nat.toDigits 10 max ++ ['\n']))))) := by
    unfold Field.line
    simp only [List.append_assoc]
  rw [hline]
  show (number _ _).bind _ = _
  rw [number_toDigits _ _ (slash_head _), Option.bind_some]
  show (number _ _).bind _ = _
  rw [number_toDigits _ _ (slash_head _), Option.bind_some]
  show (number _ _).bind _ = _
  rw [number_toDigits _ _ newline_head, Option.bind_some]
  rfl

theorem mode_line {t : Text} (h : '\n' ∉ t) : mode ("Mode: ".toList ++ (t ++ ['\n'])) = some t := by
  have hall : ∀ c ∈ t, (c != '\n') = true := fun c hc => by simpa using fun hc' : c = '\n' => h (hc' ▸ hc)
  have hread : ("Mode: ".toList ++ (t ++ ['\n'])).drop "Mode: ".length = t ++ ['\n'] := List.drop_left
  rw [mode, if_pos (List.prefix_append _ _), hread, List.takeWhile_append_of_pos hall]
  simp

/-- Each line is read by the pattern that it is of, and by no other. -/
theorem statStep_line {f : Field} (h : f.Ok) (d : Stats) :
    statStep d (f.line ++ ['\n']) = Dict.setAll f.entries d := by
  cases f with
  | latency min avg max => simp only [statStep, latency_line]; rfl
  | received n =>
      unfold Field.line
      rw [List.append_assoc]
      generalize ht : Nat.toDigits 10 n ++ ['\n'] = t
      have h1 : latency ("Received: ".toList ++ t) = none := latency_other (by decide) (by decide) t
      have h2 : number "Received: ".toList ("Received: ".toList ++ t) = some ((n : ℤ), ['\n']) :=
        ht ▸ number_toDigits _ n newline_head
      simp only [statStep, h1, h2]
      rfl
  | sent n =>
      unfold Field.line
      rw [List.append_assoc]
      generalize ht : Nat.toDigits 10 n ++ ['\n'] = t
      have h1 : latency ("Sent: ".toList ++ t) = none := latency_other (by decide) (by decide) t
      have h2 : number "Received: ".toList ("Sent: ".toList ++ t) = none :=
        number_other (by decide) (by decide) (by decide) t
      have h3 : number "Sent: ".toList ("Sent: ".toList ++ t) = some ((n : ℤ), ['\n']) :=
        ht ▸ number_toDigits _ n newline_head
      simp only [statStep, h1, h2, h3]
      rfl
  | outstanding n =>
      unfold Field.line
      rw [List.append_assoc]
      generalize ht : Nat.toDigits 10 n ++ ['\n'] = t
      have h1 : latency ("Outstanding: ".toList ++ t) = none := latency_other (by decide) (by decide) t
      have h2 : number "Received: ".toList ("Outstanding: ".toList ++ t) = none :=
        number_other (by decide) (by decide) (by decide) t
      have h3 : number "Sent: ".toList ("Outstanding: ".toList ++ t) = none :=
        number_other (by decide) (by decide) (by decide) t
      have h4 : number "Outstanding: ".toList ("Outstanding: ".toList ++ t) = some ((n : ℤ), ['\n']) :=
        ht ▸ number_toDigits _ n newline_head
      simp only [statStep, h1, h2, h3, h4]
      rfl
  | mode m =>
      unfold Field.line
      rw [List.append_assoc]
      have h5 := mode_line h
      generalize m ++ ['\n'] = t at h5 ⊢
      have h1 : latency ("Mode: ".toList ++ t) = none := latency_other (by decide) (by decide) t
      have h2 : number "Received: ".toList ("Mode: ".toList ++ t) = none :=
        number_other (by decide) (by decide) (by decide) t
      have h3 : number "Sent: ".toList ("Mode: ".toList ++ t) = none :=
        number_other (by decide) (by decide) (by decide) t
      have h4 : number "Outstanding: ".toList ("Mode: ".toList ++ t) = none :=
        number_other (by decide) (by decide) (by decide) t
      simp only [statStep, h1, h2, h3, h4, h5]
      rfl
  | nodes n =>
      unfold Field.line
      rw [List.append_assoc]
      generalize ht : Nat.toDigits 10 n ++ ['\n'] = t
      have h1 : latency ("Node count: ".toList ++ t) = none := latency_other (by decide) (by decide) t
      have h2 : number "Received: ".toList ("Node count: ".toList ++ t) = none :=
        number_other (by decide) (by decide) (by decide) t
      have h3 : number "Sent: ".toList ("Node count: ".toList ++ t) = none :=
        number_other (by decide) (by decide) (by decide) t
      have h4 : number "Outstanding: ".toList ("Node count: ".toList ++ t) = none :=
        number_other (by decide) (by decide) (by decide) t
      have h5 : mode ("Node count: ".toList ++ t) = none := mode_other (by decide) (by decide) t
      have h6 : number "Node count: ".toList ("Node count: ".toList ++ t) = some ((n : ℤ), ['\n']) :=
        ht ▸ number_toDigits _ n newline_head
      simp only [statStep, h1, h2, h3, h4, h5, h6]
      rfl
  | other line =>
      obtain ⟨-, hno⟩ := h
      unfold Field.line
      generalize line ++ ['\n'] = t at hno ⊢
      have h1 : latency t = none := latency_eq_none (hno _ (by simp [literals]))
      have h2 : number "Received: ".toList t = none := number_eq_none (hno _ (by simp [literals]))
      have h3 : number "Sent: ".toList t = none := number_eq_none (hno _ (by simp [literals]))
      have h4 : number "Outstanding: ".toList t = none := number_eq_none (hno _ (by simp [literals]))
      have h5 : mode t = none := mode_eq_none (hno _ (by simp [literals]))
      have h6 : number "Node count: ".toList t = none := number_eq_none (hno _ (by simp [literals]))
      simp only [statStep, h1, h2, h3, h4, h5, h6]
      rfl

/-- The reply to `stat`. -/
def statReport (version : Text) (clients : List Text) (fields : List Field) : Text :=
  endLines (("Zookeeper version: ".toList ++ version) :: ("Clients:".toList :: clients) ++
    [] :: fields.map Field.line)

theorem newline_notMem_line {f : Field} (h : f.Ok) : '\n' ∉ f.line := by
  have hd : ∀ n : ℕ, '\n' ∉ Nat.toDigits 10 n := fun n hn =>
    absurd (Nat.isDigit_of_mem_toDigits (by decide) (by decide) hn) (by decide)
  have happ : ∀ {a b : Text}, '\n' ∉ a → '\n' ∉ b → '\n' ∉ a ++ b := fun ha hb hm =>
    (List.mem_append.mp hm).elim ha hb
  cases f with
  | latency min avg max =>
      exact happ (by decide) (happ (hd min) (happ (by decide) (happ (hd avg) (happ (by decide) (hd max)))))
  | received n => exact happ (by decide) (hd n)
  | sent n => exact happ (by decide) (hd n)
  | outstanding n => exact happ (by decide) (hd n)
  | mode t => exact happ (by decide) h
  | nodes n => exact happ (by decide) (hd n)
  | other line => exact h.1

/-- All lines of a report below the clients, in any order: each pattern matches its own line only. -/
theorem foldl_fields : ∀ {fields : List Field}, (∀ f ∈ fields, f.Ok) → ∀ d : Stats,
    (fields.map fun f => f.line ++ ['\n']).foldl statStep d = Dict.setAll (fields.flatMap Field.entries) d := by
  intro fields
  induction fields with
  | nil => intro _ d; rfl
  | cons f fields ih =>
      intro h d
      rw [List.map_cons, List.foldl_cons, statStep_line (h f (List.mem_cons_self ..)),
        ih fun f' hf' => h f' (List.mem_cons_of_mem _ hf'), List.flatMap_cons, Dict.setAll_append]

/-- **A report is read back**, with its lines in any order, between other lines. The clients are skipped, the version
    is that of the first line, and each further line is read by its own pattern (`statStep_line`). -/
theorem parse_stat_statReport {version : Text} {clients : List Text} {fields : List Field}
    (hversion : strip version = version ∧ '\n' ∉ version) (hclients : ∀ c ∈ clients, '\n' ∉ c ∧ strip c ≠ [])
    (hfields : ∀ f ∈ fields, f.Ok) :
    parse_stat (statReport version clients fields) =
      .ok (Dict.setAll (("zk_version".toList, .str version) :: fields.flatMap Field.entries) Dict.empty) := by
  have hlines : fileLines (statReport version clients fields) =
      ("Zookeeper version: ".toList ++ version ++ ['\n']) ::
        (("Clients:".toList :: clients).map (· ++ ['\n']) ++
          ['\n'] :: fields.map fun f => f.line ++ ['\n']) := by
    rw [statReport, fileLines_endLines]
    · simp
    · intro line hl
      rcases List.mem_append.mp hl with hl | hl
      · rcases List.mem_cons.mp hl with rfl | hl
        · exact fun hm => (List.mem_append.mp hm).elim (by decide) hversion.2
        · rcases List.mem_cons.mp hl with rfl | hl
          · decide
          · exact (hclients line hl).1
      · rcases List.mem_cons.mp hl with rfl | hl
        · exact List.not_mem_nil
        · obtain ⟨f, hf, rfl⟩ := List.mem_map.mp hl
          exact newline_notMem_line (hfields f hf)
  have hver : CheckZookeeper.version (fileLines (statReport version clients fields)) =
      .ok (Dict.empty.set "zk_version".toList (.str version)) := by
    have hcolon : ':' ∈ "Zookeeper version: ".toList ++ version ++ ['\n'] := by simp
    have hrest : (("Zookeeper version: ".toList ++ version ++ ['\n']).dropWhile (· != ':')).drop 1 =
        ' ' :: (version ++ ['\n']) := rfl
    have hstrip : strip (' ' :: (version ++ ['\n'])) = version := by
      calc strip (' ' :: (version ++ ['\n'])) = strip (version ++ ['\n']) := by
            unfold strip; rw [List.dropWhile_cons_of_pos (by decide)]
        _ = version := by rw [strip_concat_space (by decide), hversion.1]
    rw [hlines, CheckZookeeper.version, if_pos hcolon, hrest, hstrip]
  have hskip : (((fileLines (statReport version clients fields)).drop 1).dropWhile fun line => strip line ≠ []).drop 1 =
      fields.map fun f => f.line ++ ['\n'] := by
    have hall : ∀ line ∈ ("Clients:".toList :: clients).map (· ++ ['\n']), decide (strip line ≠ []) = true := by
      intro line hl
      obtain ⟨c, hc, rfl⟩ := List.mem_map.mp hl
      rw [strip_concat_space (by decide), decide_eq_true_eq]
      rcases List.mem_cons.mp hc with rfl | hc
      · decide
      · exact (hclients c hc).2
    rw [hlines, List.drop_succ_cons, List.drop_zero, List.dropWhile_append_of_pos hall,
      List.dropWhile_cons_of_neg (by decide)]
    rfl
  unfold parse_stat
  show (CheckZookeeper.version _ >>= fun result => _) = _
  rw [hver]
  show Except.ok (List.foldl statStep _ _) = _
  rw [hskip, foldl_fields hfields]
  rfl

/-! ## The two replies of one server

Both replies are made from one server. What they share is listed once (`Server.shared`), and each reply may have
further lines; the two results of reading are then compared key by key. -/

/-- A server, as both commands tell of it. What only one of them tells is not part of it. -/
structure Server where
  version : Text
  min : ℕ
  avg : ℕ
  max : ℕ
  received : ℕ
  sent : ℕ
  outstanding : ℕ
  mode : Text
  nodes : ℕ

/-- What both replies say, under the keys of `mntr`. The parser of `stat` uses the same keys. -/
def Server.shared (s : Server) : List (Text × Text) :=
  [("zk_version".toList, s.version), ("zk_avg_latency".toList, Nat.toDigits 10 s.avg),
    ("zk_max_latency".toList, Nat.toDigits 10 s.max), ("zk_min_latency".toList, Nat.toDigits 10 s.min),
    ("zk_packets_received".toList, Nat.toDigits 10 s.received), ("zk_packets_sent".toList, Nat.toDigits 10 s.sent),
    ("zk_outstanding_requests".toList, Nat.toDigits 10 s.outstanding), ("zk_server_state".toList, s.mode),
    ("zk_znode_count".toList, Nat.toDigits 10 s.nodes)]

/-- The lines of its report that are looked at. -/
def Server.fields (s : Server) : List Field :=
  [.latency s.min s.avg s.max, .received s.received, .sent s.sent, .outstanding s.outstanding, .mode s.mode,
    .nodes s.nodes]

/-- Version and mode are stripped lines without a tab, and no numbers. The numbers need no condition, since they are
    printed in digits. -/
structure Server.Ok (s : Server) : Prop where
  version : strip s.version = s.version ∧ '\t' ∉ s.version ∧ '\n' ∉ s.version
  mode : strip s.mode = s.mode ∧ '\t' ∉ s.mode ∧ '\n' ∉ s.mode
  version_text : toInt s.version = .str s.version
  mode_text : toInt s.mode = .str s.mode

section Agree
variable {s : Server}

theorem clean_digits {key : Text} (hne : key ≠ []) (hkey : strip key = key ∧ '\t' ∉ key ∧ '\n' ∉ key) (n : ℕ) :
    Clean (key, Nat.toDigits 10 n) := by
  have hd : ∀ c ∈ Nat.toDigits 10 n, c.isDigit = true := fun c hc =>
    Nat.isDigit_of_mem_toDigits (by decide) (by decide) hc
  exact ⟨hne, hkey, strip_digits hd, fun h => absurd (hd _ h) (by decide), fun h => absurd (hd _ h) (by decide)⟩

/-- All statistics that both commands report can be read back. -/
theorem Server.Ok.shared_clean (h : s.Ok) : ∀ kv ∈ s.shared, Clean kv := by
  have hkey : ∀ k ∈ s.shared.map Prod.fst, k ≠ [] ∧ strip k = k ∧ '\t' ∉ k ∧ '\n' ∉ k := by
    show ∀ k ∈ ["zk_version".toList, "zk_avg_latency".toList, "zk_max_latency".toList, "zk_min_latency".toList,
      "zk_packets_received".toList, "zk_packets_sent".toList, "zk_outstanding_requests".toList,
      "zk_server_state".toList, "zk_znode_count".toList], _
    decide
  intro kv hkv
  obtain ⟨hne, hk⟩ := hkey kv.1 (List.mem_map_of_mem hkv)
  simp only [Server.shared, List.mem_cons, List.not_mem_nil, or_false] at hkv
  rcases hkv with rfl | rfl | rfl | rfl | rfl | rfl | rfl | rfl | rfl
  · exact ⟨hne, hk, h.version⟩
  · exact clean_digits hne hk s.avg
  · exact clean_digits hne hk s.max
  · exact clean_digits hne hk s.min
  · exact clean_digits hne hk s.received
  · exact clean_digits hne hk s.sent
  · exact clean_digits hne hk s.outstanding
  · exact ⟨hne, hk, h.mode⟩
  · exact clean_digits hne hk s.nodes

/-- The statistics of the report. -/
def Server.reported (s : Server) : List (Text × Obj) :=
  ("zk_version".toList, .str s.version) :: s.fields.flatMap Field.entries

theorem Server.reported_nodup (s : Server) : (s.reported.map Prod.fst).Nodup := by
  show ["zk_version".toList, "zk_min_latency".toList, "zk_avg_latency".toList, "zk_max_latency".toList,
    "zk_packets_received".toList, "zk_packets_sent".toList, "zk_outstanding_requests".toList,
    "zk_server_state".toList, "zk_znode_count".toList].Nodup
  decide

theorem Server.shared_nodup (s : Server) : (s.shared.map Prod.fst).Nodup := by
  show ["zk_version".toList, "zk_avg_latency".toList, "zk_max_latency".toList, "zk_min_latency".toList,
    "zk_packets_received".toList, "zk_packets_sent".toList, "zk_outstanding_requests".toList,
    "zk_server_state".toList, "zk_znode_count".toList].Nodup
  decide

/-- Each statistic of `mntr` that the report has is the one of the report, with its number read from the same
    digits. -/
theorem Server.Ok.mem_reported (h : s.Ok) {kv : Text × Text} (hkv : kv ∈ s.shared) :
    (kv.1, toInt kv.2) ∈ s.reported := by
  have hnum : ∀ n : ℕ, toInt (Nat.toDigits 10 n) = .int n := fun n => by
    rw [toInt_numeral ⟨Nat.toDigits_ne_nil, fun c hc => Nat.isDigit_of_mem_toDigits (by decide) (by decide) hc⟩,
      Nat.ofDigitChars_ten_toDigits]
  have hrep : s.reported = [("zk_version".toList, .str s.version), ("zk_min_latency".toList, .int s.min),
      ("zk_avg_latency".toList, .int s.avg), ("zk_max_latency".toList, .int s.max),
      ("zk_packets_received".toList, .int s.received), ("zk_packets_sent".toList, .int s.sent),
      ("zk_outstanding_requests".toList, .int s.outstanding), ("zk_server_state".toList, .str s.mode),
      ("zk_znode_count".toList, .int s.nodes)] := rfl
  rw [hrep]
  simp only [Server.shared, List.mem_cons, List.not_mem_nil, or_false] at hkv
  rcases hkv with rfl | rfl | rfl | rfl | rfl | rfl | rfl | rfl | rfl
  · rw [h.version_text]; simp
  · rw [hnum]; simp
  · rw [hnum]; simp
  · rw [hnum]; simp
  · rw [hnum]; simp
  · rw [hnum]; simp
  · rw [hnum]; simp
  · rw [h.mode_text]; simp
  · rw [hnum]; simp

theorem Server.fields_ok (h : s.Ok) : ∀ f ∈ s.fields, f.Ok := by
  intro f hf
  simp only [Server.fields, List.mem_cons, List.not_mem_nil, or_false] at hf
  rcases hf with rfl | rfl | rfl | rfl | rfl | rfl
  · trivial
  · trivial
  · trivial
  · trivial
  · exact h.mode.2.2
  · trivial

theorem Server.entries_perm {others : List Text} {fields : List Field}
    (hfields : fields.Perm (s.fields ++ others.map .other)) :
    (("zk_version".toList, .str s.version) :: fields.flatMap Field.entries).Perm s.reported := by
  have hothers : (others.map Field.other).flatMap Field.entries = [] := by
    rw [List.flatMap_map, List.flatMap_eq_nil_iff]
    exact fun _ _ => rfl
  have hperm := hfields.flatMap_right Field.entries
  rw [List.flatMap_append, hothers, List.append_nil] at hperm
  exact hperm.cons _

/-- A reply to `mntr` tells of a statistic once, wherever its line stands. -/
theorem Server.Ok.get?_parse_mntr (h : s.Ok) {kvs extra : List (Text × Text)} (hkvs : kvs.Perm (s.shared ++ extra))
    (hextra : ∀ kv ∈ extra, Clean kv ∧ kv.1 ∉ s.shared.map Prod.fst) {kv : Text × Text} (hkv : kv ∈ s.shared) :
    (parse (mntr kvs)).get? kv.1 = some (toInt kv.2) := by
  have hclean : ∀ kv ∈ kvs, Clean kv := fun kv hkv =>
    (List.mem_append.mp (hkvs.mem_iff.mp hkv)).elim (h.shared_clean kv) fun he => (hextra kv he).1
  rw [parse_mntr hclean]
  refine Dict.get?_setAll_of_mem (List.mem_map.mpr ⟨kv, hkvs.mem_iff.mpr (List.mem_append_left _ hkv), rfl⟩) ?_
  intro v' hv'
  obtain ⟨kv', hkv', heq⟩ := List.mem_map.mp hv'
  obtain ⟨hkey, rfl⟩ := Prod.mk.inj heq
  rcases List.mem_append.mp (hkvs.mem_iff.mp hkv') with hshared | hother
  · rw [List.inj_on_of_nodup_map s.shared_nodup hshared hkv hkey]
  · exact absurd (List.mem_map_of_mem hkv) (hkey ▸ (hextra kv' hother).2)

/-- **The two replies of one server agree.** Whatever other statistics `mntr` has, whatever clients and other lines
    `stat` has, and in whatever order they come, each statistic that both tell of is read as the same value from a
    complete reply. A reply that `recv(2048)` cuts is another matter (`parse_cut`). -/
theorem replies_agree (h : s.Ok) {kvs extra : List (Text × Text)} {clients others : List Text} {fields : List Field}
    (hkvs : kvs.Perm (s.shared ++ extra)) (hextra : ∀ kv ∈ extra, Clean kv ∧ kv.1 ∉ s.shared.map Prod.fst)
    (hfields : fields.Perm (s.fields ++ others.map .other)) (hothers : ∀ line ∈ others, (Field.other line).Ok)
    (hclients : ∀ c ∈ clients, '\n' ∉ c ∧ strip c ≠ []) :
    ∃ stats, parse_stat (statReport s.version clients fields) = .ok stats ∧
      ∀ key ∈ s.shared.map Prod.fst, ∃ v, stats.get? key = some v ∧ (parse (mntr kvs)).get? key = some v := by
  have hok : ∀ f ∈ fields, f.Ok := by
    intro f hf
    rcases List.mem_append.mp (hfields.mem_iff.mp hf) with hshared | hother
    · exact Server.fields_ok h f hshared
    · obtain ⟨line, hline, rfl⟩ := List.mem_map.mp hother
      exact hothers line hline
  refine ⟨_, parse_stat_statReport ⟨h.version.1, h.version.2.2⟩ hclients hok, ?_⟩
  intro key hkey
  obtain ⟨kv, hkv, rfl⟩ := List.mem_map.mp hkey
  have hperm := Server.entries_perm hfields
  refine ⟨toInt kv.2, Dict.get?_setAll_of_nodup ?_ (hperm.mem_iff.mpr (h.mem_reported hkv)),
    h.get?_parse_mntr hkvs hextra hkv⟩
  exact (hperm.map Prod.fst).nodup_iff.mpr s.reported_nodup

end Agree

/-- A leader whose slowest answer took six seconds. -/
def sampleServer : Server := ⟨"3.4.5".toList, 0, 1, 6000, 12, 11, 0, "leader".toList, 4⟩

/-- Its version and its mode are single lines and no numbers. -/
theorem sampleServer_ok : sampleServer.Ok := ⟨by decide, by decide, rfl, rfl⟩

/-- With its connections between the other statistics, as both commands print them. -/
theorem replies_agree_sample :
    ∃ stats, parse_stat (statReport sampleServer.version ["/127.0.0.1:1[0](queued=0)".toList]
        (sampleServer.fields.take 3 ++ .other "Connections: 1".toList :: sampleServer.fields.drop 3)) = .ok stats ∧
      ∀ key ∈ sampleServer.shared.map Prod.fst, ∃ v, stats.get? key = some v ∧
        (parse (mntr (sampleServer.shared.take 6 ++
          ("zk_num_alive_connections".toList, "1".toList) :: sampleServer.shared.drop 6))).get? key = some v := by
  have hkvs : (sampleServer.shared.take 6 ++
      ("zk_num_alive_connections".toList, "1".toList) :: sampleServer.shared.drop 6).Perm
        (sampleServer.shared ++ [("zk_num_alive_connections".toList, "1".toList)]) :=
    List.perm_middle.trans (List.perm_append_singleton _ _).symm
  have hfields : (sampleServer.fields.take 3 ++ .other "Connections: 1".toList :: sampleServer.fields.drop 3).Perm
      (sampleServer.fields ++ ["Connections: 1".toList].map .other) :=
    List.perm_middle.trans (List.perm_append_singleton _ _).symm
  refine replies_agree sampleServer_ok hkvs (fun kv hkv => ?_) hfields (fun line hline => ?_) (fun c hc => ?_)
  · obtain rfl := List.mem_singleton.mp hkv
    exact ⟨⟨by decide, by decide, by decide⟩, by decide⟩
  · obtain rfl := List.mem_singleton.mp hline
    exact ⟨by decide, by decide⟩
  · obtain rfl := List.mem_singleton.mp hc
    decide

end Nrpe.CheckZookeeper
end StgEnvironment
