import StgEnvironment.Nrpe.ClusterHealth

/-!
# `Nrpe.Correctness.ClusterHealth`: when the plugin blames the mounts, and rightly

The plugin is meant to report a data disk of `/etc/fstab` that is not mounted, to name it, and to leave the
mounts alone otherwise (`Faithful`). It does so only where three of its shortcuts do not show: the comparison
is left out when no line of the mount table mentions `/data` at all, an empty selection from `/etc/fstab` counts
as one entry that is never mounted, and a failure of an earlier check is blamed on the mounts as well. The
spec lemma is `dataMounts_eq`; `faithful_iff` gives the exact condition.

## Contents
- **The two pipes**: what is left of the mount table and of `/etc/fstab`, and that no exception is raised.
- **The comparison**: what is missing (`missing`), and the step of the plugin in terms of it.
- **The earlier checks**: their status and their message, in all combinations.
- **Faithful**: its two cases, all is mounted or something is not, and the condition for each.
-/

namespace StgEnvironment
namespace Nrpe.ClusterHealth

/-! ## The mount table

The plugin prints the table, filters its lines and takes the third word of each. This is the mount point, as a line
has its fields in this order. -/

/-- The third word of a line. -/
def third (line : Text) : Word := ((split line)[2]?).getD []

theorem isSpace_space : isSpace ' ' = true := by decide

/-- A line of the mount table has a third word. -/
theorem Mount.third_isSome (mt : Mount) : ((split mt.line)[2]?).isSome = true := by
  have hon : wordsBy isSpace "on".toList = ["on".toList] := by decide
  have htype : wordsBy isSpace "type".toList = ["type".toList] := by decide
  have hopts : wordsBy isSpace ('(' :: (mt.options ++ [')'])) ≠ [] := by
    rw [Ne, wordsBy_eq_nil_iff]
    intro h
    exact absurd (h '(' (List.mem_cons_self ..)) (by decide)
  have hlen : 2 < (split mt.line).length := by
    unfold split Mount.line
    rw [wordsBy_append_cons _ _ isSpace_space, wordsBy_append_cons _ _ isSpace_space,
      wordsBy_append_cons _ _ isSpace_space, wordsBy_append_cons _ _ isSpace_space,
      wordsBy_append_cons _ _ isSpace_space, hon, htype]
    have hpos := List.length_pos_iff.mpr hopts
    simp only [List.length_append, List.length_singleton]
    omega
  simp [hlen]

theorem Mount.newline_not_mem (mt : Mount) : '\n' ∉ mt.line := by
  have h := List.all_eq_true.mp mt.oneLine
  have hfields : ∀ t : Text, (∀ c ∈ t, c ∈ mt.device ++ mt.point ++ mt.type ++ mt.options) → '\n' ∉ t := by
    intro t ht hn
    exact absurd (h '\n' (ht '\n' hn)) (by decide)
  have hdevice := hfields mt.device (fun c hc => by simp [hc])
  have hpoint := hfields mt.point (fun c hc => by simp [hc])
  have htype := hfields mt.type (fun c hc => by simp [hc])
  have hoptions := hfields mt.options (fun c hc => by simp [hc])
  simp [Mount.line, hdevice, hpoint, htype, hoptions]

theorem mem_mountData {n : Node} {line : Text} (h : line ∈ mountData n) :
    ∃ mt ∈ n.mounts, line = mt.line ∧ mentionsData line = true := by
  obtain ⟨hmem, hdata⟩ := List.mem_filter.mp h
  obtain ⟨mt, hmt, rfl⟩ := List.mem_map.mp hmem
  exact ⟨mt, hmt, rfl, hdata⟩

/-- The mount points that the plugin takes from the mount table. -/
def shown (n : Node) : List Word := (mountData n).map third

/-- The third word of each of them is its mount point, so that there is no `IndexError`. -/
theorem points_mountData (n : Node) : points (mountData n) = some (shown n) := by
  have hall : ∀ lines : List Text, (∀ line ∈ lines, ((split line)[2]?).isSome = true) →
      points lines = some (lines.map third) := by
    intro lines
    induction lines with
    | nil => intro _; rfl
    | cons line lines ih =>
        intro h
        obtain ⟨w, hw⟩ := Option.isSome_iff_exists.mp (h line (List.mem_cons_self ..))
        have hrest := ih fun l hl => h l (List.mem_cons_of_mem line hl)
        unfold points at hrest ⊢
        rw [List.mapM_cons, hw, hrest]
        simp [third, hw]
  refine hall _ fun line hline => ?_
  obtain ⟨mt, -, rfl, -⟩ := mem_mountData hline
  exact mt.third_isSome

/-- What is printed and split again at the newlines. -/
theorem splitOn_getoutput {lines : List Text} (hne : lines ≠ []) (h : ∀ line ∈ lines, '\n' ∉ line) :
    (getoutput lines).splitOn '\n' = lines :=
  List.splitOn_intercalate '\n' h hne

theorem getoutput_eq_nil_iff {lines : List Text} (h : ∀ line ∈ lines, '\n' ∉ line ∧ line ≠ []) :
    getoutput lines = [] ↔ lines = [] := by
  constructor
  · intro hnil
    by_contra hne
    have hsplit := splitOn_getoutput hne fun line hline => (h line hline).1
    rw [hnil] at hsplit
    exact (h [] (by rw [← hsplit]; decide)).2 rfl
  · rintro rfl; rfl

theorem mountData_line {n : Node} {line : Text} (h : line ∈ mountData n) : '\n' ∉ line ∧ line ≠ [] := by
  obtain ⟨mt, -, rfl, hdata⟩ := mem_mountData h
  refine ⟨mt.newline_not_mem, ?_⟩
  intro hnil
  rw [hnil] at hdata
  exact absurd hdata (by decide)

/-! ## The entries

The second words of the lines of `/etc/fstab` are compared with the mount points. Without such a line there is one
empty entry, since an empty text is split into one piece. -/

theorem awk2_cases (line : Text) : awk2 line = [] ∨ IsWord (awk2 line) := by
  unfold awk2
  cases h : (words line)[1]? with
  | none => exact Or.inl rfl
  | some w => exact Or.inr (isWord_of_mem_words (List.mem_of_getElem? h))

/-- The entries the plugin looks for: an empty one when `/etc/fstab` gives none. -/
def entries (n : Node) : List Text := if fstabData n = [] then [[]] else (fstabData n).map awk2

/-- What `split` makes of the second pipe: without a line there is one empty entry. -/
theorem splitOn_fstabData (n : Node) : (getoutput ((fstabData n).map awk2)).splitOn '\n' = entries n := by
  unfold entries
  split
  · next h => rw [h]; decide
  · next h =>
      refine splitOn_getoutput (by simpa using h) fun entry hentry => ?_
      obtain ⟨line, -, rfl⟩ := List.mem_map.mp hentry
      rcases awk2_cases line with hnil | hword
      · simp [hnil]
      · intro hn
        exact absurd (hword.2 '\n' hn) (by decide)

/-- The entries that are not among the points. -/
def missing (points : List Word) (entries : List Text) : List Text :=
  entries.filter fun entry => !points.contains entry

/-- What is missing is among the entries and not among the points. -/
@[simp] theorem mem_missing {points : List Word} {entries : List Text} {entry : Text} :
    entry ∈ missing points entries ↔ entry ∈ entries ∧ entry ∉ points := by
  simp [missing]

theorem missing_eq_nil_iff {points : List Word} {entries : List Text} :
    missing points entries = [] ↔ ∀ entry ∈ entries, entry ∈ points := by
  simp [missing]

theorem missing_cons (points : List Word) (entry : Text) (entries : List Text) :
    missing points (entry :: entries) =
      if entry ∈ points then missing points entries else entry :: missing points entries := by
  by_cases h : entry ∈ points
  · simp [missing, h]
  · simp [missing, h]

/-- The entries that are not among the mount points. -/
def failed (n : Node) : List Text := missing (shown n) (entries n)

/-- The loop counts the missing entries and collects them. -/
theorem foldl_failedStep (points : List Word) : ∀ (entries : List Text) (acc : Nat × Text),
    entries.foldl (failedStep points) acc =
      (acc.1 + (missing points entries).length, acc.2 ++ (missing points entries).flatMap (' ' :: ·)) := by
  intro entries
  induction entries with
  | nil => intro acc; simp [missing]
  | cons entry entries ih =>
      intro acc
      rw [List.foldl_cons, ih, missing_cons]
      by_cases h : entry ∈ points
      · rw [if_pos h, failedStep, if_pos h]
      · rw [if_neg h, failedStep, if_neg h, List.length_cons, List.flatMap_cons]
        simp [Nat.add_assoc, Nat.add_comm 1]

/-- The text for the missing entries. -/
def blame (n : Node) : Text := (failed n).flatMap (' ' :: ·) ++ " not mounted".toList

/-- **The mount step.** It always has a value, since every line of the mount table has a third word. It keeps the
    result if it has nothing to compare or finds nothing wrong after checks that passed, and blames the mounts
    otherwise. -/
theorem dataMounts_eq (n : Node) (c : Check) :
    dataMounts n c = some (if mountData n = [] ∨ c.status = 0 ∧ failed n = [] then c
      else ⟨2, c.errorMsg ++ blame n⟩) := by
  unfold dataMounts
  by_cases hm : mountData n = []
  · have hnil : getoutput (mountData n) = [] := by rw [hm]; rfl
    exact (if_pos hnil).trans (congrArg some (if_pos (Or.inl hm)).symm)
  -- some line of the mount table mentions `/data`, so the entries are compared
  · have hne : getoutput (mountData n) ≠ [] := fun h =>
      hm ((getoutput_eq_nil_iff fun line hline => mountData_line hline).mp h)
    have hsplit := splitOn_getoutput hm fun line hline => (mountData_line hline).1
    refine (if_neg hne).trans ?_
    rw [hsplit, points_mountData, Option.map_some, splitOn_fstabData]
    refine congrArg some ?_
    simp only [foldl_failedStep]
    show (if c.status + (failed n).length ≠ 0 then
        (⟨2, c.errorMsg ++ ([] ++ (failed n).flatMap (' ' :: ·)) ++ " not mounted".toList⟩ : Check)
      else ⟨c.status + (failed n).length, c.errorMsg⟩) = _
    by_cases hok : c.status = 0 ∧ failed n = []
    · obtain ⟨status, errorMsg⟩ := c
      obtain ⟨rfl, hnone⟩ := hok
      simp [hnone]
    · have hpos : c.status + (failed n).length ≠ 0 := by
        intro h0
        obtain ⟨hs, hl⟩ := Nat.add_eq_zero_iff.mp h0
        exact hok ⟨hs, List.length_eq_zero_iff.mp hl⟩
      rw [if_pos hpos, if_neg (not_or.mpr ⟨hm, hok⟩), List.nil_append, List.append_assoc]
      rfl

/-! ## The message

The message is that of the earlier checks with the missing entries behind it. Its words are told apart by how they
begin, so that a data disk in it is one of the missing entries. -/

/-- The message of the earlier checks, by which of them fail. -/
def earlierOf (avahi config proc tmp : Bool) : Check :=
  let step (b : Bool) (text : Text) (c : Check) : Check := if b then c.fail text else c
  step tmp "/tmp not set to 41777".toList (step proc "net.ipv6.bindv6only proc not set to 0".toList
    (step config "net.ipv6.bindv6only config not set to 0".toList
      (step avahi "Avahi daemon running".toList ⟨0, []⟩)))

theorem earlier_eq (n : Node) : ∃ avahi config proc tmp, earlier n = earlierOf avahi config proc tmp := by
  refine ⟨decide (Occurs "avahi-daemon".toList n.ps),
    decide (¬ Occurs "net.ipv6.bindv6only = 0".toList (n.grepIpv6 (ipv6_conf_file n)) ∧
      ¬ Occurs "net.ipv6.conf.all.disable_ipv6=1".toList (n.grepIpv6 (ipv6_conf_file n))),
    decide (¬ Occurs "0".toList n.bindv6only), decide (n.st_mode ≠ 17407), ?_⟩
  simp only [earlierOf, decide_eq_true_eq]
  rfl

/-- They leave a status of 0 or 2, and a message that names no disk. -/
theorem earlierOf_ok : ∀ a b c d : Bool, ((earlierOf a b c d).status = 0 ∨ (earlierOf a b c d).status = 2) ∧
    (words (earlierOf a b c d).errorMsg).all (fun w => !isDataPoint w) = true := by
  decide

theorem earlier_status (n : Node) : (earlier n).status = 0 ∨ (earlier n).status = 2 := by
  obtain ⟨a, b, c, d, h⟩ := earlier_eq n
  rw [h]
  exact (earlierOf_ok a b c d).1

/-- No word of the earlier checks is taken for a data disk. -/
theorem earlier_words {n : Node} {w : Word} (h : w ∈ words (earlier n).errorMsg) : isDataPoint w = false := by
  obtain ⟨a, b, c, d, heq⟩ := earlier_eq n
  rw [heq] at h
  simpa using List.all_eq_true.mp (earlierOf_ok a b c d).2 w h

theorem isDataPoint_not_blame : ∀ w ∈ words " not mounted".toList, isDataPoint w = false := by
  have h : (words " not mounted".toList).all (fun w => !isDataPoint w) = true := by decide
  exact fun w hw => by simpa using List.all_eq_true.mp h w hw

theorem failed_cases {n : Node} {entry : Text} (h : entry ∈ failed n) : entry = [] ∨ IsWord entry := by
  have hmem := (mem_missing.mp h).1
  unfold entries at hmem
  split at hmem
  · exact Or.inl (by simpa using hmem)
  · obtain ⟨line, -, rfl⟩ := List.mem_map.mp hmem
    exact awk2_cases line

/-- A data disk is named in the message when it is one of the missing entries. Neither the earlier checks nor `not
    mounted` have a word that is taken for a data disk. -/
theorem mem_words_blame {n : Node} {entry : Text} (hdata : isDataPoint entry = true) (hword : IsWord entry) :
    entry ∈ words ((earlier n).errorMsg ++ blame n) ↔ entry ∈ failed n := by
  have hflat : ∀ (fs : List Text) (xs ys : Text),
      words (xs ++ (fs.flatMap (' ' :: ·) ++ ' ' :: ys)) = words xs ++ fs.flatMap words ++ words ys := by
    intro fs
    induction fs with
    | nil =>
        intro xs ys
        rw [List.flatMap_nil, List.flatMap_nil, List.nil_append, List.append_nil]
        exact wordsBy_append_cons xs ys (by decide)
    | cons f fs ih =>
        intro xs ys
        have hcons : xs ++ ((f :: fs).flatMap (' ' :: ·) ++ ' ' :: ys) =
            xs ++ ' ' :: (f ++ (fs.flatMap (' ' :: ·) ++ ' ' :: ys)) := by simp
        rw [hcons, words, wordsBy_append_cons _ _ (by decide)]
        have hrest := ih f ys
        unfold words at hrest ⊢
        rw [hrest]
        simp
  have hblame : words ((earlier n).errorMsg ++ blame n) =
      words (earlier n).errorMsg ++ (failed n).flatMap words ++ words "not mounted".toList :=
    hflat (failed n) (earlier n).errorMsg "not mounted".toList
  -- neither the earlier checks nor `not mounted` have a word that is taken for a data disk
  rw [hblame, List.mem_append, List.mem_append, List.mem_flatMap]
  constructor
  · rintro ((h | ⟨f, hf, h⟩) | h)
    · exact absurd hdata (by simp [earlier_words h])
    · rcases failed_cases hf with rfl | hfw
      · simp [words] at h
      · rw [words_word hfw, List.mem_singleton] at h
        rwa [h]
    · exact absurd hdata (by simp [isDataPoint_not_blame entry h])
  · intro h
    exact Or.inl (Or.inr ⟨entry, h, by rw [words_word hword]; exact List.mem_singleton_self _⟩)

/-! ## The verdict

Both halves of what the plugin is meant to do, from the mount step: that it keeps quiet when all disks are mounted,
and that it names those that are not. -/

/-- **What the plugin is meant to do**, of a node whose data disks are those of `/etc/fstab`, in either state of them:
    to be silent about mounts when all are there, and to name each one that is not. -/
structure Faithful (n : Node) : Prop where
  /-- Exit status 0 means that every data disk is mounted. -/
  healthy : ∀ r, main n = some r → r.code = 0 → ∀ entry ∈ dataEntries n, Mounted n entry
  /-- If every one is, the mount step keeps the status and does not blame the mounts. -/
  quiet : (∀ entry ∈ dataEntries n, Mounted n entry) → ∃ c, dataMounts n (earlier n) = some c ∧
    c.status = (earlier n).status ∧ ∃ added, c.errorMsg = (earlier n).errorMsg ++ added ∧
      ¬ Occurs " not mounted".toList added
  /-- If one is not, the status is 2 and the output names every one that is not. -/
  named : (∃ entry ∈ dataEntries n, ¬ Mounted n entry) → ∃ r, main n = some r ∧ r.code = 2 ∧
    ∀ entry ∈ dataEntries n, ¬ Mounted n entry → entry ∈ words r.output

/-- The data disks are all mounted, and the plugin has nothing to compare, or every check before has passed
    and every line it selects from `/etc/fstab`, of which there is one, has a mount point shown. -/
def QuietOn (n : Node) : Prop :=
  (∀ entry ∈ dataEntries n, Mounted n entry) ∧ (mountData n = [] ∨
    (earlier n).status = 0 ∧ fstabData n ≠ [] ∧ ∀ line ∈ fstabData n, awk2 line ∈ shown n)

/-- A data disk is not mounted, some line of the mount table mentions `/data`, and every data disk that is not
    mounted is on a line of `/etc/fstab` without a `#` and not shown as a mount point. -/
def NamedOn (n : Node) : Prop :=
  (∃ entry ∈ dataEntries n, ¬ Mounted n entry) ∧ mountData n ≠ [] ∧
    ∀ entry ∈ dataEntries n, ¬ Mounted n entry → (∃ line ∈ fstabData n, awk2 line = entry) ∧ entry ∉ shown n

/-- The data disks of `/etc/fstab` are words that start with `/data`, in any case of letters. -/
theorem dataEntries_spec {n : Node} {entry : Text} (h : entry ∈ dataEntries n) :
    isDataPoint entry = true ∧ IsWord entry := by
  obtain ⟨hmem, hdata⟩ := List.mem_filter.mp h
  obtain ⟨line, -, hline⟩ := List.mem_filterMap.mp hmem
  exact ⟨hdata, isWord_of_mem_words (List.mem_of_getElem? hline)⟩

/-- Nothing fails, and something was selected. -/
theorem failed_eq_nil_iff {n : Node} :
    failed n = [] ↔ fstabData n ≠ [] ∧ ∀ line ∈ fstabData n, awk2 line ∈ shown n := by
  have hempty : [] ∉ shown n := by
    intro h
    obtain ⟨line, hline, hnil⟩ := List.mem_map.mp h
    obtain ⟨mt, -, rfl, -⟩ := mem_mountData hline
    obtain ⟨w, hw⟩ := Option.isSome_iff_exists.mp mt.third_isSome
    have hword : IsWordBy isSpace w := isWordBy_of_mem (List.mem_of_getElem? hw)
    exact hword.1 (by simpa [third, hw] using hnil)
  unfold failed entries
  rw [missing_eq_nil_iff]
  by_cases h : fstabData n = []
  · simp [h, hempty]
  · simp [h]

/-- A missing data disk fails when its line was selected and no such mount point is shown. -/
theorem mem_failed_iff {n : Node} {entry : Text} (hword : IsWord entry) :
    entry ∈ failed n ↔ (∃ line ∈ fstabData n, awk2 line = entry) ∧ entry ∉ shown n := by
  unfold failed entries
  rw [mem_missing]
  by_cases h : fstabData n = []
  · simp [h, hword.1]
  · simp [h]

/-- The output of the plugin, when the mount step adds nothing and when it does. -/
theorem main_eq (n : Node) :
    main n = some (report n (if mountData n = [] ∨ (earlier n).status = 0 ∧ failed n = [] then earlier n
      else ⟨2, (earlier n).errorMsg ++ blame n⟩)) := by
  rw [main, dataMounts_eq, Option.map_some]

theorem faithful_of_quietOn {n : Node} (h : QuietOn n) : Faithful n := by
  obtain ⟨hall, hcond⟩ := h
  have hkeep : mountData n = [] ∨ (earlier n).status = 0 ∧ failed n = [] := by
    rcases hcond with hm | ⟨hs, hf⟩
    · exact Or.inl hm
    · exact Or.inr ⟨hs, failed_eq_nil_iff.mpr hf⟩
  refine ⟨fun _ _ _ => hall, fun _ => ?_, ?_⟩
  · exact ⟨earlier n, by rw [dataMounts_eq, if_pos hkeep], rfl, [], by simp, by decide⟩
  · rintro ⟨entry, hentry, hno⟩
    exact absurd (hall entry hentry) hno

theorem faithful_of_namedOn {n : Node} (h : NamedOn n) : Faithful n := by
  obtain ⟨⟨entry, hentry, hno⟩, hm, hall⟩ := h
  have hmem : ∀ e ∈ dataEntries n, ¬ Mounted n e → e ∈ failed n := fun e he hmiss =>
    (mem_failed_iff (dataEntries_spec he).2).mpr (hall e he hmiss)
  have hblame : ¬ (mountData n = [] ∨ (earlier n).status = 0 ∧ failed n = []) := by
    rintro (hnil | ⟨-, hnil⟩)
    · exact hm hnil
    · exact absurd (hmem entry hentry hno) (by simp [hnil])
  have hmain := main_eq n
  rw [if_neg hblame] at hmain
  refine ⟨fun r hr hcode => ?_, fun hmounted => absurd (hmounted entry hentry) hno, fun _ => ?_⟩
  · rw [hmain] at hr
    cases hr
    exact absurd hcode (by simp [report])
  · refine ⟨_, hmain, rfl, fun e he hmiss => ?_⟩
    obtain ⟨hdata, hword⟩ := dataEntries_spec he
    exact (mem_words_blame hdata hword).mpr (hmem e he hmiss)

/-- **The exact condition.** The plugin does what it is meant to exactly if all data disks are mounted and it has no
    reason to blame any, or some are not and it has a line for each of them. By whether every data disk is mounted; in
    each case `dataMounts_eq` says what the mount step adds. -/
theorem faithful_iff (n : Node) : Faithful n ↔ QuietOn n ∨ NamedOn n := by
  refine ⟨fun h => ?_, fun h => h.elim faithful_of_quietOn faithful_of_namedOn⟩
  -- by whether every data disk is mounted
  by_cases hall : ∀ entry ∈ dataEntries n, Mounted n entry
  · refine Or.inl ⟨hall, ?_⟩
    by_contra hcond
    have hblame : ¬ (mountData n = [] ∨ (earlier n).status = 0 ∧ failed n = []) := by
      rw [failed_eq_nil_iff]; exact hcond
    obtain ⟨c, hc, -, added, hadd, hocc⟩ := h.quiet hall
    rw [dataMounts_eq, if_neg hblame] at hc
    cases hc
    obtain rfl := List.append_cancel_left hadd
    exact hocc (occurs_append_left _ (List.infix_refl _))
  · have hex : ∃ entry ∈ dataEntries n, ¬ Mounted n entry := by simpa using hall
    obtain ⟨r, hr, hcode, hnames⟩ := h.named hex
    have hmain := main_eq n
    by_cases hkeep : mountData n = [] ∨ (earlier n).status = 0 ∧ failed n = []
    · -- the mount step adds nothing, and what the earlier checks say names no data disk
      exfalso
      rw [if_pos hkeep, hr] at hmain
      obtain ⟨entry, hentry, hno⟩ := hex
      have hmem := hnames entry hentry hno
      rcases earlier_status n with hs | hs
      · rw [Option.some.inj hmain] at hcode
        simp [report, hs] at hcode
      · rw [Option.some.inj hmain] at hmem
        have hmem : entry ∈ words (earlier n).errorMsg := by simpa [report, hs] using hmem
        exact absurd (dataEntries_spec hentry).1 (by simp [earlier_words hmem])
    · refine Or.inr ⟨hex, fun hm => hkeep (Or.inl hm), fun entry hentry hno => ?_⟩
      rw [if_neg hkeep, hr] at hmain
      have hmem := hnames entry hentry hno
      rw [Option.some.inj hmain] at hmem
      obtain ⟨hdata, hword⟩ := dataEntries_spec hentry
      exact (mem_failed_iff hword).mp ((mem_words_blame hdata hword).mp hmem)

/-- A node whose earlier checks pass, with a data disk in `/etc/fstab` and this mount table. -/
def dataNode (table : List Mount) : Node where
  ps := "root 1 init".toList
  ipv6off := false
  grepIpv6 _ := "net.ipv6.bindv6only = 0".toList
  bindv6only := "0".toList
  st_mode := 17407
  mounts := table
  fstab := "/dev/sda1 / ext4 defaults 0 1\n/dev/sdb1 /DATA1 ext4 defaults 0 2\n".toList
  ipnumber := []

def rootMount : Mount := ⟨"/dev/sda1".toList, "/".toList, "ext4".toList, "rw".toList, by decide⟩

def data1Mount : Mount := ⟨"/dev/sdb1".toList, "/DATA1".toList, "ext4".toList, "rw".toList, by decide⟩

/-- With the data disk mounted, the node is healthy. -/
example : (main (dataNode [rootMount, data1Mount])).map Report.code = some 0 := by decide

/-- **A node with no data disk mounted is reported healthy.** -/
theorem dataNode_healthy_unmounted :
    ∃ r, main (dataNode [rootMount]) = some r ∧ r.code = 0 ∧
      "/DATA1".toList ∈ dataEntries (dataNode [rootMount]) ∧
      ¬ Mounted (dataNode [rootMount]) "/DATA1".toList ∧ ¬ Faithful (dataNode [rootMount]) := by
  have hentry : "/DATA1".toList ∈ dataEntries (dataNode [rootMount]) := by decide
  have hno : ¬ Mounted (dataNode [rootMount]) "/DATA1".toList := by decide
  obtain ⟨r, hr⟩ : ∃ r, main (dataNode [rootMount]) = some r := ⟨_, main_eq _⟩
  have hcode : (main (dataNode [rootMount])).map Report.code = some 0 := by decide
  rw [hr] at hcode
  have hcode : r.code = 0 := Option.some.inj hcode
  exact ⟨r, hr, hcode, hentry, hno, fun h => hno (h.healthy r hr hcode _ hentry)⟩

end Nrpe.ClusterHealth
end StgEnvironment
