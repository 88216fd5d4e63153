import StgEnvironment.Nrpe.LongRunningJobs

/-!
# `Nrpe.Correctness.LongRunningJobs`: which jobs the loop counts

The plugin should count the jobs, and those that have been running for too long and are not exempt (`CountsOverdue`).
A turn of the loop gets one job, unless the type of a job ends in a backslash that `read` takes for a line
continuation (`length_reads_jq`). It counts a job as long-running by its customer, which has to be a number that `[`
can read, and by its type as `read` leaves it (`turn_line`). `countsOverdue_iff` says when the verdict is still right.

## Contents
- **The line of a job**: its columns, before and after `read` (`Shell.Read`).
- **A turn**: what one line does to the two counters, and which jobs are long for the loop.
- **The loop**: by induction over the lines, one for each job where no line goes on in the next.
- **The condition**: the counts agree with the right ones, in every order of the jobs.
-/

namespace StgEnvironment
namespace Nrpe.LongRunningJobs
open Shell
open FlinkContainers (Verdict)

/-! ## What is to be counted

The jobs that the plugin is for, by the comments and the names in it: overdue is a job that has been running for
longer than the limit, and that is not exempt. -/

/-- The customers that are exempt. -/
def exemptCustomers : List ℤ := [30014, 0, 8827, 13109]

/-- The exempt jobs, by the customer or the type. -/
def Exempt (j : Job) : Prop :=
  (∃ id ∈ exemptCustomers, j.customerId = some id) ∨ Occurs "SWEEPER".toList j.type ∨ j.type = "SC_MONTHLY".toList

instance (j : Job) : Decidable (Exempt j) := inferInstanceAs (Decidable (_ ∨ _ ∨ _))

/-- The number of jobs that are overdue and not exempt. -/
def overdueJobs (CURRENT_MS : ℤ) (jobs : List Job) : ℕ :=
  jobs.countP fun j => decide (9000000 ≤ CURRENT_MS - j.creationTime ∧ ¬ Exempt j)

/-- The exit code for a number of such jobs. -/
def severity (n : ℕ) : ℕ := if n < 10 then 0 else if n < 20 then 1 else 2

section
variable (fs : Files) (g : Globbing) (CURRENT_MS : ℤ)

/-- **The intended behaviour**: all jobs are counted as running, the exit code is the severity of those that are
    overdue, and neither depends on the order of the list. -/
structure CountsOverdue (jobs : List Job) : Prop where
  counts : ∃ c, check_long_running_jobs fs g CURRENT_MS jobs = some (c, verdict c) ∧ c.RUNNING_JOBS = jobs.length ∧
    (verdict c).code = severity (overdueJobs CURRENT_MS jobs)
  /-- The number of jobs and the exit code do not depend on the order of the list. -/
  perm : ∀ jobs', jobs'.Perm jobs → ∃ c c', check_long_running_jobs fs g CURRENT_MS jobs = some (c, verdict c) ∧
    check_long_running_jobs fs g CURRENT_MS jobs' = some (c', verdict c') ∧ c'.RUNNING_JOBS = c.RUNNING_JOBS ∧
    (verdict c').code = (verdict c).code

/-! ## When that is so

What the plugin counts instead: the customer has to be a number for `[`, the type is the one without its
backslashes, and the elapsed time is that of the arithmetic of the shell. -/

/-- The type ends in an odd number of backslashes. -/
def OddBackslashes (j : Job) : Prop := (j.type.rtakeWhile (· == '\\')).length % 2 = 1

/-- The customer is a number of 64 bits that is not exempt. -/
def Customer (j : Job) : Prop :=
  j.customerId.any (fun id => decide ((-(2 ^ 63) ≤ id ∧ id < 2 ^ 63) ∧ id ∉ exemptCustomers)) = true

instance (j : Job) : Decidable (Customer j) := inferInstanceAs (Decidable (_ = true))

/-- The job is counted as long-running: the elapsed time is one of 64 bits, and the type is without backslashes. -/
def Counted (j : Job) : Prop :=
  9000000 ≤ wrap (CURRENT_MS - wrap j.creationTime) ∧ Customer j ∧ ¬ Occurs "SWEEPER".toList (unescape j.type) ∧
    unescape j.type ≠ "SC_MONTHLY".toList

instance (j : Job) : Decidable (Counted CURRENT_MS j) := inferInstanceAs (Decidable (_ ∧ _ ∧ _ ∧ _))

/-- **The condition**, on the jobs and the time: no line ends in a pending backslash, and the number of jobs that line
    23 counts has the severity of the number that are overdue. -/
def CountsRight (jobs : List Job) : Prop :=
  (∀ j ∈ jobs, ¬ OddBackslashes j) ∧
    severity (jobs.countP fun j => decide (Counted CURRENT_MS j)) = severity (overdueJobs CURRENT_MS jobs)

/-! ## Lines

`jq` prints a job on a line of four columns. `read` takes the backslashes out of it, and goes on to the next line if
one is pending at its end. -/

/-- A number is printed in digits, perhaps with a sign. -/
theorem notMem_decimal {c : Char} (h : c ≠ '-' ∧ c.isDigit = false) (n : ℤ) : c ∉ decimal n := by
  intro hmem
  rcases mem_decimal hmem with hsign | hdigit
  · exact h.1 hsign
  · exact ne_of_isDigit hdigit h.2 rfl

theorem notMem_customer {c : Char} (h : c ≠ '-' ∧ c.isDigit = false) (j : Job) : c ∉ j.customer := by
  unfold Job.customer
  cases j.customerId with
  | none => exact List.not_mem_nil
  | some id => exact notMem_decimal h id

theorem comma_notMem_status (j : Job) : ',' ∉ j.status := fun hmem =>
  absurd (List.all_eq_true.mp j.statusField _ hmem) (by decide)

theorem newline_notMem_status (j : Job) : '\n' ∉ j.status := fun hmem =>
  absurd (List.all_eq_true.mp j.statusField _ hmem) (by decide)

theorem comma_notMem_type (j : Job) : ',' ∉ j.type := fun hmem =>
  absurd (List.all_eq_true.mp j.typeField _ hmem) (by decide)

theorem isBlank_type {j : Job} {c : Char} (hc : c ∈ j.type) : isBlank c = false := by
  have hfield := List.all_eq_true.mp j.typeField c hc
  rw [Bool.and_eq_true, Bool.not_eq_true'] at hfield
  exact hfield.2

theorem newline_notMem_line (j : Job) : '\n' ∉ j.line := by
  have htype : '\n' ∉ j.type := fun hmem => absurd (isBlank_type hmem) (by decide)
  have hdecimal := notMem_decimal (c := '\n') (by decide) j.creationTime
  have hcustomer := notMem_customer (c := '\n') (by decide) j
  simp [Job.line, hdecimal, newline_notMem_status j, hcustomer, htype]

theorem pending_line (j : Job) : pending false j.line = pending false j.type := by
  have hcomma : ',' ≠ '\\' := by decide
  rw [Job.line, pending_append_cons hcomma, pending_append_cons hcomma, pending_append_cons hcomma]

/-- The line goes on in the next one if it ends in an odd number of backslashes. -/
theorem pending_line_iff (j : Job) : pending false j.line = true ↔ OddBackslashes j := by
  rw [pending_line, pending_iff_odd, OddBackslashes]

/-- **What `read` makes of a line**: the columns, without the backslashes. -/
theorem readValue_line (j : Job) :
    readValue (marked false j.line) = decimal j.creationTime ++ ',' :: (unescape j.status ++ ',' ::
      (j.customer ++ ',' :: unescape j.type)) := by
  have hcomma : ',' ≠ '\\' := by decide
  have hback := notMem_decimal (c := '\\') (by decide) j.creationTime
  have hvalue : (marked false j.line).map Prod.fst = decimal j.creationTime ++ ',' :: (unescape j.status ++ ',' ::
      (j.customer ++ ',' :: unescape j.type)) := by
    show unescape j.line = _
    rw [Job.line, unescape_append_cons hcomma, unescape_append_cons hcomma, unescape_append_cons hcomma,
      unescape_of_plain hback, unescape_of_plain (notMem_customer (by decide) j)]
  rw [← hvalue]
  refine readValue_of_ends (fun m hm => ?_) (fun m hm => ?_)
  -- the line begins with a number
  · rw [Job.line, marked_append_cons hcomma, marked_of_plain hback] at hm
    cases hdec : decimal j.creationTime with
    | nil => exact absurd hdec (decimal_ne_nil _)
    | cons c rest =>
        rw [hdec] at hm
        obtain rfl : (c, false) = m := Option.some.inj hm
        exact (isWord_decimal j.creationTime).2 c (hdec ▸ List.mem_cons_self ..)
  -- and ends with the type, or the comma in front of it
  · have hline : j.line = (decimal j.creationTime ++ ',' :: (j.status ++ ',' :: j.customer)) ++ ',' :: j.type := by
      simp [Job.line]
    rw [hline, marked_append_cons hcomma, List.getLast?_append_of_ne_nil _ (List.cons_ne_nil _ _)] at hm
    have hblank : isBlank m.1 = false := by
      rcases List.mem_cons.mp (List.mem_of_mem_getLast? hm) with rfl | hmem
      · rfl
      · exact isBlank_type (fst_mem_of_mem_marked hmem)
    rw [strips, hblank, Bool.and_false]

/-- What `read` leaves of a line still has its four columns. -/
theorem splitOn_readValue_line (j : Job) :
    (readValue (marked false j.line)).splitOn ',' =
      [decimal j.creationTime, unescape j.status, j.customer, unescape j.type] := by
  have hcolumns : ∀ t ∈ [decimal j.creationTime, unescape j.status, j.customer, unescape j.type], ',' ∉ t := by
    simp only [List.forall_mem_cons]
    exact ⟨notMem_decimal (by decide) _, fun h => comma_notMem_status j (mem_of_mem_unescape h),
      notMem_customer (by decide) j, fun h => comma_notMem_type j (mem_of_mem_unescape h), by simp⟩
  rw [readValue_line, ← List.splitOn_intercalate ',' hcolumns (List.cons_ne_nil _ _)]
  simp

/-! ## One turn

The tests of one turn, on the columns of one job: each comparison of `[` is that of the number, or fails on what is
no number of 64 bits. -/

theorem constant_decimal (n : ℤ) : constant (decimal n) = some (wrap n) := by
  have hread : ∀ m : ℕ, ofDecimal (Nat.toDigits 10 m) = some m := fun m => by
    rw [ofDecimal_of_isDecimal (isDecimal_toDigits m), Nat.ofDigitChars_ten_toDigits]
  by_cases hneg : n < 0
  · rw [decimal_of_neg hneg]
    show (ofDecimal (Nat.toDigits 10 n.natAbs)).map (fun m : ℕ => wrap (-(m : ℤ))) = some (wrap n)
    rw [hread, Option.map_some]
    congr 2
    omega
  · have hnonneg : 0 ≤ n := by omega
    have habs : (n.natAbs : ℤ) = n := by omega
    rw [decimal_of_nonneg hnonneg, constant]
    · rw [hread, Option.map_some, habs]
    · intro digits heq
      have hsign : '-' ∈ Nat.toDigits 10 n.natAbs := heq ▸ List.mem_cons_self ..
      exact absurd (List.all_eq_true.mp (isDecimal_toDigits _).2 _ hsign) (by decide)

theorem test_ne_customer (j : Job) {x : Word} {k : ℤ} (hx : legal_number x = some k) :
    test fs [j.customer, "-ne".toList, x] = .yes ↔
      ∃ id, j.customerId = some id ∧ (-(2 ^ 63) ≤ id ∧ id < 2 ^ 63) ∧ id ≠ k := by
  unfold Job.customer
  cases j.customerId with
  | none =>
      show test fs [[], "-ne".toList, x] = .yes ↔ _
      rw [test_ne_empty]
      exact ⟨fun h => (by cases h), fun ⟨_, h, _⟩ => (by cases h)⟩
  | some id =>
      show test fs [decimal id, "-ne".toList, x] = .yes ↔ _
      rw [test_ne_decimal fs id hx]
      exact ⟨fun h => ⟨id, rfl, h⟩, fun ⟨_, heq, h⟩ => Option.some.inj heq ▸ h⟩

/-- **The condition of line 23**, on the columns that are read, as a predicate: the customer counts, and the type is
    neither `SC_MONTHLY` nor has `SWEEPER` in it. A customer that does not fit 64 bits does not count, since `[` fails
    on it. -/
theorem countsAsLong_iff (j : Job) (JOB_TYPE : Text) :
    countsAsLong fs j.customer JOB_TYPE = true ↔
      Customer j ∧ ¬ Occurs "SWEEPER".toList JOB_TYPE ∧ JOB_TYPE ≠ "SC_MONTHLY".toList := by
  have h30014 := test_ne_customer fs j (x := "30014".toList) (k := 30014) (by decide)
  have h0 := test_ne_customer fs j (x := "0".toList) (k := 0) (by decide)
  have h8827 := test_ne_customer fs j (x := "8827".toList) (k := 8827) (by decide)
  have h13109 := test_ne_customer fs j (x := "13109".toList) (k := 13109) (by decide)
  simp only [countsAsLong, Bool.and_eq_true, Bool.not_eq_true', decide_eq_true_iff, decide_eq_false_iff_not, h30014,
    h0, h8827, h13109, Customer]
  cases j.customerId with
  | none => simp
  | some id =>
      simp only [Option.some.injEq, exists_eq_left', Option.any_some, decide_eq_true_iff, exemptCustomers,
        List.mem_cons, List.not_mem_nil, or_false, not_or]
      constructor
      · rintro ⟨⟨⟨⟨⟨⟨hfits, h1⟩, -, h2⟩, hsweeper⟩, hmonthly⟩, -, h3⟩, -, h4⟩
        exact ⟨⟨hfits, h1, h2, h3, h4⟩, hsweeper, hmonthly⟩
      · rintro ⟨⟨hfits, h1, h2, h3, h4⟩, hsweeper, hmonthly⟩
        exact ⟨⟨⟨⟨⟨⟨hfits, h1⟩, hfits, h2⟩, hsweeper⟩, hmonthly⟩, hfits, h3⟩, hfits, h4⟩

/-- **A turn counts the job of its line** as running, and as long-running if it is `Counted`: its column for the type
    is the type without its backslashes. -/
theorem turn_line (c : Counters) (j : Job) :
    turn fs g CURRENT_MS c (readValue (marked false j.line)) =
      some ⟨c.RUNNING_JOBS + 1, c.LONG_RUNNING_JOBS + if Counted CURRENT_MS j then 1 else 0⟩ := by
  have hplain : Plain (decimal j.creationTime) := by
    intro c hc
    rcases mem_decimal hc with rfl | hdigit
    · decide
    · intro hpattern
      simp only [patternChars, List.mem_cons, List.not_mem_nil, or_false] at hpattern
      rcases hpattern with rfl | rfl | rfl | rfl <;> cases hdigit
  have hcolumn : column 1 (readValue (marked false j.line)) = decimal j.creationTime ∧
      column 3 (readValue (marked false j.line)) = j.customer ∧
      column 4 (readValue (marked false j.line)) = unescape j.type := by
    unfold column
    rw [splitOn_readValue_line]
    exact ⟨rfl, rfl, rfl⟩
  have hge := test_ge_decimal fs (wrap (CURRENT_MS - wrap j.creationTime)) (k := 9000000) (by decide)
  rw [show Nat.toDigits 10 9000000 = CRITICAL_RUNNING_MS by decide] at hge
  have hlong := countsAsLong_iff fs j (unescape j.type)
  unfold turn
  simp only [hcolumn.1, hcolumn.2.1, hcolumn.2.2]
  rw [g.unquoted_plain (isWord_decimal _) hplain, test_z_word fs (decimal_ne_nil _), if_neg (by decide),
    constant_decimal, Option.map_some, if_congr hge rfl rfl]
  by_cases hover : 9000000 ≤ wrap (CURRENT_MS - wrap j.creationTime)
  · rw [if_pos ⟨hover, (wrap_bounds _).2⟩, if_congr hlong rfl rfl]
    by_cases hcounts : Customer j ∧ ¬ Occurs "SWEEPER".toList (unescape j.type) ∧
        unescape j.type ≠ "SC_MONTHLY".toList
    · rw [if_pos hcounts, if_pos (show Counted CURRENT_MS j from ⟨hover, hcounts⟩)]
    · rw [if_neg hcounts, if_neg fun h : Counted CURRENT_MS j => hcounts h.2]
      rfl
  · rw [if_neg fun h => hover h.1, if_neg fun h : Counted CURRENT_MS j => hover h.1]
    rfl

/-! ## The loop

With no pending backslash there is a turn for each job. With one, the loop has fewer turns than there are jobs, and
the number of running jobs is too small. -/

theorem jq_eq {jobs : List Job} (h : jobs ≠ []) : jq jobs = endLines (jobs.map Job.line) := by
  unfold jq unlines
  induction jobs with
  | nil => exact absurd rfl h
  | cons j jobs ih =>
      cases jobs with
      | nil => simp [endLines]
      | cons k jobs =>
          have hrest := ih (List.cons_ne_nil _ _)
          rw [List.map_cons, List.map_cons, List.intercalate_cons_cons, List.append_assoc, List.append_assoc,
            ← List.map_cons, hrest, endLines_cons, List.singleton_append]

/-- The turns of the loop, for jobs whose types do not continue on the next line. -/
theorem foldlM_turn (c : Counters) (jobs : List Job) :
    (jobs.map fun j => readValue (marked false j.line)).foldlM (turn fs g CURRENT_MS) c =
      some ⟨c.RUNNING_JOBS + jobs.length,
        c.LONG_RUNNING_JOBS + jobs.countP fun j => decide (Counted CURRENT_MS j)⟩ := by
  induction jobs generalizing c with
  | nil => rfl
  | cons j jobs ih =>
      rw [List.map_cons, List.foldlM_cons, turn_line]
      show (jobs.map fun j => readValue (marked false j.line)).foldlM (turn fs g CURRENT_MS) _ = _
      rw [ih, List.length_cons, List.countP_cons]
      congr 2
      · show c.RUNNING_JOBS + 1 + jobs.length = _
        omega
      · show c.LONG_RUNNING_JOBS + (if Counted CURRENT_MS j then 1 else 0) + _ = _
        by_cases hj : Counted CURRENT_MS j
        · simp [hj]
          omega
        · simp [hj]

/-- **The counters**, if no type continues on the next line: the loop gets the lines of the jobs one by one. -/
theorem countJobs_eq {jobs : List Job} (h : ∀ j ∈ jobs, ¬ OddBackslashes j) :
    countJobs fs g CURRENT_MS jobs =
      some ⟨jobs.length, jobs.countP fun j => decide (Counted CURRENT_MS j)⟩ := by
  cases hjobs : jobs with
  | nil =>
      -- the empty line resets the counter
      have hreads : reads (jq []) = [[]] := by decide
      have hwords : g.unquoted (column 1 []) = [] := rfl
      rw [countJobs, hreads, List.foldlM_cons, turn, hwords, test_z_nil, if_pos rfl]
      rfl
  | cons j rest =>
      have hclosed : ∀ line ∈ jobs.map Job.line, pending false line = false := by
        intro line hline
        obtain ⟨j, hj, rfl⟩ := List.mem_map.mp hline
        exact Bool.eq_false_iff.mpr fun hopen => h j hj ((pending_line_iff j).mp hopen)
      have hnewline : ∀ line ∈ jobs.map Job.line, '\n' ∉ line := by
        intro line hline
        obtain ⟨j, -, rfl⟩ := List.mem_map.mp hline
        exact newline_notMem_line j
      rw [← hjobs, countJobs, jq_eq (by rw [hjobs]; exact List.cons_ne_nil _ _), reads_endLines hnewline hclosed,
        List.map_map]
      show (jobs.map fun j => readValue (marked false j.line)).foldlM (turn fs g CURRENT_MS) ⟨0, 0⟩ = _
      rw [foldlM_turn, Nat.zero_add, Nat.zero_add]

theorem running_turn_le {c c' : Counters} {LINE : Text} (h : turn fs g CURRENT_MS c LINE = some c') :
    c'.RUNNING_JOBS ≤ c.RUNNING_JOBS + 1 := by
  rw [turn] at h
  by_cases hempty : test fs ("-z".toList :: g.unquoted (column 1 LINE)) = .yes
  · rw [if_pos hempty] at h
    obtain rfl := Option.some.inj h
    exact Nat.zero_le _
  · rw [if_neg hempty] at h
    obtain ⟨creation, -, rfl⟩ := Option.map_eq_some_iff.mp h
    by_cases hover : test fs [decimal (wrap (CURRENT_MS - creation)), "-ge".toList, CRITICAL_RUNNING_MS] = .yes
    · simp only [if_pos hover, le_refl]
    · simp only [if_neg hover, le_refl]

theorem running_foldlM_le {c c' : Counters} {LINES : List Text}
    (h : LINES.foldlM (turn fs g CURRENT_MS) c = some c') : c'.RUNNING_JOBS ≤ c.RUNNING_JOBS + LINES.length := by
  induction LINES generalizing c with
  | nil =>
      obtain rfl := Option.some.inj h
      exact le_rfl
  | cons LINE LINES ih =>
      rw [List.foldlM_cons] at h
      obtain ⟨next, hturn, hrest⟩ := Option.bind_eq_some_iff.mp h
      have hone := running_turn_le fs g CURRENT_MS hturn
      have hmore := ih hrest
      rw [List.length_cons]
      omega

/-- **A type that continues on the next line costs a job.** `read` takes a pending backslash and the newline out, so
    the loop has a turn less than there are jobs, and no turn counts more than one. -/
theorem running_countJobs_lt {jobs : List Job} (h : ∃ j ∈ jobs, OddBackslashes j) {c : Counters}
    (hcount : countJobs fs g CURRENT_MS jobs = some c) : c.RUNNING_JOBS < jobs.length := by
  obtain ⟨j, hj, hodd⟩ := h
  have hnewline : ∀ line ∈ jobs.map Job.line, '\n' ∉ line := by
    intro line hline
    obtain ⟨j, -, rfl⟩ := List.mem_map.mp hline
    exact newline_notMem_line j
  have hlost := length_reads_lt hnewline ⟨j.line, List.mem_map_of_mem hj, (pending_line_iff j).mpr hodd⟩
  rw [← jq_eq (List.ne_nil_of_mem hj), List.length_map] at hlost
  have hle := running_foldlM_le fs g CURRENT_MS hcount
  show c.RUNNING_JOBS < jobs.length
  simp only at hle
  omega

/-! ## The verdict

From the counters to the exit code. Both directions of the condition are by the severity of the two numbers, which
the order of the jobs does not change. -/

/-- The exit status is that of the number of long running jobs. -/
theorem verdict_code (c : Counters) : (verdict c).code = severity c.LONG_RUNNING_JOBS := by
  unfold verdict severity WARN_JOBS_COUNT CRIT_JOBS_COUNT
  by_cases hwarn : c.LONG_RUNNING_JOBS < 10
  · rw [if_pos hwarn]
    simp only [if_pos hwarn]
  · by_cases hcrit : c.LONG_RUNNING_JOBS < 20
    · simp only [if_neg hwarn, if_pos hcrit, if_pos (show 10 ≤ c.LONG_RUNNING_JOBS ∧ c.LONG_RUNNING_JOBS < 20 by omega)]
    · simp only [if_neg hwarn, if_neg hcrit,
        if_neg (show ¬ (10 ≤ c.LONG_RUNNING_JOBS ∧ c.LONG_RUNNING_JOBS < 20) by omega)]

/-- The right counts do not depend on the order of the jobs. -/
theorem CountsRight.perm {jobs jobs' : List Job} (hperm : jobs'.Perm jobs) (h : CountsRight CURRENT_MS jobs) :
    CountsRight CURRENT_MS jobs' := by
  refine ⟨fun j hj => h.1 j (hperm.mem_iff.mp hj), ?_⟩
  have hoverdue : overdueJobs CURRENT_MS jobs' = overdueJobs CURRENT_MS jobs := hperm.countP_eq _
  rw [hoverdue, hperm.countP_eq]
  exact h.2

/-- The run of the plugin, if no type continues on the next line. -/
theorem check_eq {jobs : List Job} (h : ∀ j ∈ jobs, ¬ OddBackslashes j) :
    ∃ c, check_long_running_jobs fs g CURRENT_MS jobs = some (c, verdict c) ∧ c.RUNNING_JOBS = jobs.length ∧
      (verdict c).code = severity (jobs.countP fun j => decide (Counted CURRENT_MS j)) := by
  refine ⟨⟨jobs.length, jobs.countP fun j => decide (Counted CURRENT_MS j)⟩, ?_, rfl, verdict_code _⟩
  rw [check_long_running_jobs, countJobs_eq fs g CURRENT_MS h]
  rfl

theorem CountsOverdue.countsRight {jobs : List Job} (h : CountsOverdue fs g CURRENT_MS jobs) :
    CountsRight CURRENT_MS jobs := by
  obtain ⟨c, hcheck, hlen, hcode⟩ := h.counts
  have hclosed : ∀ j ∈ jobs, ¬ OddBackslashes j := by
    intro j hj hodd
    obtain ⟨c', hcount, hpair⟩ := Option.map_eq_some_iff.mp hcheck
    obtain rfl : c' = c := (Prod.mk.inj hpair).1
    have hlost := running_countJobs_lt fs g CURRENT_MS ⟨j, hj, hodd⟩ hcount
    omega
  refine ⟨hclosed, ?_⟩
  obtain ⟨c', hcheck', -, hcode'⟩ := check_eq fs g CURRENT_MS hclosed
  rw [hcheck] at hcheck'
  obtain rfl : c = c' := (Prod.mk.inj (Option.some.inj hcheck')).1
  exact hcode'.symm.trans hcode

/-- **When the plugin counts right**: no type is continued on the next line, and the jobs that are counted as
    long-running are as severe as those that are overdue. The counters are those of `check_eq`; both parts of the
    condition are kept by every permutation of the jobs. -/
theorem countsOverdue_iff (jobs : List Job) :
    CountsOverdue fs g CURRENT_MS jobs ↔ CountsRight CURRENT_MS jobs := by
  refine ⟨fun h => h.countsRight, fun h => ?_⟩
  obtain ⟨c, hcheck, hlen, hcode⟩ := check_eq fs g CURRENT_MS h.1
  refine ⟨⟨c, hcheck, hlen, hcode.trans h.2⟩, fun jobs' hperm => ?_⟩
  have h' := h.perm CURRENT_MS hperm
  obtain ⟨c', hcheck', hlen', hcode'⟩ := check_eq fs g CURRENT_MS h'.1
  refine ⟨c, c', hcheck, hcheck', by rw [hlen', hlen, hperm.length_eq], ?_⟩
  rw [hcode', hcode, hperm.countP_eq]

end

/-- A job without a customer, since the start of the epoch. -/
def orphan : Job := ⟨0, "RUNNING".toList, none, "EXPORT".toList, by decide, by decide⟩

/-- Ten such jobs are overdue, and none is counted. -/
theorem not_countsOverdue_orphans :
    ¬ CountsOverdue Files.empty Globbing.empty 9000000 (List.replicate 10 orphan) := by
  intro h
  exact absurd h.countsRight.2 (by decide +kernel)

end Nrpe.LongRunningJobs
end StgEnvironment
