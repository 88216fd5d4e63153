import StgEnvironment.Nrpe.Correctness.CheckIoPyLimits

/-!
# `Nrpe.Correctness.CheckIoPyDevices`: the status of a run and those of its devices

The plugin keeps the greatest number that `checkLimits` returns for a device. That is the worst status among 0, 1 and
2, but the number of UNKNOWN is 3: a device that is missing from a sample hides one that is critical
(`neverHides_iff`).

Each sample is added device by device (`foldl_addRow`), so that a device has as many rows as the two samples have for
its name. The status of a run is a maximum over the devices, which does not depend on their order; the messages are
in the order of the dictionary.
-/

namespace StgEnvironment
namespace Nrpe.CheckIoPy
open Python
open CheckIo (DiskLine Numeral)

/-! ## The samples of a device -/

/-- The rows of a device in a snapshot, behind its name. -/
def samplesIn (diskstats : Snapshot) (name : Text) : List Row :=
  ((fetchPerformanceData diskstats).filter fun x => decide (x[2]? = some (.str name))).map fun x => x.drop 3

/-- A sample adds to every device the rows with its name, and no others, without their first three columns. By
    induction on the rows, for all devices at once. -/
theorem foldl_addRow (rows : List Row) (devices : List Device) :
    rows.foldl addRow devices = devices.map fun d =>
      { d with performance_data := d.performance_data ++
          (rows.filter fun x => decide (x[2]? = some (.str d.name))).map fun x => x.drop 3 } := by
  induction rows generalizing devices with
  | nil => simp
  | cons x rows ih =>
      rw [List.foldl_cons, ih, addRow, List.map_map]
      refine List.map_congr_left fun d _ => ?_
      rw [Function.comp_apply]
      by_cases hx : x[2]? = some (.str d.name)
      · rw [if_pos hx, List.filter_cons_of_pos (by simpa using hx), List.map_cons, List.append_cons]
        rfl
      · rw [if_neg hx, List.filter_cons_of_neg (by simpa using hx)]

/-- **A device has its rows of the first snapshot, then those of the second.** -/
theorem sampledDevices_eq (args : Args) (names : List Text) (first second : Snapshot) :
    sampledDevices args names first second =
      names.map fun name => args.device name (samplesIn first name ++ samplesIn second name) := by
  rw [sampledDevices, addSample, addSample, foldl_addRow, foldl_addRow, List.map_map, List.map_map]
  rfl

theorem strip_digits {t : Text} (h : ∀ c ∈ t, c.isDigit = true) : strip t = t := by
  have hspace : ∀ c ∈ t, ¬ ClusterHealth.isSpace c = true := by
    intro c hc hs
    have hd := h c hc
    simp only [ClusterHealth.isSpace, isBlank, Bool.or_eq_true, beq_iff_eq] at hs
    rcases hs with ((((rfl | rfl) | rfl) | rfl) | rfl) | rfl <;> exact absurd hd (by decide)
  have hleft : t.dropWhile ClusterHealth.isSpace = t := by
    cases t with
    | nil => rfl
    | cons c t => exact List.dropWhile_cons_of_neg (hspace c (List.mem_cons_self ..))
  rw [strip, hleft, List.rdropWhile_eq_self_iff]
  exact fun hne => hspace _ (List.getLast_mem hne)

theorem toInt_numeral {t : Text} (h : Numeral t) : toInt t = .int (Nat.ofDigitChars 10 t 0) := by
  have hint : Python.int t = .ok (Nat.ofDigitChars 10 t 0) := by
    have hdigits := ofDecimal_of_isDecimal (t := t) ⟨h.1, List.all_eq_true.mpr h.2⟩
    unfold Python.int
    rw [strip_digits h.2]
    split
    · exact absurd (h.2 '-' (List.mem_cons_self ..)) (by decide)
    · exact absurd (h.2 '+' (List.mem_cons_self ..)) (by decide)
    · rw [hdigits]
  rw [toInt, hint]

theorem exists_sample {diskstats : Snapshot} {name : Text} {x : Row} (h : x ∈ samplesIn diskstats name) :
    ∃ s : Sample, x = s.row := by
  obtain ⟨y, hy, rfl⟩ := List.mem_map.mp h
  obtain ⟨line, hline, rfl⟩ := List.mem_map.mp (List.mem_filter.mp hy).1
  refine ⟨⟨line.stats.map fun n => Nat.ofDigitChars 10 n 0, by rw [List.length_map]; exact line.complete, ?_⟩, ?_⟩
  · intro n hn
    obtain ⟨t, ht, rfl⟩ := List.mem_map.mp hn
    exact diskstats.unsigned line hline t ht
  · show line.stats.map toInt = (line.stats.map fun n => Nat.ofDigitChars 10 n 0).map fun n : ℕ => Obj.int (n : ℤ)
    rw [List.map_map]
    exact List.map_congr_left fun t ht => toInt_numeral (line.numbers.2.2 t ht)

/-! ## The status of each device -/

/-- The status of a device, if `checkLimits` returns. -/
def Device.status (d : Device) : ℕ :=
  match d.checkLimits with
  | .ok r => r.1
  | .error _ => 0

section Devices
variable (c : Config) {names : List Text} {first second : Snapshot}

/-- **`checkLimits` returns for every device**: UNKNOWN without two samples, else one of 0, 1 and 2. -/
theorem checkLimits_returns {d : Device} (hd : d ∈ sampledDevices c.args names first second) :
    ∃ message, d.checkLimits = .ok (d.status, message) ∧
      ((d.performance_data.length < 2 ∧ d.status = 3) ∨ (2 ≤ d.performance_data.length ∧ d.status ≤ 2)) := by
  rw [sampledDevices_eq] at hd
  obtain ⟨name, -, rfl⟩ := List.mem_map.mp hd
  have hsample : ∀ x ∈ samplesIn first name ++ samplesIn second name, ∃ s : Sample, x = s.row := by
    intro x hx
    rcases List.mem_append.mp hx with hx | hx
    · exact exists_sample hx
    · exact exists_sample hx
  generalize samplesIn first name ++ samplesIn second name = rows at hsample ⊢
  match rows, hsample with
  | [], _ => exact ⟨_, rfl, Or.inl ⟨by simp [Args.device], rfl⟩⟩
  | [x], _ => exact ⟨_, rfl, Or.inl ⟨by simp [Args.device], rfl⟩⟩
  | x :: y :: rest, hsample =>
      obtain ⟨s, rfl⟩ := hsample x (by simp)
      obtain ⟨s', rfl⟩ := hsample y (by simp)
      obtain ⟨message, heq, -⟩ := c.checkLimits_eq name s s' rest
      have hstatus : (c.args.device name (s.row :: s'.row :: rest)).status = c.args.severity (measured s s') := by
        rw [Device.status, heq]
      refine ⟨message, by rw [hstatus, heq], Or.inr ⟨by simp [Args.device], ?_⟩⟩
      rw [hstatus]
      exact Args.severity_le_two _ _

/-- **The loop keeps the greatest status**, and writes a message for each device. Stated by bounds: the final status
    is at most `n` exactly if the first one and that of every device are. By induction on the devices. -/
theorem foldlM_updateData {devices : List Device}
    (hd : ∀ d ∈ devices, ∃ message, d.checkLimits = .ok (d.status, message))
    (nagios : NagiosData) :
    ∃ nagios', devices.foldlM (fun nagios device => return nagios.updateData (← device.checkLimits)) nagios =
        (.ok nagios' : Except Exception NagiosData) ∧
      (∀ n, nagios'.exit_status ≤ n ↔ nagios.exit_status ≤ n ∧ ∀ d ∈ devices, d.status ≤ n) ∧
      (nagios'.exit_message = [] ↔ nagios.exit_message = [] ∧ devices = []) := by
  induction devices generalizing nagios with
  | nil => exact ⟨nagios, rfl, by simp, by simp⟩
  | cons d devices ih =>
      obtain ⟨message, hcheck⟩ := hd d (List.mem_cons_self ..)
      obtain ⟨nagios', hfold, hstatus, hmessage⟩ :=
        ih (fun d' hd' => hd d' (List.mem_cons_of_mem _ hd')) (nagios.updateData (d.status, message))
      refine ⟨nagios', ?_, fun n => ?_, ?_⟩
      · rw [List.foldlM_cons, hcheck]
        exact hfold
      · have hmax : (nagios.updateData (d.status, message)).exit_status ≤ n ↔
            nagios.exit_status ≤ n ∧ d.status ≤ n := by
          show (if nagios.exit_status < d.status then d.status else nagios.exit_status) ≤ n ↔ _
          split_ifs <;> omega
        rw [hstatus, hmax, List.forall_mem_cons, and_assoc]
      · rw [hmessage]
        simp [NagiosData.updateData]

/-- **The status of a run is the greatest of those of its devices.** Stated by bounds; without a device there is no
    message, and the status is 0. -/
theorem report_status_le_iff (n : ℕ) :
    (report c.args names first second).status ≤ n ↔ ∀ d ∈ sampledDevices c.args names first second, d.status ≤ n := by
  have hreturns : ∀ d ∈ sampledDevices c.args names first second,
      ∃ message, d.checkLimits = .ok (d.status, message) := by
    intro d hd
    obtain ⟨message, hcheck, -⟩ := checkLimits_returns c hd
    exact ⟨message, hcheck⟩
  obtain ⟨nagios, hfold, hstatus, hmessage⟩ := foldlM_updateData hreturns .init
  have hreport : report c.args names first second = nagios.exit := by
    rw [report, checkDevices, hfold]
  have hexit : nagios.exit.status = nagios.exit_status := by
    unfold NagiosData.exit
    split_ifs with hsome hzero
    · rfl
    · exact hzero.symm
    · -- without a device there is no message, and no status
      exfalso
      have hnone : sampledDevices c.args names first second = [] := (hmessage.mp (not_not.mp hsome)).2
      have hle := (hstatus 0).mpr ⟨le_rfl, by rw [hnone]; simp⟩
      exact hzero (Nat.le_zero.mp hle)
  rw [hreport, hexit, hstatus]
  exact and_iff_right (Nat.zero_le n)

/-- **The intended behaviour** of a run on these devices and snapshots: the order of the names does not change its
    status, a critical device makes the run critical, and OK means that every device is OK. -/
structure NeverHides (names : List Text) (first second : Snapshot) : Prop where
  order : ∀ names', names'.Perm names →
    (report c.args names' first second).status = (report c.args names first second).status
  critical : (∃ d ∈ sampledDevices c.args names first second, ∃ message, d.checkLimits = .ok (2, message)) →
    (report c.args names first second).status = 2
  ok : (report c.args names first second).status = 0 →
    ∀ d ∈ sampledDevices c.args names first second, ∃ message, d.checkLimits = .ok (0, message)

/-- **The condition**: every device has its two samples, or no device is critical. -/
def NoneMissing (names : List Text) (first second : Snapshot) : Prop :=
  (∀ d ∈ sampledDevices c.args names first second, 2 ≤ d.performance_data.length) ∨
    ∀ d ∈ sampledDevices c.args names first second, ∀ message, d.checkLimits ≠ .ok (2, message)

/-- **A run hides no critical device exactly if no device is missing beside one.** The status of a run is the greatest
    of those of its devices, and UNKNOWN is greater than critical: a device without its two samples takes the place of
    a critical one. The order of the devices never matters. -/
theorem neverHides_iff (names : List Text) (first second : Snapshot) :
    NeverHides c names first second ↔ NoneMissing c names first second := by
  have hle : ∀ n, (report c.args names first second).status ≤ n ↔
      ∀ d ∈ sampledDevices c.args names first second, d.status ≤ n := report_status_le_iff c
  have hself := (hle _).mp le_rfl
  constructor
  · intro h
    by_contra hcon
    unfold NoneMissing at hcon
    push Not at hcon
    obtain ⟨⟨d, hd, hlen⟩, d', hd', message, hcritical⟩ := hcon
    obtain ⟨-, -, ⟨-, hunknown⟩ | ⟨hlen', -⟩⟩ := checkLimits_returns c hd
    · have htwo := h.critical ⟨d', hd', message, hcritical⟩
      have hthree := hself d hd
      omega
    · omega
  · intro h
    refine ⟨fun names' hperm => ?_, ?_, ?_⟩
    · have hmem : ∀ d, d ∈ sampledDevices c.args names' first second ↔
          d ∈ sampledDevices c.args names first second := by
        intro d
        rw [sampledDevices_eq, sampledDevices_eq]
        exact (hperm.map _).mem_iff
      refine le_antisymm ?_ ?_
      · exact (report_status_le_iff c _).mpr fun d hd => hself d ((hmem d).mp hd)
      · exact (hle _).mpr fun d hd => (report_status_le_iff c _).mp le_rfl d ((hmem d).mpr hd)
    · rintro ⟨d, hd, message, hcritical⟩
      rcases h with hall | hnone
      · refine le_antisymm ?_ ?_
        · refine (hle 2).mpr fun d' hd' => ?_
          obtain ⟨-, -, ⟨hlen, -⟩ | ⟨-, hstatus⟩⟩ := checkLimits_returns c hd'
          · have hlen' := hall d' hd'
            omega
          · exact hstatus
        · have hstatus : d.status = 2 := by rw [Device.status, hcritical]
          rw [← hstatus]
          exact hself d hd
      · exact absurd hcritical (hnone d hd message)
    · intro hzero d hd
      obtain ⟨message, hcheck, -⟩ := checkLimits_returns c hd
      have hstatus : d.status = 0 := Nat.le_zero.mp (hzero ▸ hself d hd)
      exact ⟨message, by rw [hcheck, hstatus]⟩

end Devices

/-- The line of a disk that has been busy for so many milliseconds. -/
def diskLine (name : Text) (tbusy : ℕ) : DiskLine where
  major := ['8']
  minor := ['0']
  name := name
  stats := List.replicate 9 ['0'] ++ [Nat.toDigits 10 tbusy, ['0']]
  numbers := by
    refine ⟨by decide, by decide, fun n hn => ?_⟩
    rcases List.mem_append.mp hn with hn | hn
    · rw [List.eq_of_mem_replicate hn]; decide
    · rcases List.mem_cons.mp hn with rfl | hn
      · exact ⟨Nat.toDigits_ne_nil, fun _ hc => Nat.isDigit_of_mem_toDigits (by decide) (by decide) hc⟩
      · rw [List.mem_singleton.mp hn]; decide
  complete := by simp

/-- `sda` is busy all the time, `sdb` is gone at the second sample: the run is UNKNOWN. -/
theorem not_neverHides_gone :
    ¬ NeverHides Config.unlimited ["sda".toList, "sdb".toList]
      ⟨[diskLine "sda".toList 0, diskLine "sdb".toList 0], by decide⟩ ⟨[diskLine "sda".toList 2000], by decide⟩ := by
  intro h
  have hmem : Config.unlimited.args.device "sda".toList [row 0 0 0, row 0 0 2000] ∈
      sampledDevices Config.unlimited.args ["sda".toList, "sdb".toList]
        ⟨[diskLine "sda".toList 0, diskLine "sdb".toList 0], by decide⟩ ⟨[diskLine "sda".toList 2000], by decide⟩ := by
    decide +kernel
  obtain ⟨message, hcheck, -⟩ := checkLimits_returns Config.unlimited hmem
  have htwo : (Config.unlimited.args.device "sda".toList [row 0 0 0, row 0 0 2000]).status = 2 := by decide +kernel
  rw [htwo] at hcheck
  exact absurd (h.critical ⟨_, hmem, message, hcheck⟩) (by decide +kernel)

end Nrpe.CheckIoPy
end StgEnvironment
