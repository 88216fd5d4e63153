import StgEnvironment.Nrpe.Correctness.CheckIo

/-!
# `Nrpe.Correctness.CheckIoRows`: which row of `/proc/diskstats` a plugin reads

The pattern `^M m` ends behind the digits of the minor number, so a row passes whose minor number goes on with other
digits. The values are those of the first row that passes (`measured_eq`), which is that of the device, or shows the
same counters, exactly where the plugin is right (`takesOwnRow_iff`).

The two plugins share the search and differ in the columns, so that the result is one statement about a script whose
values can be read, applied twice.
-/

namespace StgEnvironment
namespace Nrpe.CheckIo

/-- The row of the device that the run is for. -/
def Invocation.Own (x : Invocation) (l : DiskLine) : Prop :=
  l ∈ x.diskstats ∧ l.major = x.MAJORNU ∧ l.minor = x.MINORNU

/-- The counters that are taken are those of the device's own row. -/
def TakesOwnRow (s : Script) (x : Invocation) : Prop :=
  ∀ l, x.Own l → measured s x = ("SECONDS".toList, x.CURRENTPROBESECONDS) :: s.values l

/-- No row that comes before that of the device has its major number, a minor number that begins like its own, and
    other counters than the device; of several such rows, the first counts. -/
def NotForestalled (s : Script) (x : Invocation) : Prop :=
  ∀ l, x.Own l → ∀ r, x.firstSelected = some r → s.values r = s.values l

section Rows
variable {s : Script} (hs : s.Readable)
include hs

/-- For each of the two plugins: it takes the row of the device exactly if no other row is before it that passes and
    shows something else. -/
theorem takesOwnRow_of_readable (x : Invocation) : TakesOwnRow s x ↔ NotForestalled s x := by
  constructor
  · intro h l hl r hr
    have htaken := h l hl
    rw [measured_eq hs hr] at htaken
    exact (List.cons.inj htaken).2
  · intro h l hl
    obtain ⟨r, hr⟩ := x.exists_firstSelected
    rw [measured_eq hs hr, h l hl r hr]

end Rows

/-- **A plugin reads the first row that begins like its device.** Its pattern has no end, so that minor number 1 also
    selects 10 to 19 and so on; what it reads is its own row exactly if no such row with other counters comes first.
    One lemma on readable scripts serves both plugins. -/
theorem takesOwnRow_iff (x : Invocation) :
    (TakesOwnRow check_io x ↔ NotForestalled check_io x) ∧ (TakesOwnRow check_iops x ↔ NotForestalled check_iops x) :=
  ⟨takesOwnRow_of_readable readable_check_io x, takesOwnRow_of_readable readable_check_iops x⟩

/-- `dm-1` has been made anew, after `dm-10`. -/
def dm1 : Invocation where
  path := ⟨"/dev/dm-1".toList, by decide, by decide, by decide⟩
  MAJORNU := "253".toList
  MINORNU := "1".toList
  CURRENTPROBESECONDS := "1600000120".toList
  diskstats := [dmLine "10".toList "dm-10".toList "444".toList (by decide),
    dmLine "1".toList "dm-1".toList "333".toList (by decide)]
  seconds := by decide
  found := ⟨_, List.mem_cons_of_mem _ (List.mem_singleton_self _), rfl, rfl⟩

/-- Each device is listed once, and `dm-1` gets the counters of `dm-10`. -/
theorem not_takesOwnRow_dm1 :
    (dm1.diskstats.map fun l => (l.major, l.minor)).Nodup ∧
      ¬ TakesOwnRow check_io dm1 ∧ ¬ TakesOwnRow check_iops dm1 := by
  have hown : dm1.Own (dmLine "1".toList "dm-1".toList "333".toList (by decide)) :=
    ⟨List.mem_cons_of_mem _ (List.mem_singleton_self _), rfl, rfl⟩
  refine ⟨by decide, fun h => ?_, fun h => ?_⟩
  · exact absurd ((takesOwnRow_of_readable readable_check_io dm1).mp h _ hown _ rfl) (by decide)
  · exact absurd ((takesOwnRow_of_readable readable_check_iops dm1).mp h _ hown _ rfl) (by decide)

end Nrpe.CheckIo
end StgEnvironment
