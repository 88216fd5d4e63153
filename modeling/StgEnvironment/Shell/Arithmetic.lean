import StgEnvironment.Lib.Text

/-!
# `Shell.Arithmetic`: integers of 64 bits

`$(( ))` and the comparisons of `[[ ]]` are in the integers of 64 bits. What is beyond them comes back in at the other
end (`wrap`), and what is one of them is left alone (`wrap_eq_self`).

The times that the plugins take from a server and from the clock stay clear of both ends (`Timestamp`), so that the time
between two of them is what one expects (`Timestamp.wrap_sub`).

Division rounds towards zero, as `Int.tdiv` does.
-/

namespace StgEnvironment
namespace Shell

/-- What arithmetic makes of an integer. -/
def wrap (n : ℤ) : ℤ := n.bmod (2 ^ 64)

theorem wrap_bounds (n : ℤ) : -(2 ^ 63) ≤ wrap n ∧ wrap n < 2 ^ 63 := by
  have hle := Int.le_bmod (x := n) (m := 2 ^ 64) (by decide)
  have hlt := Int.bmod_lt (x := n) (m := 2 ^ 64) (by decide)
  unfold wrap
  omega

theorem wrap_eq_self {n : ℤ} (h : -(2 ^ 63) ≤ n ∧ n < 2 ^ 63) : wrap n = n := by
  unfold wrap
  exact Int.bmod_eq_of_le (by omega) (by omega)

/-- A time, of an event or of the clock: a whole number that `jq` and `date` print in digits. An event that has not come
yet has the time `-1`. -/
structure Timestamp where
  val : ℤ
  known : -1 ≤ val
  bounded : val < 2 ^ 63 - 1
deriving DecidableEq

theorem Timestamp.tdiv_bounds (t : Timestamp) : 0 ≤ t.val.tdiv 1000 ∧ t.val.tdiv 1000 < 2 ^ 63 := by
  have hlow : (-1 : ℤ).tdiv 1000 ≤ t.val.tdiv 1000 := Int.tdiv_le_tdiv (by decide) t.known
  have hhigh : t.val.tdiv 1000 ≤ (2 ^ 63 - 1 : ℤ).tdiv 1000 := Int.tdiv_le_tdiv (by decide) t.bounded.le
  exact ⟨hlow, lt_of_le_of_lt hhigh (by decide)⟩

/-- The time between two events is not cut off. -/
theorem Timestamp.wrap_sub (now t : Timestamp) : wrap (now.val - t.val) = now.val - t.val := by
  have hnow := now.known
  have hnow' := now.bounded
  have ht := t.known
  have ht' := t.bounded
  exact wrap_eq_self ⟨by omega, by omega⟩

/-- Nor is the time in seconds, from an event in milliseconds. -/
theorem Timestamp.wrap_sub_tdiv (now t : Timestamp) :
    wrap (now.val - t.val.tdiv 1000) = now.val - t.val.tdiv 1000 := by
  have hnow := now.known
  have hnow' := now.bounded
  obtain ⟨hlow, hhigh⟩ := t.tdiv_bounds
  exact wrap_eq_self ⟨by omega, by omega⟩

end Shell
end StgEnvironment
