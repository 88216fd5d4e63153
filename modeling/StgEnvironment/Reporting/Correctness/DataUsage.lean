import StgEnvironment.Reporting.DataUsage

/-!
# `Reporting.Correctness.DataUsage`: the usage of each client in megabytes

Each table should have one row for each line with a client, and the usage in it should be the size of the line in
megabytes (`InMegabytes`).

`awk` computes the quotient of the double nearest to the size, and both divisions are exact (`divide_divide`). It prints
the quotient in full if that is an integer up to `maxInt`, and then the row is right exactly if the size is a double.
Otherwise it prints six significant digits, and then the row is right exactly if the exact quotient has no more, since
the double is too close to the size to make a difference (`rounded_nearest`). `numeral?_toText_usage` has both cases.
The table for Elasticsearch shows bytes, so it is right for empty indices only. `allInMegabytes_iff` is about all five.

## Contents
- **What is printed**: where the columns of a listing are (`Columns`), and what a table should show.
- **The condition**: `SixDigits` for a size, `ShowsExactly` for all listings.
- **The numbers**: from the text of a size to the text in the table, and back to a number.
- **The tables**: one lemma for the four of directories, with the place of the client as a parameter, and one for the
  indices.
-/

namespace StgEnvironment
namespace Reporting.DataUsage
open Awk Numeral
open Binary64 (ofRat nearest)

/-! ## The intended tables

A table is right if it has a row for each client of the listing, and what the row shows reads as the usage in
megabytes. -/

/-- Where a line has its client, behind how many separators of which field, and its size. -/
structure Columns where
  key : ℕ
  sep : Char
  skipped : ℕ
  size : ℕ

namespace Columns
variable (c : Columns)

/-- The client of a line, empty for a line without one. -/
def client (line : Text) : Text := part c.sep c.skipped (field line c.key)

/-- The size of a line in bytes. -/
def bytes (line : Text) : ℕ := Nat.ofDigitChars 10 (field line c.size) 0

/-- The exact number of megabytes. -/
def megabytes (line : Text) : ℚ := (c.bytes line : ℚ) / 1048576

end Columns

/-- The part of the path behind the first `=`. -/
def behindEquals : Columns := ⟨3, '=', 1, 1⟩

/-- The fifth component of the path. -/
def fifthComponent : Columns := ⟨3, '/', 5, 1⟩

/-- The third part of the name of an index. -/
def thirdPart : Columns := ⟨1, '-', 2, 2⟩

/-- A listing: the lines with a client have a size. -/
structure Listing (c : Columns) where
  lines : List Text
  sizes : ∀ line ∈ lines, c.client line ≠ [] → IsDecimal (field line c.size)

section
variable {c : Columns}

/-- The lines with a client. -/
def Listing.clients (l : Listing c) : List Text := l.lines.filter fun line => decide (c.client line ≠ [])

/-- **The intended table**: one row for each line with a client, in their order, with the exact usage in megabytes. -/
def InMegabytes (l : Listing c) (file : List Text) : Prop :=
  ∃ title heading date rows, file = page title heading date rows ∧ Occurs "in MB".toList heading ∧
    List.Forall₂ (fun line r => ∃ usage, r = row (c.client line) usage ∧ numeral? usage = some (c.megabytes line))
      l.clients rows

end

/-- What the five commands print. Each listing knows where the name of the client is in its lines. -/
structure Listings where
  usersnapshot : Listing behindEquals
  userresponsesnapshot : Listing fifthComponent
  usercompaction : Listing behindEquals
  membershipcompaction : Listing behindEquals
  elasticsearch : Listing thirdPart

def Listings.outputs (l : Listings) : Outputs where
  usersnapshot := l.usersnapshot.lines
  userresponsesnapshot := l.userresponsesnapshot.lines
  usercompaction := l.usercompaction.lines
  membershipcompaction := l.membershipcompaction.lines
  elasticsearch := l.elasticsearch.lines

/-- **The intended report**: each of the five tables has the exact usage of every client, in megabytes. -/
structure AllInMegabytes (l : Listings) (r : Report) : Prop where
  usersnapshot : InMegabytes l.usersnapshot r.usersnapshot
  userresponsesnapshot : InMegabytes l.userresponsesnapshot r.userresponsesnapshot
  usercompaction : InMegabytes l.usercompaction r.usercompaction
  membershipcompaction : InMegabytes l.membershipcompaction r.membershipcompaction
  elasticsearch : InMegabytes l.elasticsearch r.elasticsearch

/-! ## When it is so

The condition is on the sizes that the commands print. `awk` computes in doubles and prints six digits, unless the
result is an integer that it prints in full. -/

/-- A size `n` has a nearest double `y`. Where `awk` prints the megabytes of `y` in full, the size is this double, and
elsewhere the megabytes of the size have at most six significant digits. -/
def SixDigits (maxInt n : ℕ) : Prop :=
  ∃ y, ofRat n = some y ∧
    if InFull maxInt (y / 1048576) then y = n
    else ∃ (m : ℕ) (k : ℤ), m < 10 ^ 6 ∧ (n : ℚ) / 1048576 = m * 10 ^ k

/-- All sizes of a listing are such. -/
def AllSixDigits (maxInt : ℕ) {c : Columns} (l : Listing c) : Prop :=
  ∀ line ∈ l.clients, SixDigits maxInt (c.bytes line)

/-- **The condition**, on what the commands print: in four listings every size is a number of megabytes that `awk`
    prints exactly, and in the fifth every size is 0. -/
structure ShowsExactly (maxInt : ℕ) (l : Listings) : Prop where
  usersnapshot : AllSixDigits maxInt l.usersnapshot
  userresponsesnapshot : AllSixDigits maxInt l.userresponsesnapshot
  usercompaction : AllSixDigits maxInt l.usercompaction
  membershipcompaction : AllSixDigits maxInt l.membershipcompaction
  elasticsearch : ∀ line ∈ l.elasticsearch.clients, thirdPart.bytes line = 0

/-! ## Rows

Two files with one heading are equal only if their rows are, and two rows only if they show the same. -/

theorem flatMap_ite (p : Text → Prop) [DecidablePred p] (f : Text → Text) (lines : List Text) :
    (lines.flatMap fun line => if p line then [f line] else []) = (lines.filter fun line => decide (p line)).map f := by
  induction lines with
  | nil => rfl
  | cons line lines ih =>
      rw [List.flatMap_cons, ih]
      by_cases hp : p line
      · rw [if_pos hp, List.filter_cons_of_pos (by simpa using hp)]
        rfl
      · rw [if_neg hp, List.filter_cons_of_neg (by simpa using hp)]
        rfl

theorem row_inj {client usage usage' : Text} (h : row client usage = row client usage') : usage = usage' :=
  List.append_cancel_right (List.append_cancel_left (List.append_cancel_left (List.append_cancel_left h)))

theorem page_inj {title title' heading heading' date date' : Text} {rows rows' : List Text}
    (h : page title heading date rows = page title' heading' date' rows') : rows = rows' :=
  congrArg (List.drop 6) (List.append_cancel_right h)

/-- **A table by its rows.** The heading says what the unit is, so a table is right exactly if what it shows for each
    client reads as the megabytes of that client. -/
theorem inMegabytes_iff {c : Columns} (l : Listing c) {title heading date : Text} (hMB : Occurs "in MB".toList heading)
    (shown : Text → Text) :
    InMegabytes l (page title heading date (l.clients.map fun line => row (c.client line) (shown line))) ↔
      ∀ line ∈ l.clients, numeral? (shown line) = some (c.megabytes line) := by
  constructor
  · rintro ⟨title', heading', date', rows, hpage, -, hrows⟩
    obtain rfl := page_inj hpage
    rw [List.forall₂_map_right_iff, List.forall₂_same] at hrows
    intro line hline
    obtain ⟨usage, hrow, hvalue⟩ := hrows line hline
    rw [row_inj hrow]
    exact hvalue
  · intro h
    refine ⟨title, heading, date, _, rfl, hMB, ?_⟩
    rw [List.forall₂_map_right_iff, List.forall₂_same]
    exact fun line hline => ⟨shown line, rfl, h line hline⟩

/-! ## The usage that `awk` prints

Both divisions are by powers of two and so exact on doubles; what is printed is then compared with the exact
quotient. -/

theorem divide_divide (n : ℕ) : divide (divide (ofRat n) 1024) 1024 = (ofRat n).map (· / 2 ^ 20) := by
  have hexp := Binary64.le_exponent_natCast n
  cases hy : ofRat (n : ℚ) with
  | none => rfl
  | some y =>
      have hfirst : ofRat (y / 1024) = some (y / 1024) := by
        rw [show (1024 : ℚ) = 2 ^ 10 by norm_num]
        exact Binary64.ofRat_div_two_pow (by omega) hy
      have hsecond : ofRat (y / 1024 / 1024) = some (y / 2 ^ 20) := by
        rw [div_div, show (1024 : ℚ) * 1024 = 2 ^ 20 by norm_num]
        exact Binary64.ofRat_div_two_pow (by omega) hy
      show (ofRat (y / 1024)).bind (fun x => ofRat (x / 1024)) = some (y / 2 ^ 20)
      rw [hfirst]
      exact hsecond

/-- What is rounded to something positive is positive. -/
theorem pos_of_nearest_pos {n : ℕ} (h : 0 < nearest n) : 0 < n := by
  rcases Nat.eq_zero_or_pos n with rfl | hn
  · exact absurd (Binary64.nearest_nonpos (x := ((0 : ℕ) : ℚ)) (by simp)) (not_le.mpr h)
  · exact hn

/-- The double nearest to a size does not show in six digits of its megabytes. -/
theorem rounded_nearest {n m : ℕ} {k : ℤ} (hn : 0 < n) (hm : m < 10 ^ 6) (h : (n : ℚ) / 2 ^ 20 = m * 10 ^ k) :
    rounded 6 (nearest n / 2 ^ 20) = n / 2 ^ 20 := by
  have hpos : (0 : ℚ) < n := Nat.cast_pos.mpr hn
  refine rounded_of_close hm h (by positivity) ?_
  have hclose : |nearest (n : ℚ) - n| ≤ n / 2 ^ 52 :=
    (Binary64.abs_nearest_sub_le n).trans (Binary64.spacing_natCast_le hn)
  have hsmall : (n : ℚ) / 2 ^ 52 < n / (4 * 10 ^ 6) := div_lt_div_of_pos_left hpos (by norm_num) (by norm_num)
  calc |nearest (n : ℚ) / 2 ^ 20 - n / 2 ^ 20| = |nearest (n : ℚ) - n| / 2 ^ 20 := by
        rw [← sub_div, abs_div, abs_of_pos (by positivity : (0 : ℚ) < 2 ^ 20)]
    _ < n / (4 * 10 ^ 6) / 2 ^ 20 := div_lt_div_of_pos_right (hclose.trans_lt hsmall) (by positivity)
    _ = n / 2 ^ 20 / (4 * 10 ^ 6) := div_right_comm _ _ _

/-- **The usage that `awk` prints is the exact one exactly under the condition on its digits.** The two divisions are
    exact, being by powers of two, so that what is printed is the nearest double in full, or its first six digits. -/
theorem numeral?_toText_usage (maxInt n : ℕ) :
    numeral? (toText maxInt (divide (divide (ofRat n) 1024) 1024)) = some ((n : ℚ) / 1048576) ↔
      SixDigits maxInt n := by
  have hmega : (1048576 : ℚ) = 2 ^ 20 := by norm_num
  unfold SixDigits
  rw [divide_divide, hmega]
  cases hy : ofRat (n : ℚ) with
  | none => exact iff_of_false (fun h => by cases h) (fun ⟨_, h, _⟩ => by cases h)
  | some y =>
      obtain ⟨hnear, -⟩ := Binary64.nearest_of_ofRat hy
      have hnonneg : 0 ≤ y / 2 ^ 20 := by
        have hy0 : 0 ≤ y := by simpa [hnear] using Binary64.le_nearest (x := (n : ℚ)) (m := 0) (by simp)
        positivity
      simp only [Option.some.injEq, exists_eq_left']
      rw [Option.map_some, numeral?_toText maxInt hnonneg, Option.some.injEq]
      by_cases hfull : InFull maxInt (y / 2 ^ 20)
      · rw [if_pos hfull, if_pos hfull, div_left_inj' (by positivity)]
      · have hpos : 0 < y / 2 ^ 20 := lt_of_le_of_ne hnonneg fun hzero => hfull (hzero ▸ inFull_zero maxInt)
        rw [if_neg hfull, if_neg hfull]
        constructor
        · intro h
          obtain ⟨-, hdigits, hspec⟩ := significand_spec hpos (p := 6) (by decide)
          exact ⟨_, _, hdigits, h.symm.trans hspec⟩
        · rintro ⟨m, k, hm, h⟩
          rw [← hnear]
          exact rounded_nearest (pos_of_nearest_pos (hnear ▸ (div_pos_iff_of_pos_right (by positivity)).mp hpos)) hm h

/-! ## The tables

The five programs of the script, of which four are one lemma with the place of the client as its parameter. -/

section
variable {c : Columns} (l : Listing c)

theorem isDecimal_of_clients {line : Text} (h : line ∈ l.clients) : IsDecimal (field line c.size) := by
  obtain ⟨hline, hclient⟩ := List.mem_filter.mp h
  exact l.sizes line hline (of_decide_eq_true hclient)

/-- The rows of a listing, where `awk` finds the client that the intended table has. -/
theorem rows_eq (shown : Text → Text) :
    (l.lines.flatMap fun line => if c.client line ≠ [] then [row (c.client line) (shown line)] else []) =
      l.clients.map fun line => row (c.client line) (shown line) :=
  flatMap_ite (fun line => c.client line ≠ []) (fun line => row (c.client line) (shown line)) l.lines

/-- **A table of directories**: right exactly if every size is printed exactly. The four programs differ in the
    separator and in the part with the name of the client. -/
theorem inMegabytes_du (maxInt : ℕ) {sep : Char} {k : ℕ} (l : Listing ⟨3, sep, k, 1⟩) {title heading : Text}
    (date : Text) (hMB : Occurs "in MB".toList heading) :
    InMegabytes l (page title heading date (l.lines.flatMap (awkDu maxInt sep (k + 1)))) ↔ AllSixDigits maxInt l := by
  have hrows : l.lines.flatMap (awkDu maxInt sep (k + 1)) =
      l.clients.map fun line => row (Columns.client ⟨3, sep, k, 1⟩ line) (toText maxInt (usage line 1)) := by
    rw [← rows_eq]
    refine List.flatMap_congr fun line _ => ?_
    show (if element (split (field line 3) sep) (k + 1) ≠ [] then _ else _) = _
    rw [element_split]
    rfl
  rw [hrows, inMegabytes_iff l hMB fun line => toText maxInt (usage line 1)]
  refine forall₂_congr fun line hline => ?_
  rw [usage, number_of_isDecimal (isDecimal_of_clients l hline)]
  exact numeral?_toText_usage maxInt _

example : awkDu (2 ^ 31 - 1) '=' 2 "1572864 4718592 /mds/snapshots/user/data/client=1234".toList =
    [row "1234".toList "1.5".toList] := by decide +kernel

/-- **The table of indices.** It shows bytes, so that it is right exactly if all indices are empty. -/
theorem inMegabytes_indices (l : Listing thirdPart) {title heading : Text} (date : Text)
    (hMB : Occurs "in MB".toList heading) :
    InMegabytes l (page title heading date (l.lines.flatMap awkIndices)) ↔
      ∀ line ∈ l.clients, thirdPart.bytes line = 0 := by
  have hrows : l.lines.flatMap awkIndices = l.clients.map fun line => row (thirdPart.client line) (field line 2) := by
    rw [← rows_eq]
    refine List.flatMap_congr fun line _ => ?_
    show (if element (split (field line 1) '-') 3 ≠ [] then _ else _) = _
    rw [element_split]
    rfl
  rw [hrows, inMegabytes_iff l hMB fun line => field line 2]
  refine forall₂_congr fun line hline => ?_
  have hvalue : numeral? (field line 2) = some (thirdPart.bytes line : ℚ) :=
    numeral?_of_isDecimal (isDecimal_of_clients l hline)
  rw [hvalue, Option.some.injEq]
  constructor
  · intro h
    have hzero : (thirdPart.bytes line : ℚ) = 0 := by
      have hmega : (thirdPart.bytes line : ℚ) = thirdPart.bytes line / 1048576 := h
      linarith
    exact Nat.cast_eq_zero.mp hzero
  · intro h
    show (thirdPart.bytes line : ℚ) = thirdPart.bytes line / 1048576
    rw [h, Nat.cast_zero, zero_div]

end

/-- **When every table has the exact usage of every client**: for all that the five commands can print. The four
    tables of directories are one lemma (`inMegabytes_du`) about the digits of the sizes. The table of the indices
    prints bytes, and is right only where they are 0. -/
theorem allInMegabytes_iff (maxInt : ℕ) (date : Text) (l : Listings) :
    AllInMegabytes l (getReport maxInt date l.outputs) ↔ ShowsExactly maxInt l := by
  have husersnapshot : InMegabytes l.usersnapshot (usersnapshot maxInt date l.usersnapshot.lines) ↔ _ :=
    inMegabytes_du maxInt l.usersnapshot date (by decide)
  have huserresponsesnapshot :
      InMegabytes l.userresponsesnapshot (userresponsesnapshot maxInt date l.userresponsesnapshot.lines) ↔ _ :=
    inMegabytes_du maxInt l.userresponsesnapshot date (by decide)
  have husercompaction : InMegabytes l.usercompaction (usercompaction maxInt date l.usercompaction.lines) ↔ _ :=
    inMegabytes_du maxInt l.usercompaction date (by decide)
  have hmembershipcompaction :
      InMegabytes l.membershipcompaction (membershipcompaction maxInt date l.membershipcompaction.lines) ↔ _ :=
    inMegabytes_du maxInt l.membershipcompaction date (by decide)
  have helasticsearch : InMegabytes l.elasticsearch (elasticsearch date l.elasticsearch.lines) ↔ _ :=
    inMegabytes_indices l.elasticsearch date (by decide)
  constructor
  · rintro ⟨h1, h2, h3, h4, h5⟩
    exact ⟨husersnapshot.mp h1, huserresponsesnapshot.mp h2, husercompaction.mp h3, hmembershipcompaction.mp h4,
      helasticsearch.mp h5⟩
  · rintro ⟨h1, h2, h3, h4, h5⟩
    exact ⟨husersnapshot.mpr h1, huserresponsesnapshot.mpr h2, husercompaction.mpr h3, hmembershipcompaction.mpr h4,
      helasticsearch.mpr h5⟩

/-- A listing without lines. -/
def noLines (c : Columns) : Listing c := ⟨[], fun _ h => by cases h⟩

/-- One index of one megabyte. -/
def oneIndex : Listings where
  usersnapshot := noLines _
  userresponsesnapshot := noLines _
  usercompaction := noLines _
  membershipcompaction := noLines _
  elasticsearch := ⟨["user-v1-1234 1048576".toList], by decide +kernel⟩

/-- Its table says that the usage is 1048576 MB. -/
theorem not_allInMegabytes_oneIndex :
    (getReport (2 ^ 31 - 1) [] oneIndex.outputs).elasticsearch[6]? = some (row "1234".toList "1048576".toList) ∧
      ¬ AllInMegabytes oneIndex (getReport (2 ^ 31 - 1) [] oneIndex.outputs) := by
  refine ⟨by decide +kernel, fun h => ?_⟩
  have hzero := (inMegabytes_indices oneIndex.elasticsearch [] (by decide)).mp h.elasticsearch _
    (List.mem_filter.mpr ⟨List.mem_cons_self, by decide +kernel⟩)
  exact absurd hzero (by decide +kernel)

end Reporting.DataUsage
end StgEnvironment
