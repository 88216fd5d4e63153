import StgEnvironment.Hadoop.Topology

/-!
# `Hadoop.Correctness.Topology`: the script inverts the rendered file

An entry of the topology that is one host and one rack, with a single comma between them, is a `Row`. The loop
over the file takes the lines in order and `Rack lines host rack` describes what it leaves in the mapping: the rack
of the last row for the host, or the default. `rack_foldl` proves the loop against it, by induction over the lines
from the end, where the last one either speaks of the host or changes nothing. The lines of the rendered file have
the rows of the entries (`row_concat_newline`).

## Contents
- **One line of the file**: a row sets its host, and nothing else does anything.
- **The whole file**: the loop against `Rack`.
- **The rendered file**: the newlines that the template adds are stripped again.
- **The answers**: what the script prints, for any arguments, and that entries which are no rows may as well be missing
  (`main_topologyCsv`).
-/

namespace StgEnvironment
namespace Hadoop.Topology
open Python
open Nrpe.ClusterHealth (isSpace)

/-- `entry` is `x,r` without another comma, for the host `host`. Blanks around host and rack do not count. -/
def Row (entry host rack : Text) : Prop :=
  ∃ x r, entry = x ++ ',' :: r ∧ ',' ∉ x ∧ ',' ∉ r ∧ strip x = host ∧ strip r = rack

/-- What the topology says about a host: the rack of its last row, or the default one. -/
def Rack (topology : List Text) (host rack : Text) : Prop :=
  (∃ before entry after, topology = before ++ entry :: after ∧ Row entry host rack ∧
      ∀ later ∈ after, ¬ ∃ rack', Row later host rack')
    ∨ ((∀ entry ∈ topology, ¬ ∃ rack', Row entry host rack') ∧ rack = DEFAULT_RACK)

/-- The entry has exactly one comma, which is what the loop can unpack. -/
def oneComma (entry : Text) : Bool := entry.count ',' == 1

/-! ## One line of the file -/

theorem loadLine_row {line host rack : Text} (h : Row line host rack) (mapping : Mapping) :
    loadLine mapping line = mapping.set host rack := by
  obtain ⟨x, r, rfl, hx, hr, rfl, rfl⟩ := h
  rw [loadLine, splitOn_eq_pair_iff.mpr ⟨rfl, hx, hr⟩]

theorem loadLine_of_not_row {line : Text} (h : ¬ ∃ host rack, Row line host rack) (mapping : Mapping) :
    loadLine mapping line = mapping := by
  unfold loadLine
  split
  · next x r hsplit =>
      obtain ⟨hline, hx, hr⟩ := splitOn_eq_pair_iff.mp hsplit
      exact absurd ⟨strip x, strip r, x, r, hline, hx, hr, rfl, rfl⟩ h
  · rfl

/-- A line that is not about the host leaves its rack alone, whether it is a row or not. -/
theorem get?_loadLine_of_not_row {line host : Text} (h : ¬ ∃ rack, Row line host rack) (mapping : Mapping) :
    (loadLine mapping line).get? host = mapping.get? host := by
  by_cases hrow : ∃ host' rack, Row line host' rack
  · obtain ⟨host', rack, hrow⟩ := hrow
    have hne : ¬ host = host' := fun heq => h ⟨rack, heq ▸ hrow⟩
    rw [loadLine_row hrow, Dict.get?_set, if_neg hne]
  · rw [loadLine_of_not_row hrow]

theorem rack_of_loadLine_row {line host rack : Text} (h : Row line host rack) (mapping : Mapping) :
    rack_of (loadLine mapping line) host = rack := by
  rw [rack_of, loadLine_row h, Dict.get?_set, if_pos rfl]

/-! ## The whole file -/

/-- **The loop keeps the last row of each host.** Of the lines that are rows of the host the last decides, and without
    one the host is in the default rack. By induction on the lines from the end. -/
theorem rack_foldl (lines : List Text) (host : Text) :
    Rack lines host (rack_of (lines.foldl loadLine Dict.empty) host) := by
  induction lines using List.reverseRecOn with
  | nil => exact Or.inr ⟨by simp, rfl⟩
  | append_singleton lines line ih =>
      rw [List.foldl_append, List.foldl_cons, List.foldl_nil]
      by_cases hrow : ∃ rack, Row line host rack
      · obtain ⟨rack, hrow⟩ := hrow
        refine Or.inl ⟨lines, line, [], rfl, ?_, by simp⟩
        rw [rack_of_loadLine_row hrow]
        exact hrow
      · rw [rack_of, get?_loadLine_of_not_row hrow, ← rack_of]
        rcases ih with ⟨before, row, after, rfl, hr, hafter⟩ | ⟨hnone, hdef⟩
        · refine Or.inl ⟨before, row, after ++ [line], by simp, hr, fun later hlater => ?_⟩
          rcases List.mem_append.mp hlater with hl | hl
          · exact hafter later hl
          · exact List.mem_singleton.mp hl ▸ hrow
        · refine Or.inr ⟨fun e he => ?_, hdef⟩
          rcases List.mem_append.mp he with he | he
          · exact hnone e he
          · exact List.mem_singleton.mp he ▸ hrow

/-! ## The rendered file -/

/-- The newline that ends a line is stripped with the rack, so that a line of the file is the row that its entry
    is. -/
theorem row_concat_newline {entry host rack : Text} : Row (entry ++ ['\n']) host rack ↔ Row entry host rack := by
  have hnl : isSpace '\n' = true := by decide
  constructor
  · rintro ⟨x, y, hline, hx, hy, rfl, rfl⟩
    rcases List.eq_nil_or_concat y with rfl | ⟨r, c, rfl⟩
    · have hlast := congrArg List.getLast? hline
      simp at hlast
    -- the second field ends in the newline, so the comma is inside the entry
    · rw [List.concat_eq_append, ← List.cons_append, ← List.append_assoc] at hline
      obtain ⟨hentry, hc⟩ := List.append_inj' hline rfl
      rw [List.concat_eq_append, ← hc, strip_concat_space hnl]
      exact ⟨x, r, hentry, hx, fun hr => hy (by simp [hr]), rfl, rfl⟩
  · rintro ⟨x, r, rfl, hx, hr, rfl, rfl⟩
    exact ⟨x, r ++ ['\n'], by simp, hx, by simpa using hr, rfl, strip_concat_space hnl r⟩

theorem Rack.of_map_concat_newline {topology : List Text} {host rack : Text}
    (h : Rack (topology.map (· ++ ['\n'])) host rack) : Rack topology host rack := by
  rcases h with ⟨before, line, after, htopology, hrow, hafter⟩ | ⟨hnone, hdef⟩
  · obtain ⟨before', rest, rfl, -, hrest⟩ := List.map_eq_append_iff.mp htopology
    obtain ⟨entry, after', rfl, rfl, rfl⟩ := List.map_eq_cons_iff.mp hrest
    refine Or.inl ⟨before', entry, after', rfl, row_concat_newline.mp hrow, ?_⟩
    rintro later hlater ⟨rack', hrow'⟩
    exact hafter _ (List.mem_map_of_mem hlater) ⟨rack', row_concat_newline.mpr hrow'⟩
  · refine Or.inr ⟨?_, hdef⟩
    rintro entry hentry ⟨rack', hrow'⟩
    exact hnone _ (List.mem_map_of_mem hentry) ⟨rack', row_concat_newline.mpr hrow'⟩

/-- The script reads the lines that the template wrote, each with its newline. -/
theorem load_topologyCsv {topology : List Text} (hline : ∀ entry ∈ topology, '\n' ∉ entry) :
    load_topology (some (topologyCsv topology)) = (topology.map (· ++ ['\n'])).foldl loadLine Dict.empty := by
  rw [load_topology, topologyCsv, fileLines_endLines hline]

/-! ## The answers -/

/-- The answer for one host: the script and the template together are what the topology says. -/
theorem rack_topologyCsv {topology : List Text} (hline : ∀ entry ∈ topology, '\n' ∉ entry) (host : Text) :
    Rack topology host (rack_of (load_topology (some (topologyCsv topology))) host) := by
  rw [load_topologyCsv hline]
  exact (rack_foldl _ host).of_map_concat_newline

/-- A rack is on one line, since the entries are. -/
theorem Rack.newline_notMem {topology : List Text} (hline : ∀ entry ∈ topology, '\n' ∉ entry)
    {host rack : Text} (h : Rack topology host rack) : '\n' ∉ rack := by
  rcases h with ⟨before, entry, after, rfl, ⟨x, r, rfl, -, -, -, rfl⟩, -⟩ | ⟨-, rfl⟩
  · intro hmem
    have hentry := hline (x ++ ',' :: r) (by simp)
    exact hentry (by simp [mem_of_mem_strip hmem])
  · decide

/-- An entry without exactly one comma is no row. -/
theorem Row.oneComma {entry host rack : Text} (h : Row entry host rack) : oneComma entry = true := by
  obtain ⟨x, r, rfl, hx, hr, -, -⟩ := h
  simp [Topology.oneComma, List.count_eq_zero_of_not_mem hx, List.count_eq_zero_of_not_mem hr]

/-- Such entries may as well be left out of the file. -/
theorem foldl_filter_oneComma (topology : List Text) (mapping : Mapping) :
    ((topology.filter oneComma).map (· ++ ['\n'])).foldl loadLine mapping
      = (topology.map (· ++ ['\n'])).foldl loadLine mapping := by
  induction topology generalizing mapping with
  | nil => rfl
  | cons entry topology ih =>
      by_cases hone : oneComma entry = true
      · rw [List.filter_cons_of_pos hone, List.map_cons, List.map_cons, List.foldl_cons, List.foldl_cons, ih]
      · have hrow : ¬ ∃ host rack, Row (entry ++ ['\n']) host rack :=
          fun ⟨_, _, h⟩ => hone (row_concat_newline.mp h).oneComma
        rw [List.filter_cons_of_neg hone, List.map_cons, List.foldl_cons, loadLine_of_not_row hrow, ih]

/-- **The script inverts the rendered file**: it prints one line for each argument, in the order of the
arguments, with the rack of the argument; and two files with the same one-comma entries get the same answers. -/
theorem main_topologyCsv (topology : List Text) (hline : ∀ entry ∈ topology, '\n' ∉ entry) (args : List Text) :
    (∃ racks : List Text, main (some (topologyCsv topology)) args = endLines racks ∧
      (∀ rack ∈ racks, '\n' ∉ rack) ∧ List.Forall₂ (Rack topology) args racks) ∧
    ∀ topology' : List Text, (∀ entry ∈ topology', '\n' ∉ entry) →
      topology'.filter oneComma = topology.filter oneComma →
      main (some (topologyCsv topology')) args = main (some (topologyCsv topology)) args := by
  constructor
  · have hrack := rack_topologyCsv hline
    refine ⟨args.map (rack_of (load_topology (some (topologyCsv topology)))), rfl, ?_, ?_⟩
    · intro rack hmem
      obtain ⟨host, -, rfl⟩ := List.mem_map.mp hmem
      exact (hrack host).newline_notMem hline
    · exact List.forall₂_map_right_iff.mpr (List.forall₂_same.mpr fun host _ => hrack host)
  · intro topology' hline' hsame
    have hload : load_topology (some (topologyCsv topology')) = load_topology (some (topologyCsv topology)) := by
      rw [load_topologyCsv hline', load_topologyCsv hline, ← foldl_filter_oneComma topology', hsame,
        foldl_filter_oneComma]
    rw [main, main, hload]

/-- Two rows for one host, a blank entry, one without a comma and one with two. -/
def sampleTopology : List Text :=
  ["dn1, /rack1".toList, [], "dn2".toList, "dn2,/rack2,x".toList, " dn1 ,/rack3 ".toList]

/-- The last row of the first host counts, and the second host has no row. -/
theorem main_topologyCsv_sample :
    main (some (topologyCsv sampleTopology)) ["dn1".toList, "dn2".toList] = "/rack3\n/rack0\n".toList ∧
    ∃ racks : List Text, main (some (topologyCsv sampleTopology)) ["dn1".toList, "dn2".toList]
        = endLines racks ∧ (∀ rack ∈ racks, '\n' ∉ rack) ∧
      List.Forall₂ (Rack sampleTopology) ["dn1".toList, "dn2".toList] racks :=
  ⟨by decide, (main_topologyCsv sampleTopology (by decide) ["dn1".toList, "dn2".toList]).1⟩

end Hadoop.Topology
end StgEnvironment
