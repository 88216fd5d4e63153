import StgEnvironment.Hadoop.Correctness.Topology

/-!
# `Hadoop.Correctness.TopologyFailure`: a topology that fails to load

The docstring of `_load_topology` promises the default rack to every host when the file fails to load
(`FallsBack`). The handler keeps the rows that were delivered before the failure, so the promise is met exactly when
these say nothing else: the last row of each host names the default rack (`OnlyDefaults`).

## Contents
- **The racks after loading**: `Hadoop.Correctness.Topology` says of the lines before the failure what it says of a
  whole file (`rack_load_topology_raising`).
- **The last row decides**: all hosts are in the default rack exactly when the rows say so.
- **Failures**: the condition (`fallsBack_iff`). A file that cannot even be opened meets it (`fallsBack_ofOption`), and
  one that fails after its first line need not (`not_fallsBack_halfLoaded`).
-/

namespace StgEnvironment
namespace Hadoop.Topology
open Python

/-- What the docstring says: all hosts in the default rack after a failure, the whole file taken in otherwise. -/
def FallsBack (load : Load) : Prop :=
  (load.fails = true → ∀ host, rack_of (load_topology_raising load) host = DEFAULT_RACK) ∧
  (load.fails = false → ∀ host, Rack load.delivered host (rack_of (load_topology_raising load) host))

/-- The last row of each host names the default rack. -/
def OnlyDefaults (lines : List Text) : Prop :=
  ∀ before line after host rack, lines = before ++ line :: after → Row line host rack →
    (∀ later ∈ after, ¬ ∃ rack', Row later host rack') → rack = DEFAULT_RACK

/-- The file as `load_topology` has it. -/
def Load.ofOption : Option Text → Load
  | some content => .complete content
  | none => .unopened

/-- Without an exception behind `open`, the block is the one of `load_topology`. -/
theorem load_topology_raising_ofOption (file : Option Text) :
    load_topology_raising (.ofOption file) = load_topology file := by
  cases file <;> rfl

/-- **The racks after loading**, failed or not: the last well-formed row of a host that was delivered decides. -/
theorem rack_load_topology_raising (load : Load) (host : Text) :
    Rack load.delivered host (rack_of (load_topology_raising load) host) :=
  rack_foldl load.delivered host

/-! ## The last row decides -/

/-- Lines that are not about the host leave its rack alone. -/
theorem get?_foldl_of_not_row {lines : List Text} {host : Text}
    (h : ∀ line ∈ lines, ¬ ∃ rack, Row line host rack) (mapping : Mapping) :
    (lines.foldl loadLine mapping).get? host = mapping.get? host := by
  induction lines generalizing mapping with
  | nil => rfl
  | cons line lines ih =>
      rw [List.foldl_cons, ih fun later hlater => h later (List.mem_cons_of_mem _ hlater),
        get?_loadLine_of_not_row (h line (List.mem_cons_self ..))]

/-- The last row of a host decides, whatever the mapping was before. -/
theorem rack_of_foldl_last {before after : List Text} {line host rack : Text} (hrow : Row line host rack)
    (hafter : ∀ later ∈ after, ¬ ∃ rack', Row later host rack') (mapping : Mapping) :
    rack_of ((before ++ line :: after).foldl loadLine mapping) host = rack := by
  rw [List.foldl_append, List.foldl_cons, rack_of, get?_foldl_of_not_row hafter, ← rack_of]
  exact rack_of_loadLine_row hrow _

/-- **Every host is in the default rack exactly when the rows say so**: when no row that decides for its host, being
    the last with it, names another rack. From `rack_foldl` on one side, and the last row of a host on the other. -/
theorem rack_of_eq_default_iff (lines : List Text) :
    (∀ host, rack_of (lines.foldl loadLine Dict.empty) host = DEFAULT_RACK) ↔ OnlyDefaults lines := by
  constructor
  · rintro h before line after host rack rfl hrow hafter
    rw [← h host]
    exact (rack_of_foldl_last hrow hafter Dict.empty).symm
  · intro h host
    rcases rack_foldl lines host with ⟨before, line, after, hlines, hrow, hafter⟩ | ⟨-, hdef⟩
    · exact h before line after host _ hlines hrow hafter
    · exact hdef

/-! ## Failures -/

/-- **Loading falls back exactly when it does not fail, or the lines before the failure name no other rack.** The
    table keeps the rows that were read before the exception, so a failure behind such a row leaves some hosts in
    their racks, and the others in the default one. -/
theorem fallsBack_iff (load : Load) : FallsBack load ↔ (load.fails = true → OnlyDefaults load.delivered) := by
  constructor
  · intro h hfails
    exact (rack_of_eq_default_iff load.delivered).mp (h.1 hfails)
  · intro h
    refine ⟨fun hfails => ?_, fun _ host => rack_load_topology_raising load host⟩
    exact (rack_of_eq_default_iff load.delivered).mpr (h hfails)

/-- **A file that loads, or cannot be opened, keeps the promise**, and its racks are the ones that the script prints. -/
theorem fallsBack_ofOption (file : Option Text) : FallsBack (.ofOption file) ∧
    ∀ args, main file args = endLines (args.map (rack_of (load_topology_raising (.ofOption file)))) := by
  refine ⟨⟨fun hfails host => ?_, fun _ host => rack_load_topology_raising _ host⟩, fun args => ?_⟩
  · cases file with
    | none => rfl
    | some content => cases hfails
  · rw [main, load_topology_raising_ofOption]

/-- Two rows, with a failure after the first. -/
def halfLoaded : Load := .interrupted "dn1,/rack1\ndn2,/rack2\n".toList 1

/-- The first host keeps its rack and the second falls back. -/
theorem not_fallsBack_halfLoaded :
    rack_of (load_topology_raising halfLoaded) "dn1".toList = "/rack1".toList ∧
    rack_of (load_topology_raising halfLoaded) "dn2".toList = DEFAULT_RACK ∧ ¬ FallsBack halfLoaded := by
  have hdn1 : rack_of (load_topology_raising halfLoaded) "dn1".toList = "/rack1".toList := by decide
  refine ⟨hdn1, by decide, fun h => ?_⟩
  have hrack := hdn1.symm.trans (h.1 rfl "dn1".toList)
  exact absurd hrack (by decide)

end Hadoop.Topology
end StgEnvironment
