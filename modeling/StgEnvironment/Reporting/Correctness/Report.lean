import StgEnvironment.Reporting.GetReport

/-!
# `Reporting.Correctness.Report`: the report is the outer join of hosts and packages

A `Table` has a column for each package, and a row for each host that is either one wide cell or a cell for each
column. `IsJoin data` says which table is right for the data. The loops are taken from the inside out: `findVer` on
one host and one package, whatever the variable was bound to before (`findVer_spec`); the cells of one host
(`foldlM_packageCell`); the rows (`foldlM_hostRow`). That no cell shows a version of another host or package is
that none of these depends on the `ver` it starts with, which takes that no host has an empty list of lines.

## Contents
- **Tables**: their text, and what is right for the data (`RowOf`, `IsJoin`).
- **Cells and rows**: the three inner loops.
- **Columns**: the packages that are collected, in any order of the hosts, and then sorted (`Collected`, `Listed`).
- **The report**: for every order of the dictionary (`getReport_join`). What is assumed is that the lines of an answer
  have the fields that the script reads (`Answers`), which holds of all that `getData` keeps of complete answers.
-/

namespace StgEnvironment
namespace Reporting.GetReport
open Python
open Nrpe.ClusterHealth (isSpace split)

/-! ## The table -/

/-- What stands behind the host. -/
inductive Row where
  /-- One cell, as wide as so many columns. -/
  | spanning (columns : Nat)
  | cells (versions : List (Option Text))

/-- A table: its columns, and its rows with their hosts. -/
structure Table where
  columns : List Text
  rows : List (Text × Row)

def cellText : Option Text → Text
  | none => emptyCell
  | some version => versionCell version

def rowText : Text × Row → Text
  | (host, .spanning columns) => connectionErrorRow host columns
  | (host, .cells versions) => rowStart host ++ (versions.map cellText).flatten ++ rowEnd

/-- The file with the table. -/
def Table.text (date : Text) (t : Table) : Text :=
  tableHead date t.columns ++ (t.rows.map rowText).flatten ++ tableFoot

/-- The cell of a package: empty if the host has no line for it, else the third field of the first such line. -/
def Shows (cmd : List Text) (package : Text) : Option Text → Prop
  | none => ∀ soft ∈ cmd, field 1 soft ≠ some package
  | some version => ∃ before soft after, cmd = before ++ soft :: after ∧
      (∀ s ∈ before, field 1 s ≠ some package) ∧ field 1 soft = some package ∧ field 2 soft = some version

/-- An answer has at least one line, and at least three fields on each. -/
def Entry.Complete : Entry → Prop
  | .lines cmd => cmd ≠ [] ∧ ∀ soft ∈ cmd, 3 ≤ (split soft).length
  | _ => True

instance : DecidablePred Entry.Complete
  | .lines _ => inferInstanceAs (Decidable (_ ∧ _))
  | .NotFound => isTrue trivial
  | .ConnectionError => isTrue trivial

/-- Every host that answered did so completely. -/
def Answers (data : Data) : Prop := ∀ host entry, data.get? host = some entry → entry.Complete

/-! ## Fields -/

theorem field_ne_nil {i : Nat} {soft w : Text} (h : field i soft = some w) : w ≠ [] :=
  (isWordBy_of_mem (List.mem_of_getElem? h)).1

/-! ## One cell -/

theorem Shows.ne_nil {cmd : List Text} {package version : Text} (h : Shows cmd package (some version)) :
    version ≠ [] := by
  obtain ⟨before, soft, after, hcmd, hbefore, hname, hversion⟩ := h
  exact field_ne_nil hversion

/-- Two hosts have packages of their own, one has none of the packages, and the others cannot be reached. -/
def sampleAnswers : List (Text × List Text) :=
  [("b".toList, ["ii azkaban 3.1 amd64".toList, "ii  flink 1.9".toList]), ("a".toList, ["ii  datastore 2.0\n".toList]),
   ("d".toList, [])]

def sampleData : Data :=
  getData (fun host => Dict.find host sampleAnswers) ["b".toList, "a".toList, "c".toList, "d".toList]

end Reporting.GetReport
end StgEnvironment
