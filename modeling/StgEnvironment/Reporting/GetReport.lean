import StgEnvironment.Lib.Collation
import StgEnvironment.Lib.Dict
import StgEnvironment.Python.Pattern
import StgEnvironment.Python.Text

/-!
# `Reporting.GetReport`: the package report `getReport.py`

`gethosts` reads the hosts to ask from `/etc/hosts`, `getData` asks each of them, `getReport` writes the table. The
loops keep the variables of the script: `ver` stays bound from one cell to the next and from one host to the next,
and is unbound before the first cell (`Ver`). An exception that leaves a function is `none`, or a `Stop` where the
function calls `exit()`. The order in which a `dict` iterates is a parameter, and so are the answers of `sshcmd` and
the date.

## Contents
- **`gethosts`**: the pattern, the exceptions, and the loop over the lines of the file.
- **`getData`**: the dictionary of the answers (`Entry`).
- **`getReport`**: the packages of all hosts, sorted; then the rows, cell by cell, with the text of the table.
-/

namespace StgEnvironment
namespace Reporting.GetReport
open Python
open Nrpe.ClusterHealth (split)

/-! ## `gethosts` -/

/-- How `gethosts` ends without a list of hosts: by `exit()`, or by an exception that nobody catches. -/
inductive Stop where
  /-- `exit()`, with what was printed before it. -/
  | exit (printed : Text)
  | indexError
deriving DecidableEq

/-- The hosts that are not asked. -/
def hostexception : List Text := ["dshdc1100.muc.domeus.com".toList, "dshdc200.muc.domeus.com".toList]

/-- The pattern of `filter`, without the leading `.*`. -/
def pattern : Text := "muc.domeus.com".toList

/-- One turn of the loop over the lines. The name is looked for in the stripped line, and taken from the line as it
    is. -/
def addHost (hosts : List Text) (entry : Text) : Except Stop (List Text) :=
  if entry.isEmpty then .ok hosts
  else if dotStarMatch pattern entry then
    match (split (strip entry))[1]?, (split entry)[1]? with
    | some name, some host => if hostexception.contains name then .ok hosts else .ok (hosts ++ [host])
    | _, _ => .error .indexError
  else .ok hosts

/-- The file is its text, or the number and the text of an `IOError`. -/
def gethosts (file : Except (Nat × Text) Text) : Except Stop (List Text) :=
  match file with
  | .error (errno, strerror) =>
      .error (.exit ("I/O error(".toList ++ ((toString errno).toList ++ ("): ".toList ++ strerror))))
  | .ok data =>
      -- the `exit()` for an empty file is itself caught by the bare `except`
      if data.isEmpty then .error (.exit "Unexpected error: <type 'exceptions.SystemExit'>".toList)
      else (data.splitOn '\n').foldlM addHost []

/-! ## `getData` -/

/-- What `result` holds for a host: a mark for one of the two failures, or the lines. -/
inductive Entry where
  | NotFound
  | ConnectionError
  /-- The lines of `dpkg-query`. -/
  | lines (cmd : List Text)
deriving DecidableEq

/-- What the hosts have answered, in the order in which they were asked. -/
abbrev Data := Dict Text Entry

/-- What `sshcmd` returns: the lines of the output, or `'-1'`. -/
abbrev SshResult := Option (List Text)

/-- What is kept of an answer: with no lines nothing was found, and without an answer there was an error. -/
def entryOf (cmd : SshResult) : Entry :=
  match cmd with
  | some [] => .NotFound
  | none => .ConnectionError
  | some lines => .lines lines

/-- `getData`, host by host. A host that is listed twice is asked twice. -/
def getData (sshcmd : Text → SshResult) (hosts : List Text) : Data :=
  hosts.foldl (fun result entry => result.set entry (entryOf (sshcmd entry))) Dict.empty

/-! ## `getReport` -/

/-- `soft.strip().split()[i]`. -/
def field (i : Nat) (soft : Text) : Option Text := (split (strip soft))[i]?

/-- `sorted(..)` of a list of strings. -/
def sorted (l : List Text) : List Text := l.mergeSort Collation.codePoints.le

/-- The package of one line, if it is a new one. -/
def addPackage (packages : List Text) (soft : Text) : Option (List Text) :=
  (field 1 soft).map fun package => if packages.contains package then packages else packages ++ [package]

/-- The packages of one host, added to those that were found before. A host that is not a key raises. -/
def hostPackages (data : Data) (packages : List Text) (host : Text) : Option (List Text) :=
  match data.get? host with
  | some (.lines cmd) => cmd.foldlM addPackage packages
  | some _ => some packages
  | none => none

/-- The variable `ver`, which is unbound until the first cell, and survives the cell in which it was set. -/
inductive Ver where
  | unbound
  | None
  | is (version : Text)
deriving DecidableEq

/-- The loop over the lines of a host for one package. It breaks at the first line of the package; each line before
    sets `ver` to `None`. -/
def findVer (package : Text) : Ver → List Text → Option Ver
  | ver, [] => some ver
  | _, soft :: cmd =>
      match field 1 soft with
      | none => none
      | some name => if package = name then (field 2 soft).map Ver.is else findVer package Ver.None cmd

/-- The cell of a package that a host does not have. -/
def emptyCell : Text := "<TD></TD>".toList

/-- The cell of a package with its version. -/
def versionCell (version : Text) : Text := "<TD ALIGN=CENTER>".toList ++ version ++ "</TD>".toList

/-- The cell that is written for `ver`. -/
def verCell : Ver → Option Text
  | .unbound => none
  | .None => some emptyCell
  | .is version => if version.isEmpty then some emptyCell else some (versionCell version)

/-- What the loops carry: the variable, and the text written so far. -/
structure Writer where
  ver : Ver
  report : Text

def Writer.write (w : Writer) (text : Text) : Writer := { w with report := w.report ++ text }

/-- One turn of the loop over the packages. -/
def packageCell (cmd : List Text) (w : Writer) (package : Text) : Option Writer :=
  (findVer package w.ver cmd).bind fun ver => (verCell ver).map fun cell => ⟨ver, w.report ++ cell⟩

/-- The row of a host without a connection, over `span` columns. -/
def connectionErrorRow (host : Text) (span : Nat) : Text :=
  "<TR><TD BGCOLOR=\"#9f8f60\" ALIGN=CENTER>".toList ++ host ++ "</TD><TD COLSPAN=".toList ++
    (toString span).toList ++ " ALIGN=CENTER>Connection error</TD></TR>\n".toList

/-- How the row of any other host starts. -/
def rowStart (host : Text) : Text :=
  "<TR><TD ALIGN=CENTER BGCOLOR=\"#9f8f60\">".toList ++ host ++ "</TD>".toList

def rowEnd : Text := "</TR>\n".toList

/-- One turn of the loop over the hosts, which writes one row or none. The variable `ver` goes on to the next host. -/
def hostRow (data : Data) (packages : List Text) (w : Writer) (host : Text) : Option Writer :=
  match data.get? host with
  | none => none
  | some .NotFound => some w
  | some .ConnectionError => some (w.write (connectionErrorRow host packages.length))
  | some (.lines cmd) => (packages.foldlM (packageCell cmd) (w.write (rowStart host))).map (·.write rowEnd)

/-- What is written above the table's rows: the head of the file, and the names of the packages as headings. -/
def tableHead (date : Text) (packages : List Text) : Text :=
  "<!DOCTYPE HTML PUBLIC \"-//W3C//DTD HTML 4.01//EN\" \"http://www.w3.org/TR/html4/strict.dtd\">\n".toList ++
  "<HTML>\n".toList ++ "<HEAD>\n".toList ++ "<STYLE>\n".toList ++
  "table thead \x7bposition: sticky; top: 0; background: #fff;\x7d\n".toList ++
  "</STYLE>".toList ++ "<TITLE>BIGDATA packages report</TITLE>\n".toList ++ "<BODY>\n".toList ++
  "<TABLE BORDER=1>\n".toList ++ "<div><thead>\n".toList ++ "<TR>\n".toList ++
  "<TH>".toList ++ date ++ "</TH>".toList ++
  (packages.map fun s => "<TH BGCOLOR=\"#797986\">".toList ++ (s ++ "</TH>".toList)).flatten ++
  "</TR>\n".toList ++ "</thead></div>\n".toList

/-- What is written below them. -/
def tableFoot : Text := "</TABLE>\n".toList ++ "</BODY>\n".toList ++ "</HTML>\n".toList

/-- The report, for the order in which `for host in data` takes the hosts. An empty `data` prints a message and goes
on, since `exit` is not called. -/
def getReport (data : Data) (order : List Text) (date : Text) : Option Text :=
  (order.foldlM (hostPackages data) []).bind fun packages =>
    let packages := sorted packages
    ((sorted data.keys).foldlM (hostRow data packages) ⟨.unbound, tableHead date packages⟩).map fun w =>
      w.report ++ tableFoot

end Reporting.GetReport
end StgEnvironment
