import StgEnvironment.Shell.Awk

/-!
# `Reporting.DataUsage`: the data-usage report `getReport.sh`

Five tables, in a file each: four from what `hdfs dfs -du` prints for a directory, and one from the indices of
Elasticsearch. Files are lists of lines. The copy to the web server is not modelled. `maxInt` is the largest integer
that `awk` prints in full.

Each table is a program of `awk` between two texts (`page`). The programs for the directories differ in where the name
of the client is (`awkDu`); the one for the indices has its own columns and no division (`awkIndices`). The numbers of
`awk`, and what it prints of them, are those of `Shell.Awk`.
-/

namespace StgEnvironment
namespace Reporting.DataUsage
open Awk

/-- What the commands print, as lines: four times `hdfs dfs -du`, and the list of the indices. -/
structure Outputs where
  usersnapshot : List Text
  userresponsesnapshot : List Text
  usercompaction : List Text
  membershipcompaction : List Text
  elasticsearch : List Text

/-- The files. -/
structure Report where
  usersnapshot : List Text
  userresponsesnapshot : List Text
  usercompaction : List Text
  membershipcompaction : List Text
  elasticsearch : List Text

/-- A row of a table. -/
def row (client usage : Text) : Text :=
  "<TR><TD>".toList ++ (client ++ ("</TD><TD>".toList ++ (usage ++ "</TD></TR>".toList)))

/-- A file, around the rows that `awk` prints: the title of the table, its heading with the date, and the head of its
    two columns. -/
def page (title heading date : Text) (rows : List Text) : List Text :=
  ["<HTML>".toList,
    "<HEAD><TITLE>".toList ++ title ++ "</TITLE></HEAD>".toList,
    "<BODY>".toList,
    "<center><FONT SIZE=5>".toList ++ heading ++ ' ' :: date ++ "</FONT></center>".toList,
    "<TABLE BORDER=1 ALIGN=center CELLPADDING=10 CELLSPACING=0>".toList,
    "<TR><TD>Client ID</TD><TD>Data Usage</TD></TR>".toList] ++ rows ++
  ["</TABLE>".toList, "</BODY>".toList, "</HTML>".toList]

/-- `usage=$i/1024/1024`. -/
def usage (line : Text) (i : ℕ) : Option ℚ := divide (divide (number (field line i)) 1024) 1024

/-- `split($3, a, sep);if(a[i] != ""){usage=$1/1024/1024; print ...}`. -/
def awkDu (maxInt : ℕ) (sep : Char) (i : ℕ) (line : Text) : List Text :=
  let a := split (field line 3) sep
  if element a i ≠ [] then [row (element a i) (toText maxInt (usage line 1))] else []

/-- The program for Elasticsearch, which prints `$2`. The usage in megabytes is computed, and not used. -/
def awkIndices (line : Text) : List Text :=
  let a := split (field line 1) '-'
  if element a 3 ≠ [] then
    let _usage := usage line 2
    [row (element a 3) (field line 2)]
  else []

section
variable (maxInt : ℕ) (date : Text) (lines : List Text)

/-- `usersnapshot`, from the lines of one directory. -/
def usersnapshot : List Text :=
  page "User Snapshots".toList "User Snapshots in MB".toList date (lines.flatMap (awkDu maxInt '=' 2))

/-- `userresponsesnapshot`, whose clients are a component of the path. -/
def userresponsesnapshot : List Text :=
  page "User response snapshots".toList "User Response snapshots in MB".toList date (lines.flatMap (awkDu maxInt '/' 6))

def usercompaction : List Text :=
  page "User Compaction".toList "User Compation in MB".toList date (lines.flatMap (awkDu maxInt '=' 2))

def membershipcompaction : List Text :=
  page "Membership compaction".toList "Membership Compaction in MB".toList date (lines.flatMap (awkDu maxInt '=' 2))

/-- `elasticsearch`, from the list of the indices. -/
def elasticsearch : List Text :=
  page "Elastic search".toList "Elastic Search in MB".toList date (lines.flatMap awkIndices)

end

def getReport (maxInt : ℕ) (date : Text) (o : Outputs) : Report where
  usersnapshot := usersnapshot maxInt date o.usersnapshot
  userresponsesnapshot := userresponsesnapshot maxInt date o.userresponsesnapshot
  usercompaction := usercompaction maxInt date o.usercompaction
  membershipcompaction := membershipcompaction maxInt date o.membershipcompaction
  elasticsearch := elasticsearch date o.elasticsearch

end Reporting.DataUsage
end StgEnvironment
