import StgEnvironment.Nrpe.CheckIo
import StgEnvironment.Nrpe.FlinkContainers

/-!
# `Nrpe.IfTraffic`: the plugin `check_iftraffic.sh`

The plugin greps `/proc/net/dev` for the name of an interface, drops the text up to the last colon of what it found,
and prints sixteen fields of the rest as performance data. `grep` is a parameter of the model.

What `grep -E` makes of a name with a special character is its own matter, and nothing is said of it here: the results
are about the lines that it prints, whichever they are. The table is that of the kernel: two lines of headings, and a
row for each interface with its name, a colon and sixteen counters.
-/

namespace StgEnvironment
namespace Nrpe.IfTraffic
open Shell
open CheckIo (awk backquoted)
open FlinkContainers (Verdict)

/-! ## `/proc/net/dev` -/

/-- The row of an interface: a colon behind its name, and sixteen counters behind the colon. -/
structure Row where
  indent : ℕ
  name : Word
  rest : Text
  word : IsWord name
  layout : ∀ c ∈ rest, c = ' ' ∨ c.isDigit = true
  sixteen : (words rest).length = 16

/-- A row, as the kernel prints it: the counters may come right behind the colon. -/
def Row.line (r : Row) : Text := List.replicate r.indent ' ' ++ r.name ++ ':' :: r.rest

def Row.counters (r : Row) : List Word := words r.rest

/-- The two lines above the rows. -/
def header : List Text :=
  ["Inter-|   Receive                                                |  Transmit".toList,
    (" face |bytes    packets errs drop fifo frame compressed multicast|bytes    packets errs drop fifo colls " ++
      "carrier compressed").toList]

/-- All rows. The kernel has no two interfaces of one name. -/
structure Table where
  rows : List Row
  distinct : (rows.map Row.name).Nodup

def Table.lines (t : Table) : List Text := header ++ t.rows.map Row.line

/-! ## The plugin -/

/-- Whether `grep -E` with the first text as its argument prints the second, a line of its input. -/
abbrev Grep := Text → Text → Bool

/-- Lines 50 and 51: what `grep` finds, of which `##*:` drops the text up to the last colon. -/
def IFTRAFFIC (grepE : Grep) (procfile : List Text) (INTERFACE : Text) : Text :=
  (backquoted (procfile.filter (grepE INTERFACE))).rtakeWhile (· != ':')

def echo (g : Globbing) (v : Text) : Text := unwords (g.unquoted v)

/-- The names of the counters, each with its field, in the order of the message. -/
def perfdata : List (Text × ℕ) :=
  [("rx_bytes".toList, 1), ("rx_packets".toList, 2), ("rx_errors".toList, 3), ("rx_drop".toList, 4),
    ("rx_fifo".toList, 5), ("rx_frame".toList, 6), ("rx_compressed".toList, 7), ("rx_multicast".toList, 8),
    ("tx_bytes".toList, 9), ("tx_packets".toList, 10), ("tx_errors".toList, 11), ("tx_drop".toList, 12),
    ("tx_fifo".toList, 13), ("tx_colls".toList, 14), ("tx_carrier".toList, 15), ("tx_compressed".toList, 16)]

/-- Line 74, with these values. -/
def message (value : ℕ → Text) : Text :=
  "IFTRAFFIC OK;|".toList ++ unwords (perfdata.map fun v => v.1 ++ '=' :: (value v.2 ++ ['c']))

/-- `check_iftraffic.sh`, where the file can be read and where it cannot. -/
def check_iftraffic (grepE : Grep) (g : Globbing) (procfile : Option (List Text)) (INTERFACE : Text) : Verdict :=
  match procfile with
  | none => ⟨["IFTRAFFIC UNKNOWN /proc/net/dev not readable.".toList], 3⟩
  | some lines =>
      if INTERFACE = [] then ⟨["No interface given.".toList], 3⟩
      else ⟨[message fun i => awk i (echo g (IFTRAFFIC grepE lines INTERFACE))], 0⟩

end Nrpe.IfTraffic
end StgEnvironment
