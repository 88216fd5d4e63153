import StgEnvironment.Lib.Text

/-!
# `Nrpe.CheckIo`: the plugins `check_io.sh` and `check_iops.sh`

Both plugins measure a device, compare with what the run before stored in a file in `/tmp`, and store their own
measurement there, one line for each value. They differ in the counters that they take from `/proc/diskstats`, and
in the name of the file (`Script`). The name ends in the `basename` of the device path.

## Contents
- **Commands**: `awk`, `echo`, backquotes and the two redirections, as the plugins use them.
- **Current measurement**: what is taken from `/proc/diskstats` (`DISKDATA`, `measured`).
- **Last measurement, and store**: what is read of the state file (`readings`), and what is written to it (`store`).
- **Difference**: what `bc` makes of the two.

The numbers of the device are those that `stat` and `bc` print. A file that does not exist reads as an empty one. The
rows of the table are those that the kernel prints, with fourteen fields or more.
-/

namespace StgEnvironment
namespace Nrpe.CheckIo

/-! ## What a plugin is called with -/

/-- A number, as the kernel and `date` print it: digits, without a sign. -/
def Numeral (t : Text) : Prop := t ≠ [] ∧ ∀ c ∈ t, c.isDigit = true

instance (t : Text) : Decidable (Numeral t) :=
  decidable_of_iff (t ≠ [] ∧ t.all Char.isDigit = true) (by simp [Numeral])

/-- The full path of a device: one word, absolute, and with a last component, as the plugins are called. -/
structure DevicePath where
  path : Text
  word : IsWord path
  absolute : path.head? = some '/'
  component : path.getLast? ≠ some '/'
deriving DecidableEq

/-- A line of `/proc/diskstats`, as its fields: two numbers, the name of the device, and its counters. -/
structure DiskLine where
  major : Text
  minor : Text
  name : Text
  stats : List Text
  numbers : Numeral major ∧ Numeral minor ∧ ∀ n ∈ stats, Numeral n
  complete : 11 ≤ stats.length

/-- The fields, in their order. -/
def DiskLine.fields (l : DiskLine) : List Text := l.major :: l.minor :: l.name :: l.stats

/-- One run of a plugin, which finds its device in the table of the kernel. The numbers are those that `stat` and `bc`
    give for it. -/
structure Invocation where
  path : DevicePath
  MAJORNU : Text
  MINORNU : Text
  CURRENTPROBESECONDS : Text
  diskstats : List DiskLine
  seconds : Numeral CURRENTPROBESECONDS
  found : ∃ l ∈ diskstats, l.major = MAJORNU ∧ l.minor = MINORNU

/-! ## The two plugins -/

/-- What the two plugins differ in. Everything else is written twice in the same way, and is one definition here. -/
structure Script where
  /-- The name of the state file, up to the partition. -/
  stateFile : Text
  /-- The counters, and their fields in `/proc/diskstats`. -/
  counters : List (Text × ℕ)

/-- `check_io.sh`, which counts sectors and milliseconds. -/
def check_io : Script where
  stateFile := "/tmp/check-io-lastprobe-seconds-".toList
  counters := [("SECREAD".toList, 6), ("SECWRITE".toList, 10), ("IOMILISEC".toList, 13)]

/-- `check_iops.sh`, which counts operations. -/
def check_iops : Script where
  stateFile := "/tmp/check-iops-lastprobe-seconds-".toList
  counters := [("IOREAD".toList, 4), ("IOWRITE".toList, 8)]

/-- What the lines of the state file start with. -/
def Script.labels (s : Script) : List Text := "SECONDS".toList :: s.counters.map Prod.fst

/-- `PARTITION`: the path behind its last slash. -/
def basename (path : Text) : Text := path.rtakeWhile (· != '/')

/-- The state file of a device. Devices in two directories may have one name, and then one file. -/
def fileName (s : Script) (p : DevicePath) : Text := s.stateFile ++ basename p.path

/-! ## Commands -/

/-- `awk '{print $i}'` on a line. A field that is not there is empty. -/
def awk (i : ℕ) (line : Text) : Text := ((words line)[i - 1]?).getD []

def echo (v : Text) : Text := unwords (words v)

/-- The output of a command that prints these lines, in backquotes. -/
def backquoted (lines : List Text) : Text := (endLines lines).rdropWhile (· == '\n')

/-- The files in `/tmp`. -/
abbrev Files := Text → Text

/-- `echo .. > file`. -/
def truncate (files : Files) (file line : Text) : Files := Function.update files file (line ++ ['\n'])

/-- `echo .. >> file`. -/
def append (files : Files) (file line : Text) : Files :=
  Function.update files file (files file ++ (line ++ ['\n']))

/-! ## Current measurement -/

/-- What `awk` prints of a line of `/proc/diskstats`. -/
def diskFields (s : Script) (l : DiskLine) : Text :=
  unwords (l.major :: l.minor :: s.counters.map fun c => (l.fields[c.2 - 1]?).getD [])

/-- The lines that start with the two numbers of the device, so that a minor number which goes on after them is among
    them. -/
def DISKDATA (s : Script) (x : Invocation) : Text :=
  backquoted ((x.diskstats.map (diskFields s)).filter fun line =>
    (x.MAJORNU ++ ' ' :: x.MINORNU).isPrefixOf line)

/-- The values of a run, under the names that it stores them with. -/
def measured (s : Script) (x : Invocation) : List (Text × Text) :=
  ("SECONDS".toList, x.CURRENTPROBESECONDS) ::
    s.counters.zipIdx.map fun c => (c.1.1, awk (c.2 + 3) (echo (DISKDATA s x)))

/-! ## Last measurement, and store -/

/-- `` `cat file|grep label|awk '{print $2}'` ``. -/
def lastValue (content label : Text) : Text :=
  backquoted (((content.splitOn '\n').filter fun line => decide (Occurs label line)).map (awk 2))

/-- The values that a run for `p` reads. -/
def readings (s : Script) (files : Files) (p : DevicePath) : List Text :=
  s.labels.map (lastValue (files (fileName s p)))

/-- `echo LABEL\ $value`. -/
def storeLine (v : Text × Text) : Text := v.1 ++ ' ' :: echo v.2

/-- The first line truncates the file, the others are appended. -/
def storeLines (files : Files) (file : Text) : List Text → Files
  | [] => files
  | line :: lines => lines.foldl (fun files line => append files file line) (truncate files file line)

/-- What a run stores: each of its values on a line, under its name. -/
def store (s : Script) (files : Files) (x : Invocation) : Files :=
  storeLines files (fileName s x.path) ((measured s x).map storeLine)

/-! ## Difference -/

/-- A number that `bc` reads: digits, as `stat` and the kernel print them. -/
def number (t : Text) : ℤ := (t.foldl (fun n c => 10 * n + (c.toNat - '0'.toNat)) 0 : ℕ)

/-- `echo "$current - $last" | bc`, which fails without a second number. -/
def difference (current last : Text) : Option ℤ :=
  if last.isEmpty then none else some (number current - number last)

end Nrpe.CheckIo
end StgEnvironment
