import StgEnvironment.Nrpe.CheckIo
import StgEnvironment.Python.Number

/-!
# `Nrpe.CheckIoPy`: the plugin `check_io.py`

The plugin takes two samples of the counters in `/proc/diskstats`, an averaging period apart, and compares what the
counters of each device have grown by with its limits (`Device.checkLimits`). An alarm ends it after a timeout.

## Contents
- **`NagiosData`** and **`Device`**: the two classes, method by method.
- **The command line**: the validators, `parse_args`, and the checks behind it (`validate`).
- **The devices**: which are found, and what is reported of them (`report`).
- **A run**: how long its parts take (`Timing`), the alarm, and `main`. A configuration that `main` accepts is a
  `Config`.

## What is assumed
The model is that of a run under Python 2 on a 64-bit host, without `--verbose`. A line of `/proc/diskstats` is given by
its fields, which are what `split` makes of it; no device is named by a number. The time that a run takes is an argument
of the model (`Timing`), and `time.time()` keeps the time of the alarm. The keys of a dictionary come in any order,
which is an argument as well.
-/

namespace StgEnvironment
namespace Nrpe.CheckIoPy
open Python
open CheckIo (DiskLine)

/-- What a run of the plugin shows to Nagios: its exit status and what it prints. -/
structure Outcome where
  status : ℕ
  output : Text
deriving DecidableEq

/-! ## `NagiosData` -/

/-- The class of the same name: the status and the message so far. -/
structure NagiosData where
  exit_status : ℕ
  exit_message : Text
deriving DecidableEq

def NagiosData.init : NagiosData := ⟨0, []⟩

/-- `exit`: the message, or a text for each of the two cases without one. -/
def NagiosData.exit (nagios : NagiosData) : Outcome :=
  if nagios.exit_message ≠ [] then ⟨nagios.exit_status, nagios.exit_message⟩
  else if nagios.exit_status = 0 then ⟨0, "Everything is OK".toList⟩
  else ⟨3, "Script terminated abnormally for unknown reason".toList⟩

/-- `updateData` with one status and one message: the worse status stays, the messages are put together. -/
def NagiosData.updateData (nagios : NagiosData) (new_data : ℕ × Text) : NagiosData where
  exit_status := if nagios.exit_status < new_data.1 then new_data.1 else nagios.exit_status
  exit_message := nagios.exit_message ++ new_data.2 ++ [' ']

/-! ## `/proc/diskstats` -/

/-- What the file holds at one time: its counters are unsigned integers of 64 bits. -/
structure Snapshot where
  lines : List DiskLine
  unsigned : ∀ l ∈ lines, ∀ n ∈ l.stats, Nat.ofDigitChars 10 n 0 < 2 ^ 64

def Snapshot.empty : Snapshot := ⟨[], by simp⟩

/-- An object of Python. -/
inductive Obj where
  | int (n : ℤ)
  | str (t : Text)
deriving DecidableEq

/-- A line, as the list of its fields that the plugin makes of it. -/
abbrev Row := List Obj

/-- `int`, or the text if that fails. -/
def toInt (str : Text) : Obj :=
  match Python.int str with
  | .ok n => .int n
  | .error _ => .str str

/-- `fetchPerformanceData`: all lines, with numbers where there are some. -/
def fetchPerformanceData (diskstats : Snapshot) : List Row := diskstats.lines.map fun x => x.fields.map toInt

/-- `x[i]`, which raises `IndexError` behind the end. -/
def item (x : Row) (i : ℕ) : Except Exception Obj :=
  match x[i]? with
  | some o => .ok o
  | none => .error .IndexError

def Obj.sub : Obj → Obj → Except Exception ℤ
  | .int a, .int b => .ok (a - b)
  | _, _ => .error .TypeError

/-! ## `Device` -/

/-- The class of the same name: the limits of a device, and the samples taken of it. -/
structure Device where
  name : Text
  averaging_period : ℤ
  sread_warn : Option ℤ
  sread_crit : Option ℤ
  swrite_warn : Option ℤ
  swrite_crit : Option ℤ
  util_warn : ℤ
  util_crit : ℤ
  performance_data : List Row
deriving DecidableEq

/-- `addPerformanceData`: one more sample. -/
def Device.addPerformanceData (d : Device) (data : Row) : Device :=
  { d with performance_data := d.performance_data ++ [data] }

/-- Lines 106 and 111, and their likes for the other counters: a negative difference has `sys.maxsize` added to it. -/
def difference (first second : Row) (column : ℕ) : Except Exception ℤ := do
  let difference ← (← item second column).sub (← item first column)
  return if difference < 0 then difference + maxsize else difference

/-- What the counters of a device have grown by between its two samples, after the correction for negative
    differences. -/
structure Differences where
  sread : ℤ
  swrite : ℤ
  tbusy : ℤ
deriving DecidableEq

/-- The differences of all three counters, in the order in which they are computed. -/
def differences (first second : Row) : Except Exception Differences := do
  let sread ← difference first second 2
  let swrite ← difference first second 6
  let tbusy ← difference first second 9
  return ⟨sread, swrite, tbusy⟩

/-- A number and a limit that are `None` or not, as conditions: `0` is false as well. -/
def truthy : Option ℤ → Bool
  | none => false
  | some n => n != 0

/-- `value > limit`: Python 2 sorts `None` before the integers. -/
def exceeds (value : ℤ) : Option ℤ → Bool
  | none => true
  | some limit => decide (limit < value)

/-- The text of lines 120 and 121, and its likes: by how much a value is above a limit, also in percent of it. A limit
    of `None` cannot be subtracted. -/
def exceeded (what level : Text) (value : ℤ) : Option ℤ → Except Exception Text
  | none => .error .TypeError
  | some limit => do
      let tmp := value - limit
      let percent ← truediv (100 * tmp) limit
      return "sectors ".toList ++ what ++ ' ' :: level ++ " threshold exceeded by ".toList ++ decimal tmp ++
        '/' :: fixed2 percent ++ "%, ".toList

/-- Lines 118 to 125 and 126 to 133, which are the same for reads and writes. -/
def throughput (what : Text) (value : ℤ) (warn crit : Option ℤ) (r : ℕ × Text) : Except Exception (ℕ × Text) :=
  if exceeds value crit then do
    let text ← exceeded what "critical".toList value crit
    return (2, r.2 ++ text)
  else if exceeds value warn then do
    let text ← exceeded what "warning".toList value warn
    return (if r.1 < 1 then 1 else r.1, r.2 ++ text)
  else return r

/-- The text of lines 137 and 140. -/
def utilized (level : Text) (tmp : ℚ) (limit : ℤ) : Text :=
  "I/O utilization ".toList ++ level ++ " threshold exceeded (".toList ++ fixed2 tmp ++ "%>".toList ++ decimal limit ++
    "%)".toList

/-- Lines 134 to 140. -/
def utilization (d : Device) (tbusy : ℤ) (r : ℕ × Text) : Except Exception (ℕ × Text) := do
  let tmp ← truediv (100 * tbusy) (1000 * d.averaging_period)
  return if (d.util_crit : ℚ) < tmp then (2, r.2 ++ utilized "critical".toList tmp d.util_crit)
    else if (d.util_warn : ℚ) < tmp then
      (if r.1 < 1 then 1 else r.1, r.2 ++ utilized "warning".toList tmp d.util_warn)
    else r

/-- Lines 117 to 133: one limit stands for all, in that none of the rates is judged if it is not set. -/
def throughputs (d : Device) (Δ : Differences) (r : ℕ × Text) : Except Exception (ℕ × Text) :=
  if truthy d.sread_crit then do
    let read ← throughput "read/s".toList Δ.sread d.sread_warn d.sread_crit r
    throughput "write/s".toList Δ.swrite d.swrite_warn d.swrite_crit read
  else return r

/-- Lines 114 to 142: throughputs first, then the utilization. -/
def Device.judge (d : Device) (Δ : Differences) : Except Exception (ℕ × Text) := do
  let r ← throughputs d Δ (0, "Device ".toList ++ d.name ++ ": ".toList)
  let r ← utilization d Δ.tbusy r
  return (r.1, if r.1 = 0 then r.2 ++ "OK".toList else r.2)

/-- `checkLimits`, on the first two samples. With fewer of them the state is unknown. -/
def Device.checkLimits (d : Device) : Except Exception (ℕ × Text) :=
  match d.performance_data with
  | first :: second :: _ => do
      let Δ ← differences first second
      d.judge Δ
  | _ => .ok (3, "Cannot determine the state of the device ".toList ++ d.name)

/-! ## The command line -/

/-- The class of the same name: bounds for an option, each of which may be missing. -/
structure IntRangeValidator where
  lower_range : Option ℤ
  upper_range : Option ℤ

/-- `statement`: what is said of a value out of range. If neither bound is there, or only such as are 0, nothing is
    said of a range, since the source tests them for truth. -/
def IntRangeValidator.statement (v : IntRangeValidator) : Text :=
  "Value must be an integer".toList ++
    (if truthy v.lower_range || truthy v.upper_range then
      ",".toList ++
        (match v.lower_range with
          | none => []
          | some n => "higher than ".toList ++ decimal n ++
              ' ' :: (if truthy v.upper_range then "and ".toList else [])) ++
        (match v.upper_range with
          | none => []
          | some n => "lower than ".toList ++ decimal n)
    else []) ++ ".".toList

/-- `__call__`: the value, if it is an integer in range. Both bounds are excluded, and here 0 is a bound like any
    other. -/
def IntRangeValidator.call (v : IntRangeValidator) (string : Text) : Except Text ℤ :=
  match Python.int string with
  | .error _ => .error v.statement
  | .ok val =>
      if v.lower_range.any fun lower => decide (val ≤ lower) then .error v.statement
      else if v.upper_range.any fun upper => decide (upper ≤ val) then .error v.statement
      else .ok val

/-- `device_validator`: a name in the file. -/
def device_validator (diskstats : Snapshot) (string : Text) : Except Text Text :=
  if (fetchPerformanceData diskstats).any fun x => x[2]? = some (.str string) then .ok string
  else .error ("Device ".toList ++ string ++ " does not exists".toList)

/-- The options of a command line, as texts; `none` where an option is not given. -/
structure Options where
  timeout : Option Text
  averaging_period : Option Text
  sread_warn : Option Text
  sread_crit : Option Text
  swrite_warn : Option Text
  swrite_crit : Option Text
  util_warn : Option Text
  util_crit : Option Text
  devices : Option (List Text)

/-- A command line without options. -/
def Options.none : Options := ⟨.none, .none, .none, .none, .none, .none, .none, .none, .none⟩

/-- What `parse_args` leaves of the options: integers in range, defaults where there is one, and `none` for limits of
    throughput that are not given. -/
structure Args where
  timeout : ℤ
  averaging_period : ℤ
  sread_warn : Option ℤ
  sread_crit : Option ℤ
  swrite_warn : Option ℤ
  swrite_crit : Option ℤ
  util_warn : ℤ
  util_crit : ℤ
  devices : Option (List Text)
deriving DecidableEq

def DEFAULT_TIMEOUT : ℤ := 6
def DEFAULT_AVERAGING_PERIOD : ℤ := 2
def DEFAULT_UTIL_WARN : ℤ := 80
def DEFAULT_UTIL_CRIT : ℤ := 90

/-- An option with a default. -/
def option (v : IntRangeValidator) (default : ℤ) : Option Text → Except Text ℤ
  | .none => .ok default
  | some string => v.call string

/-- An option without one. -/
def limit (v : IntRangeValidator) : Option Text → Except Text (Option ℤ)
  | .none => .ok .none
  | some string => (v.call string).map some

/-- The option `--devices`. -/
def devicesOption (diskstats : Snapshot) : Option (List Text) → Except Text (Option (List Text))
  | .none => .ok .none
  | some names => (names.mapM (device_validator diskstats)).map some

/-- `parser.parse_args()`, which fails with the text of an `ArgumentError`. -/
def parse_args (o : Options) (diskstats : Snapshot) : Except Text Args := do
  let timeout ← option ⟨some 0, .none⟩ DEFAULT_TIMEOUT o.timeout
  let averaging_period ← option ⟨some 0, .none⟩ DEFAULT_AVERAGING_PERIOD o.averaging_period
  let sread_warn ← limit ⟨some 0, .none⟩ o.sread_warn
  let sread_crit ← limit ⟨some 0, .none⟩ o.sread_crit
  let swrite_warn ← limit ⟨some 0, .none⟩ o.swrite_warn
  let swrite_crit ← limit ⟨some 0, .none⟩ o.swrite_crit
  let util_warn ← option ⟨some 0, some 99⟩ DEFAULT_UTIL_WARN o.util_warn
  let util_crit ← option ⟨some 1, some 100⟩ DEFAULT_UTIL_CRIT o.util_crit
  let devices ← devicesOption diskstats o.devices
  return ⟨timeout, averaging_period, sread_warn, sread_crit, swrite_warn, swrite_crit, util_warn, util_crit, devices⟩

/-- `a >= b`, where `None` sorts before every number. -/
def atLeast : Option ℤ → Option ℤ → Bool
  | _, none => true
  | none, some _ => false
  | some a, some b => decide (b ≤ a)

/-- Lines 260 to 278: the message of a rejection, by the first condition that is met. -/
def validate (args : Args) : Option Text :=
  if args.timeout + 1 ≤ args.averaging_period then
    some "Averaging period must be at least one second lower than script timeout.".toList
  else if args.util_crit ≤ args.util_warn then
    some "Utilization warning threshold has to be less than critical threshold".toList
  else if (truthy args.sread_warn || truthy args.sread_crit || truthy args.swrite_warn || truthy args.swrite_crit) &&
      !(truthy args.sread_warn && truthy args.sread_crit && truthy args.swrite_warn && truthy args.swrite_crit) then
    some "All throughput limits should be defined (or none of them).".toList
  else if truthy args.sread_warn then
    if atLeast args.sread_warn args.sread_crit then
      some "Read throughput warning threshold has to be lower than critical threshold".toList
    else if atLeast args.swrite_warn args.swrite_crit then
      some "Write throughput warning threshold has to be lower than critical threshold".toList
    else none
  else none

/-! ## The devices -/

/-- The major numbers of whole disks, whose partitions have names that end in a digit. -/
def diskMajors : List ℤ :=
  [72, 73, 74, 75, 76, 77, 78, 79, 104, 105, 106, 107, 108, 109, 110, 111] ++ [3, 22, 33, 34, 56, 57, 88, 89, 90, 91] ++
    [8, 21, 65, 66, 67, 68, 69, 70, 71, 128, 129, 130, 131, 132, 133, 134, 135] ++ [202, 254]

/-- The major numbers of the other devices: `diskmapper_majors`, `drbd_majors` and `misc_majors`. -/
def otherMajors : List ℤ := [253] ++ [147] ++ [114]

/-- Line 293, for one row: the name of the device, if its major number is that of a disk and the name does not end in
    a digit, or the number is among the others. -/
def autoFind (x : Row) : Option Text :=
  match item x 0, item x 2 with
  | .ok (.int major), .ok (.str name) =>
      if (major ∈ diskMajors ∧ (name.getLast?.any Char.isDigit) = false) ∨ major ∈ otherMajors then some name else none
  | _, _ => none

/-- The devices that a run looks at: those of the option, or those that are found. -/
def device_names (args : Args) (diskstats : Snapshot) : List Text :=
  match args.devices with
  | some (name :: names) => name :: names
  | _ => (fetchPerformanceData diskstats).filterMap autoFind

/-- The object of a device. -/
def newDevice (args : Args) (device_name : Text) : Device :=
  ⟨device_name, args.averaging_period, args.sread_warn, args.sread_crit, args.swrite_warn, args.swrite_crit,
    args.util_warn, args.util_crit, []⟩

/-- One turn of line 323: a row of a device is added to it. -/
def addRow (devices : List Device) (x : Row) : List Device :=
  devices.map fun d => if x[2]? = some (.str d.name) then d.addPerformanceData (x.drop 3) else d

/-- Lines 323 and 329. -/
def addSample (devices : List Device) (diskstats : Snapshot) : List Device :=
  (fetchPerformanceData diskstats).foldl addRow devices

/-- Lines 334 and 335. -/
def checkDevices (devices : List Device) : Except Exception NagiosData :=
  devices.foldlM (fun nagios device => return nagios.updateData (← device.checkLimits)) .init

/-- Line 352: what is said of an exception that nothing else handles. -/
def failed (e : Exception) : Outcome :=
  (NagiosData.mk 2 ("Exception occured: ".toList ++ e.name ++
    ", please inspect the script with --verbose option set.".toList)).exit

/-- Lines 308 to 329, but for the sleep: `names` are the keys of the dictionary as it is iterated over. -/
def sampledDevices (args : Args) (names : List Text) (first second : Snapshot) : List Device :=
  addSample (addSample (names.map (newDevice args)) first) second

/-- Lines 307 to 338, but for the sleep. -/
def report (args : Args) (names : List Text) (first second : Snapshot) : Outcome :=
  match checkDevices (sampledDevices args names first second) with
  | .ok nagios => nagios.exit
  | .error e => failed e

/-! ## A run -/

/-- How long the parts of a run take, in seconds. What the sleep takes is not among them, being computed from the time
    that the fetch has taken. -/
structure Timing where
  /-- From `signal.alarm` to `time_start`. -/
  start : ℚ
  /-- From there to the other call of `time.time()`. -/
  fetch : ℚ
  /-- From there to the sleep. -/
  enter : ℚ
  /-- From the sleep to the end. -/
  finish : ℚ
  nonneg : 0 ≤ start ∧ 0 ≤ fetch ∧ 0 ≤ enter ∧ 0 ≤ finish

/-- The argument of `time.sleep`. -/
def Timing.sleep (t : Timing) (args : Args) : ℚ := args.averaging_period - t.fetch

/-- All but the sleep. -/
def Timing.overhead (t : Timing) : ℚ := t.start + t.fetch + t.enter + t.finish

/-- From `signal.alarm` to the end. -/
def Timing.duration (t : Timing) (args : Args) : ℚ :=
  t.start + t.fetch + t.enter + max 0 (t.sleep args) + t.finish

/-- What a run meets: three readings of `/proc/diskstats`, the time that its parts take, and the order of the
    dictionary. -/
structure Run where
  /-- The file when the command line is read, and at the two samples. -/
  listed : Snapshot
  first : Snapshot
  second : Snapshot
  timing : Timing
  /-- The order in which a dictionary with these keys is iterated over. -/
  order : List Text → List Text
  order_perm : ∀ names, (order names).Perm names

def timedOut (args : Args) : Outcome :=
  (NagiosData.mk 1 ("Script timed out after ".toList ++ decimal args.timeout ++ " seconds.".toList)).exit

/-- Lines 280 to 345, under the alarm: the run is cut off, or fails in its sleep, or reports. -/
def measure (args : Args) (run : Run) : Outcome :=
  if args.timeout ≤ run.timing.duration args then timedOut args
  -- `time.sleep` refuses a negative argument
  else if run.timing.sleep args < 0 then
    (NagiosData.mk 1 "Problem occured while openning the file None: EINVAL".toList).exit
  else report args (run.order (device_names args run.listed).dedup) run.first run.second

/-- The greatest number of seconds that `signal.alarm` takes. -/
def INT_MAX : ℤ := 2 ^ 31 - 1

/-- `main`: the options are parsed and checked, and a run is made under the alarm. -/
def main (o : Options) (run : Run) : Outcome :=
  match parse_args o run.listed with
  | .error text => ⟨2, text⟩
  | .ok args =>
      if INT_MAX < args.timeout then failed .OverflowError
      else match validate args with
        | some message => (NagiosData.mk 3 message).exit
        | none => measure args run

/-- A configuration that `main` accepts: the options are parsed and valid, and the timeout fits the alarm. -/
structure Config where
  options : Options
  listed : Snapshot
  args : Args
  parsed : parse_args options listed = .ok args
  armed : args.timeout ≤ INT_MAX
  valid : validate args = none

end Nrpe.CheckIoPy
end StgEnvironment
