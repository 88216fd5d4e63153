import StgEnvironment.Lib.Dict
import StgEnvironment.Nrpe.CheckIoPy

/-!
# `Nrpe.CheckZookeeper`: the plugin `check_zookeeper.py`

The plugin asks each server of a list for its statistics, by `mntr` or, where the answer is empty, by `stat`, and hands
them to the handler for Nagios, Cacti or Ganglia. It runs under Python 2, where every number sorts before every text and
where the order of a dictionary is arbitrary: `Items` is the order in which one run gets `items()` and `values()`.

## Contents
- **The handlers**: `nagios`, `cacti` and `ganglia`, each with what it writes and returns.
- **`ZooKeeperServer`**: the connection (`send_cmd`) and the two parsers (`parse`, `parse_stat`).
- **`main`**: the loop over the servers, and the choice of a handler.

## What is assumed
What comes of a connection is a parameter (`Network`), and every connection has its own, so that a server that is listed
twice may answer in two ways. The order of the checks in `connect` is that of CPython 2.7: the type of the port, the
name of the host, the range of the port. The parsing of the options is left out: `Opts` is what it leaves. Of the trace
of an exception, `stderr` has the name.
-/

namespace StgEnvironment
namespace Nrpe.CheckZookeeper

open Python
open CheckIoPy (Obj toInt)
open ClusterHealth (isSpace)

/-- The statistics of a server. A value is a number, or text if it is none. -/
abbrev Stats := Dict Text Obj

/-- The statistics of the servers, by host and port. -/
abbrev ClusterStats := Dict Text Stats

/-- The order of `items()` in one run: any order of the entries. -/
structure Items where
  items : List (Text × Stats) → List (Text × Stats)
  perm : ∀ l, (items l).Perm l

/-- The order in which the servers were asked. -/
def Items.asked : Items := ⟨id, fun _ => .rfl⟩

/-- What the parsing of the options leaves. The thresholds are texts until a handler makes numbers of them. -/
structure Opts where
  servers : Option Text
  output : Option Text
  key : Option Text
  warning : Option Text
  critical : Option Text
  leader : Bool
  gmetric : Text

/-- What a run writes, the commands that it calls, and its exit status. -/
structure Outcome where
  stdout : Text
  stderr : Text
  calls : List (List Text)
  status : ℕ
deriving DecidableEq

/-- `print` of a message on one of the streams, and `return`. -/
def out (line : Text) (status : ℕ) : Outcome := ⟨line ++ ['\n'], [], [], status⟩

/-- A message on the other stream. -/
def err (line : Text) (status : ℕ) : Outcome := ⟨[], line ++ ['\n'], [], status⟩

def Obj.text : Obj → Text
  | .int n => decimal n
  | .str t => t

/-- `int(x)` of an option that may not be set. -/
def intOption : Option Text → Except Exception ℤ
  | none => .error .TypeError
  | some t => int t

/-! ## `NagiosHandler`

Thresholds are compared with values as Python 2 does it, where a text is greater than every number. Which of the two
thresholds is larger decides the direction. -/

/-- `n < v`, `n <= v`, `n > v` and `n >= v`. -/
def before (n : ℤ) : Obj → Bool
  | .int m => decide (n < m)
  | .str _ => true

def upTo (n : ℤ) : Obj → Bool
  | .int m => decide (n ≤ m)
  | .str _ => true

def above (n : ℤ) : Obj → Bool
  | .int m => decide (n > m)
  | .str _ => false

def downTo (n : ℤ) : Obj → Bool
  | .int m => decide (n ≥ m)
  | .str _ => false

/-- The two conditions on a value, in their order: `1` for the warning, `2` for the critical state. -/
def severity (warning critical : ℤ) (value : Obj) : ℕ :=
  if (downTo warning value && before critical value) || (upTo warning value && above critical value) then 1
  else if (decide (warning < critical) && upTo critical value) || (decide (warning > critical) && downTo critical value)
  then 2
  else 0

/-- The three lists that `analyze` fills: the hosts in either state, and the values that are shown. -/
structure Lists where
  warning_state : List Text
  critical_state : List Text
  values : List Text
deriving DecidableEq

def perfdata (host : Text) (value : Obj) (warning critical : ℤ) : Text :=
  host ++ '=' :: Obj.text value ++ ';' :: decimal warning ++ ';' :: decimal critical

/-- One turn of the loop over the hosts. A host without the key is passed over. -/
def analyzeHost (key : Text) (warning critical : ℤ) (acc : Lists) (hs : Text × Stats) : Lists :=
  match hs.2.get? key with
  | none => acc
  | some value =>
      let acc := { acc with values := acc.values ++ [perfdata hs.1 value warning critical] }
      match severity warning critical value with
      | 1 => { acc with warning_state := acc.warning_state ++ [hs.1] }
      | 2 => { acc with critical_state := acc.critical_state ++ [hs.1] }
      | _ => acc

def commas (l : List Text) : Text := ", ".toList.intercalate l

/-- The output line of a state. -/
def stateLine (state key hosts values : Text) : Text :=
  state ++ " \"".toList ++ key ++ "\"".toList ++ hosts ++ "!|".toList ++ values

/-- The end of `analyze`: the worst state that some host is in, with these hosts and the values of all of them. -/
def report (key : Text) (acc : Lists) : Outcome :=
  let values := unwords acc.values
  if acc.critical_state ≠ [] then
    out (stateLine "Critical".toList key (' ' :: commas acc.critical_state) values) 2
  else if acc.warning_state ≠ [] then
    out (stateLine "Warning".toList key (' ' :: commas acc.warning_state) values) 1
  else out (stateLine "Ok".toList key [] values) 0

/-- `NagiosHandler.analyze`. Both thresholds have to be numbers; what raises is not caught. -/
def nagios (o : Items) (opts : Opts) (cluster_stats : ClusterStats) : Outcome :=
  match intOption opts.warning, intOption opts.critical with
  | .ok warning, .ok critical =>
      match opts.key with
      | none => err "You should specify a key name.".toList 2
      | some key =>
          report key ((o.items cluster_stats.entries).foldl (analyzeHost key warning critical) ⟨[], [], []⟩)
  | _, _ => err "Invalid values for \"warning\" and \"critical\".".toList 2

/-! ## `CactiHandler` and `GangliaHandler` -/

def replaceColon (host : Text) : Text := host.map fun c => if c = ':' then '_' else c

/-- The values of the `print` statements that end in a comma: they are separated by a blank, and the line is ended when
    the interpreter exits. -/
def softspace (pieces : List Text) : Text := if pieces = [] then [] else unwords pieces ++ ['\n']

/-- `CactiHandler.analyze`. Without `-l` it returns `None`, an exit status of `0`. -/
def cacti (o : Items) (opts : Opts) (cluster_stats : ClusterStats) : Outcome :=
  match opts.key with
  | none => err "The key name is mandatory.".toList 1
  | some key =>
      if opts.leader then
        match ((o.items cluster_stats.entries).map Prod.snd).find? fun x =>
            x.get? "zk_server_state".toList = some (.str "leader".toList) with
        | none => err "No leader found.".toList 3
        | some leader =>
            match leader.get? key with
            | some value => out (Obj.text value) 0
            | none => err ("Unknown key: \"".toList ++ key ++ "\"".toList) 2
      else
        ⟨softspace ((o.items cluster_stats.entries).filterMap fun hs =>
            (hs.2.get? key).map fun value => replaceColon hs.1 ++ ':' :: Obj.text value), [], [], 0⟩

/-- `int(v)` of a statistic. -/
def Obj.toInt? : Obj → Option ℤ
  | .int n => some n
  | .str t => (int t).toOption

/-- `GangliaHandler.analyze`, with the statistics in the order in which they came. -/
def ganglia (opts : Opts) (cluster_stats : ClusterStats) : Outcome :=
  match cluster_stats.entries with
  | [(_, stats)] =>
      ⟨[], [], stats.entries.filterMap fun kv => (Obj.toInt? kv.2).map fun n =>
        [opts.gmetric, "-n".toList, kv.1, "-v".toList, decimal n, "-t".toList, "uint32".toList], 0⟩
  | _ => err "Only allowed to monitor a single node.".toList 1

/-! ## `ZooKeeperServer`

One server is asked for its statistics by one or two commands, each with a connection of its own. The regular
expressions are functions on a line, as `re.match` uses them. -/

def parse_line (line : Text) : Option (Text × Obj) :=
  match (line.splitOn '\t').map strip with
  | [key, value] => if key = [] then none else some (key, toInt value)
  | _ => none

/-- One turn of the loop of `_parse`: broken lines are ignored. -/
def parseStep (result : Stats) (line : Text) : Stats :=
  match parse_line line with
  | some (key, value) => result.set key value
  | none => result

def parse (data : Text) : Stats := (fileLines data).foldl parseStep Dict.empty

/-- `literal(\d+)` at the start of a text: the number, and the text behind it. -/
def number (literal t : Text) : Option (ℤ × Text) :=
  if literal <+: t then
    let digits := (t.drop literal.length).takeWhile Char.isDigit
    if digits = [] then none
    else some (Nat.ofDigitChars 10 digits 0, (t.drop literal.length).dropWhile Char.isDigit)
  else none

/-- `Latency min/avg/max: (\d+)/(\d+)/(\d+)`, at the beginning of a line; what is behind the last number does not
    matter. -/
def latency (line : Text) : Option (ℤ × ℤ × ℤ) := do
  let (min, t) ← number "Latency min/avg/max: ".toList line
  let (avg, t) ← number "/".toList t
  let (max, _) ← number "/".toList t
  pure (min, avg, max)

def mode (line : Text) : Option Text :=
  if "Mode: ".toList <+: line then some ((line.drop "Mode: ".length).takeWhile (· != '\n')) else none

/-- One turn of the loop of `_parse_stat`: the first pattern that matches the line sets a statistic. -/
def statStep (result : Stats) (line : Text) : Stats :=
  match latency line with
  | some (min, avg, max) =>
      ((result.set "zk_min_latency".toList (.int min)).set "zk_avg_latency".toList (.int avg)).set
        "zk_max_latency".toList (.int max)
  | none =>
  match number "Received: ".toList line with
  | some (n, _) => result.set "zk_packets_received".toList (.int n)
  | none =>
  match number "Sent: ".toList line with
  | some (n, _) => result.set "zk_packets_sent".toList (.int n)
  | none =>
  match number "Outstanding: ".toList line with
  | some (n, _) => result.set "zk_outstanding_requests".toList (.int n)
  | none =>
  match mode line with
  | some t => result.set "zk_server_state".toList (.str t)
  | none =>
  match number "Node count: ".toList line with
  | some (n, _) => result.set "zk_znode_count".toList (.int n)
  | none => result

/-- The version, behind the first colon of the first line. A first line without a colon raises, no line at all gives
    no version. -/
def version (lines : List Text) : Except Exception Stats :=
  match lines with
  | [] => .ok Dict.empty
  | line :: _ =>
      if ':' ∈ line then
        .ok (Dict.empty.set "zk_version".toList (.str (strip ((line.dropWhile (· != ':')).drop 1))))
      else .error .ValueError

/-- `_parse_stat`: the list of clients ends at the first blank line. -/
def parse_stat (data : Text) : Except Exception Stats := do
  let lines := fileLines data
  let result ← version lines
  let rest := ((lines.drop 1).dropWhile fun line => strip line ≠ []).drop 1
  pure (rest.foldl statStep result)

/-- What comes of the connections: there is one for a turn of the loop over the servers and a command. -/
structure Network where
  /-- The name of the host is resolved. -/
  resolves : (turn : ℕ) → (cmd host : Text) → Bool
  /-- What `recv` gets: nothing, for a `socket.error`. -/
  reply : (turn : ℕ) → (cmd host : Text) → (port : ℤ) → Option Text

section Requests
variable (net : Network) (turn : ℕ)

/-- `_send_cmd`: nothing, for a `socket.error`. A port that is no `int` of C, or out of the range of ports, is an error
of another kind. -/
def send_cmd (host : Text) (port : ℤ) (cmd : Text) : Except Exception (Option Text) :=
  if port < -2 ^ 31 ∨ 2 ^ 31 ≤ port then .error .OverflowError
  else if net.resolves turn cmd host = false then .ok none
  else if port < 0 ∨ 65535 < port then .error .OverflowError
  else .ok (net.reply turn cmd host port)

/-- `get_stats`: nothing, for a `socket.error`. After an empty answer to `mntr` the server is asked for `stat`. -/
def get_stats (host : Text) (port : ℤ) : Except Exception (Option Stats) := do
  match ← send_cmd net turn host port "mntr".toList with
  | none => .ok none
  | some [] =>
      match ← send_cmd net turn host port "stat".toList with
      | none => .ok none
      | some data => (parse_stat data).map some
  | some data => .ok (some (parse data))

end Requests

/-! ## `main`

The options select the handler, and the servers are asked in their order. An exception that nobody catches ends the
run with status 1. -/

/-- One turn of the loop of `get_cluster_stats`. Servers that are given twice have one key, under which the last
    answer stays. -/
def serverStep (net : Network) (stats : ClusterStats) (server : List Text × ℕ) : Except Exception ClusterStats :=
  match server with
  | ([host, port], turn) => do
      let n ← int port
      match ← get_stats net turn host n with
      | none => pure stats
      | some s => pure (stats.set (host ++ ':' :: port) s)
  | _ => .error .ValueError

/-- `get_cluster_stats`, server by server. One that is listed twice is asked twice, and the later answer stays. -/
def get_cluster_stats (net : Network) (servers : List (List Text)) : Except Exception ClusterStats :=
  servers.zipIdx.foldlM (serverStep net) Dict.empty

/-- `opts.servers` after `parse_cli`. -/
def splitServers (servers : Text) : List (List Text) := (servers.splitOn ',').map (·.splitOn ':')

/-- `name.capitalize()`. -/
def capitalize : Text → Text
  | [] => []
  | c :: t => c.toUpper :: t.map Char.toLower

def right30 (t : Text) : Text := List.replicate (30 - t.length) ' ' ++ t

def dump_stats (o : Items) (cluster_stats : ClusterStats) : Text :=
  (o.items cluster_stats.entries).flatMap fun hs =>
    "Server: ".toList ++ hs.1 ++ ['\n'] ++
      (hs.2.entries.flatMap fun kv => right30 kv.1 ++ "   ".toList ++ Obj.text kv.2 ++ ['\n']) ++ ['\n']

/-- The plugin. An exception that is not caught ends it with status `1`. -/
def main (o : Items) (net : Network) (opts : Opts) : Outcome :=
  match opts.servers with
  | none =>
      ⟨[],
        "Usage: ./check_zookeeper.py <options>\n\ncheck_zookeeper.py: error: The list of servers is mandatory\n".toList,
        [], 2⟩
  | some servers =>
      match get_cluster_stats net (splitServers servers) with
      | .error e => err e.name 1
      | .ok cluster_stats =>
          match opts.output with
          | none => ⟨dump_stats o cluster_stats, [], [], 0⟩
          | some name =>
              if capitalize name = "Nagios".toList then nagios o opts cluster_stats
              else if capitalize name = "Cacti".toList then cacti o opts cluster_stats
              else if capitalize name = "Ganglia".toList then ganglia opts cluster_stats
              else err ("ERROR:root:undefined handler: ".toList ++ name) 1

end Nrpe.CheckZookeeper
end StgEnvironment
