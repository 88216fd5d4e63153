import StgEnvironment.Puppet.Regex

/-!
# `Es.CurlJson`: the class `es::docker::collectd::curl_json`

The class goes through the containers of the fact `docker` and declares, by the name of the container, the define
`es::docker::collectd::curl_json::dsesm`, a notice, or nothing. A define is evaluated once the class is, and
declares its own resources then. A resource whose type and title are there already makes the compilation fail
(`compile`).

## Contents
- **`dsesm.pp`**: the define, and what it declares under fixed titles (`dsesmBody`).
- **`curl_json.pp`**: the three patterns, in the order of the branches (`container`), and all that the class leads to
  (`resources`).
- **Compilation**: resources are added one by one, and a reference that is taken is an error.

## What is left out
Of a resource, its type, its title, its URL and its instance are kept. The metrics in `keys` are left out, and so is
what `collectd::plugin::curl_json` and `concat::fragment` declare. Which characters are digits for `[[:digit:]]`
is a parameter, since more than those of ASCII are.
-/

namespace StgEnvironment
namespace Es.CurlJson
open Puppet

/-- The class `[[:digit:]]`, of which no more is known than that it has the digit of `es1`. -/
structure Digits where
  isDigit : Char → Bool
  one : isDigit '1' = true

/-- The digits of ASCII. -/
def Digits.ascii : Digits := ⟨Char.isDigit, rfl⟩

/-- The entries of `Containers`: the identifier and the name of each container. Docker gives no two containers one
    name. -/
structure Containers where
  entries : List (Text × Text)
  distinctIds : (entries.map Prod.fst).Nodup
  distinctNames : (entries.map Prod.snd).Nodup

/-- The names of the containers, in the order of the fact. -/
def Containers.names (c : Containers) : List Text := c.entries.map Prod.snd

/-- A resource, as far as it is kept: what it is declared as, and for the define what it passes on. -/
structure Resource where
  type : Text
  title : Text
  /-- The attributes `url` and `instance`. -/
  attributes : List (Text × Text)
deriving DecidableEq

/-- What a resource is known by. A catalog has no two resources with one reference. -/
def Resource.reference (r : Resource) : Text × Text := (r.type, r.title)

/-- A notice, whose title is its text. -/
def notify (title : Text) : Resource := ⟨"notify".toList, title, []⟩

/-! ## `dsesm.pp` -/

def dsesmType : Text := "es::docker::collectd::curl_json::dsesm".toList

/-- The declaration of the define. -/
def dsesm (name : Text) : Resource := ⟨dsesmType, name, []⟩

/-- The type of what the define declares. -/
def curlJsonType : Text := "collectd::plugin::curl_json".toList

/-- `collectd::plugin::curl_json { title: url => "http://${name}:9200$path", instance => $instance }`. -/
def curl_json (name title path inst : Text) : Resource :=
  ⟨curlJsonType, title,
    [("url".toList, "http://".toList ++ name ++ ":9200".toList ++ path), ("instance".toList, inst)]⟩

/-- What the define declares. The titles are fixed, so that two of these defines in one catalog clash. -/
def dsesmBody (name : Text) : List Resource :=
  [curl_json name "es_cluster_stats".toList "/_cluster/stats".toList "es-cluster-stats".toList,
    curl_json name "es_cluster_stats_detailed".toList "/_stats".toList "es-cluster-stats-detailed".toList,
    curl_json name "es_cluster_health".toList "/_cluster/health".toList "es-cluster-health".toList,
    curl_json name "es_indices_stats".toList "/_stats".toList "es-indices-stats".toList]

/-! ## `curl_json.pp` -/

section
variable (digits : Digits)

/-- `[[:digit:]]{3,4}`. -/
def threeOrFour : Item := .repeated digits.isDigit 3 (some 4)

/-- `/^dsesm[[:digit:]]{3,4}-es[[:digit:]]+/`. -/
def dsesmPattern : Pattern :=
  literal "dsesm".toList ++ threeOrFour digits :: (literal "-es".toList ++ [.repeated digits.isDigit 1 none])

/-- `/^dsesm[[:digit:]]{3,4}-es1/`. -/
def es1Pattern : Pattern := literal "dsesm".toList ++ threeOrFour digits :: literal "-es1".toList

/-- `/^dsesd[[:digit:]]{3,4}-es[[:digit:]]+/`. -/
def dsesdPattern : Pattern :=
  literal "dsesd".toList ++ threeOrFour digits :: (literal "-es".toList ++ [.repeated digits.isDigit 1 none])

/-- The notice for a `dsesm` container that is not `es1`. -/
def notEnabled (name : Text) : Resource :=
  notify ("'".toList ++ name ++
    "' will not have metrics enabled because we enable them only for 'es1' containers.".toList)

/-- The notice for a container that is none of the two kinds. -/
def neither (name : Text) : Resource := notify ("'".toList ++ name ++ "' is neither dsesm nor dsesd node.".toList)

/-- Lines 7 to 21: what is declared for a container. The patterns are tried in this order, and those of the first kind
    are split by a second one. -/
def container (name : Text) : List Resource :=
  if matchesLine (dsesmPattern digits) name then
    if matchesLine (es1Pattern digits) name then [dsesm name] else [notEnabled name]
  else if matchesLine (dsesdPattern digits) name then []
  else [neither name]

/-- `motd::register`, and what that declares. -/
def motd : List Resource :=
  [⟨"motd::register".toList, "es::docker::collectd::curl_json".toList, []⟩,
    ⟨"concat::fragment".toList, "motd_fragment_es::docker::collectd::curl_json".toList, []⟩]

/-- The defines that the class declares, evaluated. -/
def evaluate (r : Resource) : List Resource := if r.type = dsesmType then dsesmBody r.title else []

/-- The resources of the class, with those of its defines behind them. Without the fact there is a warning only. -/
def resources (docker : Option Containers) : List Resource :=
  match docker with
  | none => motd
  | some containers =>
      let declared := containers.names.flatMap (container digits)
      motd ++ declared ++ declared.flatMap evaluate

end

/-! ## Compilation -/

/-- The resources that are declared so far. -/
abbrev Catalog := List Resource

/-- A further resource, unless its reference is taken. -/
def add (catalog : Catalog) (r : Resource) : Option Catalog :=
  if r.reference ∈ catalog.map Resource.reference then none else some (catalog ++ [r])

/-- The catalog, if there is no duplicate declaration. -/
def compile (rs : List Resource) : Option Catalog := rs.foldlM add []

end Es.CurlJson
end StgEnvironment
