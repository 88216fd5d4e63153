import StgEnvironment.Puppet.Value

/-!
# `Puppet.Hiera`: lookups in a hierarchy of data files

A hierarchy is a list of levels and a level a list of files, those that come first having precedence. What the files
have under a key is merged to one value: `first` keeps the value with precedence, `hash` puts hashes together entry
by entry. Which of the two, the files say themselves, in the hash under `lookup_options`.

## Contents
* `reduce` and `reduceLevels`: merging values, and values level by level. Merging being associative, the levels make
  no difference (`reduceLevels_eq`).
* `mergeHash`: the entry of a merged hash is that of the first hash that has one (`find_mergeHash`).
* `lookup`: where the files name `hash` for a key, each entry is that of the first file with one (`lookup_hash`).

The strategies `unique` and `deep`, the option `knockout_prefix`, and interpolation in values are not modelled. The
options are looked up as hashes that are merged, whatever a file says of `lookup_options` itself.
-/

namespace StgEnvironment
namespace Puppet.Hiera

/-- The evaluation stops with an error. -/
inductive Failure where
  | evaluation
deriving DecidableEq

instance : Subsingleton Failure := ⟨fun a b => by cases a; cases b; rfl⟩

/-- The data of a file, by key. -/
abbrev File := Dict Text Value

/-! ## Merging along the levels -/

section Merging
variable {ε α : Type} {merge : α → α → Except ε α}

/-- One more value below those that were found. -/
def step (merge : α → α → Except ε α) (memo : Option α) (v : α) : Except ε (Option α) :=
  match memo with
  | none => .ok (some v)
  | some m => (merge m v).map some

/-- The values merged, the first one having precedence; `none` if there is none. -/
def reduce (merge : α → α → Except ε α) (vs : List α) : Except ε (Option α) := vs.foldlM (step merge) none

/-- What a level has, if anything, below what was found before it. -/
def below (merge : α → α → Except ε α) (memo : Option α) : Option α → Except ε (Option α)
  | none => .ok memo
  | some v => step merge memo v

/-- The value of a level, below those of the levels before it. -/
def stepLevel (merge : α → α → Except ε α) (memo : Option α) (level : List α) : Except ε (Option α) :=
  (reduce merge level).bind (below merge memo)

/-- The values of each level merged, and then those of the levels. -/
def reduceLevels (merge : α → α → Except ε α) (levels : List (List α)) : Except ε (Option α) :=
  levels.foldlM (stepLevel merge) none

/-- It makes no difference which two of three values are merged first, errors included. -/
def Associative (merge : α → α → Except ε α) : Prop :=
  ∀ a b c, (merge a b).bind (fun ab => merge ab c) = (merge b c).bind (fun bc => merge a bc)

theorem below_none (o : Option α) : below merge none o = .ok o := by cases o <;> rfl

/-- Two values with a third one below them. -/
theorem step_below [Subsingleton ε] (h : Associative merge) (m v : α) (o : Option α) :
    (step merge (some m) v).bind (fun memo => below merge memo o) =
      (below merge (some v) o).bind (below merge (some m)) := by
  cases o with
  | none =>
      show ((merge m v).map some).bind Except.ok = (merge m v).map some
      cases merge m v <;> rfl
  | some w =>
      have hassoc := h m v w
      show ((merge m v).map some).bind (fun memo => step merge memo w) =
        ((merge v w).map some).bind (below merge (some m))
      cases hmv : merge m v with
      | error e =>
          cases hvw : merge v w with
          | error e' => exact congrArg Except.error (Subsingleton.elim e e')
          | ok vw =>
              rw [hmv, hvw] at hassoc
              exact congrArg (Except.map some) hassoc
      | ok mv =>
          cases hvw : merge v w with
          | error e' | ok vw =>
              rw [hmv, hvw] at hassoc
              exact congrArg (Except.map some) hassoc

/-- Merging values below what was found is merging them first. By induction on the values, with associativity for the
    values in the middle. -/
theorem foldlM_step [Subsingleton ε] (h : Associative merge) (vs : List α) :
    ∀ memo, vs.foldlM (step merge) memo = stepLevel merge memo vs := by
  induction vs with
  | nil => intro memo; rfl
  | cons v vs ih =>
      have hreduce : reduce merge (v :: vs) = stepLevel merge (some v) vs := ih (some v)
      intro memo
      rw [stepLevel, hreduce]
      cases memo with
      | none =>
          show vs.foldlM (step merge) (some v) = _
          rw [ih]
          cases stepLevel merge (some v) vs with
          | error e => rfl
          | ok o => exact (below_none o).symm
      | some m =>
          show (step merge (some m) v).bind (fun memo => vs.foldlM (step merge) memo) = _
          simp only [ih, stepLevel]
          cases reduce merge vs with
          | error e =>
              show (step merge (some m) v).bind (fun _ => .error e) = .error e
              cases step merge (some m) v with
              | error e' => exact congrArg Except.error (Subsingleton.elim e' e)
              | ok w => rfl
          | ok o => exact step_below h m v o

/-- The levels make no difference to what is merged. -/
theorem reduceLevels_eq [Subsingleton ε] (h : Associative merge) (levels : List (List α)) :
    reduceLevels merge levels = reduce merge levels.flatten := by
  have key : ∀ memo, levels.foldlM (stepLevel merge) memo = levels.flatten.foldlM (step merge) memo := by
    induction levels with
    | nil => intro memo; rfl
    | cons level levels ih =>
        intro memo
        rw [List.foldlM_cons, List.flatten_cons, List.foldlM_append, foldlM_step h]
        exact congrArg _ (funext ih)
  exact key none

end Merging

/-! ## The strategies -/

/-- The strategies of which the data make use. -/
inductive Strategy where
  | first
  | hash
deriving DecidableEq

/-- The entries of `lo` with the values of `hi` where it has one, and then the other entries of `hi`. -/
def mergeHash (hi lo : List (Text × Value)) : List (Text × Value) :=
  lo.map (fun e => (e.1, (Dict.find e.1 hi).getD e.2)) ++ hi.filter fun e => (Dict.find e.1 lo).isNone

/-- The entries of a value that is a hash. -/
def entries : Value → Except Failure (List (Text × Value))
  | .hash es => .ok es
  | _ => .error .evaluation

/-- A value and one below it. Of a merge as hashes both have to be hashes. -/
def Strategy.merge : Strategy → Value → Value → Except Failure Value
  | .first, hi, _ => .ok hi
  | .hash, hi, lo => (entries hi).bind fun hi => (entries lo).bind fun lo => .ok (.hash (mergeHash hi lo))

theorem find_append {k : Text} {l l' : List (Text × Value)} :
    Dict.find k (l ++ l') = (Dict.find k l).or (Dict.find k l') := by
  induction l with
  | nil => rfl
  | cons e l ih =>
      by_cases h : e.1 = k
      · rw [List.cons_append, Dict.find, Dict.find, if_pos h, if_pos h]
        rfl
      · rw [List.cons_append, Dict.find, Dict.find, if_neg h, if_neg h, ih]

theorem find_map {k : Text} {f : Text → Value → Value} {l : List (Text × Value)} :
    Dict.find k (l.map fun e => (e.1, f e.1 e.2)) = (Dict.find k l).map (f k) := by
  induction l with
  | nil => rfl
  | cons e l ih =>
      by_cases h : e.1 = k
      · rw [List.map_cons, Dict.find, Dict.find, if_pos h, if_pos h, Option.map_some, h]
      · rw [List.map_cons, Dict.find, Dict.find, if_neg h, if_neg h, ih]

theorem find_filter {k : Text} {p : Text → Bool} {l : List (Text × Value)} :
    Dict.find k (l.filter fun e => p e.1) = if p k then Dict.find k l else none := by
  induction l with
  | nil => cases p k <;> rfl
  | cons e l ih =>
      by_cases hp : p e.1
      · rw [List.filter_cons_of_pos (p := fun e : Text × Value => p e.1) hp, Dict.find, ih, Dict.find]
        by_cases h : e.1 = k
        · rw [if_pos h, if_pos h, ← h, if_pos hp]
        · rw [if_neg h, if_neg h]
      · rw [List.filter_cons_of_neg (p := fun e : Text × Value => p e.1) hp, ih, Dict.find]
        by_cases h : e.1 = k
        · rw [← h, if_neg hp, if_neg hp]
        · rw [if_neg h]

/-- An entry of the hash with precedence stays, one of the other is there if the first has none. -/
theorem find_mergeHash (hi lo : List (Text × Value)) (k : Text) :
    Dict.find k (mergeHash hi lo) = (Dict.find k hi).or (Dict.find k lo) := by
  rw [mergeHash, find_append, find_map (f := fun k v => (Dict.find k hi).getD v),
    find_filter (p := fun k => (Dict.find k lo).isNone)]
  cases Dict.find k lo with
  | none =>
      rw [if_pos Option.isNone_none, Option.or_none]
      rfl
  | some v =>
      rw [if_neg (by simp)]
      cases Dict.find k hi <;> rfl

/-- Merging hashes is associative, their order included, so that the levels of a hierarchy can be merged one by one or
    all together. -/
theorem mergeHash_assoc (a b c : List (Text × Value)) :
    mergeHash (mergeHash a b) c = mergeHash a (mergeHash b c) := by
  have hlow : c.map (fun e => (e.1, (Dict.find e.1 (mergeHash a b)).getD e.2)) =
      c.map (fun e => (e.1, (Dict.find e.1 a).getD ((Dict.find e.1 b).getD e.2))) := by
    refine List.map_congr_left fun e _ => ?_
    rw [find_mergeHash]
    cases Dict.find e.1 a <;> rfl
  have hmid : (b.map fun e => (e.1, (Dict.find e.1 a).getD e.2)).filter (fun e => (Dict.find e.1 c).isNone) =
      (b.filter fun e => (Dict.find e.1 c).isNone).map fun e => (e.1, (Dict.find e.1 a).getD e.2) :=
    List.filter_map
  have hhigh : (a.filter fun e => (Dict.find e.1 b).isNone).filter (fun e => (Dict.find e.1 c).isNone) =
      a.filter fun e => (Dict.find e.1 (mergeHash b c)).isNone := by
    rw [List.filter_filter]
    refine List.filter_congr fun e _ => ?_
    rw [find_mergeHash, Option.isNone_or, Bool.and_comm]
  calc mergeHash (mergeHash a b) c
      = c.map (fun e => (e.1, (Dict.find e.1 (mergeHash a b)).getD e.2)) ++
          (mergeHash a b).filter fun e => (Dict.find e.1 c).isNone := rfl
    _ = c.map (fun e => (e.1, (Dict.find e.1 a).getD ((Dict.find e.1 b).getD e.2))) ++
          ((b.filter fun e => (Dict.find e.1 c).isNone).map (fun e => (e.1, (Dict.find e.1 a).getD e.2)) ++
            a.filter fun e => (Dict.find e.1 (mergeHash b c)).isNone) := by
        rw [hlow, mergeHash, List.filter_append, hmid, hhigh]
    _ = mergeHash a (mergeHash b c) := by
        rw [← List.append_assoc]
        congr 1
        rw [mergeHash, List.map_append, List.map_map]
        rfl

theorem nodup_mergeHash {hi lo : List (Text × Value)} (hhi : (hi.map Prod.fst).Nodup)
    (hlo : (lo.map Prod.fst).Nodup) : ((mergeHash hi lo).map Prod.fst).Nodup := by
  have hkeys : (lo.map fun e => (e.1, (Dict.find e.1 hi).getD e.2)).map Prod.fst = lo.map Prod.fst := by
    rw [List.map_map]
    rfl
  rw [mergeHash, List.map_append, hkeys]
  refine List.nodup_append.mpr ⟨hlo, hhi.sublist (List.filter_sublist.map _), ?_⟩
  rintro k hk k' hk' rfl
  obtain ⟨e, he, rfl⟩ := List.mem_map.mp hk'
  have hnone := Option.isNone_iff_eq_none.mp (List.mem_filter.mp he).2
  rw [← Dict.find_isSome_iff, hnone] at hk
  cases hk

theorem Strategy.associative (s : Strategy) : Associative s.merge := by
  intro a b c
  cases s with
  | first => rfl
  | hash =>
      simp only [Strategy.merge]
      cases ha : entries a with
      | error e =>
          cases hb : entries b with
          | error e' => rfl
          | ok eb => cases entries c <;> rfl
      | ok ea =>
          cases hb : entries b with
          | error e' => rfl
          | ok eb =>
              cases hc : entries c with
              | error e'' => rfl
              | ok ec => exact congrArg (fun es => Except.ok (Value.hash es)) (mergeHash_assoc ea eb ec)

/-! ## Lookups -/

/-- The key under which a file says how values are merged. -/
def lookup_options : Text := "lookup_options".toList

/-- The key of the strategy among the options of a key. -/
def merge_option : Text := "merge".toList

/-- The strategy of a name. -/
def strategyNamed : Value → Except Failure Strategy
  | .undefined => .ok .first
  | .str name =>
      if name = "first".toList then .ok .first
      else if name = "hash".toList then .ok .hash
      else .error .evaluation
  | _ => .error .evaluation

/-- The strategy that an option names, `first` if there is none. -/
def strategyIn : Value → Except Failure Strategy
  | .undefined => .ok .first
  | option => (entries option).bind fun es => strategyNamed (Value.get es merge_option)

/-- The strategy for a key. -/
def strategyOf (options : Option Value) (key : Text) : Except Failure Strategy :=
  match options with
  | none => .ok .first
  | some options => (entries options).bind fun es => strategyIn (Value.get es key)

/-- What the files have under a key. -/
def values (files : List File) (key : Text) : List Value := files.filterMap fun f => f.get? key

/-- The value under a key, by a strategy. -/
def lookupWith (s : Strategy) (levels : List (List File)) (key : Text) : Except Failure (Option Value) :=
  reduceLevels s.merge (levels.map fun level => values level key)

/-- The value under a key, by the strategy that the files name for it. -/
def lookup (levels : List (List File)) (key : Text) : Except Failure (Option Value) := do
  let options ← lookupWith .hash levels lookup_options
  let s ← strategyOf options key
  lookupWith s levels key

/-- Only the order of the files counts, not the levels they are on. -/
theorem lookupWith_eq (s : Strategy) (levels : List (List File)) (key : Text) :
    lookupWith s levels key = reduce s.merge (values levels.flatten key) := by
  have hflat : (levels.map fun level => values level key).flatten = values levels.flatten key := by
    induction levels with
    | nil => rfl
    | cons level levels ih =>
        rw [List.map_cons, List.flatten_cons, ih, List.flatten_cons]
        exact (List.filterMap_append ..).symm
  rw [lookupWith, reduceLevels_eq s.associative, hflat]

/-! ## What a lookup finds -/

/-- A hash, whose keys are distinct. -/
def IsHash (v : Value) : Prop := ∃ es, v = .hash es ∧ (es.map Prod.fst).Nodup

/-- The entry of a value that is a hash. -/
def entry (k : Text) : Value → Option Value
  | .hash es => Dict.find k es
  | _ => none

/-- The first value there is, where there are no two different ones, does not depend on the order. -/
theorem findSome?_perm {α β : Type} {f : α → Option β} {l l' : List α} (hp : l.Perm l')
    (h : ∀ a ∈ l, ∀ b ∈ l, ∀ x y, f a = some x → f b = some y → x = y) : l.findSome? f = l'.findSome? f := by
  cases hl : l.findSome? f with
  | none =>
      refine (List.findSome?_eq_none_iff.mpr fun a ha => ?_).symm
      exact List.findSome?_eq_none_iff.mp hl a (hp.mem_iff.mpr ha)
  | some x =>
      obtain ⟨a, ha, hx⟩ := List.exists_of_findSome?_eq_some hl
      cases hl' : l'.findSome? f with
      | none =>
          rw [List.findSome?_eq_none_iff.mp hl' a (hp.mem_iff.mp ha)] at hx
          cases hx
      | some y =>
          obtain ⟨b, hb, hy⟩ := List.exists_of_findSome?_eq_some hl'
          exact congrArg some (h a ha b (hp.mem_iff.mpr hb) x y hx hy)

theorem findSome?_hash (k : Text) (es : List (Text × Value)) (vs : List Value) :
    (Value.hash es :: vs).findSome? (entry k) = (Dict.find k es).or (vs.findSome? (entry k)) := by
  rw [List.findSome?_cons, entry]
  cases Dict.find k es <;> rfl

/-- Hashes below a hash: each entry is the first one there is. -/
theorem foldlM_hash {vs : List Value} (h : ∀ v ∈ vs, IsHash v) : ∀ {hi : List (Text × Value)},
    (hi.map Prod.fst).Nodup → ∃ es, vs.foldlM (step Strategy.hash.merge) (some (.hash hi)) = .ok (some (.hash es)) ∧
      (es.map Prod.fst).Nodup ∧ ∀ k, Dict.find k es = (Dict.find k hi).or (vs.findSome? (entry k)) := by
  induction vs with
  | nil => exact fun {hi} hnd => ⟨hi, rfl, hnd, fun k => (Option.or_none ..).symm⟩
  | cons v vs ih =>
      intro hi hnd
      obtain ⟨lo, rfl, hlo⟩ := h v (List.mem_cons_self ..)
      obtain ⟨es, hes, hnodup, hfind⟩ := ih (fun w hw => h w (List.mem_cons_of_mem _ hw)) (nodup_mergeHash hnd hlo)
      refine ⟨es, hes, hnodup, fun k => ?_⟩
      rw [hfind, find_mergeHash, Option.or_assoc, findSome?_hash]

/-- **Merged hashes** have, under each key, the entry of the first of them that has one. -/
theorem reduce_hash {vs : List Value} (h : ∀ v ∈ vs, IsHash v) (hne : vs ≠ []) :
    ∃ es, reduce Strategy.hash.merge vs = .ok (some (.hash es)) ∧ (es.map Prod.fst).Nodup ∧
      ∀ k, Dict.find k es = vs.findSome? (entry k) := by
  cases vs with
  | nil => exact absurd rfl hne
  | cons v vs =>
      obtain ⟨hi, rfl, hnd⟩ := h v (List.mem_cons_self ..)
      obtain ⟨es, hes, hnodup, hfind⟩ := foldlM_hash (fun w hw => h w (List.mem_cons_of_mem _ hw)) hnd
      exact ⟨es, hes, hnodup, fun k => (hfind k).trans (findSome?_hash k hi vs).symm⟩

/-- The option that the files have for a key: that of the first file with one. -/
def optionOf (files : List File) (key : Text) : Option Value := (values files lookup_options).findSome? (entry key)

/-- A look-up, by the strategy that the options name for the key. -/
theorem lookup_eq {levels : List (List File)} {key : Text} {s : Strategy}
    (hoptions : ∀ v ∈ values levels.flatten lookup_options, IsHash v)
    (hs : ∀ es, Dict.find key es = optionOf levels.flatten key → strategyOf (some (.hash es)) key = .ok s)
    (hnone : optionOf levels.flatten key = none → s = .first) :
    lookup levels key = reduce s.merge (values levels.flatten key) := by
  by_cases hne : values levels.flatten lookup_options = []
  · have hfirst : s = .first := hnone (by rw [optionOf, hne]; rfl)
    show (lookupWith .hash levels lookup_options).bind _ = _
    rw [lookupWith_eq, hne, hfirst]
    exact lookupWith_eq .first levels key
  · obtain ⟨es, hes, -, hfind⟩ := reduce_hash hoptions hne
    show (lookupWith .hash levels lookup_options).bind _ = _
    rw [lookupWith_eq, hes]
    show (strategyOf (some (.hash es)) key).bind _ = _
    rw [hs es (hfind key)]
    exact lookupWith_eq s levels key

/-- The files merge the hashes that they have under a key. -/
structure MergedAsHash (files : List File) (key : Text) : Prop where
  options : ∀ v ∈ values files lookup_options, IsHash v
  hash : ∃ es, optionOf files key = some (.hash es) ∧ Value.get es merge_option = .str "hash".toList
  values : ∀ v ∈ values files key, IsHash v

/-- With the option `hash`, each entry is that of the first file with one. The levels of the hierarchy make no
    difference, as merging is associative. -/
theorem lookup_hash {levels : List (List File)} {key : Text} (h : MergedAsHash levels.flatten key)
    (hne : values levels.flatten key ≠ []) :
    ∃ es, lookup levels key = .ok (some (.hash es)) ∧ (es.map Prod.fst).Nodup ∧
      ∀ k, Dict.find k es = (values levels.flatten key).findSome? (entry k) := by
  obtain ⟨option, hoption, hmerge⟩ := h.hash
  rw [lookup_eq (s := .hash) h.options (fun es hes => ?_) fun hnone => ?_]
  · exact reduce_hash h.values hne
  · have hget : Value.get es key = .hash option := by rw [Value.get, hes, hoption]; rfl
    show strategyIn (Value.get es key) = .ok .hash
    rw [hget]
    show strategyNamed (Value.get option merge_option) = .ok .hash
    rw [hmerge]
    rfl
  · rw [hoption] at hnone
    cases hnone

end Puppet.Hiera
end StgEnvironment
