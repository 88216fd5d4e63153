import StgEnvironment.Collectd.QueueLag

/-!
# `Collectd.Correctness.QueueLag`: what one read dispatches

`Emits` says that a computation succeeds and dispatches a given list. The read of a state emits one block of
values for each listed consumer (`queue_lag_emits`), and a block has one value for each topic of the consumer,
the sum of the lags of its partitions (`block_filter`). The identifiers of the values name the consumer and the
topic, but not the cluster.

## Contents
- **Computations that succeed**: rules for `Emits`, one for each form of the plugin's code.
- **The loop over the partitions** is a collection of sums (`lagOf_eq_collect`), of which nothing is lost (`block_sum`)
  and which depends on no order (`block_perm`).
- **A read**: `queue_lag_aggregates`.
- **Identifiers**: they are distinct exactly when no two clusters share a consumer and a topic
  (`identifiers_nodup_iff`); two clusters that mirror each other clash (`mirrored_identifiers_clash`).
-/

namespace StgEnvironment
namespace Collectd.QueueLag

/-! ## Computations that succeed -/

/-- The computation succeeds with `a` and dispatches `out`. -/
def Emits {α : Type} (m : Read α) (a : α) (out : List Values) : Prop :=
  ∀ acc, m.run.run acc = (.ok a, acc ++ out)

section Emits
variable {α β : Type}

theorem emits_dispatch (val : Values) : Emits (dispatch val) () [val] := fun _ => rfl

theorem emits_get {burrow : Burrow} {url : Text} {d : Document} (h : burrow url = .document d) :
    Emits (get burrow url) d [] := by
  intro acc
  simp only [get, h]
  rw [List.append_nil]; rfl

theorem emits_field {key : Text} {x : Option α} {a : α} (h : x = some a) : Emits (field key x) a [] := by
  intro acc
  simp only [field, h]
  rw [List.append_nil]; rfl

/-- **Computations one after the other** emit one list after the other. -/
theorem Emits.bind {m : Read α} {f : α → Read β} {a : α} {b : β} {out out' : List Values} (hm : Emits m a out)
    (hf : Emits (f a) b out') : Emits (m >>= f) b (out ++ out') := by
  intro acc
  have h : (m >>= f).run.run acc = StateT.run (ExceptT.bindCont f (m.run.run acc).1) (m.run.run acc).2 := rfl
  rw [h, hm acc, ← List.append_assoc]
  exact hf (acc ++ out)

/-- **A loop** emits what its turns emit, in order. -/
theorem Emits.forM {f : α → Read Unit} {out : α → List Values} : ∀ {xs : List α},
    (∀ x ∈ xs, Emits (f x) () (out x)) → Emits (xs.forM f) () (xs.flatMap out) := by
  intro xs
  induction xs with
  | nil => intro _ acc; rw [List.flatMap_nil, List.append_nil]; rfl
  | cons x xs ih =>
      intro h
      show Emits (f x >>= fun _ => xs.forM f) () _
      rw [List.flatMap_cons]
      exact (h x (List.mem_cons_self ..)).bind (ih fun y hy => h y (List.mem_cons_of_mem x hy))

end Emits

/-- What a computation emits is what is dispatched when it is executed from the start. -/
theorem execute_of_emits {m : Read Unit} {out : List Values} (h : Emits m () out) :
    execute m = (.ok (), out) :=
  h []

/-! ## The loop over the partitions -/

theorem tally_eq_addTo (lag : Dict Text Int) (p : Partition) :
    tally lag p = lag.addTo p.topic p.current_lag := by
  unfold tally Dict.addTo
  cases lag.get? p.topic <;> rfl

/-- The lag of a consumer, by topic. -/
def lagOf (partitions : List Partition) : Dict Text Int := partitions.foldl tally Dict.empty

/-- The topic and the lag of each partition. -/
def pairs (partitions : List Partition) : List (Text × Int) := partitions.map fun p => (p.topic, p.current_lag)

/-- **The loop collects by topic.** The dictionary that it builds from the partitions is that of the sums over the
    pairs of topic and lag, so that the lemmas on `Dict.collect` say what its values are. -/
theorem lagOf_eq_collect (partitions : List Partition) :
    lagOf partitions = Dict.collect (pairs partitions) Dict.empty := by
  rw [pairs, Dict.collect, List.foldl_map, lagOf]
  exact congrArg (fun f => partitions.foldl f Dict.empty) (funext₂ tally_eq_addTo)

/-- The sum of the lags of the partitions of a topic. -/
def totalLag (partitions : List Partition) (topic : Text) : Int :=
  ((partitions.filter (·.topic = topic)).map Partition.current_lag).sum

/-- Under each topic, the dictionary has the sum of the lags of its partitions, or nothing for a sum of none. -/
theorem getD_lagOf (partitions : List Partition) (topic : Text) :
    ((lagOf partitions).get? topic).getD 0 = totalLag partitions topic := by
  rw [lagOf_eq_collect, Dict.getD_collect]
  simp [Dict.get?, Dict.empty, Dict.find, pairs, totalLag, List.filter_map, Function.comp_def]

/-- The topics of the dictionary are those of the partitions. -/
theorem mem_keys_lagOf {partitions : List Partition} {topic : Text} :
    topic ∈ (lagOf partitions).keys ↔ topic ∈ partitions.map Partition.topic := by
  rw [lagOf_eq_collect, Dict.mem_keys_collect]
  simp [pairs]

theorem sum_values_lagOf (partitions : List Partition) :
    (lagOf partitions).values.sum = (partitions.map Partition.current_lag).sum := by
  rw [lagOf_eq_collect, Dict.sum_values_collect]
  simp [pairs, Function.comp_def]

/-- Under a key, the dictionary has the sum of that topic. -/
theorem get?_lagOf {partitions : List Partition} {topic : Text} (h : topic ∈ (lagOf partitions).keys) :
    (lagOf partitions).get? topic = some (totalLag partitions topic) := by
  obtain ⟨n, hn⟩ := Option.isSome_iff_exists.mp (Dict.mem_keys_iff.mp h)
  have hsum := getD_lagOf partitions topic
  rw [hn] at hsum ⊢
  exact congrArg some hsum

/-! ## The values of a consumer -/

/-- What the plugin dispatches for a consumer. -/
def block (env : Text) (order : KeyOrder) (consumer : Text) (partitions : List Partition) : List Values :=
  (order.keys (lagOf partitions)).map fun topic => lagValues env consumer topic (totalLag partitions topic)

/-- The loop over the dictionary emits the block of the consumer. -/
theorem dispatchLag_emits (env consumer : Text) (order : KeyOrder) (partitions : List Partition) :
    Emits (dispatchLag env consumer order (lagOf partitions)) () (block env order consumer partitions) := by
  have hout : block env order consumer partitions = (order.keys (lagOf partitions)).flatMap fun topic =>
      [lagValues env consumer topic (totalLag partitions topic)] := by
    rw [block, List.map_eq_flatMap]
  rw [hout]
  refine Emits.forM fun topic htopic => ?_
  have hkey : topic ∈ (lagOf partitions).keys := (order.perm _).mem_iff.mp htopic
  exact (emits_field (get?_lagOf hkey)).bind (emits_dispatch _)

theorem keys_nodup (order : KeyOrder) (d : Dict Text Int) : (order.keys d).Nodup :=
  (order.perm d).nodup_iff.mpr d.nodup

/-- Every order gives the topics of the partitions, and no others. -/
theorem mem_keys_iff (order : KeyOrder) {partitions : List Partition} {topic : Text} :
    topic ∈ order.keys (lagOf partitions) ↔ topic ∈ partitions.map Partition.topic :=
  (order.perm _).mem_iff.trans mem_keys_lagOf

/-- **One value for each topic** of the consumer, with the sum of its lags, and none for other topics. -/
theorem block_filter (env : Text) (order : KeyOrder) (consumer : Text) (partitions : List Partition)
    (topic : Text) :
    (block env order consumer partitions).filter (·.type_instance = topic) =
      if topic ∈ partitions.map Partition.topic then [lagValues env consumer topic (totalLag partitions topic)]
      else [] := by
  -- the keys are distinct, so the topic is among them once or not at all
  have hkeys : (order.keys (lagOf partitions)).filter (· = topic) =
      if topic ∈ partitions.map Partition.topic then [topic] else [] := by
    rw [List.filter_eq, (keys_nodup order _).count]
    simp only [mem_keys_iff]
    split <;> rfl
  have hfilter : (block env order consumer partitions).filter (·.type_instance = topic) =
      ((order.keys (lagOf partitions)).filter (· = topic)).map fun t =>
        lagValues env consumer t (totalLag partitions t) := by
    rw [block, List.filter_map]; rfl
  rw [hfilter, hkeys]
  split <;> rfl

/-- **No lag is lost or duplicated**: the values of a block add up to the lag of all partitions. -/
theorem block_sum (env : Text) (order : KeyOrder) (consumer : Text) (partitions : List Partition) :
    ((block env order consumer partitions).flatMap Values.values).sum =
      (partitions.map Partition.current_lag).sum := by
  have hvalues : (block env order consumer partitions).flatMap Values.values =
      (order.keys (lagOf partitions)).map (totalLag partitions) := by
    rw [block, List.flatMap_map, List.map_eq_flatMap]; rfl
  have hread : (lagOf partitions).keys.map (totalLag partitions) = (lagOf partitions).values := by
    refine List.map_injective_iff.mpr (Option.some_injective Int) ?_
    rw [← Dict.map_get?_keys, List.map_map]
    exact List.map_congr_left fun topic h => (get?_lagOf h).symm
  calc ((block env order consumer partitions).flatMap Values.values).sum
      = ((order.keys (lagOf partitions)).map (totalLag partitions)).sum := by rw [hvalues]
    _ = ((lagOf partitions).keys.map (totalLag partitions)).sum := ((order.perm _).map _).sum_eq
    _ = (lagOf partitions).values.sum := by rw [hread]
    _ = (partitions.map Partition.current_lag).sum := sum_values_lagOf partitions

/-- The order of the partitions, and that of the dictionary, are immaterial: the sums do not depend on the one, and
    neither does the set of topics. -/
theorem block_perm (env : Text) (order order' : KeyOrder) (consumer : Text)
    {partitions partitions' : List Partition} (h : partitions.Perm partitions') :
    (block env order consumer partitions).Perm (block env order' consumer partitions') := by
  -- the sums do not depend on the order, and neither does the set of keys
  have htotal : totalLag partitions = totalLag partitions' := by
    funext topic
    exact ((h.filter _).map _).sum_eq
  have hkeys : (order.keys (lagOf partitions)).Perm (order'.keys (lagOf partitions')) := by
    refine (List.perm_ext_iff_of_nodup (keys_nodup order _) (keys_nodup order' _)).mpr fun topic => ?_
    rw [mem_keys_iff, mem_keys_iff]
    exact (h.map _).mem_iff
  unfold block
  rw [htotal]
  exact hkeys.map _

/-! ## A read -/

/-- What a read of the state dispatches for a listed pair. -/
def Snapshot.block (s : Snapshot) (env : Text) (order : KeyOrder) (x : Text × Text) : List Values :=
  QueueLag.block env order x.2 (s.partitions x.1 x.2)

section Reads
variable {burrow : Burrow} {bhost bport : Text} {s : Snapshot}

/-- **A read** of a state emits the blocks of all listed consumers, one after the other. -/
theorem queue_lag_emits (h : Serves burrow bhost bport s) (env : Text) (order : KeyOrder) :
    Emits (queue_lag env order burrow bhost bport) () (s.listed.flatMap (s.block env order)) := by
  obtain ⟨d, hd, hclusters⟩ := h.clusters
  have hout : s.listed.flatMap (s.block env order) = s.clusters.flatMap fun cluster =>
      (s.consumers cluster).flatMap fun consumer => s.block env order (cluster, consumer) := by
    simp only [Snapshot.listed, List.flatMap_assoc, List.flatMap_map]
  have hget : Emits (get_clusters burrow localhost port8000) s.clusters [] :=
    (emits_get hd).bind (emits_field hclusters)
  rw [hout]
  refine hget.bind (Emits.forM fun cluster hcluster => ?_)
  obtain ⟨d, hd, hconsumers⟩ := h.consumers cluster hcluster
  have hget : Emits (get_consumers burrow cluster localhost port8000) (s.consumers cluster) [] :=
    (emits_get hd).bind (emits_field hconsumers)
  refine hget.bind (Emits.forM fun consumer hconsumer => ?_)
  obtain ⟨d, hd, hpartitions⟩ := h.lag cluster hcluster consumer hconsumer
  exact (emits_get hd).bind ((emits_field hpartitions).bind ((emits_field rfl).bind
    (dispatchLag_emits env consumer order _)))

/-- Two states that differ in the order of their lists. -/
structure Snapshot.Rearranged (s s' : Snapshot) : Prop where
  clusters : s.clusters.Perm s'.clusters
  consumers : ∀ cluster ∈ s.clusters, (s.consumers cluster).Perm (s'.consumers cluster)
  partitions : ∀ cluster ∈ s.clusters, ∀ consumer ∈ s.consumers cluster,
    (s.partitions cluster consumer).Perm (s'.partitions cluster consumer)

/-- The order of the lists of Burrow changes at most the order of what is dispatched. -/
theorem Snapshot.Rearranged.dispatched {s' : Snapshot} (h : s.Rearranged s') (env : Text)
    (order order' : KeyOrder) :
    (s.listed.flatMap (s.block env order)).Perm (s'.listed.flatMap (s'.block env order')) := by
  have hlisted : s.listed.Perm s'.listed := by
    refine (List.Perm.flatMap_left _ fun cluster hc => ?_).trans (h.clusters.flatMap_right _)
    exact (h.consumers cluster hc).map _
  refine (List.Perm.flatMap_left _ fun x hx => ?_).trans (hlisted.flatMap_right _)
  obtain ⟨cluster, hc, hx⟩ := List.mem_flatMap.mp hx
  obtain ⟨consumer, hco, rfl⟩ := List.mem_map.mp hx
  exact block_perm env order order' consumer (h.partitions cluster hc consumer hco)

/-- **A read aggregates without loss or duplication.** When all requests succeed, it dispatches one block for
    each listed consumer of each cluster. In a block, each topic of the consumer has one value, the sum of the
    lags of its partitions, and no other topic has any; the values of a block add up to the lag of all
    partitions. Neither the order of the responses nor that of the dictionary changes what is dispatched. -/
theorem queue_lag_aggregates (h : Serves burrow bhost bport s) (env : Text) (order : KeyOrder) :
    (∃ dispatched : Text × Text → List Values,
      execute (queue_lag env order burrow bhost bport) = (.ok (), s.listed.flatMap dispatched) ∧
        ∀ cluster consumer, (cluster, consumer) ∈ s.listed →
          (∀ topic, (dispatched (cluster, consumer)).filter (·.type_instance = topic) =
            if topic ∈ s.topics cluster consumer
            then [lagValues env consumer topic (totalLag (s.partitions cluster consumer) topic)] else []) ∧
          ((dispatched (cluster, consumer)).flatMap Values.values).sum =
            ((s.partitions cluster consumer).map Partition.current_lag).sum) ∧
      ∀ burrow' order' s', Serves burrow' bhost bport s' → s.Rearranged s' →
        (execute (queue_lag env order burrow bhost bport)).2.Perm
          (execute (queue_lag env order' burrow' bhost bport)).2 := by
  have hread := execute_of_emits (queue_lag_emits h env order)
  refine ⟨⟨s.block env order, hread, fun cluster consumer _ => ⟨fun topic => ?_, ?_⟩⟩, ?_⟩
  · exact block_filter env order consumer _ topic
  · exact block_sum env order consumer _
  · intro burrow' order' s' h' hs
    rw [hread, execute_of_emits (queue_lag_emits h' env order')]
    exact hs.dispatched env order order'

/-! ## Identifiers -/

/-- The triples (cluster, consumer, topic) that have a value, in the order of dispatch. -/
def Snapshot.series (s : Snapshot) (order : KeyOrder) : List (Text × Text × Text) :=
  s.clusters.flatMap fun cluster => (s.consumers cluster).flatMap fun consumer =>
    (order.keys (lagOf (s.partitions cluster consumer))).map fun topic => (cluster, consumer, topic)

/-- The identifier of a value names the consumer and the topic. -/
def identifierOf (env consumer topic : Text) : Identifier :=
  (lagValues env consumer topic 0).identifier

/-- Two identifiers are the same exactly if consumer and topic are: the cluster is not in them. -/
theorem identifierOf_inj {env consumer consumer' topic topic' : Text} :
    identifierOf env consumer topic = identifierOf env consumer' topic' ↔
      consumer = consumer' ∧ topic = topic' := by
  constructor
  · intro h
    exact ⟨congrArg Identifier.plugin_instance h, congrArg Identifier.type_instance h⟩
  · rintro ⟨rfl, rfl⟩
    rfl

/-- The identifiers of what is dispatched, by the series they belong to. -/
theorem identifiers_eq (s : Snapshot) (env : Text) (order : KeyOrder) :
    (s.listed.flatMap (s.block env order)).map Values.identifier =
      (s.series order).map fun x => identifierOf env x.2.1 x.2.2 := by
  simp only [Snapshot.listed, Snapshot.series, Snapshot.block, block, List.flatMap_assoc, List.flatMap_map,
    List.map_flatMap, List.map_map]
  rfl

theorem mem_series {order : KeyOrder} {cluster consumer topic : Text} :
    (cluster, consumer, topic) ∈ s.series order ↔
      cluster ∈ s.clusters ∧ consumer ∈ s.consumers cluster ∧ topic ∈ s.topics cluster consumer := by
  simp only [Snapshot.series, List.mem_flatMap, List.mem_map, Prod.mk.injEq]
  constructor
  · rintro ⟨c, hc, g, hg, t, ht, rfl, rfl, rfl⟩
    exact ⟨hc, hg, (mem_keys_iff order).mp ht⟩
  · rintro ⟨hc, hg, ht⟩
    exact ⟨_, hc, _, hg, _, (mem_keys_iff order).mpr ht, rfl, rfl, rfl⟩

/-- Lists of distinct elements that are told apart by the element they come from. -/
theorem nodup_flatMap_of_tag {α β : Type} {l : List α} {f : α → List β} (tag : β → α) (hl : l.Nodup)
    (hf : ∀ a ∈ l, (f a).Nodup) (htag : ∀ a, ∀ b ∈ f a, tag b = a) : (l.flatMap f).Nodup := by
  refine List.nodup_flatMap.mpr ⟨hf, hl.imp fun {a a'} hne => ?_⟩
  intro b hb hb'
  exact hne ((htag a b hb).symm.trans (htag a' b hb'))

/-- No series is dispatched twice, if Burrow lists no cluster and no consumer of a cluster twice. -/
theorem nodup_series (order : KeyOrder) (hc : s.clusters.Nodup)
    (hg : ∀ cluster ∈ s.clusters, (s.consumers cluster).Nodup) : (s.series order).Nodup := by
  refine nodup_flatMap_of_tag (fun x => x.1) hc (fun cluster hcluster => ?_) ?_
  · refine nodup_flatMap_of_tag (fun x => x.2.1) (hg cluster hcluster) (fun consumer _ => ?_) ?_
    · exact (keys_nodup order _).map fun t t' h => (Prod.mk.inj (Prod.mk.inj h).2).2
    · intro consumer x hx
      obtain ⟨t, -, rfl⟩ := List.mem_map.mp hx
      rfl
  · intro cluster x hx
    obtain ⟨consumer, -, hx⟩ := List.mem_flatMap.mp hx
    obtain ⟨t, -, rfl⟩ := List.mem_map.mp hx
    rfl

/-- No two clusters have a consumer of the same name that reads a topic of the same name. -/
def Snapshot.ClustersApart (s : Snapshot) : Prop :=
  ∀ c ∈ s.clusters, ∀ c' ∈ s.clusters, c ≠ c' → ∀ consumer ∈ s.consumers c, consumer ∈ s.consumers c' →
    ∀ topic ∈ s.topics c consumer, topic ∉ s.topics c' consumer

/-- **The identifier leaves out the cluster.** In a read of a state in which no cluster, and no consumer of a cluster,
    is listed twice, the dispatched values have distinct identifiers exactly when no two clusters have a consumer and
    a topic in common. What is dispatched is the list of the series of the state, and the identifier forgets the first
    component of each. -/
theorem identifiers_nodup_iff (h : Serves burrow bhost bport s) (hc : s.clusters.Nodup)
    (hg : ∀ cluster ∈ s.clusters, (s.consumers cluster).Nodup) (env : Text) (order : KeyOrder) :
    ((execute (queue_lag env order burrow bhost bport)).2.map Values.identifier).Nodup ↔ s.ClustersApart := by
  rw [execute_of_emits (queue_lag_emits h env order)]
  show ((s.listed.flatMap (s.block env order)).map Values.identifier).Nodup ↔ _
  rw [identifiers_eq, List.nodup_map_iff_inj_on (nodup_series order hc hg)]
  constructor
  · intro hinj c hcl c' hcl' hne consumer hco hco' topic ht ht'
    have heq := hinj _ (mem_series.mpr ⟨hcl, hco, ht⟩) _ (mem_series.mpr ⟨hcl', hco', ht'⟩) rfl
    exact hne (Prod.mk.inj heq).1
  -- equal identifiers have the same consumer and topic, and then the cluster is the same
  · rintro hapart ⟨c, consumer, topic⟩ hx ⟨c', consumer', topic'⟩ hy heq
    obtain ⟨rfl, rfl⟩ := identifierOf_inj.mp heq
    obtain ⟨hcl, hco, ht⟩ := mem_series.mp hx
    obtain ⟨hcl', hco', ht'⟩ := mem_series.mp hy
    by_cases hne : c = c'
    · rw [hne]
    · exact absurd ht' (hapart c hcl c' hcl' hne consumer hco hco' topic ht)

end Reads

/-! ## Three states -/

/-- A staging cluster with one consumer, which reads two topics. -/
def stgOnly : Snapshot where
  clusters := ["stg-kafka".toList]
  consumers _ := ["cep-group".toList]
  partitions _ _ := [⟨"events".toList, 3⟩, ⟨"facts".toList, 1⟩, ⟨"events".toList, 4⟩]

/-- A second cluster that mirrors the first, with another lag. -/
def mirrored : Snapshot where
  clusters := ["stg-kafka".toList, "mirror".toList]
  consumers _ := ["cep-group".toList]
  partitions cluster _ := [⟨"events".toList, if cluster = "mirror".toList then 90 else 7⟩]

/-- A second cluster whose consumer has the same name, and reads another topic. -/
def archived : Snapshot where
  clusters := ["stg-kafka".toList, "archive".toList]
  consumers _ := ["cep-group".toList]
  partitions cluster _ := [⟨if cluster = "archive".toList then "history".toList else "events".toList, 7⟩]

theorem serves_stgOnly : Serves (stgOnly.serve localhost port8000) localhost port8000 stgOnly := by
  refine ⟨⟨_, rfl, rfl⟩, ?_, ?_⟩
  · exact List.forall_mem_singleton.mpr ⟨_, rfl, rfl⟩
  · exact List.forall_mem_singleton.mpr (List.forall_mem_singleton.mpr ⟨_, rfl, rfl⟩)

theorem serves_mirrored : Serves (mirrored.serve localhost port8000) localhost port8000 mirrored := by
  refine ⟨⟨_, rfl, rfl⟩, ?_, ?_⟩
  · exact List.forall_mem_cons.mpr ⟨⟨_, rfl, rfl⟩, List.forall_mem_singleton.mpr ⟨_, rfl, rfl⟩⟩
  · exact List.forall_mem_cons.mpr ⟨List.forall_mem_singleton.mpr ⟨_, rfl, rfl⟩,
      List.forall_mem_singleton.mpr (List.forall_mem_singleton.mpr ⟨_, rfl, rfl⟩)⟩

theorem serves_archived : Serves (archived.serve localhost port8000) localhost port8000 archived := by
  refine ⟨⟨_, rfl, rfl⟩, ?_, ?_⟩
  · exact List.forall_mem_cons.mpr ⟨⟨_, rfl, rfl⟩, List.forall_mem_singleton.mpr ⟨_, rfl, rfl⟩⟩
  · exact List.forall_mem_cons.mpr ⟨List.forall_mem_singleton.mpr ⟨_, rfl, rfl⟩,
      List.forall_mem_singleton.mpr (List.forall_mem_singleton.mpr ⟨_, rfl, rfl⟩)⟩

/-- A read of the first state: `events` has one value, the sum of its two partitions. -/
theorem stgOnly_dispatched :
    ∃ dispatched : Text × Text → List Values,
      (execute (queue_lag "stg".toList .insertion (stgOnly.serve localhost port8000) localhost port8000)).2 =
        stgOnly.listed.flatMap dispatched ∧
      (dispatched ("stg-kafka".toList, "cep-group".toList)).filter (·.type_instance = "events".toList) =
        [lagValues "stg".toList "cep-group".toList "events".toList 7] := by
  obtain ⟨⟨dispatched, hrun, hblock⟩, -⟩ := queue_lag_aggregates serves_stgOnly "stg".toList .insertion
  exact ⟨dispatched, congrArg Prod.snd hrun,
    (hblock _ _ (List.mem_singleton.mpr rfl)).1 "events".toList⟩

/-- The two clusters of the third state are apart. -/
theorem archived_identifiers_nodup :
    ((execute (queue_lag "stg".toList .insertion (archived.serve localhost port8000) localhost port8000)).2.map
      Values.identifier).Nodup := by
  refine (identifiers_nodup_iff serves_archived (by decide) (fun _ _ => List.nodup_singleton _) "stg".toList
    .insertion).mpr ?_
  have htopics : ∀ c ∈ archived.clusters, ∀ c' ∈ archived.clusters, c ≠ c' →
      ∀ topic ∈ archived.topics c "cep-group".toList, topic ∉ archived.topics c' "cep-group".toList := by decide
  intro c hc c' hc' hne consumer hconsumer _
  obtain rfl := List.mem_singleton.mp hconsumer
  exact htopics c hc c' hc' hne

/-- **One value overwrites the other.** The two clusters of the second state give two values with different
    lags and the same identifier. -/
theorem mirrored_identifiers_clash :
    ∃ s : Snapshot, s.clusters.Nodup ∧ (∀ cluster, (s.consumers cluster).Nodup) ∧
      Serves (s.serve localhost port8000) localhost port8000 s ∧
      ((execute (queue_lag "stg".toList .insertion (s.serve localhost port8000) localhost port8000)).2.map
        fun val => (val.identifier, val.values)) =
        [(identifierOf "stg".toList "cep-group".toList "events".toList, [7]),
          (identifierOf "stg".toList "cep-group".toList "events".toList, [90])] := by
  refine ⟨mirrored, by decide, fun _ => List.nodup_singleton _, serves_mirrored, ?_⟩
  rw [execute_of_emits (queue_lag_emits serves_mirrored "stg".toList .insertion)]
  decide

end Collectd.QueueLag
end StgEnvironment
