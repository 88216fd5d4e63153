import StgEnvironment.Es.CurlJson

/-!
# `Es.Correctness.CurlJson`: metrics for the `es1` container

The class should collect metrics from the containers called `dsesm`, three or four digits and `-es1`, and from no
others (`CollectsEs1`). Its pattern for them ends behind the `1` and begins at the start of a line, so it also takes
the containers `-es10` and on, and of two such containers the fixed titles of the define clash. `collectsEs1_iff` says
for which containers the class is right.

## Contents
- **The patterns**, as the names they stand for, and **one container** (`container_cases`).
- **References**: what the class declares itself never clashes (`nodup_declared`).
- **The catalog**: it compiles exactly if no reference is there twice (`compile_eq`), which with one define is so
  (`nodup_resources`).
- **The class**: `collectsEs1_iff`, and a node with `es1` and `es10` (`not_collectsEs1_largeNode`).
-/

namespace StgEnvironment
namespace Es.CurlJson
open Puppet

section
variable (digits : Digits)

/-- Three or four digits. -/
def ThreeOrFour (d : Text) : Prop := d.all digits.isDigit = true ∧ 3 ≤ d.length ∧ d.length ≤ 4

/-- The name of an `es1` container. -/
def IsEs1 (name : Text) : Prop :=
  ∃ d, name = "dsesm".toList ++ (d ++ "-es1".toList) ∧ ThreeOrFour digits d

/-- The name of a `dsesm` instance: its number may be any. -/
def IsDsesm (name : Text) : Prop :=
  ∃ d n, name = "dsesm".toList ++ (d ++ ("-es".toList ++ n)) ∧ ThreeOrFour digits d ∧ n.all digits.isDigit = true ∧
    1 ≤ n.length

/-- **The intended behaviour**: the define for the `es1` containers and no others, a notice for the other `dsesm`
    ones, and a catalog that compiles. -/
structure CollectsEs1 (containers : Containers) : Prop where
  declares : ∀ title, dsesm title ∈ resources digits (some containers) ↔ title ∈ containers.names ∧ IsEs1 digits title
  notices : ∀ name ∈ containers.names, IsDsesm digits name → ¬ IsEs1 digits name →
    ∃ title, container digits name = [notify title]
  compiles : (∀ a ∈ containers.names, ∀ b ∈ containers.names, IsEs1 digits a → IsEs1 digits b → a = b) →
    ((resources digits (some containers)).map Resource.reference).Nodup ∧
      compile (resources digits (some containers)) = some (resources digits (some containers))

/-- **The condition**: where an `es1` name is found at the start of a line, it is the whole name. -/
def OnlyWhole (containers : Containers) : Prop :=
  ∀ name ∈ containers.names, ∀ u s rest, name = u ++ (s ++ rest) → LineStart u → IsEs1 digits s → IsEs1 digits name

/-! ## The patterns -/

/-- As a whole, a name matches the pattern for `es1` if it is one. -/
theorem matches_es1Pattern {s : Text} : Matches (es1Pattern digits) s ↔ IsEs1 digits s := by
  rw [es1Pattern, matches_literal_append, IsEs1]
  have hend : ∀ {t : Text}, Matches (literal "-es1".toList) t ↔ t = "-es1".toList := by
    intro t
    rw [← List.append_nil (literal "-es1".toList), matches_literal_append]
    simp only [matches_nil, exists_eq_right, List.append_nil]
  constructor
  · rintro ⟨t, rfl, h⟩
    obtain ⟨d, rest, rfl, hall, hleast, hmost, hrest⟩ := matches_repeated.mp h
    exact ⟨d, by rw [hend.mp hrest], hall, hleast, hmost 4 rfl⟩
  · rintro ⟨d, rfl, hall, hleast, hmost⟩
    refine ⟨_, rfl, matches_repeated.mpr ⟨d, _, rfl, hall, hleast, fun m hm => ?_, hend.mpr rfl⟩⟩
    exact Option.some.inj hm ▸ hmost

theorem matches_dsesmPattern {s : Text} : Matches (dsesmPattern digits) s ↔ IsDsesm digits s := by
  rw [dsesmPattern, matches_literal_append, IsDsesm]
  constructor
  · rintro ⟨t, rfl, h⟩
    obtain ⟨d, rest, rfl, hall, hleast, hmost, hrest⟩ := matches_repeated.mp h
    obtain ⟨u, rfl, hu⟩ := matches_literal_append.mp hrest
    obtain ⟨n, rest, rfl, hn, hlen, -, hnil⟩ := matches_repeated.mp hu
    rw [matches_nil.mp hnil, List.append_nil]
    exact ⟨d, n, rfl, ⟨hall, hleast, hmost 4 rfl⟩, hn, hlen⟩
  · rintro ⟨d, n, rfl, ⟨hall, hleast, hmost⟩, hn, hlen⟩
    refine ⟨_, rfl, matches_repeated.mpr ⟨d, _, rfl, hall, hleast, fun m hm => Option.some.inj hm ▸ hmost, ?_⟩⟩
    refine matches_literal_append.mpr ⟨n, rfl, matches_repeated.mpr ⟨n, [], ?_, hn, hlen, ?_, .nil⟩⟩
    · rw [List.append_nil]
    · intro m hm
      cases hm

theorem IsEs1.isDsesm {name : Text} (h : IsEs1 digits name) : IsDsesm digits name := by
  obtain ⟨d, rfl, hd⟩ := h
  refine ⟨d, ['1'], rfl, hd, ?_, le_rfl⟩
  rw [List.all_cons, digits.one]
  rfl

/-- An `es1` name at the start of a line is one of a `dsesm` instance. -/
theorem matchesLine_dsesm_of_es1 {name : Text} (h : matchesLine (es1Pattern digits) name = true) :
    matchesLine (dsesmPattern digits) name = true := by
  obtain ⟨u, s, rest, heq, hu, hs⟩ := matchesLine_iff.mp h
  have hdsesm := ((matches_es1Pattern digits).mp hs).isDsesm
  exact matchesLine_iff.mpr ⟨u, s, rest, heq, hu, (matches_dsesmPattern digits).mpr hdsesm⟩

theorem IsEs1.matchesLine {name : Text} (h : IsEs1 digits name) : matchesLine (es1Pattern digits) name = true :=
  matchesLine_iff.mpr ⟨[], name, [], by simp, Or.inl rfl, (matches_es1Pattern digits).mpr h⟩

theorem IsDsesm.matchesLine {name : Text} (h : IsDsesm digits name) :
    matchesLine (dsesmPattern digits) name = true :=
  matchesLine_iff.mpr ⟨[], name, [], by simp, Or.inl rfl, (matches_dsesmPattern digits).mpr h⟩

/-! ## One container -/

/-- A name in which `es1` is found gets the define, and nothing else. -/
theorem container_es1 {name : Text} (h : matchesLine (es1Pattern digits) name = true) :
    container digits name = [dsesm name] := by
  rw [container, if_pos (matchesLine_dsesm_of_es1 digits h), if_pos h]

/-- At most one resource is declared for a container. -/
theorem container_cases {name : Text} (h : ¬ matchesLine (es1Pattern digits) name = true) :
    container digits name = [notEnabled name] ∨ container digits name = [] ∨
      container digits name = [neither name] := by
  unfold container
  rw [if_neg h]
  split_ifs
  · exact Or.inl rfl
  · exact Or.inr (Or.inl rfl)
  · exact Or.inr (Or.inr rfl)

/-- What is declared for a container is the define or one of the notices. -/
theorem mem_container {name : Text} {r : Resource} (h : r ∈ container digits name) :
    (r = dsesm name ∧ matchesLine (es1Pattern digits) name = true) ∨ r = notEnabled name ∨ r = neither name := by
  by_cases hes1 : matchesLine (es1Pattern digits) name = true
  · rw [container_es1 digits hes1] at h
    exact Or.inl ⟨List.mem_singleton.mp h, hes1⟩
  · rcases container_cases digits hes1 with heq | heq | heq <;> rw [heq] at h
    · exact Or.inr (Or.inl (List.mem_singleton.mp h))
    · exact absurd h List.not_mem_nil
    · exact Or.inr (Or.inr (List.mem_singleton.mp h))

theorem nodup_container (name : Text) : ((container digits name).map Resource.reference).Nodup := by
  by_cases hes1 : matchesLine (es1Pattern digits) name = true
  · rw [container_es1 digits hes1]
    exact List.nodup_singleton _
  · rcases container_cases digits hes1 with heq | heq | heq <;> rw [heq]
    · exact List.nodup_singleton _
    · exact List.nodup_nil
    · exact List.nodup_singleton _

/-! ## References -/

theorem dsesmType_ne_notify : dsesmType ≠ "notify".toList := by decide

/-- The two notices are about different names, or different. -/
theorem notEnabled_injective {a b : Text} (h : (notEnabled a).title = (notEnabled b).title) : a = b :=
  List.append_cancel_left (List.append_cancel_right h)

theorem neither_injective {a b : Text} (h : (neither a).title = (neither b).title) : a = b :=
  List.append_cancel_left (List.append_cancel_right h)

theorem notEnabled_ne_neither (a b : Text) : (notEnabled a).title ≠ (neither b).title := by
  intro h
  have hlong : "s.".toList <:+ (notEnabled a).title := by
    refine List.IsSuffix.trans ?_ (List.suffix_append ("'".toList ++ a) _)
    decide +kernel
  have hshort : "e.".toList <:+ (notEnabled a).title := by
    rw [h]
    refine List.IsSuffix.trans ?_ (List.suffix_append ("'".toList ++ b) _)
    decide +kernel
  have hends := List.suffix_of_suffix_length_le hshort hlong (by decide)
  exact absurd hends (by decide)

/-- **No two containers lead to one reference.** The title of each of the three resources that a container may lead to
    has its name in it, and the three differ in their types or in the text around it. -/
theorem eq_of_reference_eq {a b : Text} {r r' : Resource} (hr : r ∈ container digits a)
    (hr' : r' ∈ container digits b) (h : r.reference = r'.reference) : a = b := by
  obtain ⟨htype, htitle⟩ := Prod.mk.inj h
  rcases mem_container digits hr with ⟨rfl, -⟩ | rfl | rfl <;>
    rcases mem_container digits hr' with ⟨rfl, -⟩ | rfl | rfl
  · exact htitle
  · exact absurd htype dsesmType_ne_notify
  · exact absurd htype dsesmType_ne_notify
  · exact absurd htype dsesmType_ne_notify.symm
  · exact notEnabled_injective htitle
  · exact absurd htitle (notEnabled_ne_neither a b)
  · exact absurd htype dsesmType_ne_notify.symm
  · exact absurd htitle.symm (notEnabled_ne_neither b a)
  · exact neither_injective htitle

/-- **What the class declares itself never clashes**, since no two containers have one name. -/
theorem nodup_declared (containers : Containers) :
    ((containers.names.flatMap (container digits)).map Resource.reference).Nodup := by
  rw [List.map_flatMap, List.nodup_flatMap]
  refine ⟨fun name _ => nodup_container digits name, ?_⟩
  refine containers.distinctNames.pairwise_of_forall_ne fun a _ b _ hab => ?_
  rw [Function.onFun, List.disjoint_left]
  intro ref ha hb
  obtain ⟨r, hr, rfl⟩ := List.mem_map.mp ha
  obtain ⟨r', hr', heq⟩ := List.mem_map.mp hb
  exact hab (eq_of_reference_eq digits hr hr' heq.symm)

/-! ## The catalog -/

theorem type_dsesmBody {name : Text} {r : Resource} (h : r ∈ dsesmBody name) : r.type = curlJsonType := by
  have htypes : (dsesmBody name).map Resource.type = List.replicate 4 curlJsonType := rfl
  exact List.eq_of_mem_replicate (htypes ▸ List.mem_map_of_mem h)

/-- What the define of a container leads to, if it has one: the body of the define, and nothing for the notices. -/
theorem evaluate_container (name : Text) :
    (container digits name).flatMap evaluate =
      if matchesLine (es1Pattern digits) name = true then dsesmBody name else [] := by
  have hnotice : ∀ title, evaluate (notify title) = [] := fun _ => if_neg dsesmType_ne_notify.symm
  by_cases hes1 : matchesLine (es1Pattern digits) name = true
  · rw [container_es1 digits hes1, if_pos hes1, List.flatMap_singleton]
    exact if_pos rfl
  · rw [if_neg hes1]
    rcases container_cases digits hes1 with heq | heq | heq <;> rw [heq]
    · rw [List.flatMap_singleton]
      exact hnotice _
    · rfl
    · rw [List.flatMap_singleton]
      exact hnotice _

/-- The bodies of the defines, container by container. -/
theorem evaluate_declared (names : List Text) :
    (names.flatMap (container digits)).flatMap evaluate =
      (names.filter fun name => matchesLine (es1Pattern digits) name).flatMap dsesmBody := by
  induction names with
  | nil => rfl
  | cons name names ih =>
      rw [List.flatMap_cons, List.flatMap_append, ih, evaluate_container, List.filter_cons]
      split_ifs
      · rw [List.flatMap_cons]
      · rw [List.nil_append]

/-- **Which defines are declared**: those for the names in which the pattern is found. -/
theorem dsesm_mem_resources {containers : Containers} {title : Text} :
    dsesm title ∈ resources digits (some containers) ↔
      title ∈ containers.names ∧ matchesLine (es1Pattern digits) title = true := by
  have hmotd : dsesm title ∉ motd := by
    intro hmem
    have htype : dsesmType ∈ motd.map Resource.type := List.mem_map_of_mem hmem
    exact absurd htype (by decide)
  have hbody : ∀ name, dsesm title ∉ dsesmBody name := fun name hmem =>
    absurd (type_dsesmBody hmem) (by decide : dsesmType ≠ curlJsonType)
  show dsesm title ∈ motd ++ containers.names.flatMap (container digits) ++
    (containers.names.flatMap (container digits)).flatMap evaluate ↔ _
  rw [evaluate_declared, List.mem_append, List.mem_append, List.mem_flatMap, List.mem_flatMap]
  constructor
  · rintro ((hmem | ⟨name, hname, hmem⟩) | ⟨name, -, hmem⟩)
    · exact absurd hmem hmotd
    · rcases mem_container digits hmem with ⟨heq, hes1⟩ | heq | heq
      · have htitle : title = name := congrArg Resource.title heq
        exact htitle ▸ ⟨hname, hes1⟩
      · exact absurd (congrArg Resource.type heq) dsesmType_ne_notify
      · exact absurd (congrArg Resource.type heq) dsesmType_ne_notify
    · exact absurd hmem (hbody name)
  · rintro ⟨hname, hes1⟩
    refine Or.inl (Or.inr ⟨title, hname, ?_⟩)
    rw [container_es1 digits hes1]
    exact List.mem_singleton_self _

/-- A catalog takes resources as long as their references are new. By induction on the resources, for every catalog
    whose references are different. -/
theorem foldlM_add {catalog : Catalog} (hcatalog : (catalog.map Resource.reference).Nodup) (rs : List Resource) :
    rs.foldlM add catalog =
      if ((catalog ++ rs).map Resource.reference).Nodup then some (catalog ++ rs) else none := by
  induction rs generalizing catalog with
  | nil =>
      rw [List.append_nil, if_pos hcatalog]
      rfl
  | cons r rs ih =>
      rw [List.foldlM_cons, add]
      by_cases hmem : r.reference ∈ catalog.map Resource.reference
      · rw [if_pos hmem, if_neg]
        · rfl
        · rw [List.map_append, List.map_cons, List.nodup_append]
          rintro ⟨-, -, hdisjoint⟩
          exact hdisjoint _ hmem _ (List.mem_cons_self ..) rfl
      · have hnew : ((catalog ++ [r]).map Resource.reference).Nodup := by
          rw [List.map_append, List.nodup_append]
          refine ⟨hcatalog, List.nodup_singleton _, fun a ha b hb hab => ?_⟩
          rw [List.mem_singleton.mp hb] at hab
          exact hmem (hab ▸ ha)
        rw [if_neg hmem]
        show rs.foldlM add (catalog ++ [r]) = _
        rw [ih hnew, List.append_assoc, List.singleton_append]

/-- **The compilation fails exactly on duplicate declarations.** -/
theorem compile_eq (rs : List Resource) :
    compile rs = if (rs.map Resource.reference).Nodup then some rs else none :=
  have hempty : (([] : Catalog).map Resource.reference).Nodup := List.nodup_nil
  foldlM_add hempty rs

/-- Resources of different types have different references. -/
theorem nodup_append_of_type {xs ys : List Resource} (hxs : (xs.map Resource.reference).Nodup)
    (hys : (ys.map Resource.reference).Nodup) (htype : ∀ x ∈ xs, ∀ y ∈ ys, x.type ≠ y.type) :
    ((xs ++ ys).map Resource.reference).Nodup := by
  rw [List.map_append, List.nodup_append]
  refine ⟨hxs, hys, fun a ha b hb hab => ?_⟩
  obtain ⟨x, hx, rfl⟩ := List.mem_map.mp ha
  obtain ⟨y, hy, rfl⟩ := List.mem_map.mp hb
  exact htype x hx y hy (Prod.mk.inj hab).1

/-- Of elements without a difference there is one at most. -/
theorem nodup_eq {α : Type*} {l : List α} (hl : l.Nodup) (h : ∀ a ∈ l, ∀ b ∈ l, a = b) : l = [] ∨ ∃ a, l = [a] := by
  match l, hl, h with
  | [], _, _ => exact Or.inl rfl
  | [a], _, _ => exact Or.inr ⟨a, rfl⟩
  | a :: b :: l, hl, h =>
      have heq : a = b := h a (by simp) b (by simp)
      exact absurd (heq ▸ List.mem_cons_self ..) (List.nodup_cons.mp hl).1

/-- A single define has titles of its own for each resource. -/
theorem nodup_dsesmBody (name : Text) : ((dsesmBody name).map Resource.reference).Nodup := by
  show (["es_cluster_stats".toList, "es_cluster_stats_detailed".toList, "es_cluster_health".toList,
    "es_indices_stats".toList].map (Prod.mk curlJsonType)).Nodup
  exact List.Nodup.map (Prod.mk_right_injective curlJsonType) (by decide)

section
variable {containers : Containers}

/-- With at most one container that matches, the defines come to one body at most. -/
theorem nodup_evaluated
    (hone : ∀ a ∈ containers.names, ∀ b ∈ containers.names, matchesLine (es1Pattern digits) a = true →
      matchesLine (es1Pattern digits) b = true → a = b) :
    (((containers.names.flatMap (container digits)).flatMap evaluate).map Resource.reference).Nodup := by
  have hbodies : (containers.names.filter fun name => matchesLine (es1Pattern digits) name) = [] ∨
      ∃ name, (containers.names.filter fun name => matchesLine (es1Pattern digits) name) = [name] := by
    refine nodup_eq (containers.distinctNames.filter _) fun a ha b hb => ?_
    obtain ⟨ha, ha1⟩ := List.mem_filter.mp ha
    obtain ⟨hb, hb1⟩ := List.mem_filter.mp hb
    exact hone a ha b hb ha1 hb1
  rw [evaluate_declared]
  rcases hbodies with hnil | ⟨name, hname⟩
  · rw [hnil]
    exact List.nodup_nil
  · rw [hname, List.flatMap_singleton]
    exact nodup_dsesmBody name

/-- What the class declares itself is of the other two types. -/
theorem type_declared {r : Resource} (hr : r ∈ containers.names.flatMap (container digits)) :
    r.type ∈ [dsesmType, "notify".toList] := by
  obtain ⟨name, -, hr⟩ := List.mem_flatMap.mp hr
  rcases mem_container digits hr with ⟨rfl, -⟩ | rfl | rfl
  · exact List.mem_cons_self ..
  · exact List.mem_cons_of_mem _ (List.mem_singleton_self _)
  · exact List.mem_cons_of_mem _ (List.mem_singleton_self _)

theorem type_evaluated {r : Resource} (hr : r ∈ (containers.names.flatMap (container digits)).flatMap evaluate) :
    r.type = curlJsonType := by
  rw [evaluate_declared] at hr
  obtain ⟨name, -, hr⟩ := List.mem_flatMap.mp hr
  exact type_dsesmBody hr

/-- **With at most one define, all references are different**: those that the class declares itself, those of the
    body, and one from the other. -/
theorem nodup_resources
    (hone : ∀ a ∈ containers.names, ∀ b ∈ containers.names, matchesLine (es1Pattern digits) a = true →
      matchesLine (es1Pattern digits) b = true → a = b) :
    ((resources digits (some containers)).map Resource.reference).Nodup := by
  have hmotd : ∀ r ∈ motd, r.type ∉ [dsesmType, "notify".toList, curlJsonType] := by decide
  refine nodup_append_of_type (nodup_append_of_type (by decide) (nodup_declared digits containers) ?_)
    (nodup_evaluated digits hone) ?_
  · intro r hr r' hr' heq
    have hmem := heq ▸ type_declared digits hr'
    exact hmotd r hr (List.mem_append_left [curlJsonType] hmem)
  · intro r hr r' hr' heq
    rw [type_evaluated digits hr'] at heq
    rcases List.mem_append.mp hr with hr | hr
    · exact hmotd r hr (heq ▸ by simp)
    · have hmem := heq ▸ type_declared digits hr
      exact absurd hmem (by decide)

end

/-! ## The class -/

/-- **The class is right exactly if an `es1` name is only ever found as a whole name.** The pattern has no end anchor:
    it is found in `dsesm101-es10` as well, which gets the define instead of the notice. Then the metrics of another
    container are collected, and a second define may clash with the first. -/
theorem collectsEs1_iff (containers : Containers) : CollectsEs1 digits containers ↔ OnlyWhole digits containers := by
  constructor
  · intro h name hname u s rest heq hu hs
    have hfound : matchesLine (es1Pattern digits) name = true :=
      matchesLine_iff.mpr ⟨u, s, rest, heq, hu, (matches_es1Pattern digits).mpr hs⟩
    exact ((h.declares name).mp ((dsesm_mem_resources digits).mpr ⟨hname, hfound⟩)).2
  · intro h
    have hfound : ∀ name ∈ containers.names, matchesLine (es1Pattern digits) name = true → IsEs1 digits name := by
      intro name hname hes1
      obtain ⟨u, s, rest, heq, hu, hs⟩ := matchesLine_iff.mp hes1
      exact h name hname u s rest heq hu ((matches_es1Pattern digits).mp hs)
    refine ⟨fun title => ?_, fun name hname hdsesm hother => ?_, fun hone => ?_⟩
    · rw [dsesm_mem_resources]
      exact and_congr_right fun hname => ⟨hfound title hname, IsEs1.matchesLine digits⟩
    · have hes1 : ¬ matchesLine (es1Pattern digits) name = true := fun hes1 => hother (hfound name hname hes1)
      refine ⟨(notEnabled name).title, ?_⟩
      rw [container, if_pos (hdsesm.matchesLine digits), if_neg hes1]
      rfl
    · have hnodup := nodup_resources digits fun a ha b hb ha1 hb1 => hone a ha b hb (hfound a ha ha1) (hfound b hb hb1)
      exact ⟨hnodup, by rw [compile_eq, if_pos hnodup]⟩

end

/-- A node with the containers `es1` and `es10` of one cluster. -/
def largeNode : Containers :=
  ⟨[("a".toList, "dsesm101-es1".toList), ("b".toList, "dsesm101-es10".toList)], by decide, by decide⟩

/-- Both get the define, and the compilation fails on its fixed titles. -/
theorem not_collectsEs1_largeNode :
    compile (resources Digits.ascii (some largeNode)) = none ∧ ¬ CollectsEs1 Digits.ascii largeNode := by
  have hdup : ¬ ((resources Digits.ascii (some largeNode)).map Resource.reference).Nodup := by decide +kernel
  refine ⟨by rw [compile_eq, if_neg hdup], fun h => ?_⟩
  have hten : dsesm "dsesm101-es10".toList ∈ resources Digits.ascii (some largeNode) := by decide +kernel
  obtain ⟨-, d, heq, -⟩ := (h.declares _).mp hten
  have hlast := congrArg List.getLast? heq
  rw [← List.append_assoc, List.getLast?_append_of_ne_nil _ (by decide)] at hlast
  exact absurd hlast (by decide)

end Es.CurlJson
end StgEnvironment
