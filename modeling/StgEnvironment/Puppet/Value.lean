import StgEnvironment.Lib.Dict
import StgEnvironment.Lib.Text

/-!
# `Puppet.Value`: values, and double-quoted strings

A double-quoted string replaces `$name` by the value of the variable. Without braces the name ends at the first
character that cannot belong to it, so that brackets after it are text. A hash is printed with all its entries, and
so it is longer than each of its values (`length_print_lt`).

Of the strings, what the manifests have is modelled: variables without braces and without a namespace. `${…}` and the
escapes of a backslash do not occur in them.
-/

namespace StgEnvironment
namespace Puppet

/-- What a lookup can return. -/
inductive Value where
  /-- `undef`. -/
  | undefined
  | bool (b : Bool)
  | int (n : ℤ)
  /-- As it is printed. -/
  | float (t : Text)
  | str (t : Text)
  | array (vs : List Value)
  | hash (es : List (Text × Value))

namespace Value

/-- What an `if` takes for true. -/
def truthy : Value → Bool
  | .undefined => false
  | .bool b => b
  | _ => true

/-- `undef`, which is what a key that is not there has. -/
def isUndefined : Value → Bool
  | .undefined => true
  | _ => false

/-- The value under a key of a hash. -/
def get (es : List (Text × Value)) (key : Text) : Value := (Dict.find key es).getD .undefined

/-! ## Printing -/

/-- What stands between the elements of an array or a hash. -/
def comma : Text := [',', ' ']

/-- What stands between a key and its value. -/
def arrow : Text := [' ', '=', '>', ' ']

mutual

/-- A value in a string. Texts inside arrays and hashes are printed without quotes, like those outside of them. -/
def print : Value → Text
  | .undefined => []
  | .bool b => (toString b).toList
  | .int n => (toString n).toList
  | .float t => t
  | .str t => t
  | .array vs => '[' :: (comma.intercalate (printAll vs) ++ [']'])
  | .hash es => '{' :: (comma.intercalate (printEntries es) ++ ['}'])

def printAll : List Value → List Text
  | [] => []
  | v :: vs => print v :: printAll vs

/-- The entries of a hash, each with its arrow. -/
def printEntries : List (Text × Value) → List Text
  | [] => []
  | (k, v) :: es => (k ++ arrow ++ print v) :: printEntries es

end

/-! ## What a hash prints -/

theorem mem_of_get {es : List (Text × Value)} {key : Text} {v : Value} (h : get es key = v) (hv : v ≠ .undefined) :
    (key, v) ∈ es := by
  cases hfind : Dict.find key es with
  | none => rw [get, hfind] at h; exact absurd h.symm hv
  | some w =>
      rw [get, hfind, Option.getD_some] at h
      exact h ▸ Dict.mem_of_find hfind

theorem mem_printEntries {es : List (Text × Value)} {key : Text} {v : Value} (h : (key, v) ∈ es) :
    key ++ arrow ++ print v ∈ printEntries es := by
  induction es with
  | nil => cases h
  | cons e es ih =>
      obtain ⟨k, w⟩ := e
      rw [printEntries]
      rcases List.mem_cons.mp h with heq | h
      · obtain ⟨rfl, rfl⟩ := Prod.mk.inj heq
        exact List.mem_cons_self ..
      · exact List.mem_cons_of_mem _ (ih h)

/-- **A hash prints each of its entries.** -/
theorem occurs_print {es : List (Text × Value)} {key : Text} {v : Value} (h : (key, v) ∈ es) :
    Occurs (key ++ arrow ++ print v) (print (.hash es)) := by
  have hin := occurs_intercalate comma (mem_printEntries h)
  rw [print]
  exact hin.trans ⟨['{'], ['}'], by simp⟩

/-- A hash prints as more than any of its values. -/
theorem length_print_lt {es : List (Text × Value)} {key : Text} {v : Value} (h : (key, v) ∈ es) :
    (print v).length + arrow.length ≤ (print (.hash es)).length := by
  have hle := (occurs_print h).length_le
  simp only [List.length_append] at hle
  omega

end Value

/-! ## Double-quoted strings -/

/-- The characters of a variable name. -/
def isNameChar (c : Char) : Bool := c.isAlphanum || c == '_'

/-- `$name`, once its end is found. -/
def interpolated (scope : Text → Value) (name : Text) : Text := if name.isEmpty then ['$'] else (scope name).print

/-- The rest of a string, in the middle of a name or not. The name is kept until a character ends it. -/
def interpolateFrom (scope : Text → Value) : Option Text → Text → Text
  | none, [] => []
  | some name, [] => interpolated scope name
  | none, c :: t => if c = '$' then interpolateFrom scope (some []) t else c :: interpolateFrom scope none t
  | some name, c :: t =>
      if isNameChar c then interpolateFrom scope (some (name ++ [c])) t
      else interpolated scope name ++
        if c = '$' then interpolateFrom scope (some []) t else c :: interpolateFrom scope none t

/-- A string without braces and escapes. -/
def interpolate (scope : Text → Value) (t : Text) : Text := interpolateFrom scope none t

section Interpolate
variable (scope : Text → Value)

theorem interpolate_text {u : Text} (h : '$' ∉ u) (t : Text) :
    interpolate scope (u ++ t) = u ++ interpolate scope t := by
  induction u with
  | nil => rfl
  | cons c u ih =>
      have hc : c ≠ '$' := fun heq => h (heq ▸ List.mem_cons_self ..)
      have hu : '$' ∉ u := fun hmem => h (List.mem_cons_of_mem c hmem)
      rw [List.cons_append, interpolate, interpolateFrom, if_neg hc, List.cons_append]
      exact congrArg (c :: ·) (ih hu)

theorem interpolate_eq_self {u : Text} (h : '$' ∉ u) : interpolate scope u = u := by
  have heq := interpolate_text scope h []
  have hnil : interpolate scope [] = [] := by rw [interpolate, interpolateFrom]
  rwa [hnil, List.append_nil] at heq

theorem interpolateFrom_name {w : Text} (h : w.all isNameChar = true) (name t : Text) :
    interpolateFrom scope (some name) (w ++ t) = interpolateFrom scope (some (name ++ w)) t := by
  induction w generalizing name with
  | nil => rw [List.nil_append, List.append_nil]
  | cons c w ih =>
      rw [List.all_cons, Bool.and_eq_true] at h
      rw [List.cons_append, interpolateFrom, if_pos h.1, ih h.2, List.append_assoc, List.singleton_append]

/-- **The name of a variable ends at the first other character**, which is text. -/
theorem interpolate_variable {name : Text} (hne : name ≠ []) (hname : name.all isNameChar = true) {c : Char}
    (hc : isNameChar c = false) (hdollar : c ≠ '$') (t : Text) :
    interpolate scope ('$' :: (name ++ c :: t)) = (scope name).print ++ c :: interpolate scope t := by
  have hempty : ¬ name.isEmpty = true := by simpa using hne
  have hc' : ¬ isNameChar c = true := by simp [hc]
  rw [interpolate, interpolateFrom, if_pos rfl, interpolateFrom_name scope hname, List.nil_append, interpolateFrom,
    if_neg hc', if_neg hdollar, interpolated, if_neg hempty]
  rfl

end Interpolate

end Puppet
end StgEnvironment
