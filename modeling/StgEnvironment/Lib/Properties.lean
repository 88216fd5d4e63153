import StgEnvironment.Lib.Text

/-!
# `Lib.Properties`: files of `key=value` lines, and lists of `node:port`

A properties file is a list of lines: comments, blank lines and settings. `properties` reads the settings of a text in
their order, and `properties_render` says that what was written is read back, if no key or value breaks its line.

A connection string joins `node:port` pairs with a separator. `connections` takes it apart (`connections_connect`), so
that two of them are equal only for the same nodes and the same port (`connect_inj`).

A key ends at the first `=`. Escapes, keys with a blank or a colon after them, and lines that go on in the next one are
not read; what is written here has none of them.
-/

namespace StgEnvironment
namespace Properties

/-! ## Lines -/

/-- A line of a properties file. Blank lines and comments are not settings, whatever they contain. -/
inductive Line where
  | comment (t : Text)
  | blank
  | setting (key value : Text)
deriving DecidableEq

def Line.text : Line → Text
  | .comment t => '#' :: t
  | .blank => []
  | .setting key value => key ++ '=' :: value

/-- The setting of a line: it is neither blank nor a comment, and the key ends at the first `=`. -/
def readLine (line : Text) : Option (Text × Text) :=
  match line with
  | [] => none
  | '#' :: _ => none
  | line => some (line.takeWhile (· != '='), (line.dropWhile (· != '=')).drop 1)

/-- The settings of a text. -/
def properties (t : Text) : List (Text × Text) := (t.splitOn '\n').filterMap readLine

/-- A file, each line ended by a newline. -/
def render (ls : List Line) : Text := endLines (ls.map Line.text)

/-- Nothing in the line ends it, and its key ends where it should. -/
def Line.Clean : Line → Prop
  | .comment t => '\n' ∉ t
  | .blank => True
  | .setting key value => key ≠ [] ∧ '#' ∉ key ∧ '=' ∉ key ∧ '\n' ∉ key ∧ '\n' ∉ value

instance : DecidablePred Line.Clean := fun l => by
  cases l <;> unfold Line.Clean <;> infer_instance

/-- The setting of a line, which comments and blank lines have not. -/
def Line.setting? : Line → Option (Text × Text)
  | .setting key value => some (key, value)
  | _ => none

theorem readLine_text {l : Line} (h : l.Clean) : readLine l.text = l.setting? := by
  cases l with
  | comment t => rfl
  | blank => rfl
  | setting key value =>
      obtain ⟨hne, hhash, heq, -, -⟩ := h
      cases key with
      | nil => exact absurd rfl hne
      | cons c key =>
          have hc : c ≠ '#' := fun hc => hhash (hc ▸ List.mem_cons_self ..)
          have hread : readLine (c :: (key ++ '=' :: value)) =
              some ((c :: (key ++ '=' :: value)).takeWhile (· != '='),
                ((c :: (key ++ '=' :: value)).dropWhile (· != '=')).drop 1) := by
            unfold readLine
            split
            · next h => cases h
            · next h => exact absurd (List.cons.inj h).1 hc
            · rfl
          have hall : ∀ d ∈ c :: key, (d != '=') = true := fun d hd => by
            simpa using fun hd' : d = '=' => heq (hd' ▸ hd)
          show readLine (c :: (key ++ '=' :: value)) = some (c :: key, value)
          rw [hread, ← List.cons_append, List.takeWhile_append_of_pos hall, List.dropWhile_append_of_pos hall]
          simp

theorem newline_notMem_text {l : Line} (h : l.Clean) : '\n' ∉ l.text := by
  cases l with
  | comment t => exact fun hm => h ((List.mem_cons.mp hm).resolve_left (by decide))
  | blank => exact List.not_mem_nil
  | setting key value =>
      intro hm
      rcases List.mem_append.mp hm with hk | hv
      · exact h.2.2.2.1 hk
      · exact h.2.2.2.2 ((List.mem_cons.mp hv).resolve_left (by decide))

/-- **What was written is read back.** -/
theorem properties_render {ls : List Line} (h : ∀ l ∈ ls, l.Clean) :
    properties (render ls) = ls.filterMap Line.setting? := by
  have hlines : (render ls).splitOn '\n' = ls.map Line.text ++ [[]] := by
    apply splitOn_endLines
    intro t ht
    obtain ⟨l, hl, rfl⟩ := List.mem_map.mp ht
    exact newline_notMem_text (h l hl)
  rw [properties, hlines, List.filterMap_append, List.filterMap_map]
  show _ ++ [] = _
  rw [List.append_nil]
  exact List.filterMap_congr fun l hl => readLine_text (h l hl)

/-! ## Connection strings -/

/-- `nodes.map |$node| { "$node:$port" }.join(sep)`. -/
def connect (sep : Char) (port : Text) (nodes : List Text) : Text :=
  [sep].intercalate (nodes.map fun node => node ++ ':' :: port)

/-- The pairs of a connection string. -/
def connections (sep : Char) (t : Text) : List (Text × Text) :=
  (t.splitOn sep).map fun c => (c.takeWhile (· != ':'), (c.dropWhile (· != ':')).drop 1)

/-- Joining brings no character in but those of the separator. -/
theorem notMem_intercalate {c : Char} {sep : Text} (hsep : c ∉ sep) :
    ∀ {l : List Text}, (∀ t ∈ l, c ∉ t) → c ∉ sep.intercalate l := by
  intro l
  induction l with
  | nil => intro _ h; cases h
  | cons t l ih =>
      intro h hm
      cases l with
      | nil => rw [List.intercalate_singleton] at hm; exact h t (List.mem_cons_self ..) hm
      | cons u l =>
          rw [List.intercalate_cons_cons, List.append_assoc] at hm
          rcases List.mem_append.mp hm with hm | hm
          · exact h t (List.mem_cons_self ..) hm
          · rcases List.mem_append.mp hm with hm | hm
            · exact hsep hm
            · exact ih (fun t ht => h t (List.mem_cons_of_mem _ ht)) hm

/-- A character of a connection string is one of its parts. -/
theorem notMem_connect {sep c : Char} {port : Text} {nodes : List Text} (hsep : c ≠ sep) (hcolon : c ≠ ':')
    (hport : c ∉ port) (hnodes : ∀ n ∈ nodes, c ∉ n) : c ∉ connect sep port nodes := by
  apply notMem_intercalate (fun h => hsep (List.mem_singleton.mp h))
  intro t ht
  obtain ⟨n, hn, rfl⟩ := List.mem_map.mp ht
  intro hm
  rcases List.mem_append.mp hm with h | h
  · exact hnodes n hn h
  · exact hport ((List.mem_cons.mp h).resolve_left hcolon)

section Connect
variable {sep : Char} {port : Text} {nodes : List Text}

/-- A connection string is cut into its pairs, where the separator is in no node and not in the port. -/
theorem splitOn_connect (hsep : sep ≠ ':') (hport : sep ∉ port) (hne : nodes ≠ []) (hnodes : ∀ n ∈ nodes, sep ∉ n) :
    (connect sep port nodes).splitOn sep = nodes.map fun node => node ++ ':' :: port := by
  refine List.splitOn_intercalate sep (fun t ht => ?_) (by simpa using hne)
  obtain ⟨n, hn, rfl⟩ := List.mem_map.mp ht
  intro hm
  rcases List.mem_append.mp hm with h | h
  · exact hnodes n hn h
  · exact hport ((List.mem_cons.mp h).resolve_left hsep)

/-- **A connection string is taken apart into its nodes.** -/
theorem connections_connect (hsep : sep ≠ ':') (hport : sep ∉ port) (hne : nodes ≠ [])
    (hnodes : ∀ n ∈ nodes, sep ∉ n ∧ ':' ∉ n) :
    connections sep (connect sep port nodes) = nodes.map fun node => (node, port) := by
  rw [connections, splitOn_connect hsep hport hne fun n hn => (hnodes n hn).1, List.map_map]
  refine List.map_congr_left fun n hn => ?_
  have hall : ∀ c ∈ n, (c != ':') = true := fun c hc => by
    simpa using fun hc' : c = ':' => (hnodes n hn).2 (hc' ▸ hc)
  show ((n ++ ':' :: port).takeWhile _, ((n ++ ':' :: port).dropWhile _).drop 1) = _
  rw [List.takeWhile_append_of_pos hall, List.dropWhile_append_of_pos hall]
  simp

/-- Two connection strings are equal only for the same nodes and the same port. -/
theorem connect_inj {port' : Text} {nodes' : List Text} (hsep : sep ≠ ':') (hport : sep ∉ port)
    (hport' : sep ∉ port') (hne : nodes ≠ []) (hne' : nodes' ≠ []) (hnodes : ∀ n ∈ nodes, sep ∉ n ∧ ':' ∉ n)
    (hnodes' : ∀ n ∈ nodes', sep ∉ n ∧ ':' ∉ n) :
    connect sep port nodes = connect sep port' nodes' ↔ nodes = nodes' ∧ port = port' := by
  constructor
  · intro h
    have hread := congrArg (connections sep) h
    rw [connections_connect hsep hport hne hnodes, connections_connect hsep hport' hne' hnodes'] at hread
    have hfst := congrArg (List.map Prod.fst) hread
    have hsnd := congrArg (List.map Prod.snd) hread
    rw [List.map_map, List.map_map] at hfst hsnd
    have hid : nodes = nodes' := by
      simpa [Function.comp_def] using hfst
    refine ⟨hid, ?_⟩
    obtain ⟨n, ns, rfl⟩ := List.exists_cons_of_ne_nil hne
    obtain ⟨n', ns', rfl⟩ := List.exists_cons_of_ne_nil hne'
    exact (List.cons.inj hsnd).1
  · rintro ⟨rfl, rfl⟩
    rfl

end Connect

end Properties
end StgEnvironment
