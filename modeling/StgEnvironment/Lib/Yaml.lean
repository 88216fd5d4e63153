import StgEnvironment.Lib.Dict
import StgEnvironment.Lib.Text

/-!
# `Lib.Yaml`: block mappings, read by their indentation

A document is read line by line: `key: value`, `key:` and `- value`, each behind some blanks, comments and blank
lines. A line takes the deeper lines that follow it (`graft`), and what it has taken is its value. Which texts are
a whole value on one line is a parameter (`inline`).

## Contents
- **Lines** and **trees**: from a text to its lines, and from these to a forest by depth.
- **Access**: the value at a path of keys.
- **What lines stand for**: `Reads` says what entries some lines stand for, piece by piece and at any depth, so that a
  template can be read part by part. `parse_of_reads` is what the parser makes of such lines.
- **Forests**: deeper lines do not reach into what follows them (`forest_append`), and a line takes the deeper lines
  after it (`forest_cons_append`). The parser's result follows from these by induction on `Reads`.

Other YAML is not read: flow collections, quoted keys, anchors, several documents, values over several lines.
-/

namespace StgEnvironment
namespace Yaml

/-- What stands on a line: a key with its value, a key whose value is on the lines below, or an item of a sequence. -/
inductive Entry where
  | pair (key value : Text)
  | key (key : Text)
  | item (value : Text)
deriving DecidableEq

/-- A line that is neither blank nor a comment: how deep it is, and what stands on it. -/
structure Line where
  indent : ℕ
  entry : Entry
deriving DecidableEq

/-- A line with the lines below it. -/
inductive Tree where
  | node (line : Line) (below : List Tree)

/-- A value. One that is not there is the empty scalar. -/
inductive Node where
  | scalar (t : Text)
  | seq (items : List Text)
  | map (entries : List (Text × Node))

/-! ## Lines

A line is read by itself: its depth, and what stands behind its blanks. Blank lines and comments are dropped, and a
line of any other kind makes the text no document. -/

/-- The characters of a plain key. -/
def isKeyChar (c : Char) : Bool := c.isAlphanum || c == '.' || c == '_' || c == '-'

/-- A plain key, which starts with a letter or a digit. -/
def isKey (k : Text) : Bool := (k.head?.any Char.isAlphanum) && k.all isKeyChar

section Read
variable (inline : Text → Bool)

/-- A line without the blanks at its ends. A line that is none of the three kinds is not read. -/
def readEntry (t : Text) : Option Entry :=
  if ['-', ' '] <+: t then
    if inline (t.drop 2) then some (.item (t.drop 2)) else none
  else
    let k := t.takeWhile isKeyChar
    if isKey k then
      match t.dropWhile isKeyChar with
      | [':'] => some (.key k)
      | ':' :: ' ' :: v => if inline v then some (.pair k v) else none
      | _ => none
    else none

/-- The line that a text is, if it is not blank and not a comment. -/
def readLine (t : Text) : Option (Option Line) :=
  let body := (t.dropWhile (· == ' ')).rdropWhile (· == ' ')
  if body.head?.all (· == '#') then some none
  else (readEntry inline body).map fun e => some ⟨(t.takeWhile (· == ' ')).length, e⟩

/-- All lines of a text. One that cannot be read makes the text no document. -/
def readLines : List Text → Option (List Line)
  | [] => some []
  | t :: ts => (readLine inline t).bind fun l => (readLines ts).map (l.toList ++ ·)

end Read

/-! ## Trees

The depths of the lines make them trees: a line has the deeper lines behind it below it, up to the first that is not
deeper. What the trees stand for is computed from the leaves up. -/

def Tree.line : Tree → Line
  | .node l _ => l

/-- Put a line before some trees: it takes the deeper ones that come first, up to one that is as deep as itself or
    less. -/
def graft (l : Line) (ts : List Tree) : List Tree :=
  .node l (ts.takeWhile fun t => l.indent < t.line.indent) :: ts.dropWhile fun t => l.indent < t.line.indent

/-- The trees of some lines, built from the last line up. -/
def forest (ls : List Line) : List Tree := ls.foldr graft []

/-- The items of a sequence. -/
def items : List Tree → Option (List Text)
  | [] => some []
  | .node ⟨_, .item v⟩ [] :: ts => (items ts).map (v :: ·)
  | _ => none

/-- What some trees are together, if these are their entries: nothing, a sequence, or a mapping. -/
def block : List Tree → Option (List (Text × Node)) → Option Node
  | [], _ => some (.scalar [])
  | t :: ts, es =>
      if ts.all (fun t' => t'.line.indent == t.line.indent) then
        match items (t :: ts) with
        | some vs => some (.seq vs)
        | none => es.bind fun es => if (es.map Prod.fst).Nodup then some (.map es) else none
      else none

mutual

/-- A tree as an entry of a mapping. -/
def Tree.entry : Tree → Option (Text × Node)
  | .node ⟨_, .pair k v⟩ [] => some (k, .scalar v)
  | .node ⟨_, .key k⟩ ts => (block ts (entries ts)).map fun n => (k, n)
  | _ => none

/-- The entries of a mapping, if every tree is one. -/
def entries : List Tree → Option (List (Text × Node))
  | [] => some []
  | t :: ts => t.entry.bind fun e => (entries ts).map (e :: ·)

end

/-- The document that a text is, if it is one. -/
def parse (inline : Text → Bool) (t : Text) : Option Node :=
  (readLines inline (t.splitOn '\n')).bind fun ls => block (forest ls) (entries (forest ls))

/-! ## Access -/

/-- The value at a path of keys. -/
def Node.at : Node → List Text → Option Node
  | n, [] => some n
  | .map es, k :: ks => (Dict.find k es).bind fun n => n.at ks
  | _, _ :: _ => none

def Node.scalar? : Node → Option Text
  | .scalar t => some t
  | _ => none

/-- The scalar at a path. -/
def Node.scalarAt (n : Node) (path : List Text) : Option Text := (n.at path).bind Node.scalar?

/-! ## What lines stand for

The other way round: how an entry is written, line by line (`Reads`), and that the reader takes each of these lines
for what it was written as. -/

def keyLine (n : ℕ) (k : Text) : Text := List.replicate n ' ' ++ (k ++ [':'])

/-- A key and a value on one line. -/
def pairLine (n : ℕ) (k v : Text) : Text := List.replicate n ' ' ++ (k ++ ':' :: ' ' :: v)

def itemLine (n : ℕ) (v : Text) : Text := List.replicate n ' ' ++ '-' :: ' ' :: v

/-- A blank line, or a comment. -/
def IsSkip (t : Text) : Prop :=
  ((t.dropWhile (· == ' ')).rdropWhile (· == ' ')).head?.all (· == '#') = true ∧ '\n' ∉ t

instance (t : Text) : Decidable (IsSkip t) := inferInstanceAs (Decidable (_ ∧ _))

/-- A value that stands on the line of its key, so that it can be told from the blanks around it and is a scalar to
    `inline`. -/
structure IsValue (inline : Text → Bool) (v : Text) : Prop where
  whole : inline v = true
  ne_nil : v ≠ []
  head : v.head? ≠ some ' '
  last : v.getLast? ≠ some ' '
  line : '\n' ∉ v

/-- These lines, at this depth, are the entries of a mapping. There is a constructor for each kind of line that a
    template writes, so that a template is read by applying them in its order. -/
inductive Reads (inline : Text → Bool) : ℕ → List Text → List (Text × Node) → Prop where
  | nil {n : ℕ} : Reads inline n [] []
  | skip {n : ℕ} {t : Text} {ts : List Text} {es : List (Text × Node)} (ht : IsSkip t) (rest : Reads inline n ts es) :
      Reads inline n (t :: ts) es
  | pair {n : ℕ} {t k v : Text} {ts : List Text} {es : List (Text × Node)} (ht : t = pairLine n k v)
      (hk : isKey k = true) (hv : v = [] ∨ IsValue inline v) (rest : Reads inline n ts es) :
      Reads inline n (t :: ts) ((k, .scalar v) :: es)
  | null {n : ℕ} {t k : Text} {ts : List Text} {es : List (Text × Node)} (ht : t = keyLine n k)
      (hk : isKey k = true) (rest : Reads inline n ts es) : Reads inline n (t :: ts) ((k, .scalar []) :: es)
  | seq {n m : ℕ} {t k : Text} {vs body ts : List Text} {es : List (Text × Node)} (ht : t = keyLine n k)
      (hk : isKey k = true) (hm : n < m) (hne : vs ≠ []) (hvs : ∀ v ∈ vs, IsValue inline v)
      (hbody : body = vs.map (itemLine m)) (rest : Reads inline n ts es) :
      Reads inline n (t :: (body ++ ts)) ((k, .seq vs) :: es)
  | map {n m : ℕ} {t k : Text} {body ts : List Text} {es es' : List (Text × Node)} (ht : t = keyLine n k)
      (hk : isKey k = true) (hm : n < m) (hne : es' ≠ []) (hnd : (es'.map Prod.fst).Nodup)
      (below : Reads inline m body es') (rest : Reads inline n ts es) :
      Reads inline n (t :: (body ++ ts)) ((k, .map es') :: es)

section Lines
variable {inline : Text → Bool}

/-- A key is not empty, and every character of it is one of a key. -/
theorem isKey_iff {k : Text} : isKey k = true ↔ (∃ c t, k = c :: t ∧ c.isAlphanum = true) ∧ k.all isKeyChar = true := by
  cases k with
  | nil => simp [isKey]
  | cons c t => simp [isKey]

/-- What the reader sees of a key and what follows it. -/
theorem takeWhile_key {k : Text} (hk : isKey k = true) (u : Text) :
    (k ++ ':' :: u).takeWhile isKeyChar = k ∧ (k ++ ':' :: u).dropWhile isKeyChar = ':' :: u := by
  have hall := List.all_eq_true.mp (isKey_iff.mp hk).2
  have hstop : ¬ isKeyChar ':' = true := by decide
  exact ⟨by rw [List.takeWhile_append_of_pos hall, List.takeWhile_cons_of_neg hstop, List.append_nil],
    by rw [List.dropWhile_append_of_pos hall, List.dropWhile_cons_of_neg hstop]⟩

theorem not_item_of_isKey {k : Text} (hk : isKey k = true) (u : Text) : ¬ ['-', ' '] <+: k ++ u := by
  obtain ⟨⟨c, t, rfl, hc⟩, -⟩ := isKey_iff.mp hk
  intro h
  rw [List.cons_append, List.cons_prefix_cons] at h
  rw [← h.1] at hc
  exact absurd hc (by decide)

theorem readEntry_key {k : Text} (hk : isKey k = true) : readEntry inline (k ++ [':']) = some (.key k) := by
  obtain ⟨htake, hdrop⟩ := takeWhile_key hk []
  rw [readEntry, if_neg (not_item_of_isKey hk _), htake, hdrop]
  simp [hk]

theorem readEntry_pair {k v : Text} (hk : isKey k = true) (hv : inline v = true) :
    readEntry inline (k ++ ':' :: ' ' :: v) = some (.pair k v) := by
  obtain ⟨htake, hdrop⟩ := takeWhile_key hk (' ' :: v)
  rw [readEntry, if_neg (not_item_of_isKey hk _), htake, hdrop]
  simp [hk, hv]

theorem readEntry_item {v : Text} (hv : inline v = true) : readEntry inline ('-' :: ' ' :: v) = some (.item v) := by
  have hitem : ['-', ' '] <+: '-' :: ' ' :: v := List.prefix_append ['-', ' '] v
  rw [readEntry, if_pos hitem]
  simp [hv]

/-- A line is read by its indentation and what stands behind it. -/
theorem readLine_indent {n : ℕ} {u body : Text} {e : Entry} {c : Char} (hu : u.head? = some c)
    (hbody : u.rdropWhile (· == ' ') = body) (hhead : body.head? = some c) (hblank : c ≠ ' ') (hcomment : c ≠ '#')
    (he : readEntry inline body = some e) : readLine inline (List.replicate n ' ' ++ u) = some (some ⟨n, e⟩) := by
  obtain ⟨u', rfl⟩ := List.head?_eq_some_iff.mp hu
  have hblanks : ∀ x ∈ List.replicate n ' ', (x == ' ') = true := by
    intro x hx
    rw [List.eq_of_mem_replicate hx]; rfl
  have hstop : ¬ (c == ' ') = true := by simpa using hblank
  have hdrop : (List.replicate n ' ' ++ c :: u').dropWhile (· == ' ') = c :: u' := by
    rw [List.dropWhile_append_of_pos hblanks, List.dropWhile_cons_of_neg (p := (· == ' ')) hstop]
  have htake : (List.replicate n ' ' ++ c :: u').takeWhile (· == ' ') = List.replicate n ' ' := by
    rw [List.takeWhile_append_of_pos hblanks, List.takeWhile_cons_of_neg (p := (· == ' ')) hstop, List.append_nil]
  rw [readLine, hdrop, htake, hbody, hhead, he]
  simp [hcomment]

theorem rdropWhile_blank {u : Text} (h : u.getLast? ≠ some ' ') : u.rdropWhile (· == ' ') = u := by
  refine List.rdropWhile_eq_self_iff.mpr fun hne hlast => h ?_
  rw [List.getLast?_eq_some_getLast hne, beq_iff_eq.mp hlast]

/-- A key is neither a blank nor the start of a comment. -/
theorem head_key {k : Text} (hk : isKey k = true) (u : Text) :
    ∃ c, (k ++ u).head? = some c ∧ c ≠ ' ' ∧ c ≠ '#' := by
  obtain ⟨⟨c, t, rfl, hc⟩, -⟩ := isKey_iff.mp hk
  refine ⟨c, rfl, ?_, ?_⟩ <;> (rintro rfl; exact absurd hc (by decide))

theorem readLine_key {n : ℕ} {k : Text} (hk : isKey k = true) :
    readLine inline (keyLine n k) = some (some ⟨n, .key k⟩) := by
  obtain ⟨c, hc, hblank, hcomment⟩ := head_key hk [':']
  have hlast : (k ++ [':']).getLast? ≠ some ' ' := by simp
  exact readLine_indent hc (rdropWhile_blank hlast) hc hblank hcomment (readEntry_key hk)

theorem readLine_pair {n : ℕ} {k v : Text} (hk : isKey k = true) (hv : IsValue inline v) :
    readLine inline (pairLine n k v) = some (some ⟨n, .pair k v⟩) := by
  obtain ⟨c, hc, hblank, hcomment⟩ := head_key hk (':' :: ' ' :: v)
  have hlast : (k ++ ':' :: ' ' :: v).getLast? ≠ some ' ' := by
    have hlast' := hv.last
    obtain ⟨x, v', rfl⟩ := List.exists_cons_of_ne_nil hv.ne_nil
    simpa [List.getLast?_cons_cons] using hlast'
  exact readLine_indent hc (rdropWhile_blank hlast) hc hblank hcomment (readEntry_pair hk hv.whole)

theorem readLine_pair_nil {n : ℕ} {k : Text} (hk : isKey k = true) :
    readLine inline (pairLine n k []) = some (some ⟨n, .key k⟩) := by
  obtain ⟨c, hc, hblank, hcomment⟩ := head_key hk [':', ' ']
  have hbody : (k ++ [':', ' ']).rdropWhile (· == ' ') = k ++ [':'] := by
    have hsplit : k ++ [':', ' '] = (k ++ [':']) ++ [' '] := by simp
    rw [hsplit, List.rdropWhile_concat_pos _ _ _ (by decide)]
    exact rdropWhile_blank (by simp)
  have hhead : (k ++ [':']).head? = some c := by
    obtain ⟨⟨c', t, rfl, -⟩, -⟩ := isKey_iff.mp hk
    exact hc
  exact readLine_indent hc hbody hhead hblank hcomment (readEntry_key hk)

theorem readLine_item {n : ℕ} {v : Text} (hv : IsValue inline v) :
    readLine inline (itemLine n v) = some (some ⟨n, .item v⟩) := by
  have hlast : ('-' :: ' ' :: v).getLast? ≠ some ' ' := by
    have hlast' := hv.last
    obtain ⟨x, v', rfl⟩ := List.exists_cons_of_ne_nil hv.ne_nil
    simpa [List.getLast?_cons_cons] using hlast'
  exact readLine_indent rfl (rdropWhile_blank hlast) rfl (by decide) (by decide) (readEntry_item hv.whole)

theorem readLine_skip {t : Text} (h : IsSkip t) : readLine inline t = some none := by
  rw [readLine]
  exact if_pos h.1

theorem readLines_append (ts us : List Text) : readLines inline (ts ++ us) =
    (readLines inline ts).bind fun ls => (readLines inline us).map (ls ++ ·) := by
  induction ts with
  | nil => simp [readLines]
  | cons t ts ih =>
      rw [List.cons_append, readLines, readLines, ih]
      cases readLine inline t with
      | none => rfl
      | some l =>
          cases readLines inline ts with
          | none => rfl
          | some ls => cases readLines inline us <;> simp

end Lines

/-! ## Forests

How the forest of a text comes from those of its parts. Deeper lines go to the line before them, and lines at the
same depth or above end them. -/

/-- The first line takes from the trees of the others. -/
theorem forest_cons (l : Line) (ls : List Line) : forest (l :: ls) = graft l (forest ls) := rfl

theorem line_mem_of_mem_forest {ls : List Line} {t : Tree} (h : t ∈ forest ls) : t.line ∈ ls := by
  induction ls with
  | nil => cases h
  | cons l ls ih =>
      rw [forest_cons, graft] at h
      rcases List.mem_cons.mp h with rfl | h
      · exact List.mem_cons_self ..
      · exact List.mem_cons_of_mem l (ih ((List.dropWhile_sublist _).subset h))

/-- Trees that start at a depth or above it. -/
def StartsAt (n : ℕ) (ts : List Tree) : Prop := ∀ t ∈ ts.head?, t.line.indent ≤ n

/-- What is deeper ends where such trees start. So the body of a line does not go on into trees that begin at its
    depth, whatever is between. -/
theorem takeWhile_startsAt {n : ℕ} (ts : List Tree) {us : List Tree} (h : StartsAt n us) {l : Line}
    (hl : n ≤ l.indent) :
    (ts ++ us).takeWhile (fun t => l.indent < t.line.indent) = ts.takeWhile (fun t => l.indent < t.line.indent) ∧
    (ts ++ us).dropWhile (fun t => l.indent < t.line.indent)
      = ts.dropWhile (fun t => l.indent < t.line.indent) ++ us := by
  induction ts with
  | nil =>
      cases us with
      | nil => exact ⟨rfl, rfl⟩
      | cons u us =>
          have hu : ¬ l.indent < u.line.indent := Nat.not_lt_of_le ((h u rfl).trans hl)
          simp [hu]
  | cons t ts ih =>
      by_cases ht : l.indent < t.line.indent
      · simp [ht, ih.1, ih.2]
      · simp [ht]

/-- **Deeper lines do not reach into what follows.** -/
theorem forest_append {n : ℕ} {body rest : List Line} (hbody : ∀ l ∈ body, n < l.indent)
    (hrest : StartsAt n (forest rest)) : forest (body ++ rest) = forest body ++ forest rest := by
  induction body with
  | nil => rfl
  | cons l body ih =>
      have hl := hbody l (List.mem_cons_self ..)
      have hcut := takeWhile_startsAt (forest body) hrest hl.le
      rw [List.cons_append, forest_cons, ih fun l' hl' => hbody l' (List.mem_cons_of_mem l hl'), graft, hcut.1, hcut.2,
        forest_cons, graft, List.cons_append]

/-- **A line takes the deeper lines after it.** -/
theorem forest_cons_append {l : Line} {body rest : List Line} (hbody : ∀ l' ∈ body, l.indent < l'.indent)
    (hrest : StartsAt l.indent (forest rest)) :
    forest (l :: (body ++ rest)) = .node l (forest body) :: forest rest := by
  have hdeep : ∀ t ∈ forest body, decide (l.indent < t.line.indent) = true :=
    fun t ht => decide_eq_true (hbody _ (line_mem_of_mem_forest ht))
  have hcut := takeWhile_startsAt (forest body) hrest le_rfl
  rw [forest_cons, forest_append hbody hrest, graft, hcut.1, hcut.2, List.takeWhile_eq_self_iff.mpr hdeep,
    List.dropWhile_eq_nil_iff.mpr hdeep, List.nil_append]

/-! ## The parser

The trees of lines that were written for some entries stand for these entries, if the keys are distinct. So a
template that is read by `Reads` is a document. -/

/-- Lines whose forest has these entries, all at one depth. The intermediate form between what is read (`Reads`) and
    what `parse` makes of the lines. -/
structure Stands (n : ℕ) (ls : List Line) (es : List (Text × Node)) : Prop where
  deep : ∀ l ∈ ls, n ≤ l.indent
  roots : ∀ t ∈ forest ls, t.line.indent = n
  keyed : ∀ t ∈ forest ls, ∀ v, t.line.entry ≠ .item v
  entries : entries (forest ls) = some es

/-- Such lines start at their depth, so that a line before them which is as deep takes none of them. -/
theorem Stands.startsAt {n : ℕ} {ls : List Line} {es : List (Text × Node)} (h : Stands n ls es) :
    StartsAt n (forest ls) :=
  fun t ht => (h.roots t (List.mem_of_mem_head? ht)).le

/-- A line and its body stand for one more entry. The body is deeper, so the forest has the line with the forest of
    its body as its first tree. -/
theorem Stands.cons {n : ℕ} {l : Line} (body : List Line) {rest : List Line} {e : Text × Node} {es : List (Text × Node)}
    (hl : l.indent = n) (hbody : ∀ l' ∈ body, n < l'.indent) (hkeyed : ∀ v, l.entry ≠ .item v)
    (he : (Tree.node l (forest body)).entry = some e) (h : Stands n rest es) :
    Stands n (l :: (body ++ rest)) (e :: es) := by
  subst hl
  have hforest := forest_cons_append hbody h.startsAt
  refine ⟨fun l' hl' => ?_, fun t ht => ?_, fun t ht => ?_, ?_⟩
  · rcases List.mem_cons.mp hl' with rfl | hl'
    · exact le_rfl
    · rcases List.mem_append.mp hl' with hl' | hl'
      · exact (hbody l' hl').le
      · exact h.deep l' hl'
  · rw [hforest] at ht
    rcases List.mem_cons.mp ht with rfl | ht
    · rfl
    · exact h.roots t ht
  · rw [hforest] at ht
    rcases List.mem_cons.mp ht with rfl | ht
    · exact hkeyed
    · exact h.keyed t ht
  · rw [hforest, Yaml.entries, he, h.entries]
    rfl

/-- **Lines that stand for entries with distinct keys are a mapping.** None of their trees is an item, so that they
    are not taken for a sequence. -/
theorem Stands.block {n : ℕ} {ls : List Line} {es : List (Text × Node)} (h : Stands n ls es) (hne : es ≠ [])
    (hnd : (es.map Prod.fst).Nodup) : block (forest ls) (Yaml.entries (forest ls)) = some (.map es) := by
  obtain ⟨-, hroots, hkeyed, hentries⟩ := h
  cases hforest : forest ls with
  | nil =>
      rw [hforest, Yaml.entries] at hentries
      exact absurd (Option.some.inj hentries).symm hne
  | cons t ts =>
      rw [hforest] at hroots hkeyed hentries
      have haligned : ts.all (fun t' => t'.line.indent == t.line.indent) = true := by
        refine List.all_eq_true.mpr fun t' ht' => beq_iff_eq.mpr ?_
        rw [hroots t' (List.mem_cons_of_mem t ht'), hroots t (List.mem_cons_self ..)]
      have hitems : items (t :: ts) = none := by
        have ht := hkeyed t (List.mem_cons_self ..)
        obtain ⟨⟨i, e⟩, below⟩ := t
        cases e with
        | item v => exact absurd rfl (ht v)
        | key k => rfl
        | pair k v => rfl
      rw [Yaml.block, if_pos haligned, hitems, hentries]
      exact if_pos hnd

/-- Items at one depth have nothing below them. -/
theorem forest_items (m : ℕ) (vs : List Text) :
    forest (vs.map fun v => ⟨m, .item v⟩) = vs.map fun v => .node ⟨m, .item v⟩ [] := by
  induction vs with
  | nil => rfl
  | cons v vs ih =>
      rw [List.map_cons, forest_cons, ih, graft, List.map_cons]
      cases vs with
      | nil => rfl
      | cons w vs =>
          simp [Tree.line]

theorem block_items {m : ℕ} {vs : List Text} (hne : vs ≠ []) (es : Option (List (Text × Node))) :
    block (forest (vs.map fun v => ⟨m, .item v⟩)) es = some (.seq vs) := by
  have hitems : ∀ vs : List Text, items (vs.map fun v => .node ⟨m, .item v⟩ []) = some vs := by
    intro vs
    induction vs with
    | nil => rfl
    | cons v vs ih => rw [List.map_cons, items, ih]; rfl
  obtain ⟨v, vs, rfl⟩ := List.exists_cons_of_ne_nil hne
  have hall := hitems (v :: vs)
  rw [forest_items]
  rw [List.map_cons] at hall ⊢
  rw [block, if_pos (by simp [Tree.line]), hall]

theorem readLines_items {inline : Text → Bool} {m : ℕ} {vs : List Text} (hvs : ∀ v ∈ vs, IsValue inline v) :
    readLines inline (vs.map (itemLine m)) = some (vs.map fun v => ⟨m, .item v⟩) := by
  induction vs with
  | nil => rfl
  | cons v vs ih =>
      rw [List.map_cons, readLines, readLine_item (hvs v (List.mem_cons_self ..)),
        ih fun w hw => hvs w (List.mem_cons_of_mem v hw)]
      rfl

/-- **The reader finds the entries.** By induction on how the lines are read: each kind of line is a line of the
    reader, whose body stands for its value. -/
theorem Reads.stands {inline : Text → Bool} {n : ℕ} {ts : List Text} {es : List (Text × Node)}
    (h : Reads inline n ts es) : ∃ ls, readLines inline ts = some ls ∧ Stands n ls es := by
  induction h with
  | nil => exact ⟨[], rfl, nofun, nofun, nofun, rfl⟩
  | skip ht _ ih =>
      obtain ⟨ls, hls, hstands⟩ := ih
      refine ⟨ls, ?_, hstands⟩
      rw [readLines, readLine_skip ht, hls]
      rfl
  | @pair n t k v ts es ht hk hv _ ih =>
      obtain ⟨ls, hls, hstands⟩ := ih
      rcases hv with rfl | hv
      · refine ⟨⟨n, .key k⟩ :: ls, ?_, Stands.cons [] rfl nofun nofun rfl hstands⟩
        rw [readLines, ht, readLine_pair_nil hk, hls]
        rfl
      · refine ⟨⟨n, .pair k v⟩ :: ls, ?_, Stands.cons [] rfl nofun nofun rfl hstands⟩
        rw [readLines, ht, readLine_pair hk hv, hls]
        rfl
  | @null n t k ts es ht hk _ ih =>
      obtain ⟨ls, hls, hstands⟩ := ih
      refine ⟨⟨n, .key k⟩ :: ls, ?_, Stands.cons [] rfl nofun nofun rfl hstands⟩
      rw [readLines, ht, readLine_key hk, hls]
      rfl
  | @seq n m t k vs body ts es ht hk hm hne hvs hbody _ ih =>
      obtain ⟨ls, hls, hstands⟩ := ih
      refine ⟨⟨n, .key k⟩ :: (vs.map (fun v => ⟨m, .item v⟩) ++ ls), ?_,
        Stands.cons _ rfl (fun l hl => ?_) nofun ?_ hstands⟩
      · rw [readLines, ht, readLine_key hk, readLines_append, hbody, readLines_items hvs, hls]
        rfl
      · obtain ⟨v, -, rfl⟩ := List.mem_map.mp hl
        exact hm
      · rw [Tree.entry, block_items hne]
        rfl
  | @map n m t k body ts es es' ht hk hm hne hnd _ _ ihbelow ih =>
      obtain ⟨ls, hls, hstands⟩ := ih
      obtain ⟨below, hbelow, hmap⟩ := ihbelow
      refine ⟨⟨n, .key k⟩ :: (below ++ ls), ?_,
        Stands.cons _ rfl (fun l hl => hm.trans_le (hmap.deep l hl)) nofun ?_ hstands⟩
      · rw [readLines, ht, readLine_key hk, readLines_append, hbelow, hls]
        rfl
      · rw [Tree.entry, hmap.block hne hnd]
        rfl

theorem newline_not_mem_key {k : Text} (hk : isKey k = true) : '\n' ∉ k :=
  fun hmem => absurd (List.all_eq_true.mp (isKey_iff.mp hk).2 _ hmem) (by decide)

theorem newline_not_mem_indent {n : ℕ} {u : Text} (h : '\n' ∉ u) : '\n' ∉ List.replicate n ' ' ++ u := by
  intro hmem
  rcases List.mem_append.mp hmem with hmem | hmem
  · exact absurd (List.eq_of_mem_replicate hmem) (by decide)
  · exact h hmem

theorem newline_not_mem_keyLine {n : ℕ} {k : Text} (hk : isKey k = true) : '\n' ∉ keyLine n k := by
  refine newline_not_mem_indent fun hmem => ?_
  rcases List.mem_append.mp hmem with hmem | hmem
  · exact newline_not_mem_key hk hmem
  · exact absurd (List.mem_singleton.mp hmem) (by decide)

/-- A value has no newline, so each of these is one line of a text. -/
theorem Reads.newline_not_mem {inline : Text → Bool} {n : ℕ} {ts : List Text} {es : List (Text × Node)}
    (h : Reads inline n ts es) : ∀ t ∈ ts, '\n' ∉ t := by
  induction h with
  | nil => nofun
  | skip ht _ ih => exact List.forall_mem_cons.mpr ⟨ht.2, ih⟩
  | @pair n t k v ts es ht hk hv _ ih =>
      refine List.forall_mem_cons.mpr ⟨ht ▸ newline_not_mem_indent fun hmem => ?_, ih⟩
      have hvalue : '\n' ∉ v := hv.elim (fun h => h ▸ List.not_mem_nil) IsValue.line
      rcases List.mem_append.mp hmem with hmem | hmem
      · exact newline_not_mem_key hk hmem
      · simp [hvalue] at hmem
  | @null n t k ts es ht hk _ ih => exact List.forall_mem_cons.mpr ⟨ht ▸ newline_not_mem_keyLine hk, ih⟩
  | @seq n m t k vs body ts es ht hk hm hne hvs hbody _ ih =>
      refine List.forall_mem_cons.mpr ⟨ht ▸ newline_not_mem_keyLine hk, List.forall_mem_append.mpr ⟨?_, ih⟩⟩
      rw [hbody]
      intro u hu
      obtain ⟨v, hv, rfl⟩ := List.mem_map.mp hu
      exact newline_not_mem_indent (by simp [(hvs v hv).line])
  | @map n m t k body ts es es' ht hk hm hne hnd _ _ ihbelow ih =>
      exact List.forall_mem_cons.mpr ⟨ht ▸ newline_not_mem_keyLine hk, List.forall_mem_append.mpr ⟨ihbelow, ih⟩⟩

theorem Reads.append {inline : Text → Bool} {n : ℕ} {ts us : List Text} {es fs : List (Text × Node)}
    (h : Reads inline n ts es) (h' : Reads inline n us fs) : Reads inline n (ts ++ us) (es ++ fs) := by
  induction h with
  | nil => exact h'
  | skip ht _ ih => exact .skip ht (ih h')
  | pair ht hk hv _ ih => exact .pair ht hk hv (ih h')
  | null ht hk _ ih => exact .null ht hk (ih h')
  | seq ht hk hm hne hvs hbody _ ih =>
      rw [List.cons_append, List.append_assoc]
      exact .seq ht hk hm hne hvs hbody (ih h')
  | map ht hk hm hne hnd below _ _ ih =>
      rw [List.cons_append, List.append_assoc]
      exact .map ht hk hm hne hnd below (ih h')

/-- **The document that lines are.** -/
theorem parse_of_reads {inline : Text → Bool} {n : ℕ} {ts : List Text} {es : List (Text × Node)}
    (h : Reads inline n ts es) (hne : es ≠ []) (hnd : (es.map Prod.fst).Nodup) :
    parse inline (endLines ts) = some (.map es) := by
  obtain ⟨ls, hls, hstands⟩ := h.stands
  have hlines : readLines inline (ts ++ [[]]) = some ls := by
    rw [readLines_append, hls]
    show some (ls ++ []) = some ls
    rw [List.append_nil]
  rw [parse, splitOn_endLines h.newline_not_mem, hlines, Option.bind_some, hstands.block hne hnd]

end Yaml
end StgEnvironment
