import StgEnvironment.Nrpe.Correctness.CheckIo
import StgEnvironment.Nrpe.IfTraffic

/-!
# `Nrpe.Correctness.IfTraffic`: whose counters the plugin prints

Every row that `grep` prints ends in a colon and counters, so what is left behind the last colon are the counters of
the last row it prints (`IFTRAFFIC_eq`). The message shows which values it was made of (`message_injective`), so it is
that of the interface exactly when the last row has its counters (`reportsOwnRow_iff`).

Of `grep` nothing is assumed: it may print any lines for a name, headings among them. If it prints no row at all, or a
heading last, the fields are not those of an interface.
-/

namespace StgEnvironment
namespace Nrpe.IfTraffic
open Shell
open CheckIo (awk backquoted Numeral)
open FlinkContainers (Verdict)

/-! ## Rows -/

section Rows
variable (r : Row)

theorem Row.numeral {w : Word} (hw : w ∈ r.counters) : Numeral w := by
  have hword := isWord_of_mem_words hw
  refine ⟨hword.1, fun c hc => ?_⟩
  rcases r.layout c (mem_of_mem_words hw c hc) with rfl | hdigit
  · exact absurd (hword.2 ' ' hc) (by decide)
  · exact hdigit

/-- What follows the colon of a row has digits and blanks in it. -/
theorem Row.not_mem_rest {c : Char} (hblank : c ≠ ' ') (hdigit : c.isDigit = false) : c ∉ r.rest := by
  intro hc
  rcases r.layout c hc with heq | hd
  · exact hblank heq
  · exact ne_of_isDigit hd hdigit rfl

theorem Row.newline_not_mem_line : '\n' ∉ r.line := by
  intro hmem
  rcases List.mem_append.mp hmem with hmem | hmem
  · rcases List.mem_append.mp hmem with hmem | hmem
    · exact absurd (List.eq_of_mem_replicate hmem) (by decide)
    · exact absurd (r.word.2 '\n' hmem) (by decide)
  · rcases List.mem_cons.mp hmem with hmem | hmem
    · exact absurd hmem (by decide)
    · exact r.not_mem_rest (by decide) (by decide) hmem

/-- The counters stand behind the last colon. -/
theorem rtakeWhile_line (before : Text) : (before ++ r.line).rtakeWhile (· != ':') = r.rest := by
  have hcolon : ∀ c ∈ r.rest.reverse, (c != ':') = true := by
    intro c hc
    have hne : c ≠ ':' := fun heq => r.not_mem_rest (by decide) (by decide) (heq ▸ List.mem_reverse.mp hc)
    simpa using hne
  have hreverse : (before ++ r.line).reverse =
      r.rest.reverse ++ ':' :: (before ++ (List.replicate r.indent ' ' ++ r.name)).reverse := by
    simp [Row.line]
  rw [List.rtakeWhile, hreverse, List.takeWhile_append_of_pos hcolon, List.takeWhile_cons_of_neg (by decide),
    List.append_nil, List.reverse_reverse]

end Rows

/-! ## What is left of the table -/

section Table
variable (grepE : Grep) (g : Globbing) (t : Table) (INTERFACE : Text)

/-- The last row of the table that `grep` prints. -/
def Table.lastPrinted : Option Row := (t.rows.filter fun r => grepE INTERFACE r.line).getLast?

theorem printed_eq : t.lines.filter (grepE INTERFACE) =
    header.filter (grepE INTERFACE) ++ (t.rows.filter fun r => grepE INTERFACE r.line).map Row.line := by
  rw [Table.lines, List.filter_append, List.filter_map]
  rfl

/-- **The counters of the last row that is printed are left.** -/
theorem IFTRAFFIC_eq {r : Row} (h : t.lastPrinted grepE INTERFACE = some r) :
    IFTRAFFIC grepE t.lines INTERFACE = r.rest := by
  obtain ⟨rows, hrows⟩ := List.getLast?_eq_some_iff.mp h
  rw [IFTRAFFIC, printed_eq, hrows, List.map_append, List.map_singleton, ← List.append_assoc,
    CheckIo.backquoted_concat _ (by simp [Row.line]) r.newline_not_mem_line, rtakeWhile_line]

/-- Without a row, lines of the header are left, or nothing. -/
theorem IFTRAFFIC_header (h : t.lastPrinted grepE INTERFACE = none) :
    IFTRAFFIC grepE t.lines INTERFACE = IFTRAFFIC grepE header INTERFACE := by
  have hrows : (t.rows.filter fun r => grepE INTERFACE r.line) = [] := List.getLast?_eq_none_iff.mp h
  rw [IFTRAFFIC, printed_eq, hrows, List.map_nil, List.append_nil, IFTRAFFIC]

end Table

/-! ## The message -/

/-- The values that `awk` finds. -/
def field (ws : List Word) (i : ℕ) : Text := (ws[i - 1]?).getD []

/-- A list of words without blanks, none of them being expanded. -/
theorem awk_echo (g : Globbing) {v : Text} (h : ∀ w ∈ words v, Plain w) (i : ℕ) :
    awk i (echo g v) = field (words v) i := by
  have hwords : words (echo g v) = words v := by
    rw [echo, g.unquoted_of_plain h, words_unwords fun w hw => isWord_of_mem_words hw]
  rw [awk, hwords, field]

theorem isBlank_field {ws : List Word} (h : ∀ w ∈ ws, IsWord w) (i : ℕ) : ∀ c ∈ field ws i, isBlank c = false := by
  intro c hc
  rw [field] at hc
  cases hw : ws[i - 1]? with
  | none => rw [hw] at hc; cases hc
  | some w =>
      rw [hw] at hc
      exact (h w (List.mem_of_getElem? hw)).2 c hc

/-- Each field is printed under one name, which has no blanks. -/
theorem perfdata_names : perfdata.all (fun v => v.1.all fun c => !isBlank c) = true := by decide

theorem perfdata_fields : perfdata.map Prod.snd = List.range' 1 16 := by decide

/-- **The message shows its values**, so that two messages are equal only for equal counters: the values have no
    blanks, and the texts between them are fixed. -/
theorem message_injective {f f' : ℕ → Text} (hf : ∀ i, ∀ c ∈ f i, isBlank c = false)
    (hf' : ∀ i, ∀ c ∈ f' i, isBlank c = false) (h : message f = message f') {i : ℕ} (hlow : 1 ≤ i) (hhigh : i ≤ 16) :
    f i = f' i := by
  -- what is printed for a counter is one word
  have hword : ∀ {e : ℕ → Text}, (∀ i, ∀ c ∈ e i, isBlank c = false) →
      ∀ w ∈ perfdata.map (fun v => v.1 ++ '=' :: (e v.2 ++ ['c'])), IsWord w := by
    intro e he w hw
    obtain ⟨v, hv, rfl⟩ := List.mem_map.mp hw
    have hname := List.all_eq_true.mp (List.all_eq_true.mp perfdata_names v hv)
    refine ⟨by simp, fun c hc => ?_⟩
    rcases List.mem_append.mp hc with hc | hc
    · simpa using hname c hc
    · rcases List.mem_cons.mp hc with rfl | hc
      · decide
      · rcases List.mem_append.mp hc with hc | hc
        · exact he v.2 c hc
        · rw [List.mem_singleton.mp hc]
          decide
  have hwords := congrArg words (List.append_cancel_left h)
  rw [words_unwords (hword hf), words_unwords (hword hf')] at hwords
  have hmem : i ∈ perfdata.map Prod.snd := by
    rw [perfdata_fields, List.mem_range'_1]
    omega
  obtain ⟨v, hv, rfl⟩ := List.mem_map.mp hmem
  have hprinted := List.map_inj_left.mp hwords v hv
  exact List.append_cancel_right (List.cons.inj (List.append_cancel_left hprinted)).2

/-- No header line has a colon, a pattern, or a number in front. -/
theorem header_line : ∀ line ∈ header,
    line.all (· != ':') = true ∧ (∀ w ∈ words line, Plain w) ∧ words line ≠ [] ∧ ¬ Numeral (field (words line) 1) := by
  decide +kernel

/-- **What the header leaves does not begin with a number**, and so no header is taken for the counters of an
    interface. -/
theorem not_numeral_header (grepE : Grep) (g : Globbing) (INTERFACE : Text) :
    ¬ Numeral (awk 1 (echo g (IFTRAFFIC grepE header INTERFACE))) := by
  obtain ⟨lines, hprinted⟩ : ∃ lines, header.filter (grepE INTERFACE) = lines := ⟨_, rfl⟩
  have hlines : ∀ line ∈ lines, line ∈ header := fun line hline => (List.mem_filter.mp (hprinted ▸ hline)).1
  have hleft : IFTRAFFIC grepE header INTERFACE = backquoted lines := by
    rw [IFTRAFFIC, hprinted, List.rtakeWhile_eq_self_iff]
    intro c hc
    obtain ⟨l, hl, hcl⟩ := List.mem_flatten.mp ((List.rdropWhile_prefix _ _).subset hc)
    obtain ⟨line, hline, rfl⟩ := List.mem_map.mp hl
    rcases List.mem_append.mp hcl with hcl | hcl
    · exact List.all_eq_true.mp (header_line line (hlines line hline)).1 c hcl
    · rw [List.mem_singleton.mp hcl]
      decide
  have hwords : words (backquoted lines) = lines.flatMap words := CheckIo.words_backquoted lines
  have hplain : ∀ w ∈ words (backquoted lines), Plain w := by
    intro w hw
    rw [hwords] at hw
    obtain ⟨line, hline, hw⟩ := List.mem_flatMap.mp hw
    exact (header_line line (hlines line hline)).2.1 w hw
  rw [hleft, awk_echo g hplain, hwords]
  cases lines with
  | nil => decide
  | cons line lines =>
      obtain ⟨-, -, hne, hnot⟩ := header_line line (hlines line (List.mem_cons_self ..))
      rwa [List.flatMap_cons, field, List.getElem?_append_left (List.length_pos_iff.mpr hne)]

theorem Row.numeral_field (r : Row) {i : ℕ} (hlow : 1 ≤ i) (hhigh : i ≤ 16) : Numeral (field r.counters i) := by
  have hsixteen : r.counters.length = 16 := r.sixteen
  have hlt : i - 1 < r.counters.length := by omega
  rw [field, List.getElem?_eq_getElem hlt]
  exact r.numeral (List.getElem_mem hlt)

/-! ## The row of the interface -/

section Report
variable (grepE : Grep) (g : Globbing) (t : Table) (INTERFACE : Text)

/-- The plugin prints the counters of the interface. -/
def ReportsOwnRow : Prop :=
  ∀ r ∈ t.rows, r.name = INTERFACE →
    check_iftraffic grepE g (some t.lines) INTERFACE = ⟨[message (field r.counters)], 0⟩

/-- The last row that `grep` prints shows the counters of the interface. -/
def LastShowsOwn : Prop :=
  ∀ r ∈ t.rows, r.name = INTERFACE → ∃ last, t.lastPrinted grepE INTERFACE = some last ∧ last.counters = r.counters

variable {grepE g t INTERFACE}

theorem check_iftraffic_eq (h : INTERFACE ≠ []) : check_iftraffic grepE g (some t.lines) INTERFACE =
    ⟨[message fun i => awk i (echo g (IFTRAFFIC grepE t.lines INTERFACE))], 0⟩ := if_neg h

/-- **The message is that of the last row that is printed.** -/
theorem message_last {last : Row} (h : t.lastPrinted grepE INTERFACE = some last) :
    (fun i => awk i (echo g (IFTRAFFIC grepE t.lines INTERFACE))) = field last.counters := by
  funext i
  rw [IFTRAFFIC_eq grepE t INTERFACE h]
  refine awk_echo g (fun w hw c hc hpattern => ?_) i
  have hdigit := (last.numeral hw).2 c hc
  fin_cases hpattern <;> exact absurd hdigit (by decide)

/-- Two rows with the same sixteen fields have the same counters. -/
theorem counters_eq_of_field {r r' : Row}
    (h : ∀ i, 1 ≤ i → i ≤ 16 → field r.counters i = field r'.counters i) : r.counters = r'.counters := by
  refine List.ext_getElem (r.sixteen.trans r'.sixteen.symm) fun i hi hi' => ?_
  have hsixteen : r.counters.length = 16 := r.sixteen
  have hfield := h (i + 1) (by omega) (by omega)
  rwa [field, field, Nat.add_sub_cancel, List.getElem?_eq_getElem hi, List.getElem?_eq_getElem hi'] at hfield

/-- A message that is right comes from a last row that shows the counters of the interface. -/
theorem ReportsOwnRow.lastShowsOwn (h : ReportsOwnRow grepE g t INTERFACE) : LastShowsOwn grepE t INTERFACE := by
  have hcounters : ∀ r : Row, ∀ w ∈ r.counters, IsWord w := fun r w hw => isWord_of_mem_words hw
  intro r hr hname
  have hrun := h r hr hname
  rw [check_iftraffic_eq (hname ▸ r.word.1)] at hrun
  have hmessage := List.singleton_inj.mp (congrArg Verdict.output hrun)
  cases hlast : t.lastPrinted grepE INTERFACE with
  | none =>
      rw [IFTRAFFIC_header grepE t INTERFACE hlast] at hmessage
      have hfirst : awk 1 (echo g (IFTRAFFIC grepE header INTERFACE)) = field r.counters 1 :=
        message_injective (isBlank_field fun w hw => isWord_of_mem_words hw) (isBlank_field (hcounters r)) hmessage
          le_rfl (by omega)
      refine absurd ?_ (not_numeral_header grepE g INTERFACE)
      rw [hfirst]
      exact r.numeral_field le_rfl (by omega)
  | some last =>
      rw [message_last hlast] at hmessage
      refine ⟨last, rfl, counters_eq_of_field fun i hlow hhigh => ?_⟩
      exact message_injective (isBlank_field (hcounters last)) (isBlank_field (hcounters r)) hmessage hlow hhigh

/-- **The plugin prints the counters of the last row that its pattern is found in.** So it reports those of the
    interface exactly if the last such row has the same; the message shows its values, which gives the direction from
    the output to the rows (`message_injective`). -/
theorem reportsOwnRow_iff : ReportsOwnRow grepE g t INTERFACE ↔ LastShowsOwn grepE t INTERFACE := by
  constructor
  · exact ReportsOwnRow.lastShowsOwn
  · intro h r hr hname
    obtain ⟨last, hlast, heq⟩ := h r hr hname
    rw [check_iftraffic_eq (hname ▸ r.word.1), message_last hlast, heq]

/-- A row of which only the counters matter. -/
def rowOf (name : Word) (rest : Text) (hname : IsWord name) (hrest : rest.all (fun c => c == ' ' || c.isDigit) = true)
    (hsixteen : (words rest).length = 16) : Row :=
  ⟨0, name, rest, hname, fun c hc => by simpa using List.all_eq_true.mp hrest c hc, hsixteen⟩

/-- The interface that is asked for. -/
def eth0 : Row :=
  rowOf "eth0".toList " 11 12 13 14 15 16 17 18 19 20 21 22 23 24 25 26".toList (by decide) (by decide +kernel)
    (by decide +kernel)

/-- One whose name has that of the other in it. -/
def veth0 : Row :=
  rowOf "veth0f3d2a1".toList " 31 32 33 34 35 36 37 38 39 40 41 42 43 44 45 46".toList (by decide) (by decide +kernel)
    (by decide +kernel)

/-- The name of a container's interface contains `eth0`, and its row stands below that of `eth0`. -/
def dockerHost : Table := ⟨[eth0, veth0], by decide⟩

/-- On such a host the counters of `veth0f3d2a1` are printed for `eth0`. -/
theorem not_reportsOwnRow_eth0 :
    ¬ ReportsOwnRow (fun pattern line => decide (Occurs pattern line)) Globbing.empty dockerHost "eth0".toList := by
  intro h
  have hown : eth0 ∈ dockerHost.rows := List.mem_cons_self ..
  obtain ⟨last, hlast, heq⟩ := h.lastShowsOwn eth0 hown rfl
  have hboth : dockerHost.rows.all (fun r => decide (Occurs "eth0".toList r.line)) = true := by decide +kernel
  have hfilter : (dockerHost.rows.filter fun r => decide (Occurs "eth0".toList r.line)) = dockerHost.rows :=
    List.filter_eq_self.mpr (List.all_eq_true.mp hboth)
  rw [Table.lastPrinted, hfilter] at hlast
  obtain rfl : veth0 = last := Option.some.inj hlast
  have hfield := congrArg (fun ws => field ws 1) heq
  exact absurd hfield (by decide +kernel)

end Report

end Nrpe.IfTraffic
end StgEnvironment
