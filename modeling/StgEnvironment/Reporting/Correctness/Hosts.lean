import StgEnvironment.Profiles.Hosts
import StgEnvironment.Reporting.GetReport

/-!
# `Reporting.Correctness.Hosts`: `gethosts` inverts the rendering of `/etc/hosts`

The template writes an address, a name and a short name on a line, with four blanks between them; `gethosts` matches
a regular expression against the whole line and takes the second field. Two blanks already stop a match of the
pattern, so a match on the line is one inside a field; the short name is the beginning of the name, and adds none.

What is assumed of a row is `HostRow`: address and name are words, and the address does not match the pattern.
-/

namespace StgEnvironment
namespace Reporting.GetReport
open Python Profiles.Hosts
open Nrpe.ClusterHealth (isSpace split)

/-- A row with a whitespace-free address in which the pattern does not match, and a whitespace-free name. -/
def HostRow (k : Fact) : Prop :=
  IsWordBy isSpace k.value ∧ IsWordBy isSpace k.certname ∧ search pattern k.value = false

instance (k : Fact) : Decidable (HostRow k) := inferInstanceAs (Decidable (_ ∧ _ ∧ _))

/-- The names that `gethosts` is to return. -/
def reported (certname : Text) : Bool := search pattern certname && !hostexception.contains certname

/-- The pattern of the script has no two neighbours that a blank could match. -/
theorem gapless_pattern : Gapless pattern := by decide

/-! ## The rendered line -/

theorem newline_notMem_of_isWordBy {w : Text} (h : IsWordBy isSpace w) : '\n' ∉ w := by
  intro hmem
  exact absurd (h.2 '\n' hmem) (by decide)

/-- The pattern matches on the line exactly when it matches in the name. -/
theorem search_hostLine {k : Fact} (hv : search pattern k.value = false) :
    search pattern (hostLine k) = search pattern k.certname := by
  have hshort : (search pattern k.certname || search pattern (short k.certname))
      = search pattern k.certname := by
    cases hs : search pattern (short k.certname) with
    | false => rw [Bool.or_false]
    | true =>
        obtain ⟨u, hu⟩ := short_isPrefix k.certname
        rw [← hu, search_append u hs, Bool.or_true]
  rw [hostLine_eq, search_append_gap gapless_pattern, search_cons_blank gapless_pattern,
    search_cons_blank gapless_pattern, search_append_gap gapless_pattern, search_cons_blank gapless_pattern,
    search_cons_blank gapless_pattern, hv, Bool.false_or, hshort]

/-- The second field of the line is the name. -/
theorem split_hostLine {k : Fact} (hv : IsWordBy isSpace k.value) (hc : IsWordBy isSpace k.certname) :
    (split (hostLine k))[1]? = some k.certname := by
  have hblank : isSpace ' ' = true := by decide
  rw [hostLine_eq, split, wordsBy_word_cons hv hblank, wordsBy_cons_sep _ hblank, wordsBy_cons_sep _ hblank,
    wordsBy_cons_sep _ hblank, wordsBy_word_cons hc hblank]
  rfl

/-! ## The loop -/

/-- **One row**: the loop appends the name if it is to be reported. -/
theorem addHost_hostLine {k : Fact} (h : HostRow k) (hosts : List Text) :
    addHost hosts (hostLine k) = .ok (hosts ++ if reported k.certname then [k.certname] else []) := by
  obtain ⟨hv, hc, hsearch⟩ := h
  have hnl : '\n' ∉ hostLine k :=
    newline_notMem_hostLine (newline_notMem_of_isWordBy hv) (newline_notMem_of_isWordBy hc)
  have hne : (hostLine k).isEmpty = false := by simp [hostLine_eq]
  have hmatch : dotStarMatch pattern (hostLine k) = search pattern k.certname := by
    rw [dotStarMatch_eq_search hnl, search_hostLine hsearch]
  simp only [addHost, hne, hmatch, split_strip, split_hostLine hv hc, reported]
  by_cases hs : search pattern k.certname = true
  · by_cases hx : k.certname ∈ hostexception <;> simp [hs, hx]
  · simp [hs]

theorem addHost_staticLine {entry : Text} (h : entry ∈ staticLines) (hosts : List Text) :
    addHost hosts entry = .ok hosts := by
  have hstatic : ∀ e ∈ staticLines, e.isEmpty = true ∨ dotStarMatch pattern e = false := by decide
  rcases hstatic entry h with he | he <;> simp [addHost, he]

theorem foldlM_staticLines {entries : List Text} (h : ∀ entry ∈ entries, entry ∈ staticLines)
    (hosts : List Text) : entries.foldlM addHost hosts = .ok hosts := by
  induction entries with
  | nil => rfl
  | cons entry entries ih =>
      rw [List.foldlM_cons, addHost_staticLine (h entry (List.mem_cons_self ..))]
      exact ih fun e he => h e (List.mem_cons_of_mem _ he)

theorem foldlM_hostLines {rows : List Fact} (h : ∀ k ∈ rows, HostRow k) (hosts : List Text) :
    (rows.map hostLine).foldlM addHost hosts
      = .ok (hosts ++ (rows.map Fact.certname).filter reported) := by
  induction rows generalizing hosts with
  | nil => simp; rfl
  | cons k rows ih =>
      have hk := addHost_hostLine (h k (List.mem_cons_self ..)) hosts
      rw [List.map_cons, List.foldlM_cons, hk]
      refine (ih (fun k' hk' => h k' (List.mem_cons_of_mem _ hk')) _).trans ?_
      cases hr : reported k.certname <;> simp [hr]

/-! ## The file -/

/-- **`gethosts` inverts the rendering of `/etc/hosts`.** From the file that the template renders it reads the names
    of the rows that are to be reported, in the order of the rows; the static lines add nothing, and neither does the
    empty piece behind the last newline. -/
theorem gethosts_hostsErb (ips ips_dmz : List Fact) (h : ∀ k ∈ ips ++ ips_dmz, HostRow k) :
    gethosts (.ok (hostsErb ips ips_dmz)) = .ok (((ips ++ ips_dmz).map Fact.certname).filter reported) := by
  have hlines := splitOn_hostsErb fun k hk => newline_notMem_hostLine
    (newline_notMem_of_isWordBy (h k hk).1) (newline_notMem_of_isWordBy (h k hk).2.1)
  have hne : (hostsErb ips ips_dmz).isEmpty = false := by
    simp [hostsErb, endLines, staticLines]
  have hloop : (staticLines ++ ((ips ++ ips_dmz).map hostLine ++ [[]])).foldlM addHost []
      = .ok (((ips ++ ips_dmz).map Fact.certname).filter reported) := by
    rw [List.foldlM_append, foldlM_staticLines fun _ he => he]
    refine (List.foldlM_append ..).trans ?_
    rw [foldlM_hostLines h]
    -- the piece behind the last newline is empty, and skipped
    rfl
  simp only [gethosts, hne, hlines, hloop]
  rfl

/-- A host with two addresses, one on the exception list, and one of another domain. -/
def sampleIps : List Fact :=
  [⟨"db1.muc.domeus.com".toList, "ipaddress_eth0".toList, "10.0.0.1".toList, "stg".toList⟩,
   ⟨"db1.muc.domeus.com".toList, "ipaddress_bond0".toList, "10.0.0.2".toList, "stg".toList⟩,
   ⟨"dshdc200.muc.domeus.com".toList, "ipaddress_eth0".toList, "10.0.0.3".toList, "stg".toList⟩,
   ⟨"localhost".toList, "ipaddress_eth0".toList, "10.0.0.4".toList, "stg".toList⟩]

/-- A host with two addresses is listed twice. -/
theorem gethosts_hostsErb_sample : gethosts (.ok (hostsErb sampleIps []))
    = .ok ["db1.muc.domeus.com".toList, "db1.muc.domeus.com".toList] :=
  (gethosts_hostsErb sampleIps [] (by decide)).trans (by decide)

end Reporting.GetReport
end StgEnvironment
