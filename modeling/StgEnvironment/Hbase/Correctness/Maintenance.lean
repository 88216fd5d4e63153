import StgEnvironment.Hbase.Maintenance

/-!
# `Hbase.Correctness.Maintenance`: the cron job does not run the script that is deployed

The strings of the two commands write `$maintenance['..']` without braces, so that each prints the whole hash and the
key in brackets after it (`string_cronString`, `string_oomString`). A hash is longer than the values in it, so the
command of the cron job is never the path of the script, and what `sed` puts in the place of the old command is never
the handler (`not_runs`).

## Contents
- **What the class is for**: `Runs`, in terms of the resources it declares.
- **The two strings**: what they print, for every hash.
- **The override**: from the string over the words of the shell to what `sed` does with a text
  (`sedCommand_oomString`).
- **The classes**: the result for both, and `NoHandler` for the override.

The part about `sed` is said of hashes that are printed without a character that would end its script or mean something
in it (`oomSpecial`). With one of them `sed` does something else again, or fails.
-/

namespace StgEnvironment
namespace Hbase.Maintenance
open Puppet Shell

/-- The command that the override replaces. -/
def killCommand : Text := "kill -9 %p".toList

/-- The path of the script for `cron`, which the manifest means to write. -/
def Hash.script (maintenance : Hash) : Text := maintenance.location ++ '/' :: maintenance.daily_script

/-- The command that is to replace it. -/
def Hash.handler (maintenance : Hash) : Text := maintenance.oom_action_script ++ " %p".toList

/-- What a class is for: the scripts are deployed, `cron` runs the daily one, and the override puts the handler in the
place of the old command. -/
structure Runs (maintenance : Hash) (resources : List Resource) : Prop where
  deployed : Resource.file maintenance.location .directory true true (some "puppet:///modules/hbase/maintenance".toList)
    ∈ resources
  cron : ∃ title user hour minute, Resource.cron title .present (some maintenance.script) user hour minute ∈ resources
  override : (maintenance.get "oom_action_override".toList).truthy = true →
    ∃ title command path onlyif, Resource.exec title command path onlyif ∈ resources ∧
      ∀ text, sedCommand command text = some (replaceAll killCommand maintenance.handler text)

section Commands
variable (maintenance : Hash)

/-- `$maintenance`, before a character that ends the name: the whole hash is printed, and the string goes on after
    it. -/
theorem string_maintenance {c : Char} (hc : isNameChar c = false) (hdollar : c ≠ '$') (t : Text) :
    maintenance.string ('$' :: ("maintenance".toList ++ c :: t))
      = maintenance.value.print ++ c :: maintenance.string t := by
  rw [Hash.string, interpolate_variable _ (by decide) (by decide) hc hdollar, Hash.scope, if_pos rfl]
  rfl

/-- **The command of the cron job** is the whole hash and a key in brackets, twice. -/
theorem string_cronString : maintenance.string cronString =
    maintenance.value.print ++ "['location']/".toList ++ maintenance.value.print ++ "['daily_script']".toList := by
  have hsplit : cronString = '$' :: ("maintenance".toList ++ '[' :: ("'location']/".toList ++
      '$' :: ("maintenance".toList ++ '[' :: "'daily_script']".toList))) := by decide
  have hmiddle : maintenance.string ("'location']/".toList ++
      '$' :: ("maintenance".toList ++ '[' :: "'daily_script']".toList)) = "'location']/".toList ++
      maintenance.string ('$' :: ("maintenance".toList ++ '[' :: "'daily_script']".toList)) :=
    interpolate_text _ (by decide) _
  have hend : maintenance.string "'daily_script']".toList = "'daily_script']".toList :=
    interpolate_eq_self _ (by decide)
  rw [hsplit, string_maintenance _ (by decide) (by decide), hmiddle, string_maintenance _ (by decide) (by decide), hend]
  simp only [List.append_assoc]
  rfl

/-- **The command of the override** has the whole hash and a key in it, where a path is meant. -/
theorem string_oomString : maintenance.string oomString =
    "sed -i.bak -e 's|kill -9 %p|".toList ++ maintenance.value.print ++
      "['oom_action_script'] %p|g' /usr/lib/hbase/bin/hbase".toList := by
  have hsplit : oomString = "sed -i.bak -e 's|kill -9 %p|".toList ++
      '$' :: ("maintenance".toList ++ '[' :: "'oom_action_script'] %p|g' /usr/lib/hbase/bin/hbase".toList) := by decide
  have hstart : ∀ t, maintenance.string ("sed -i.bak -e 's|kill -9 %p|".toList ++ t)
      = "sed -i.bak -e 's|kill -9 %p|".toList ++ maintenance.string t :=
    fun t => interpolate_text _ (by decide) t
  have hend : maintenance.string "'oom_action_script'] %p|g' /usr/lib/hbase/bin/hbase".toList
      = "'oom_action_script'] %p|g' /usr/lib/hbase/bin/hbase".toList :=
    interpolate_eq_self _ (by decide)
  rw [hsplit, hstart, string_maintenance _ (by decide) (by decide), hend, List.append_assoc]
  rfl

/-- The hash is longer than each of the three values, since its print has all of them and more. -/
theorem length_value {key t : Text} (h : Value.get maintenance.entries key = .str t) :
    t.length < maintenance.value.print.length := by
  have hle := Value.length_print_lt (Value.mem_of_get h nofun)
  have harrow : Value.arrow.length = 4 := rfl
  rw [Value.print] at hle
  rw [Hash.value]
  omega

/-- **The command of the cron job is no script**: it is longer than the path. -/
theorem string_cronString_ne : maintenance.string cronString ≠ maintenance.script := by
  intro heq
  have hlength := congrArg List.length heq
  have hlocation := length_value maintenance maintenance.get_location
  have hscript := length_value maintenance maintenance.get_daily_script
  rw [string_cronString, Hash.script] at hlength
  simp only [List.length_append, List.length_cons] at hlength
  omega

/-- A job that is present has this command. -/
theorem command_of_mem_catalog {title command : Text} {user : Option Text} {hour minute : Value}
    (h : Resource.cron title .present (some command) user hour minute ∈ catalog maintenance) :
    command = maintenance.string cronString := by
  rcases List.mem_append.mp h with h | h
  · by_cases hdaily : (maintenance.get "daily".toList).truthy = true
    · rw [if_pos hdaily, List.mem_cons, List.mem_singleton] at h
      rcases h with h | h
      · cases h
      · exact Option.some.inj (Resource.cron.inj h).2.2.1
    · rw [if_neg hdaily, List.mem_cons, List.mem_singleton] at h
      rcases h with h | h
      · cases h
      · cases (Resource.cron.inj h).2.1
  · split at h
    · cases List.mem_singleton.mp h
    · cases h

/-- The only `exec` of the classes is the override. -/
theorem exec_of_mem_catalog {title command : Text} {path : List Text} {onlyif : Text}
    (h : Resource.exec title command path onlyif ∈ catalog maintenance) :
    command = maintenance.string oomString := by
  rcases List.mem_append.mp h with h | h
  · split at h
    · rcases List.mem_pair.mp h with h | h <;> cases h
    · rcases List.mem_pair.mp h with h | h <;> cases h
  · split at h
    · exact (Resource.exec.inj (List.mem_singleton.mp h)).2.1
    · cases h

/-! ## The override -/

/-- The characters that would end the script of `sed`, or mean something in it. -/
def oomSpecial : List Char := quote :: '|' :: replacementSpecial

/-- What the override puts in the place of the old command. -/
def Hash.replacement (maintenance : Hash) : Text := maintenance.value.print ++ "[oom_action_script] %p".toList

/-- The words of the command line of the override, as the shell makes them. The quotes around the key end the quoted
    script and begin it again, and so are lost. -/
theorem commandWords_oomString (h : quote ∉ maintenance.value.print) :
    commandWords (maintenance.string oomString) = some ["sed".toList, "-i.bak".toList, "-e".toList,
      's' :: '|' :: (killCommand ++ '|' :: (maintenance.replacement ++ ['|', 'g'])),
      "/usr/lib/hbase/bin/hbase".toList] := by
  let script : Text := "s|kill -9 %p|".toList ++ maintenance.value.print ++ "[".toList
  have hscript : quote ∉ script := by
    simp only [script, List.mem_append, not_or]
    exact ⟨⟨by decide, h⟩, by decide⟩
  have hline : maintenance.string oomString = "sed".toList ++ ' ' :: ("-i.bak".toList ++ ' ' :: ("-e".toList ++
      ' ' :: (quote :: (script ++ quote :: ("oom_action_script".toList ++ quote :: ("] %p|g".toList ++
        quote :: ' ' :: "/usr/lib/hbase/bin/hbase".toList)))))) := by
    rw [string_oomString]
    simp only [script, List.append_assoc]
    rfl
  rw [hline, commandWords_cons (by decide) (by decide), commandWords_cons (by decide) (by decide),
    commandWords_cons (by decide) (by decide), commandWords_quote hscript, wordsFrom_plain (by decide),
    wordsFrom_quote (by decide), wordsFrom_blank, commandWords_word (by decide) (by decide)]
  simp only [script, Hash.replacement, List.append_assoc, Option.map_some]
  rfl

/-- **What the command of the override does**: it puts the whole hash and a key in the place of the old command. -/
theorem sedCommand_oomString (h : maintenance.value.print.all (· ∉ oomSpecial) = true) (text : Text) :
    sedCommand (maintenance.string oomString) text = some (replaceAll killCommand maintenance.replacement text) := by
  have hnot : ∀ c ∈ oomSpecial, c ∉ maintenance.value.print := by
    intro c hc hmem
    exact of_decide_eq_true (List.all_eq_true.mp h c hmem) hc
  have hbar : '|' ∉ maintenance.replacement := by
    rw [Hash.replacement, List.mem_append, not_or]
    exact ⟨hnot _ (by decide), by decide⟩
  have hplain : maintenance.replacement.all (· ∉ replacementSpecial) = true := by
    rw [Hash.replacement, List.all_append, Bool.and_eq_true]
    refine ⟨List.all_eq_true.mpr fun c hc => decide_eq_true fun hspecial => ?_, by decide⟩
    exact hnot c (List.mem_cons_of_mem _ (List.mem_cons_of_mem _ hspecial)) hc
  rw [sedCommand, commandWords_oomString maintenance (hnot _ (by decide)), Option.bind_some]
  show (if _ then sed _ text else none) = _
  rw [if_pos ⟨rfl, rfl, rfl⟩, sed, substitution_eq (by decide) hbar (by decide) (by decide) (by decide) hplain]
  rfl

/-- So it does not put the handler there. A line with the old command alone shows it. -/
theorem sedCommand_ne (h : maintenance.value.print.all (· ∉ oomSpecial) = true) :
    sedCommand (maintenance.string oomString) killCommand
      ≠ some (replaceAll killCommand maintenance.handler killCommand) := by
  have hkill : killCommand ≠ [] := by decide
  rw [sedCommand_oomString maintenance h, replaceAll_self hkill, replaceAll_self hkill]
  intro heq
  have hlength := congrArg List.length (Option.some.inj heq)
  have hscript := length_value maintenance maintenance.get_oom_action_script
  rw [Hash.replacement, Hash.handler, List.length_append, List.length_append] at hlength
  have hkey : "[oom_action_script] %p".toList.length = 22 := rfl
  have hrest : " %p".toList.length = 3 := rfl
  omega

end Commands

/-! ## The classes -/

/-- No command of the class puts the handler in the place of the old command, in a file that has just this command. -/
def NoHandler (maintenance : Hash) (resources : List Resource) : Prop :=
  ∀ title command path onlyif, Resource.exec title command path onlyif ∈ resources →
    sedCommand command killCommand ≠ some (replaceAll killCommand maintenance.handler killCommand)

/-- **Neither class ever runs the script that it deploys**, nor does either put the handler in its place. The command
    of the cron job is longer than the path of the script (`string_cronString_ne`), and the command of the override is
    not the `sed` that would be meant (`sedCommand_ne`), where the hash prints without the characters that would end
    the script of `sed` or mean something in it. -/
theorem not_runs (maintenance : Hash) :
    (¬ Runs maintenance (master maintenance) ∧ ¬ Runs maintenance (regionserver maintenance)) ∧
    (maintenance.value.print.all (· ∉ oomSpecial) = true →
      NoHandler maintenance (master maintenance) ∧ NoHandler maintenance (regionserver maintenance)) := by
  have hnot : ¬ Runs maintenance (catalog maintenance) := by
    intro h
    obtain ⟨title, user, hour, minute, hmem⟩ := h.cron
    exact string_cronString_ne maintenance (command_of_mem_catalog maintenance hmem).symm
  refine ⟨⟨hnot, hnot⟩, fun hprint => ?_⟩
  have hhandler : NoHandler maintenance (catalog maintenance) := by
    intro title command path onlyif hmem
    rw [exec_of_mem_catalog maintenance hmem]
    exact sedCommand_ne maintenance hprint
  exact ⟨hhandler, hhandler⟩

/-- The scripts in `/etc/hbase/scripts`, as the environment has them. -/
def scripts : Hash where
  entries := [("daily".toList, .bool true), ("location".toList, .str "/etc/hbase/scripts".toList),
    ("daily_script".toList, .str "maintenance_daily.sh".toList),
    ("oom_action_override".toList, .bool true), ("oom_action_script".toList, .str "hbase_oom_handler.sh".toList)]
  location := "/etc/hbase/scripts".toList
  daily_script := "maintenance_daily.sh".toList
  oom_action_script := "hbase_oom_handler.sh".toList
  get_location := rfl
  get_daily_script := rfl
  get_oom_action_script := rfl

example : scripts.string "$maintenance".toList = ("\x7bdaily => true, ".toList ++
    "location => /etc/hbase/scripts, daily_script => maintenance_daily.sh, ".toList ++
    "oom_action_override => true, oom_action_script => hbase_oom_handler.sh\x7d".toList) := by decide +kernel

/-- `/etc/hbase/scripts/maintenance_daily.sh` does not run. -/
theorem not_runs_scripts : ¬ Runs scripts (master scripts) ∧ ¬ Runs scripts (regionserver scripts) := by
  have hcommand : scripts.string cronString ≠ scripts.script := by decide +kernel
  have hnot : ¬ Runs scripts (catalog scripts) := by
    intro h
    obtain ⟨title, user, hour, minute, hmem⟩ := h.cron
    exact hcommand (command_of_mem_catalog scripts hmem).symm
  exact ⟨hnot, hnot⟩

end Hbase.Maintenance
end StgEnvironment
