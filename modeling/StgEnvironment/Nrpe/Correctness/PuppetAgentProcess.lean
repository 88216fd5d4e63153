import StgEnvironment.Nrpe.PuppetAgentProcess

/-!
# `Nrpe.Correctness.PuppetAgentProcess`: OK only for a live agent

The plugin should be OK only if the recorded agent is alive (`JudgesAgent`). In `2&>/dev/null` the `2` is no descriptor
but a second PID for `ps` (`psArguments_eq`), and so a dead agent is reported as running wherever the process 2
exists.

The arguments come from the tokens of the command line, as the shell makes them; whether `ps` succeeds on them is known
by its documentation alone (`Ps.succeeds_iff`).
-/

namespace StgEnvironment
namespace Nrpe.PuppetAgentProcess
open Shell
open FlinkContainers (Verdict)

/-- The PID that the file holds, if it gives one. -/
def PidFile.recorded : PidFile → Option ℕ
  | .absent => none
  | .unreadable => none
  | .readable content _ => ofDecimal (firstLine content)

/-- A child of the process 1 looks like the agent. -/
def AgentChild (table : ProcessTable) : Prop :=
  ∃ p ∈ table.processes, p.ppid = 1 ∧ Occurs "puppet agent".toList p.cmdline

/-- **The intended behaviour**: OK only for a recorded process that exists, critical for one that does not; without a
    record a warning exactly if a child of the process 1 looks like the agent, and critical if none does. -/
structure JudgesAgent (h : Host) : Prop where
  ok : (check_puppet_agent_process h).code = 0 → ∃ pid, h.pid_file.recorded = some pid ∧ h.table.Has pid
  dead : ∀ pid, h.pid_file.recorded = some pid → ¬ h.table.Has pid → (check_puppet_agent_process h).code = 2
  child : h.pid_file.recorded = none → ((check_puppet_agent_process h).code = 1 ↔ AgentChild h.table)
  lost : h.pid_file.recorded = none → ¬ AgentChild h.table → (check_puppet_agent_process h).code = 2

/-! ## The PID file

`read` takes the first line of the file. The variable is empty if there is no file, if it cannot be read, or if its
first line is. -/

/-- `read` takes the first line, if that is a number or empty. There is nothing in such a line that `read` would take
    out. -/
theorem read_firstLine {content : Text} (h : firstLine content = [] ∨ IsDecimal (firstLine content)) :
    read content = firstLine content := by
  have hplain : ∀ c ∈ firstLine content, c ≠ '\\' ∧ isBlank c = false := by
    intro c hc
    have hdigit : c.isDigit = true := by
      rcases h with hnil | hdec
      · exact absurd (hnil ▸ hc) List.not_mem_nil
      · exact List.all_eq_true.mp hdec.2 c hc
    refine ⟨?_, isBlank_of_isDigit hdigit⟩
    rintro rfl
    cases hdigit
  have hrest : content.dropWhile (· != '\n') = [] ∨ ∃ rest, content.dropWhile (· != '\n') = '\n' :: rest := by
    cases hdrop : content.dropWhile (· != '\n') with
    | nil => exact Or.inl rfl
    | cons c rest =>
        have hc := List.head?_dropWhile_not (· != '\n') content
        rw [hdrop] at hc
        exact Or.inr ⟨rest, by simpa using hc⟩
  have hread := read_plain hplain hrest
  rwa [firstLine, List.takeWhile_append_dropWhile] at hread

/-- The variable is empty exactly if the file gives no PID. -/
theorem agent_pid_eq (h : Host) :
    (h.pid_file.recorded = none ∧ agent_pid h = []) ∨
      ∃ pid, h.pid_file.recorded = some pid ∧ IsDecimal (agent_pid h) ∧ ofDecimal (agent_pid h) = some pid := by
  unfold agent_pid
  cases h.pid_file with
  | absent => exact Or.inl ⟨rfl, rfl⟩
  | unreadable => exact Or.inl ⟨rfl, rfl⟩
  | readable content number =>
      show (ofDecimal (firstLine content) = none ∧ read content = []) ∨
        ∃ pid, ofDecimal (firstLine content) = some pid ∧ IsDecimal (read content) ∧ ofDecimal (read content) = some pid
      rw [read_firstLine number]
      rcases number with hnil | hdec
      · rw [hnil]
        exact Or.inl ⟨rfl, rfl⟩
      · exact Or.inr ⟨_, ofDecimal_of_isDecimal hdec, hdec, ofDecimal_of_isDecimal hdec⟩

/-! ## The arguments of `ps`

The redirection is written `2&>`. Digits are a descriptor in front of `<` and `>` only, so that the `2` is an
argument of `ps`. -/

/-- **The `2` in front of `&>` is an argument.** -/
theorem psArguments_eq (h : Host) : psArguments h = [agent_pid h, "2".toList] := by
  have htwo : lexFrom false [] "2&>/dev/null".toList = _ := lexFrom_both (List.cons_ne_nil '2' []) rfl _
  have hlex : lex psCommand = .word "ps".toList :: .word agentPidWord :: lexFrom false [] "2&>/dev/null".toList := rfl
  have hwords : wordsOfCommand (lex psCommand) = ["ps".toList, agentPidWord, "2".toList] := by
    rw [hlex, htwo]
    rfl
  rw [psArguments, hwords]
  simp only [List.tail_cons, List.map_cons, List.map_nil, if_pos]
  rw [if_neg (by decide)]

/-- In front of `>`, it would be a descriptor. -/
example : wordsOfCommand (lexFrom false [] "2>/dev/null".toList) = [] := by
  have htwo : lexFrom false [] "2>/dev/null".toList = _ := lexFrom_descriptor (List.cons_ne_nil '2' []) rfl _
  rw [htwo]
  rfl

/-- **`ps` succeeds if the recorded process exists, or the process 2**, which is the descriptor that the shell takes
    for an argument. -/
theorem succeeds_psArguments {h : Host} {pid : ℕ} (hdec : IsDecimal (agent_pid h))
    (hpid : ofDecimal (agent_pid h) = some pid) :
    h.ps.succeeds (psArguments h) = true ↔ h.table.Has pid ∨ h.table.Has 2 := by
  have htwo : ofDecimal "2".toList = some 2 := by decide
  have hall : ∀ a ∈ [agent_pid h, "2".toList], IsDecimal a :=
    List.forall_mem_cons.mpr ⟨hdec, List.forall_mem_singleton.mpr (by decide)⟩
  rw [psArguments_eq, h.ps.succeeds_iff _ (List.cons_ne_nil _ _) hall]
  constructor
  · rintro ⟨a, ha, other, hother, hhas⟩
    rcases List.mem_cons.mp ha with rfl | ha
    · rw [hpid] at hother
      exact Or.inl (Option.some.inj hother ▸ hhas)
    · rw [List.mem_singleton.mp ha, htwo] at hother
      exact Or.inr (Option.some.inj hother ▸ hhas)
  · rintro (hhas | hhas)
    · exact ⟨_, List.mem_cons_self .., pid, hpid, hhas⟩
    · exact ⟨_, List.mem_cons_of_mem _ (List.mem_singleton_self _), 2, htwo, hhas⟩

/-! ## The verdict

With a PID in the file the exit status of `ps` decides, without one the children of the process 1 do. The four
requirements are read off from these two cases. -/

theorem code_recorded {h : Host} {pid : ℕ} (hrec : h.pid_file.recorded = some pid) :
    (check_puppet_agent_process h).code = if h.table.Has pid ∨ h.table.Has 2 then 0 else 2 := by
  rcases agent_pid_eq h with ⟨hnone, -⟩ | ⟨other, hother, hdec, hpid⟩
  · rw [hnone] at hrec
    cases hrec
  · rw [hother] at hrec
    obtain rfl := Option.some.inj hrec
    have hps := succeeds_psArguments hdec hpid
    rw [check_puppet_agent_process, if_pos hdec.1]
    by_cases halive : h.table.Has other ∨ h.table.Has 2
    · rw [if_pos halive, if_neg (by rw [hps.mpr halive]; exact Bool.noConfusion)]
    · rw [if_neg halive, if_pos (Bool.eq_false_iff.mpr fun hyes => halive (hps.mp hyes))]

/-- `pgrep` finds something if an agent is a child of the process 1. -/
theorem found_ne_nil_iff (h : Host) : found h ≠ [] ↔ AgentChild h.table := by
  rw [found, Ne, List.filter_eq_nil_iff]
  unfold AgentChild agent_process_name
  push Not
  exact exists_congr fun p => and_congr_right fun _ => by rw [Bool.and_eq_true, decide_eq_true_iff, decide_eq_true_iff]

/-- Without a PID, the children of the process 1 do. -/
theorem code_none {h : Host} (hrec : h.pid_file.recorded = none) [Decidable (AgentChild h.table)] :
    (check_puppet_agent_process h).code = if AgentChild h.table then 1 else 2 := by
  rcases agent_pid_eq h with ⟨-, hnil⟩ | ⟨other, hother, -, -⟩
  · rw [check_puppet_agent_process, if_neg (not_not.mpr hnil)]
    by_cases hchild : AgentChild h.table
    · rw [if_pos hchild, if_pos ((found_ne_nil_iff h).mpr hchild)]
    · rw [if_neg hchild, if_neg fun hne => hchild ((found_ne_nil_iff h).mp hne)]
  · rw [hother] at hrec
    cases hrec

/-- **The plugin is right exactly if the file gives no PID, the recorded process exists, or there is no process 2.**
    The redirection is written so that `ps` gets the argument 2, and it succeeds if either of the two processes
    exists; on Linux the process 2 always does. -/
theorem judgesAgent_iff (h : Host) :
    JudgesAgent h ↔ ∀ pid, h.pid_file.recorded = some pid → h.table.Has pid ∨ ¬ h.table.Has 2 := by
  classical
  constructor
  · intro hjudges pid hrec
    by_contra hbad
    push Not at hbad
    have hdead := hjudges.dead pid hrec hbad.1
    rw [code_recorded hrec, if_pos (Or.inr hbad.2)] at hdead
    exact absurd hdead (by decide)
  · intro hcond
    have hneither : ∀ {pid}, h.pid_file.recorded = some pid → ¬ h.table.Has pid →
        ¬ (h.table.Has pid ∨ h.table.Has 2) := fun hrec hdead hor =>
      hor.elim hdead ((hcond _ hrec).resolve_left hdead)
    refine ⟨fun hok => ?_, fun pid hrec hdead => ?_, fun hrec => ?_, fun hrec hchild => ?_⟩
    · cases hrec : h.pid_file.recorded with
      | none =>
          rw [code_none hrec] at hok
          split_ifs at hok
      | some pid =>
          refine ⟨pid, rfl, ?_⟩
          by_contra hdead
          rw [code_recorded hrec, if_neg (hneither hrec hdead)] at hok
          exact absurd hok (by decide)
    · rw [code_recorded hrec, if_neg (hneither hrec hdead)]
    · rw [code_none hrec]
      by_cases hchild : AgentChild h.table
      · rw [if_pos hchild]
        exact ⟨fun _ => hchild, fun _ => rfl⟩
      · rw [if_neg hchild]
        exact ⟨fun h2 => absurd h2 (by decide), fun hyes => absurd hyes hchild⟩
    · rw [code_none hrec, if_neg hchild]

/-- A `ps` that knows the table. -/
def Ps.exact (table : ProcessTable) : Ps table where
  succeeds args := args.any fun a => match ofDecimal a with
    | some pid => decide (table.Has pid)
    | none => false
  succeeds_iff args _ _ := by
    rw [List.any_eq_true]
    refine exists_congr fun a => and_congr_right fun _ => ?_
    cases ofDecimal a with
    | none => simp
    | some pid => simp

/-- A host on which the recorded agent has died. -/
def deadAgent : Host where
  pid_file := .readable "4711\n".toList (by decide)
  table := ⟨[⟨1, 0, "/sbin/init".toList⟩, ⟨2, 0, "kthreadd".toList⟩], by decide⟩
  ps := Ps.exact _

/-- The agent is dead, the process 2 is there, and the plugin says that the agent runs. -/
theorem not_judgesAgent_deadAgent : ¬ JudgesAgent deadAgent := by
  intro h
  obtain ⟨pid, hrec, hhas⟩ := h.ok (by decide)
  have hpid : pid = 4711 := (Option.some.inj hrec).symm
  rw [hpid] at hhas
  exact absurd hhas (by decide)

end Nrpe.PuppetAgentProcess
end StgEnvironment
