import Runbook.Process.Execution
import Runbook.Proofs.Changelog.Reports
import Runbook.Proofs.Command.Plans
import Runbook.Proofs.Timeout.Grammar

/-!
# Validation is enough for running

Validation looks at the timeout as it is written, and running at what trimming leaves of it, where
anything unreadable would mean that there is no limit. The two agree on accepted changelogs: their
commands name a program, and a timeout that is written down is the one that they are run with. The
main theorem is `accepted_commands_can_run`.
-/

namespace Runbook

namespace Timeout

variable {timeout : Option String} {spec : String} {millis : Nat}

/-- Trimming leaves something of an accepted timeout. -/
theorem trim_ne_empty (h : parse? spec = some millis) : Text.trim spec ≠ "" := by
  intro hempty
  rw [← parse_trim, hempty] at h
  cases h

/-- An accepted timeout is resolved to the milliseconds that it spells. -/
theorem millis_of_spec (h : parse? spec = some millis) : (ofSpec (some spec)).millis = millis := by
  have hsome : (Text.trim spec).isEmpty = false := by simpa using trim_ne_empty h
  have htrimmed : parse? (Text.trim spec) = some millis := parse_trim.trans h
  simp [ofSpec, hsome, millisOf, htrimmed]

/-- Timeouts that are empty or accepted set no limit only if they are missing, empty, or zero. -/
theorem unbounded_iff
    (hvalid : ∀ spec ∈ timeout, spec = "" ∨ ∃ millis, parse? spec = some millis) :
    (ofSpec timeout).isUnbounded = true ↔
      timeout = none ∨ timeout = some "" ∨
        ∃ spec, timeout = some spec ∧ spec ≠ "" ∧
          ∀ c ∈ spec.toList, c.isDigit = true → c = '0' := by
  cases timeout with
  | none => exact iff_of_true rfl (.inl rfl)
  | some spec =>
      rcases hvalid spec rfl with rfl | ⟨millis, hmillis⟩
      · exact iff_of_true rfl (.inr (.inl rfl))
      · have hempty : spec ≠ "" := by
          rintro rfl
          cases hmillis
        simp [isUnbounded, millis_of_spec hmillis, millis_eq_zero_iff hmillis, hempty]

end Timeout

namespace Command

variable {command : Command} {context : Context} {pending : Pending}

/-- A command that is planned to run has its arguments and its timeout from its declaration. -/
theorem pending_of_plan (h : command.plan context = .run pending) :
    pending.argv = command.argv ∧ pending.timeout = command.resolvedTimeout := by
  rw [eq_of_plan_run h]
  exact ⟨rfl, rfl⟩

/-- A declaration is in order exactly if it names a program, and if its timeout is missing, empty or
accepted. -/
theorem problems_eq_nil_iff :
    command.problems = [] ↔
      Text.isBlankText command.executable = false ∧
        ∀ spec ∈ command.timeout, spec = "" ∨ ∃ millis, Timeout.parse? spec = some millis := by
  simp only [problems, timeout_problems_eq, List.append_eq_nil_iff, ite_eq_right_iff,
    List.cons_ne_nil, imp_false, Bool.not_eq_true, not_exists, not_and]
  refine and_congr_right' (forall₂_congr fun spec _ => ?_)
  rw [← Option.ne_none_iff_exists', or_iff_not_imp_left]

end Command

/-- An execution that has a program to start is not the one without. -/
theorem Execution.execute_ne_nameless {encoding : OutputEncoding} {argv : List String}
    {timeout : Timeout} {launch : Launch} (hnamed : argv ≠ []) (command : String) :
    execute encoding argv timeout launch ≠ nameless command := by
  -- Only the execution with a program begins with an event.
  have hsome : argv.isEmpty = false := List.isEmpty_eq_false_iff.2 hnamed
  intro h
  have hevents := congrArg Execution.events h
  simp [execute, hsome, nameless] at hevents

namespace Changelog

variable {accepted : Accepted} {base : String} {changeSet : ChangeSet} {command : Command}

/-- The commands of an accepted changelog are in order, and nothing wraps them. -/
theorem Accepted.command_in_order (hmem : changeSet ∈ accepted.changelog.changeSets base)
    (hcommand : changeSet.command = some command) :
    command.problems = [] ∧ command.argv = commandLine command.executable command.args := by
  obtain ⟨entry, hentry, rfl⟩ := List.mem_map.1 hmem
  obtain ⟨declared, hdeclared, rfl⟩ := Option.map_eq_some_iff.1 hcommand
  obtain ⟨name, hname, hproper⟩ := accepted.well_formed.executables entry hentry declared hdeclared
  have htimeouts := accepted.well_formed.timeouts entry hentry declared hdeclared
  refine ⟨Command.problems_eq_nil_iff.2 ⟨?_, htimeouts⟩, rfl⟩
  rwa [CommandEntry.toCommand, hname]

/-- What validation accepts can be run. The commands of the change sets have no problems. A timeout
that is not empty is accepted, and the command is planned with the milliseconds that it spells.
Whenever a command is planned to run, it names a program, and running it attempts to start that one
instead of ending for want of a command line. It has no limit exactly if its timeout is missing,
empty, or zero. -/
theorem accepted_commands_can_run (accepted : Accepted) (base : String) {changeSet : ChangeSet}
    (hmem : changeSet ∈ accepted.changelog.changeSets base) {command : Command}
    (hcommand : changeSet.command = some command) :
    command.problems = [] ∧
    (∀ spec, command.timeout = some spec → spec ≠ "" →
      ∃ millis, Timeout.parse? spec = some millis ∧
        ∀ context pending, command.plan context = .run pending →
          pending.timeout.millis = millis) ∧
    ∀ context pending, command.plan context = .run pending →
      (∃ program args, pending.argv = program :: args ∧ Text.isBlankText program = false) ∧
      (∀ encoding launch name,
        execute encoding pending.argv pending.timeout launch ≠ Execution.nameless name) ∧
      (∀ {σ : Type} (world : World σ) (state : σ),
        (pending.run world state).trace.attempts = [pending.argv]) ∧
      (pending.timeout.isUnbounded = true ↔
        command.timeout = none ∨ command.timeout = some "" ∨
          ∃ spec, command.timeout = some spec ∧ spec ≠ "" ∧
            ∀ c ∈ spec.toList, c.isDigit = true → c = '0') := by
  obtain ⟨hproblems, hargv⟩ := accepted.command_in_order hmem hcommand
  obtain ⟨hproper, htimeout⟩ := Command.problems_eq_nil_iff.1 hproblems
  refine ⟨hproblems, fun spec hspec hempty => ?_, fun context pending hplan => ?_⟩
  · obtain ⟨millis, hmillis⟩ := (htimeout spec hspec).resolve_left hempty
    refine ⟨millis, hmillis, fun context pending hplan => ?_⟩
    rw [(Command.pending_of_plan hplan).2, Command.resolvedTimeout, hspec]
    exact Timeout.millis_of_spec hmillis
  · obtain ⟨hplanned, hresolved⟩ := Command.pending_of_plan hplan
    have hfirst : pending.argv = command.executable :: command.args := hplanned.trans hargv
    have hnamed : pending.argv ≠ [] := by simp [hfirst]
    refine ⟨⟨_, _, hfirst, hproper⟩, fun _ _ => Execution.execute_ne_nameless hnamed,
      fun world state => ?_, ?_⟩
    · simp [Pending.run_of_named world state hnamed]
    · rw [hresolved]
      exact Timeout.unbounded_iff htimeout

/-- A command whose timeout is written with white space on all sides. -/
def spacedTimeout : CommandEntry where
  executable := some "sleep"
  args := ["3"]
  timeout := some "\t2 M\u3000"

/-- A changelog with this command alone. -/
def withSpacedTimeout : Changelog where
  entries := [{ id := "wait", author := "ops", command := some spacedTimeout }]

/-- The command with the spaced timeout is accepted, and planned with two minutes. -/
theorem accepted_commands_can_run_in_two_minutes :
    ∃ accepted, withSpacedTimeout.accept = .ok accepted ∧
      ∃ changeSet ∈ accepted.changelog.changeSets "/base", ∃ command pending,
        changeSet.command = some command ∧ command.plan ⟨.live, .utf8, "Linux"⟩ = .run pending ∧
          pending.timeout.millis = 120000 ∧ pending.timeout.isUnbounded = false ∧
            ∃ program args, pending.argv = program :: args ∧ Text.isBlankText program = false := by
  have hsound : withSpacedTimeout.problems.messages = [] := by decide +kernel
  let accepted : Accepted := ⟨withSpacedTimeout, hsound⟩
  let changeSet : ChangeSet :=
    ⟨"wait", "ops", none, [], some spacedTimeout.toCommand, none⟩
  have hmem : changeSet ∈ accepted.changelog.changeSets "/base" := List.mem_singleton.2 rfl
  let pending : Pending :=
    ⟨["sleep", "3"], "sleep 3", ⟨120000, some "2 M"⟩, .utf8, .exitCode⟩
  have hplan : spacedTimeout.toCommand.plan ⟨.live, .utf8, "Linux"⟩ = .run pending := by
    decide +kernel
  obtain ⟨_, hmillis, hplanned⟩ :=
    accepted_commands_can_run accepted "/base" hmem rfl
  obtain ⟨millis, hparse, hresolved⟩ := hmillis "\t2 M\u3000" rfl (by decide)
  have htwo : Timeout.parse? "\t2 M\u3000" = some 120000 := by decide +kernel
  obtain rfl : 120000 = millis := Option.some.inj (htwo.symm.trans hparse)
  obtain ⟨hprogram, _⟩ := hplanned _ pending hplan
  exact ⟨accepted, dif_pos hsound, changeSet, hmem, _, pending, rfl, hplan, hresolved _ _ hplan,
    rfl, hprogram⟩

end Changelog

end Runbook
