import Runbook.Proofs.Checksum.Arguments
import Runbook.Proofs.Command.Plans
import Runbook.Proofs.Process.Verdict

/-!
# The command that a verdict names

A confirmation and a failure with an exit code name the command as it is declared. All other
failures name the argument vector, joined by spaces, and hooks may have wrapped the declared command
in it. The main theorem is `verdicts_name_declared_line_iff`.
-/

namespace Runbook

/-- The command that a failure of a process names. -/
def Failure.command? : Failure → Option String
  | .spawn command _ => some command
  | .timeout command _ _ => some command
  | .nonZeroExit command _ _ => some command
  | .execution command _ => some command
  | _ => none

/-- A verdict names a command: it confirms it, or it is a failure of it. -/
inductive NamesCommand (line : String) : Except Failure String → Prop
  | confirmed : NamesCommand line (.ok (confirmation line))
  | failed (failure : Failure) (hcommand : failure.command? = some line) :
      NamesCommand line (.error failure)

/-- Where a verdict takes the name of its command from: the declared line for a confirmation and for
a failure with an exit code, and the joined argument vector for every other failure. -/
inductive NamedFrom (line joined : String) : Except Failure String → Prop
  | confirmed : NamedFrom line joined (.ok (confirmation line))
  | judged (code : Int) (stderr : String) :
      NamedFrom line joined (.error (.nonZeroExit line code stderr))
  | refused (fault : OsError) : NamedFrom line joined (.error (.spawn joined fault))
  | overdue (limit stderr : String) : NamedFrom line joined (.error (.timeout joined limit stderr))
  | broken (message : String) : NamedFrom line joined (.error (.execution joined message))

/-- A verdict that takes its name from two texts names one of them. -/
theorem NamedFrom.names {line joined : String} {verdict : Except Failure String}
    (h : NamedFrom line joined verdict) : NamesCommand line verdict ∨ NamesCommand joined verdict := by
  cases h with
  | confirmed => exact .inl .confirmed
  | judged => exact .inl (.failed _ rfl)
  | refused | overdue | broken => exact .inr (.failed _ rfl)

namespace Pending

variable {pending : Pending} {launch : Launch} {outcome : Outcome} {stderr : String}

/-- The outcome tells where the verdict takes the name from. -/
theorem Leads.named_from (h : pending.Leads launch outcome) :
    NamedFrom pending.line (joinTokens pending.argv) (outcome.verdict pending stderr) := by
  cases outcome with
  | nameless =>
      rw [h.argv_eq_nil]
      exact .broken _
  | refused fault => exact .refused fault
  | unpiped stream => exact .broken _
  | judged code =>
      simp only [Outcome.verdict]
      split
      · exact .confirmed
      · exact .judged code stderr
  | overdue => exact .overdue _ stderr
  | unwaited message => exact .broken message

/-- Whatever the operating system does, the verdict takes its name from the declared line or from
the argument vector. -/
theorem run_named_from {σ : Type} (world : World σ) (pending : Pending) (state : σ) :
    NamedFrom pending.line (joinTokens pending.argv) (pending.run world state).verdict := by
  by_cases hargv : pending.argv = []
  · rw [run_of_nameless world state hargv, hargv]
    exact .broken _
  · obtain ⟨outcome, hleads, _⟩ := pending.existsUnique_leads
      (world.launch state pending.argv pending.timeout.deadline?).1
    rw [run_of_named world state hargv]
    simp only [conclude_verdict hargv hleads]
    exact hleads.named_from

/-- A world in which no process starts. -/
def refusingWorld : World Unit where
  read _ _ := .refused .notFound
  directory _ := "/"
  parallelism _ := 1
  launch state _ _ := (.refused .notFound, state)

/-- Where no process starts, the failure names the argument vector. -/
theorem command_of_refused (pending : Pending) :
    ∃ failure, (pending.run refusingWorld ()).verdict = .error failure ∧
      failure.command? = some (joinTokens pending.argv) := by
  by_cases hargv : pending.argv = []
  · exact ⟨_, by rw [run_of_nameless refusingWorld () hargv], by rw [hargv]; rfl⟩
  · refine ⟨.spawn (joinTokens pending.argv) .notFound, ?_, rfl⟩
    rw [run_of_named refusingWorld () hargv]
    exact conclude_verdict hargv (.refused .notFound hargv)

/-- All verdicts on a command name its declared line exactly if the argument vector is joined to the
same line. -/
theorem names_line_iff (pending : Pending) :
    (∀ (σ : Type) (world : World σ) (state : σ),
        NamesCommand pending.line (pending.run world state).verdict) ↔
      joinTokens pending.argv = pending.line := by
  constructor
  · intro h
    -- A process that does not start is enough to see the argument vector.
    obtain ⟨failure, hverdict, hcommand⟩ := pending.command_of_refused
    have hnames := h Unit refusingWorld ()
    rw [hverdict] at hnames
    cases hnames with
    | failed _ hline => exact Option.some.inj (hcommand.symm.trans hline)
  · intro hsame σ world state
    have hnamed := pending.run_named_from world state
    rw [hsame] at hnamed
    exact hnamed.names.elim id id

end Pending

/-- Tokens in front of others are noticed in the joined line. -/
theorem joinTokens_append_eq_iff {tokens rest : List String} (hsome : rest ≠ []) :
    joinTokens (tokens ++ rest) = joinTokens rest ↔ tokens = [] := by
  rw [joinTokens_eq_iff (by simp [hsome]) hsome, wordsOf, List.flatMap_append, wordsOf,
    List.append_left_eq_self]
  -- Every token has a word, even an empty one, so a token in front is always seen.
  cases tokens with
  | nil => simp
  | cons token others => simp [List.splitOn_ne_nil]

/-- Verdicts on a command that is run take its name from two places. The confirmation and a failure
with an exit code name the declared line, and all other failures name the argument vector, joined by
spaces. So all of them name the declared line exactly if both texts are the same. They are without
hooks, and with tokens put in front of the command only if there are none. -/
theorem verdicts_name_declared_line_iff {command : Command} {context : Context} {pending : Pending}
    (hplan : command.plan context = .run pending) :
    (∀ (σ : Type) (world : World σ) (state : σ),
      NamedFrom command.line (joinTokens command.argv) (pending.run world state).verdict) ∧
    ((∀ (σ : Type) (world : World σ) (state : σ),
        NamesCommand command.line (pending.run world state).verdict) ↔
      joinTokens command.argv = command.line) ∧
    (command.hooks = .standard → joinTokens command.argv = command.line) ∧
    ∀ tokens, command.hooks = .wrapping tokens →
      (joinTokens command.argv = command.line ↔ tokens = []) := by
  have hpending := Command.eq_of_plan_run hplan
  have hline : command.line = pending.line := by rw [hpending]
  have hargv : command.argv = pending.argv := by rw [hpending]
  refine ⟨fun _ world state => ?_, ?_, fun hhooks => ?_, fun tokens hhooks => ?_⟩
  · rw [hline, hargv]
    exact pending.run_named_from world state
  · rw [hline, hargv]
    exact pending.names_line_iff
  · simp only [Command.argv, hhooks, Hooks.standard, Command.line]
  · simp only [Command.argv, hhooks, Hooks.wrapping, Command.line]
    exact joinTokens_append_eq_iff (List.cons_ne_nil _ _)

/-- A command behind a wrapper. -/
def wrappedEcho : Command where
  executable := "echo"
  args := ["hi"]
  hooks := .wrapping ["no-such-wrapper-5c1d"]

/-- The wrapped command as it is going to be run. -/
def pendingEcho : Pending where
  argv := ["no-such-wrapper-5c1d", "echo", "hi"]
  line := "echo hi"
  timeout := .unbounded
  encoding := .utf8
  policy := .exitCode

/-- Some verdict on the wrapped command does not name its declared line. -/
theorem verdicts_name_declared_line_iff_wrapped :
    wrappedEcho.plan ⟨.live, .utf8, "Linux"⟩ = .run pendingEcho ∧
      ¬∀ (σ : Type) (world : World σ) (state : σ),
        NamesCommand "echo hi" (pendingEcho.run world state).verdict := by
  have hplan : wrappedEcho.plan ⟨.live, .utf8, "Linux"⟩ = .run pendingEcho := by decide
  obtain ⟨_, hnames, _, hwrapping⟩ := verdicts_name_declared_line_iff hplan
  have hdifferent := mt (hwrapping ["no-such-wrapper-5c1d"] rfl).1 (by decide)
  exact ⟨hplan, mt hnames.1 hdifferent⟩

/-- If its wrapper does not start, the failure names the wrapper and not the declared line. -/
theorem wrapper_named_when_refused :
    wrappedEcho.line = "echo hi" ∧
      wrappedEcho.plan ⟨.live, .utf8, "Linux"⟩ = .run pendingEcho ∧
      (pendingEcho.run Pending.refusingWorld ()).verdict =
        .error (.spawn "no-such-wrapper-5c1d echo hi" .notFound) ∧
      ¬NamesCommand "echo hi" (pendingEcho.run Pending.refusingWorld ()).verdict := by
  have hverdict : (pendingEcho.run Pending.refusingWorld ()).verdict =
      .error (.spawn "no-such-wrapper-5c1d echo hi" .notFound) := by decide
  refine ⟨by decide, by decide, hverdict, ?_⟩
  rw [hverdict]
  rintro (_ | ⟨_, hcommand⟩)
  exact absurd hcommand (by decide)

end Runbook
