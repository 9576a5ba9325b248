import Runbook.Apply
import Runbook.Proofs.Command.Plans

/-!
# Live application of change sets

In live mode the commands whose filters admit the operating system are due, in the order of their
change sets. They are attempted one after the other, each in the world that the one before has left,
and only as long as all verdicts are favourable. `Applied.InTurn` puts this together, and the main
theorem is `apply_all_in_turn`.
-/

namespace Runbook

/-- A command that a live run has to attempt, with the identity of its change set. -/
structure Due where
  key : String
  command : Command

/-- The command of a change set, if it has one and the filter admits the operating system. -/
def ChangeSet.due? (osName : String) (changeSet : ChangeSet) : Option Due :=
  changeSet.command.bind fun command =>
    if OsFilter.admits command.os osName then some ⟨changeSet.key, command⟩ else none

/-- The commands that are due, in the order of the change sets. -/
def dueCommands (osName : String) (changeSets : List ChangeSet) : List Due :=
  changeSets.filterMap (ChangeSet.due? osName)

section due

variable {σ : Type}

namespace Due

/-- The command as it is handed over for execution. -/
def pending (due : Due) (encoding : OutputEncoding) : Pending :=
  ⟨due.command.argv, due.command.line, due.command.resolvedTimeout, encoding, due.command.policy⟩

/-- The answer of the world to the attempt. -/
def launch (world : World σ) (due : Due) (state : σ) : Launch × σ :=
  world.launch state due.command.argv due.command.resolvedTimeout.deadline?

/-- The world after the attempt. -/
def after (world : World σ) (due : Due) (state : σ) : σ :=
  (due.launch world state).2

/-- The verdict on the attempt. -/
def verdict (world : World σ) (encoding : OutputEncoding) (due : Due) (state : σ) :
    Except Failure String :=
  ((due.pending encoding).conclude (due.launch world state).1).2

/-- The event that announces the attempt. -/
def announced (due : Due) : Event :=
  Execution.starting (joinTokens due.command.argv) due.command.resolvedTimeout

/-- The events after the attempt. -/
def eventsAfter (world : World σ) (encoding : OutputEncoding) (due : Due) (state : σ) :
    List Event :=
  (Execution.attempted encoding (joinTokens due.command.argv) due.command.resolvedTimeout
    (due.launch world state).1).events

/-- The event that confirms the command. -/
def confirmed (due : Due) (message : String) : Event :=
  ⟨.info, .pipeline, message, [("changeset", due.key)]⟩

end Due

/-- The verdicts on commands that are attempted one after the other, each in the world that the one
before has left. -/
def verdicts (world : World σ) (encoding : OutputEncoding) :
    List Due → σ → List (Except Failure String)
  | [], _ => []
  | due :: rest, state =>
    due.verdict world encoding state :: verdicts world encoding rest (due.after world state)

/-- The world after commands have been attempted one after the other. -/
def worldAfter (world : World σ) (dues : List Due) (state : σ) : σ :=
  dues.foldl (fun current due => due.after world current) state

/-- The verdict at a position is a failure, and all verdicts before it are favourable. -/
structure FirstFailure (found : List (Except Failure String)) (position : Nat) (failure : Failure) :
    Prop where
  here : found[position]? = some (.error failure)
  before : ∀ earlier < position, ∃ message : String, found[earlier]? = some (.ok message)

/-- Either all verdicts are favourable, or there is a first one that is not. -/
theorem favourable_or_first_failure (found : List (Except Failure String)) :
    (∀ verdict ∈ found, ∃ message, verdict = .ok message) ∨
      ∃ position failure, FirstFailure found position failure := by
  induction found with
  | nil => exact .inl (by simp)
  | cons verdict rest ih =>
      cases verdict with
      | error failure => exact .inr ⟨0, failure, rfl, by simp⟩
      | ok message =>
          rcases ih with hall | ⟨position, failure, hfirst⟩
          · exact .inl (List.forall_mem_cons.2 ⟨⟨message, rfl⟩, hall⟩)
          · refine .inr ⟨position + 1, failure, hfirst.here, fun earlier hearlier => ?_⟩
            cases earlier with
            | zero => exact ⟨message, rfl⟩
            | succ earlier => exact hfirst.before earlier (by omega)

end due

namespace ChangeSet

variable {σ : Type} (world : World σ) {context : Context} {changeSet : ChangeSet} (state : σ)

/-- A due command is the admitted command of its change set. -/
theorem command_of_due {osName : String} {due : Due} (hdue : changeSet.due? osName = some due) :
    changeSet.command = some due.command ∧ due.key = changeSet.key ∧
      OsFilter.admits due.command.os osName = true := by
  obtain ⟨command, hcommand, hadmitted⟩ := Option.bind_eq_some_iff.1 hdue
  split at hadmitted
  · rename_i hadmits
    cases hadmitted
    exact ⟨hcommand, rfl, hadmits⟩
  · cases hadmitted

/-- A change set without a due command attempts nothing and never fails. -/
theorem apply_of_not_due (hdue : changeSet.due? context.osName = none) :
    ∃ events : List Event,
      changeSet.apply world context state = ⟨Trace.ofEvents events, .ok (), state⟩ := by
  cases hcommand : changeSet.command with
  | none => exact ⟨[_], by rw [apply, hcommand]; rfl⟩
  | some command =>
      have hskipped : OsFilter.admits command.os context.osName = false := by
        simpa [due?, hcommand] using hdue
      refine ⟨command.planEvents context ++ [⟨.debug, .pipeline, "command skipped",
        [("changeset", changeSet.key), ("command", command.display)]⟩], ?_⟩
      simp [apply, hcommand, Command.plan_of_not_admitted hskipped, Trace.ofEvents]

/-- Running a due command announces it and attempts to start it. -/
theorem run_of_named {due : Due} {encoding : OutputEncoding} (hnamed : due.command.argv ≠ []) :
    (due.pending encoding).run world state =
      ⟨.logged due.announced :: .attempted due.command.argv ::
          Trace.ofEvents (due.eventsAfter world encoding state),
        due.verdict world encoding state, due.after world state⟩ :=
  Pending.run_of_named world state hnamed

/-- Running a due command with an unfavourable verdict. -/
theorem run_of_error {due : Due} {encoding : OutputEncoding} {failure : Failure}
    (hnamed : due.command.argv ≠ [])
    (hverdict : due.verdict world encoding state = .error failure) :
    ChangeSet.run world changeSet (due.pending encoding) state =
      ⟨.logged due.announced :: .attempted due.command.argv ::
          Trace.ofEvents (due.eventsAfter world encoding state),
        .error failure, due.after world state⟩ := by
  simp only [ChangeSet.run, run_of_named world state hnamed, hverdict]

/-- Running a due command with a favourable verdict. -/
theorem run_of_ok {due : Due} {encoding : OutputEncoding} {message : String}
    (hnamed : due.command.argv ≠ [])
    (hverdict : due.verdict world encoding state = .ok message)
    (hkey : due.key = changeSet.key) :
    ChangeSet.run world changeSet (due.pending encoding) state =
      ⟨.logged due.announced :: .attempted due.command.argv ::
          Trace.ofEvents (due.eventsAfter world encoding state ++ [due.confirmed message]),
        .ok (), due.after world state⟩ := by
  simp only [ChangeSet.run, run_of_named world state hnamed, hverdict]
  simp [Trace.ofEvents, Due.confirmed, confirmed, hkey]

/-- A due command is attempted, and confirmed if its verdict is favourable. -/
theorem apply_of_due (hlive : context.mode = .live) {due : Due}
    (hdue : changeSet.due? context.osName = some due) (hnamed : due.command.argv ≠ []) :
    due.key = changeSet.key ∧
      changeSet.apply world context state =
        match due.verdict world context.encoding state with
        | .error failure =>
          ⟨.logged due.announced :: .attempted due.command.argv ::
              Trace.ofEvents (due.eventsAfter world context.encoding state),
            .error failure, due.after world state⟩
        | .ok message =>
          ⟨.logged due.announced :: .attempted due.command.argv ::
              Trace.ofEvents
                (due.eventsAfter world context.encoding state ++ [due.confirmed message]),
            .ok (), due.after world state⟩ := by
  obtain ⟨hcommand, hkey, hadmits⟩ := command_of_due hdue
  refine ⟨hkey, ?_⟩
  have hplan : due.command.plan context = .run (due.pending context.encoding) :=
    Command.plan_of_live hadmits hlive
  have happly : changeSet.apply world context state =
      ChangeSet.run world changeSet (due.pending context.encoding) state := by
    simp [apply, hcommand, hplan, Command.planEvents_of_admitted hadmits, Trace.ofEvents]
  cases hverdict : due.verdict world context.encoding state with
  | error failure => rw [happly, run_of_error world state hnamed hverdict]
  | ok message => rw [happly, run_of_ok world state hnamed hverdict hkey]

end ChangeSet

section turns

variable {σ : Type} {world : World σ} {encoding : OutputEncoding} {dues : List Due} {due : Due}
  {state : σ}

/-- How due commands are attempted in turn. If all verdicts are favourable, all commands have been
attempted and nothing has failed. Otherwise the first failure ends the application, and no later
command has been attempted. Every attempt comes after the confirmations of all earlier ones. -/
structure AppliedAll.InTurn (world : World σ) (encoding : OutputEncoding) (dues : List Due)
    (state : σ) (applied : AppliedAll σ) : Prop where
  favourable : (∀ verdict ∈ verdicts world encoding dues state, ∃ message, verdict = .ok message) →
    applied.failure = none ∧
    applied.trace.attempts = (dues.map fun due => due.command.argv) ∧
    applied.state = worldAfter world dues state
  failed : ∀ position failure,
    FirstFailure (verdicts world encoding dues state) position failure →
      (∃ due changeSet, dues[position]? = some due ∧ changeSet.key = due.key ∧
        applied.failure = some (changeSet, failure)) ∧
      applied.trace.attempts = ((dues.take (position + 1)).map fun due => due.command.argv) ∧
      applied.state = worldAfter world (dues.take (position + 1)) state
  attempted : ∀ (before : Trace) (argv : List String) (after : Trace),
    applied.trace = before ++ .attempted argv :: after →
    (∃ due, dues[before.attempts.length]? = some due ∧ due.command.argv = argv) ∧
    ∀ earlier < before.attempts.length, ∃ due message, dues[earlier]? = some due ∧
      (verdicts world encoding dues state)[earlier]? = some (.ok message) ∧
      .logged (due.confirmed message) ∈ before
  silent : applied.trace.lines = []

/-- No due commands are attempted in turn by attempting nothing. -/
theorem in_turn_nil : AppliedAll.InTurn world encoding [] state ⟨[], none, state⟩ where
  favourable := fun _ => ⟨rfl, rfl, rfl⟩
  failed := by
    intro position failure hfirst
    simpa [verdicts] using hfirst.here
  attempted := by simp
  silent := rfl

/-- Events in front change nothing. -/
theorem AppliedAll.InTurn.after_events {applied : AppliedAll σ}
    (h : AppliedAll.InTurn world encoding dues state applied) (events : List Event) :
    AppliedAll.InTurn world encoding dues state
      { applied with trace := Trace.ofEvents events ++ applied.trace } where
  favourable := by simpa using h.favourable
  failed := by simpa using h.failed
  attempted := by
    intro before argv after hsplit
    obtain ⟨between, rfl, hrest⟩ := Trace.split_after_events hsplit (by simp)
    obtain ⟨hhere, hearlier⟩ := h.attempted between argv after hrest
    simp only [Trace.attempts_append, Trace.attempts_ofEvents, List.nil_append]
    refine ⟨hhere, fun earlier hlt => ?_⟩
    obtain ⟨due, message, hdue, hverdict, hmem⟩ := hearlier earlier hlt
    exact ⟨due, message, hdue, hverdict, List.mem_append_right _ hmem⟩
  silent := by simpa using h.silent

/-- An unfavourable verdict ends the application. -/
theorem in_turn_of_failure {failure : Failure} {changeSet : ChangeSet}
    (hverdict : due.verdict world encoding state = .error failure)
    (hkey : due.key = changeSet.key) (events : List Event) :
    AppliedAll.InTurn world encoding (due :: dues) state
      ⟨.attempted due.command.argv :: Trace.ofEvents events, some (changeSet, failure),
        due.after world state⟩ where
  favourable := by
    intro hall
    obtain ⟨message, hmessage⟩ := hall _ (by rw [verdicts]; exact List.mem_cons_self)
    rw [hverdict] at hmessage
    cases hmessage
  failed := by
    intro position other hfirst
    cases position with
    | zero =>
        have hhere := hfirst.here
        simp only [verdicts, hverdict, List.getElem?_cons_zero, Option.some.injEq,
          Except.error.injEq] at hhere
        subst hhere
        refine ⟨⟨due, changeSet, rfl, hkey.symm, rfl⟩, ?_, rfl⟩
        simp
    | succ position =>
        -- A later failure is not the first one.
        obtain ⟨message, hmessage⟩ := hfirst.before 0 (by omega)
        simp [verdicts, hverdict] at hmessage
  attempted := by
    intro before argv after hsplit
    cases before with
    | nil =>
        obtain ⟨hsame, _⟩ := List.cons.inj hsplit
        cases hsame
        exact ⟨⟨due, rfl, rfl⟩, by simp⟩
    | cons first before =>
        obtain ⟨_, hrest⟩ := List.cons.inj hsplit
        exact absurd hrest (Trace.not_split_events events (by simp))
  silent := by simp

/-- After a favourable verdict the remaining commands are attempted in turn. -/
theorem AppliedAll.InTurn.after_success {applied : AppliedAll σ} {message : String}
    (h : AppliedAll.InTurn world encoding dues (due.after world state) applied)
    (hverdict : due.verdict world encoding state = .ok message) (events : List Event) :
    AppliedAll.InTurn world encoding (due :: dues) state
      { applied with
        trace :=
          (.attempted due.command.argv :: Trace.ofEvents (events ++ [due.confirmed message])) ++
            applied.trace } where
  favourable := by
    intro hall
    obtain ⟨hnone, hattempts, hstate⟩ := h.favourable fun verdict hmem =>
      hall verdict (by rw [verdicts]; exact List.mem_cons_of_mem _ hmem)
    refine ⟨hnone, ?_, hstate⟩
    simp [hattempts]
  failed := by
    intro position failure hfirst
    cases position with
    | zero =>
        have hhere := hfirst.here
        simp [verdicts, hverdict] at hhere
    | succ position =>
        have hrest : FirstFailure (verdicts world encoding dues (due.after world state))
            position failure :=
          ⟨hfirst.here, fun earlier hlt => hfirst.before (earlier + 1) (by omega)⟩
        obtain ⟨hwhere, hattempts, hstate⟩ := h.failed position failure hrest
        refine ⟨hwhere, ?_, hstate⟩
        simp [hattempts]
  attempted := by
    intro before argv after hsplit
    cases before with
    | nil =>
        obtain ⟨hsame, _⟩ := List.cons.inj hsplit
        cases hsame
        exact ⟨⟨due, rfl, rfl⟩, by simp⟩
    | cons first before =>
        -- Any later attempt lies behind the confirmation of this one.
        obtain ⟨rfl, hrest⟩ := List.cons.inj hsplit
        obtain ⟨between, rfl, hafter⟩ := Trace.split_after_events hrest (by simp)
        obtain ⟨hhere, hearlier⟩ := h.attempted between argv after hafter
        simp only [Trace.attempts_attempted, Trace.attempts_append, Trace.attempts_ofEvents,
          List.nil_append, List.length_cons]
        refine ⟨hhere, fun earlier hlt => ?_⟩
        cases earlier with
        | zero =>
            refine ⟨due, message, rfl, by rw [verdicts, hverdict]; rfl, ?_⟩
            simp [Trace.ofEvents]
        | succ earlier =>
            obtain ⟨other, found, hother, hfound, hmem⟩ := hearlier earlier (by omega)
            refine ⟨other, found, hother, hfound, ?_⟩
            exact List.mem_cons_of_mem _ (List.mem_append_right _ hmem)
  silent := by simpa using h.silent

/-- A live application attempts the due commands in turn. -/
theorem apply_all_in_turn (world : World σ) {context : Context} (hlive : context.mode = .live)
    (changeSets : List ChangeSet)
    (hnamed : ∀ due ∈ dueCommands context.osName changeSets, due.command.argv ≠ []) (state : σ) :
    AppliedAll.InTurn world context.encoding (dueCommands context.osName changeSets) state
      (applyAll world context changeSets state) := by
  -- Every attempt changes the world, so the state has to be free in the induction.
  induction changeSets generalizing state with
  | nil => exact in_turn_nil
  | cons changeSet rest ih =>
      cases hdue : changeSet.due? context.osName with
      | none =>
          obtain ⟨events, happly⟩ := ChangeSet.apply_of_not_due world state hdue
          rw [dueCommands, List.filterMap_cons_none hdue] at hnamed ⊢
          rw [applyAll]
          simp only [happly]
          exact (ih hnamed state).after_events events
      | some due =>
          rw [dueCommands, List.filterMap_cons_some hdue] at hnamed ⊢
          rw [List.forall_mem_cons] at hnamed
          obtain ⟨hkey, happly⟩ := ChangeSet.apply_of_due world state hlive hdue hnamed.1
          rw [applyAll]
          cases hverdict : due.verdict world context.encoding state with
          | error failure =>
              simp only [happly, hverdict]
              exact (in_turn_of_failure hverdict hkey _).after_events [due.announced]
          | ok message =>
              simp only [happly, hverdict]
              have hrest := ih hnamed.2 (due.after world state)
              exact (hrest.after_success hverdict _).after_events [due.announced]

end turns

end Runbook
