import Runbook.ChangeSet
import Runbook.Plan
import Runbook.Process.Execution
import Runbook.Trace

/-!
# Applying change sets

Change sets are applied one after the other. A command that is skipped or recorded starts nothing, a
command that runs has to succeed, and the first failure ends the application.
-/

namespace Runbook

/-- What applying does: the trace, the result, and the world afterwards. -/
structure Applied (σ : Type) where
  trace : Trace
  result : Except Failure Unit
  state : σ

namespace ChangeSet

/-- The line that records a command. -/
def recordLine (line : String) : String :=
  "-- " ++ line

/-- The event that confirms a command. -/
def confirmed (changeSet : ChangeSet) (message : String) : Event :=
  ⟨.info, .pipeline, message, [("changeset", changeSet.key)]⟩

/-- Runs the command of a change set. -/
def run {σ : Type} (world : World σ) (changeSet : ChangeSet) (pending : Pending) (state : σ) :
    Applied σ :=
  let ran := pending.run world state
  match ran.verdict with
  | .error failure => ⟨ran.trace, .error failure, ran.state⟩
  | .ok message => ⟨ran.trace ++ [.logged (changeSet.confirmed message)], .ok (), ran.state⟩

/-- Applies one change set. -/
def apply {σ : Type} (world : World σ) (context : Context) (changeSet : ChangeSet) (state : σ) :
    Applied σ :=
  match changeSet.command with
  | none =>
    let event : Event :=
      ⟨.debug, .pipeline, "no command to execute", [("changeset", changeSet.key)]⟩
    ⟨[.logged event], .ok (), state⟩
  | some command =>
    let planned := Trace.ofEvents (command.planEvents context)
    match command.plan context with
    | .skip =>
      let event : Event :=
        ⟨.debug, .pipeline, "command skipped",
          [("changeset", changeSet.key), ("command", command.display)]⟩
      ⟨planned ++ [.logged event], .ok (), state⟩
    | .record line => ⟨planned ++ [.printed (recordLine line)], .ok (), state⟩
    | .run pending =>
      let applied := run world changeSet pending state
      { applied with trace := planned ++ applied.trace }

/-- The context that a failure of a change set is reported in. -/
def failureContext (changeSet : ChangeSet) : String :=
  "changeset '" ++ changeSet.key ++ "'"

end ChangeSet

/-- How a sequence of change sets is applied: the trace, the first failure with the change set that
it belongs to, and the world afterwards. -/
structure AppliedAll (σ : Type) where
  trace : Trace
  failure : Option (ChangeSet × Failure)
  state : σ

/-- Applies change sets in order, up to the first failure. -/
def applyAll {σ : Type} (world : World σ) (context : Context) : List ChangeSet → σ → AppliedAll σ
  | [], state => ⟨[], none, state⟩
  | changeSet :: rest, state =>
    let applied := changeSet.apply world context state
    match applied.result with
    | .error failure => ⟨applied.trace, some (changeSet, failure), applied.state⟩
    | .ok () =>
      let following := applyAll world context rest applied.state
      { following with trace := applied.trace ++ following.trace }

end Runbook
