import Runbook.Changelog.ChangeSets
import Runbook.Problems

/-!
# Validation

A changelog is accepted when it declares at least one change set, every change set has an id and an
author, no two have both in common, and every command is well formed. All problems are found at
once, each with the change set that it belongs to.
-/

namespace Runbook

/-- How problems name the entry at a position, counted from zero. An entry without any identity is
named by its number. -/
def ChangeSetEntry.place (entry : ChangeSetEntry) (index : Nat) : String :=
  if entry.id.isEmpty && entry.author.isEmpty then
    "changeset #" ++ toString (index + 1)
  else
    "changeset '" ++ entry.id ++ "::" ++ entry.author ++ "'"

/-- Whether two entries have the same identity. -/
def ChangeSetEntry.sameIdentity (first second : ChangeSetEntry) : Bool :=
  first.id == second.id && first.author == second.author

/-- The problems of one entry, given the entries before it. -/
def ChangeSetEntry.problems (earlier : List ChangeSetEntry) (entry : ChangeSetEntry) :
    List String :=
  (if Text.isBlankText entry.id then ["id is required"] else []) ++
    (if Text.isBlankText entry.author then ["author is required"] else []) ++
      (if earlier.any entry.sameIdentity then ["duplicate changeset identifier"] else []) ++
        (entry.command.map fun command => command.toCommand.problems).getD []

namespace Changelog

/-- The problems of the entries that follow `earlier`, which is kept in reverse. -/
def problemsAfter (earlier : List ChangeSetEntry) : List ChangeSetEntry → List String
  | [] => []
  | entry :: rest =>
    (entry.problems earlier).map (Problems.located (entry.place earlier.length)) ++
      problemsAfter (entry :: earlier) rest

/-- All problems of a changelog. -/
def problems (changelog : Changelog) : Problems :=
  if changelog.entries.isEmpty then
    ⟨["changelog must contain at least one [[changeset]] entry"]⟩
  else
    ⟨problemsAfter [] changelog.entries⟩

/-- A changelog without problems. -/
structure Accepted where
  changelog : Changelog
  sound : changelog.problems.messages = []

/-- The accepted changelog, or the failure that lists all problems. -/
def accept (changelog : Changelog) : Except Failure Accepted :=
  if sound : changelog.problems.messages = [] then
    .ok ⟨changelog, sound⟩
  else
    .error (.validation changelog.problems.messages)

end Changelog

end Runbook
