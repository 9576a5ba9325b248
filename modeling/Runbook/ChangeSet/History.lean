import Runbook.ChangeSet

/-!
# Histories of change sets

The public parts of a change set can be edited, the files around it can change, and its checksum can
be asked for at any time. The stored checksum is the latest one that could be computed, and a
request that fails leaves everything as it was.
-/

namespace Runbook.ChangeSet

/-- A change of a public part of a change set. -/
inductive Edit where
  | id (text : String)
  | author (text : String)
  | comment (text : Option String)
  | files (paths : List String)
  | command (command : Option Command)

/-- The change set after an edit. -/
def edit (changeSet : ChangeSet) : Edit → ChangeSet
  | .id text => { changeSet with id := text }
  | .author text => { changeSet with author := text }
  | .comment text => { changeSet with comment := text }
  | .files paths => { changeSet with files := paths }
  | .command command => { changeSet with command := command }

/-- One thing that happens to a change set. -/
inductive Incident where
  | edited (edit : Edit)
  /-- The files have become others, as reading them shows. -/
  | filesChanged (read : String → FileReading)
  | checksumRequested

/-- A change set with the files around it and the answers to the requests for its checksum so far.
-/
structure History where
  changeSet : ChangeSet
  read : String → FileReading
  answers : List (Except FileFault String) := []

namespace History

/-- The history after one more incident. -/
def after (history : History) : Incident → History
  | .edited edit => { history with changeSet := history.changeSet.edit edit }
  | .filesChanged read => { history with read := read }
  | .checksumRequested =>
    match history.changeSet.generateChecksum history.read with
    | .ok changeSet =>
      { history with
        changeSet := changeSet
        answers := history.answers ++ [.ok (changeSet.checksum.getD "")] }
    | .error fault => { history with answers := history.answers ++ [.error fault] }

/-- The history after a sequence of incidents. -/
def afterAll (history : History) (incidents : List Incident) : History :=
  incidents.foldl after history

end History

end Runbook.ChangeSet
