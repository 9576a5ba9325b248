import Runbook.Checksum.Batch
import Runbook.Checksum.Digest
import Runbook.Command
import Runbook.Log

/-!
# Change sets

A change set has an identity, files that it depends on and at most one command. Its checksum covers
the identity, what the command line says, and the content of the files; the comment, the paths and a
checksum from before have no part in it.
-/

namespace Runbook

/-- A change set. -/
structure ChangeSet where
  id : String
  author : String
  comment : Option String := none
  files : List String := []
  command : Option Command := none
  checksum : Option String := none

namespace ChangeSet

/-- The identity of a change set in logs and messages. -/
def key (changeSet : ChangeSet) : String :=
  changeSet.id ++ "::" ++ changeSet.author

/-- The entries that a command contributes to the checksum. -/
def commandEntries (command : Command) : List Checksum.Entry :=
  ⟨"command", command.line⟩ ::
    ((command.os.map fun names => ⟨"os", ",".intercalate names⟩).toList ++
      (command.timeout.map fun spec => ⟨"timeout", Text.trim spec⟩).toList)

/-- The entries that need no file. -/
def declaredEntries (changeSet : ChangeSet) : List Checksum.Entry :=
  ⟨"id", changeSet.id⟩ :: ⟨"author", changeSet.author⟩ ::
    (changeSet.command.map commandEntries).getD []

/-- The digests of files in order, up to the first one that has none. -/
def hashFiles (read : String → FileReading) :
    List String → List (String × String) × Option FileFault
  | [] => ([], none)
  | path :: rest =>
    match fileDigest path (read path) with
    | .error fault => ([], some fault)
    | .ok digest =>
      let (hashed, fault) := hashFiles read rest
      ((path, digest) :: hashed, fault)

/-- What the entries of a checksum turn out to be, and the events on the way. -/
structure Entries where
  result : Except FileFault (List Checksum.Entry)
  events : List Event

/-- The event that reports a hashed file. -/
def hashedEvent (path digest : String) : Event :=
  ⟨.debug, .digest, "hashed external file", [("path", Text.quote path), ("hash", digest)]⟩

/-- All entries of the checksum, or the first file that has no digest. -/
def entries (changeSet : ChangeSet) (read : String → FileReading) : Entries :=
  let (hashed, fault) := hashFiles read changeSet.files
  { result :=
      match fault with
      | some fault => .error fault
      | none =>
        .ok (changeSet.declaredEntries ++ hashed.map fun file => Checksum.fileEntry file.2)
    events := hashed.map fun file => hashedEvent file.1 file.2 }

/-- The change set with its checksum computed and stored. -/
def generateChecksum (changeSet : ChangeSet) (read : String → FileReading) :
    Except FileFault ChangeSet :=
  (changeSet.entries read).result.map fun entries =>
    { changeSet with checksum := some (Checksum.ofEntries entries) }

/-- The checksum work on change sets. -/
def checksumWork (read : String → FileReading) : Checksum.Work ChangeSet where
  label := key
  compute changeSet :=
    let gathered := changeSet.entries read
    match gathered.result with
    | .error fault => ⟨.failed fault.chain, changeSet, gathered.events⟩
    | .ok entries =>
      ⟨.computed, { changeSet with checksum := some (Checksum.ofEntries entries) }, gathered.events⟩

end ChangeSet

end Runbook
