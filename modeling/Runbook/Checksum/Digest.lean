import Runbook.Checksum.Entry
import Runbook.Checksum.FileDigest

/-!
# Incremental digests

A digest takes in labelled values and files one after the other and can be asked for its value at
any point. A file contributes the entry that holds its own digest, and a file without a digest
contributes nothing.
-/

namespace Runbook.Checksum

/-- The digest after one more entry. -/
def addEntry (sink : Sink) (entry : Entry) : Sink :=
  sink.push entry.octets

/-- The entry that a file contributes. -/
def fileEntry (digest : String) : Entry :=
  ⟨"file", digest⟩

/-- The digest after one more file. -/
def addFile (sink : Sink) (path : String) (reading : FileReading) : Except FileFault Sink :=
  (fileDigest path reading).map fun digest => addEntry sink (fileEntry digest)

/-- One thing that a digest takes in. -/
inductive Contribution where
  | entry (entry : Entry)
  | file (path : String)
  deriving Repr, DecidableEq

/-- The digest after one more contribution, which only a file can fail to make. -/
def contribute (read : String → FileReading) (sink : Sink) :
    Contribution → Except FileFault Sink
  | .entry entry => .ok (addEntry sink entry)
  | .file path => addFile sink path (read path)

/-- The digest after a sequence of contributions, where those that fail leave no trace. -/
def contributeAll (read : String → FileReading) (sink : Sink)
    (contributions : List Contribution) : Sink :=
  contributions.foldl
    (fun sink contribution => (contribute read sink contribution).toOption.getD sink) sink

/-- The digest of a sequence of entries. -/
def ofEntries (entries : List Entry) : String :=
  (entries.foldl addEntry Sink.empty).digest

/-- The octets taken in are the framed entries. -/
theorem octets_foldl_addEntry (entries : List Entry) (sink : Sink) :
    (entries.foldl addEntry sink).octets = sink.octets ++ transcript entries := by
  induction entries generalizing sink with
  | nil => simp [transcript]
  | cons entry rest ih => simp [ih, addEntry, transcript]

end Runbook.Checksum
