import Runbook.Checksum.Blake3
import Runbook.OsError
import Runbook.Sink
import Runbook.Text.Hex
import Runbook.Text.Quoted

/-!
# Digests of files

A file is read in pieces until a read delivers nothing. The digest of a file depends on its content
alone, and a file that cannot be opened, or fails while it is read, has none.
-/

namespace Runbook

/-- The hexadecimal digest of everything in a sink. -/
def Sink.digest (sink : Sink) : String :=
  Text.hexOctets (Blake3.hash sink.octets)

/-- What the operating system answers when a file is opened and read: a refusal, or the pieces that
the reads deliver, with the error that the last read ends in unless it meets the end of the file. -/
inductive FileReading where
  | refused (fault : OsError)
  | opened (pieces : List (List UInt8)) (fault : Option OsError)
  deriving Repr, DecidableEq

/-- The content of a file, if all of it could be read. -/
def FileReading.content? : FileReading → Option (List UInt8)
  | .opened pieces none => some pieces.flatten
  | _ => none

/-- Why a file has no digest. -/
inductive FileFault where
  | opening (path : String) (fault : OsError)
  | reading (path : String) (fault : OsError)
  deriving Repr, DecidableEq

/-- The messages of a file fault, outermost first. -/
def FileFault.chain : FileFault → List String
  | .opening path fault => ["opening file for checksum: " ++ Text.quote path, fault.message]
  | .reading path fault => ["reading file for checksum: " ++ Text.quote path, fault.message]

/-- The digest of a file at a path, given what the operating system answers. -/
def fileDigest (path : String) : FileReading → Except FileFault String
  | .refused fault => .error (.opening path fault)
  | .opened _ (some fault) => .error (.reading path fault)
  | .opened pieces none => .ok (pieces.foldl Sink.push Sink.empty).digest

end Runbook
