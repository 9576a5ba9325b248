import Runbook.OsError
import Runbook.Text.Blank

/-!
# Failures

Everything that can stop a run, as causes with their data. `Failure.message` words a failure on its
own, and `Failure.chain` lists that message and the messages of the causes below it.
-/

namespace Runbook

/-- A work item that could not produce its checksum. -/
structure ItemFailure where
  item : String
  message : String
  deriving Repr, DecidableEq

/-- The line that reports an item. -/
def ItemFailure.display (failure : ItemFailure) : String :=
  failure.item ++ ": " ++ failure.message

/-- Why a text is not a changelog document. -/
inductive DocumentFault where
  /-- The text is not well formed. -/
  | malformed
  /-- A declared key holds a value of another type. -/
  | mistyped
  /-- A declared key holds a text that names nothing, and the sentence says so. -/
  | rejected (sentence : String)
  deriving Repr, DecidableEq

/-- The wording of a document fault. -/
def DocumentFault.message : DocumentFault → String
  | .malformed => "malformed document"
  | .mistyped => "value of another type than declared"
  | .rejected sentence => sentence

/-- Everything that can stop a run. -/
inductive Failure where
  | config (message : String)
  | validation (problems : List String)
  | spawn (command : String) (source : OsError)
  | timeout (command : String) (limit : String) (stderr : String)
  | nonZeroExit (command : String) (code : Int) (stderr : String)
  | execution (command : String) (message : String)
  | checksum (failures : List ItemFailure)
  | io (source : OsError)
  | document (fault : DocumentFault)
  | other (context : String) (cause : String)
  deriving Repr, DecidableEq

namespace Failure

/-- Captured error output at the end of a message: trimmed, and left out when blank. -/
def stderrSuffix (stderr : String) : String :=
  let text := Text.trim stderr
  if text.isEmpty then "" else ": " ++ text

/-- The wording of a failure. -/
def message : Failure → String
  | .config text => "Configuration error: " ++ text
  | .validation problems => "Validation failed: " ++ "; ".intercalate problems
  | .spawn command source => "failed to start '" ++ command ++ "': " ++ source.message
  | .timeout command limit stderr =>
    "process '" ++ command ++ "' timed out (" ++ limit ++ ")" ++ stderrSuffix stderr
  | .nonZeroExit command code stderr =>
    command ++ " returned exit code " ++ toString code ++ stderrSuffix stderr
  | .execution command text => "Error executing command '" ++ command ++ "': " ++ text
  | .checksum failures =>
    "checksum generation failed for " ++ toString failures.length ++ " item(s): " ++
      "; ".intercalate (failures.map ItemFailure.display)
  | .io source => "IO error: " ++ source.message
  | .document fault => "TOML parsing error: " ++ fault.message
  | .other context _ => context

/-- The messages of the causes below a failure. -/
def causes : Failure → List String
  | .spawn _ source => [source.message]
  | .io source => [source.message]
  | .document fault => [fault.message]
  | .other _ cause => [cause]
  | _ => []

/-- The message of a failure and the messages of its causes, outermost first. -/
def chain (failure : Failure) : List String :=
  failure.message :: failure.causes

end Failure

end Runbook
