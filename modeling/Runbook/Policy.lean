import Runbook.Failure

/-!
# Judging a finished process

Running a process only tells what happened. A policy decides whether that counts as success: the
default accepts exit code 0 alone, and a tolerant policy accepts further codes.
-/

namespace Runbook

/-- Everything observed about a process that ran to completion. A process that a signal ended has
exit code -1. -/
structure Output where
  exitCode : Int
  stdout : String
  stderr : String
  deriving Repr, DecidableEq

/-- Whether the process itself reported success. -/
def Output.success (output : Output) : Bool :=
  output.exitCode == 0

/-- The message that confirms a command. -/
def confirmation (command : String) : String :=
  "Shell command '" ++ command ++ "' executed"

/-- How exit codes are judged. -/
inductive Policy where
  | exitCode
  | tolerate (codes : List Int)
  deriving Repr, DecidableEq

namespace Policy

/-- Whether an exit code counts as success. Zero always does. -/
def accepts : Policy → Int → Bool
  | .exitCode, code => code == 0
  | .tolerate codes, code => code == 0 || codes.contains code

/-- The verdict on a finished process: the confirmation, or the failure that names its code. -/
def evaluate (policy : Policy) (command : String) (output : Output) : Except Failure String :=
  if policy.accepts output.exitCode then
    .ok (confirmation command)
  else
    .error (.nonZeroExit command output.exitCode output.stderr)

end Policy

end Runbook
