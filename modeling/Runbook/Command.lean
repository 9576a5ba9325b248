import Runbook.OsFilter
import Runbook.Policy
import Runbook.Timeout

/-!
# Declared commands

A command is an executable with its arguments, optionally limited to some operating systems and by a
timeout. Arguments stay separate tokens; the line that joins them with spaces is for people only.
Hooks can wrap the tokens that are handed to the operating system, and a policy judges the exit
code.
-/

namespace Runbook

/-- The executable followed by its arguments. -/
def commandLine (executable : String) (args : List String) : List String :=
  executable :: args

/-- Tokens joined by single spaces, for records and messages. -/
def joinTokens (tokens : List String) : String :=
  " ".intercalate tokens

/-- The extension points of a command: what is handed to the operating system, and what happens to
the count of clean-ups once the command has been recorded instead of run. -/
structure Hooks where
  finalCommand : String → List String → List String
  cleanup : Nat → Nat

namespace Hooks

/-- The command as declared, and nothing to clean up. -/
def standard : Hooks := ⟨commandLine, id⟩

/-- Tokens put in front of the command, and every clean-up counted. -/
def wrapping (tokens : List String) : Hooks :=
  ⟨fun executable args => tokens ++ commandLine executable args, (· + 1)⟩

end Hooks

/-- A declared command. -/
structure Command where
  executable : String
  args : List String := []
  os : Option (List String) := none
  timeout : Option String := none
  hooks : Hooks := .standard
  policy : Policy := .exitCode

namespace Command

/-- The command with further arguments at the end. -/
def addArgs (command : Command) (args : List String) : Command :=
  { command with args := command.args ++ args }

/-- The command with one more argument. -/
def addArg (command : Command) (arg : String) : Command :=
  command.addArgs [arg]

/-- The command limited to the operating systems of a comma-separated list. -/
def setOs (command : Command) (names : String) : Command :=
  { command with os := OsFilter.ofText names }

/-- The command with another timeout. -/
def setTimeout (command : Command) (timeout : Option String) : Command :=
  { command with timeout := timeout }

/-- The command judged by another policy. -/
def setPolicy (command : Command) (policy : Policy) : Command :=
  { command with policy := policy }

/-- The declared line, as records and messages show it. -/
def line (command : Command) : String :=
  joinTokens (commandLine command.executable command.args)

/-- The argument vector handed to the operating system. -/
def argv (command : Command) : List String :=
  command.hooks.finalCommand command.executable command.args

/-- The timeout with its spelling resolved. -/
def resolvedTimeout (command : Command) : Timeout :=
  Timeout.ofSpec command.timeout

/-- The message that confirms the command. -/
def confirmation (command : Command) : String :=
  Runbook.confirmation command.line

/-- The complaint about a timeout that is present, not empty and does not follow the grammar. -/
def timeoutProblems : Option String → List String
  | none => []
  | some spec => if spec.isEmpty then [] else (Timeout.check spec).toList

/-- What is wrong with the declaration. -/
def problems (command : Command) : List String :=
  (if Text.isBlankText command.executable then ["executable is required"] else []) ++
    timeoutProblems command.timeout

/-- The record form of a command. -/
def describe (command : Command) : String :=
  "ExecuteCommandChange \x7b executable: " ++ Text.quote command.executable ++ ", args: " ++
    Text.quoteList command.args ++ ", os: " ++ Text.quoteOption Text.quoteList command.os ++
    ", timeout: " ++ Text.quoteOption Text.quote command.timeout ++ ", .. \x7d"

/-- The short form of a command. -/
def display (command : Command) : String :=
  "external process '" ++ command.executable ++ "' " ++ Text.quoteList command.args

end Command

end Runbook
