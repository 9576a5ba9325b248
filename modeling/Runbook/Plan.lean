import Runbook.Command
import Runbook.Encoding
import Runbook.Log
import Runbook.Mode

/-!
# Planning a command

Before anything runs it is decided what to do with a command. A filter that does not admit the
operating system comes first and skips the command, then log-only mode records its line, and
otherwise the command is to be run.
-/

namespace Runbook

/-- The conventional name of an operating system, given its name as a compilation target. -/
def osNameOf : String → String
  | "linux" => "Linux"
  | "macos" => "Mac OS X"
  | "windows" => "Windows"
  | "freebsd" => "FreeBSD"
  | "openbsd" => "OpenBSD"
  | "netbsd" => "NetBSD"
  | "solaris" => "SunOS"
  | target => target

/-- The name of the operating system that commands run on. -/
def currentOsName : String := osNameOf "linux"

/-- What planning knows about the surrounding run. -/
structure Context where
  mode : ExecutionMode
  encoding : OutputEncoding
  osName : String := currentOsName
  deriving Repr, DecidableEq

/-- What to do with a command. -/
inductive Decision where
  | skip
  | record
  | execute
  deriving Repr, DecidableEq

/-- The decision on a command with the given filter. -/
def decide (filter : Option (List String)) (osName : String) (mode : ExecutionMode) : Decision :=
  if OsFilter.admits filter osName then
    match mode with
    | .logOnly => .record
    | .live => .execute
  else
    .skip

/-- The event that reports a command skipped by its filter. -/
def skipEvents (filter : Option (List String)) (osName : String) : List Event :=
  if OsFilter.admits filter osName then
    []
  else
    [⟨.info, .gate, "Not executing on os " ++ osName ++ " when " ++
      Text.quoteList (filter.getD []) ++ " was specified", []⟩]

/-- A command that is ready to run: the argument vector, the declared line that the verdict names,
and how the process is watched and judged. -/
structure Pending where
  argv : List String
  line : String
  timeout : Timeout
  encoding : OutputEncoding
  policy : Policy
  deriving Repr, DecidableEq

/-- The record form of a command that is ready to run. -/
def Pending.describe (pending : Pending) : String :=
  "PendingCommand \x7b argv: " ++ Text.quoteList pending.argv ++ ", timeout: " ++
    pending.timeout.describe ++ ", controller: ProcessController \x7b encoding: " ++
    pending.encoding.label ++ " \x7d, .. \x7d"

/-- What the pipeline does with a command. -/
inductive Plan where
  | skip
  | record (line : String)
  | run (pending : Pending)
  deriving Repr, DecidableEq

/-- The record form of a plan. -/
def Plan.describe : Plan → String
  | .skip => "Skip"
  | .record line => "Record(" ++ Text.quote line ++ ")"
  | .run pending => "Run(" ++ pending.describe ++ ")"

namespace Command

/-- What to do with the command in a context. -/
def plan (command : Command) (context : Context) : Plan :=
  match decide command.os context.osName context.mode with
  | .skip => .skip
  | .record => .record command.line
  | .execute =>
    .run ⟨command.argv, command.line, command.resolvedTimeout, context.encoding, command.policy⟩

/-- The events that planning reports. -/
def planEvents (command : Command) (context : Context) : List Event :=
  skipEvents command.os context.osName

/-- The count of clean-ups after planning: the hook runs exactly when the command is recorded. -/
def planCleanups (command : Command) (context : Context) (count : Nat) : Nat :=
  match decide command.os context.osName context.mode with
  | .record => command.hooks.cleanup count
  | _ => count

end Command

end Runbook
