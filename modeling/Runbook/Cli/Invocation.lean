import Runbook.Cli.Arguments
import Runbook.Cli.LogFilter
import Runbook.Cli.Report

/-!
# Invocations

An invocation is one call of the program: arguments and a log filter go in, and an exit code,
printed lines, shown log events and an error report come out.
-/

namespace Runbook

/-- A call of the program. -/
structure Call where
  arguments : List String
  /-- The log filter of the environment. -/
  filter : Option String := none
  deriving Repr, DecidableEq

/-- The log filter of a call. -/
structure ChosenFilter where
  filter : LogFilter
  /-- Why the filter of the environment is ignored, if it is. -/
  ignored : Option String := none
  deriving Repr, DecidableEq

namespace ChosenFilter

/-- The filter where nothing else is asked for. -/
def standard : LogFilter := .upTo .info

/-- The filter that the environment asks for. -/
def ofEnvironment (text : String) : Except FilterFault ChosenFilter :=
  let filter := Text.trim text
  if filter.isEmpty then
    .ok { filter := standard }
  else
    match LogFilter.parse filter with
    | .ok filter => .ok { filter := filter }
    | .error .malformed =>
      .ok { filter := standard
            ignored := some ("ignoring invalid SHELLSTEP_LOG=" ++ Text.quote filter) }
    | .error .cutCharacter => .error .cutCharacter

/-- The filter of a call: a level among the arguments goes before the environment. -/
def choose (level : Option Level) (environment : Option String) : Except FilterFault ChosenFilter :=
  match level, environment with
  | some level, _ => .ok { filter := .upTo level }
  | none, some text => ofEnvironment text
  | none, none => .ok { filter := standard }

end ChosenFilter

/-- What an invocation comes to. -/
inductive Invocation (σ : Type) where
  | misused (fault : UsageFault)
  | help
  | version
  /-- The log filter could not even be refused, and the program breaks down. -/
  | brokenDown
  | ran (chosen : ChosenFilter) (result : RunResult σ)

namespace Invocation

variable {σ : Type}

/-- A call of the program in a world. -/
def ofCall (world : World σ) (call : Call) (state : σ) : Invocation σ :=
  match Arguments.parse call.arguments with
  | .error fault => .misused fault
  | .ok .help => .help
  | .ok .version => .version
  | .ok (.run arguments) =>
    match ChosenFilter.choose arguments.level call.filter with
    | .error _ => .brokenDown
    | .ok chosen => .ran chosen (run world arguments.options state)

/-- The name and the version of the program. -/
def versionLine : String := "shellstep 0.1.0"

/-- How the program is called. -/
def usage : String :=
  "Usage: shellstep [--changelog <PATH>] [--log-only] [--checksums] [--workers <N>] " ++
    "[--log-level <LEVEL>]"

/-- The exit code. -/
def exitCode : Invocation σ → Nat
  | .misused _ => 2
  | .help => 0
  | .version => 0
  | .brokenDown => 101
  | .ran _ result =>
    match result.ending with
    | .finished => 0
    | .failed _ => 1
    | .aborted => 101

/-- Everything printed. -/
def output : Invocation σ → String
  | .help => usage ++ "\n"
  | .version => versionLine ++ "\n"
  | .ran _ result => result.trace.output
  | _ => ""

/-- The report at the end of a failed run. -/
def report : Invocation σ → Option String
  | .ran _ result =>
    match result.ending with
    | .failed fault => some ("shellstep error: " ++ Report.text fault.chain ++ "\n")
    | _ => none
  | _ => none

/-- The complaint about refused arguments. -/
def usageComplaint : Invocation σ → Option String
  | .misused fault => some ("error: " ++ fault.message ++ "\n\n" ++ usage ++ "\n")
  | _ => none

/-- The log events that the filter shows. -/
def shownEvents : Invocation σ → List Event
  | .ran chosen result => result.trace.events.filter chosen.filter.shows
  | _ => []

/-- The complaint about a log filter that is ignored. -/
def filterComplaint : Invocation σ → Option String
  | .ran chosen _ => chosen.ignored
  | _ => none

/-- The world after the invocation. -/
def stateAfter (state : σ) : Invocation σ → σ
  | .ran _ result => result.state
  | _ => state

end Invocation

end Runbook
