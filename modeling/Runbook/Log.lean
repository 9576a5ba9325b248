/-!
# Log events

A run reports its progress as a list of events. Each carries a level, the part of the program that
it comes from, a message and named fields.
-/

namespace Runbook

/-- Levels, from the most to the least urgent. -/
inductive Level where
  | error
  | warn
  | info
  | debug
  | trace
  deriving Repr, DecidableEq

/-- The verbosity that a level needs to be shown. -/
def Level.verbosity : Level → Nat
  | .error => 1
  | .warn => 2
  | .info => 3
  | .debug => 4
  | .trace => 5

/-- The name of a level in log lines. -/
def Level.name : Level → String
  | .error => "ERROR"
  | .warn => "WARN"
  | .info => "INFO"
  | .debug => "DEBUG"
  | .trace => "TRACE"

/-- The parts of the program that report events. -/
inductive Origin where
  | pipeline
  | gate
  | process
  | drainer
  | batch
  | digest
  deriving Repr, DecidableEq

/-- The name under which log filters address a part of the program. -/
def Origin.target : Origin → String
  | .pipeline => "shellstep"
  | .gate => "shellstep::change::gate"
  | .process => "shellstep::exec::controller"
  | .drainer => "shellstep::exec::drain"
  | .batch => "shellstep::checksum::batch"
  | .digest => "shellstep::checksum::hash"

/-- One log event. -/
structure Event where
  level : Level
  origin : Origin
  message : String
  fields : List (String × String)
  deriving Repr, DecidableEq

end Runbook
