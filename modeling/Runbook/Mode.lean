import Runbook.Text.Blank
import Runbook.Text.Case

/-!
# Execution modes

A changelog is either applied for real or only written down: in log-only mode the command lines are
printed for review and no process is started.
-/

namespace Runbook

/-- Whether commands are run or only described. -/
inductive ExecutionMode where
  | live
  | logOnly
  deriving Repr, DecidableEq

namespace ExecutionMode

/-- The identifier of a mode in record forms and log fields. -/
def label : ExecutionMode → String
  | .live => "Live"
  | .logOnly => "LogOnly"

/-- The mode that a name stands for, or what is wrong with the name. Outer white space and case do
not count, and the complaint shows the name as it was compared. -/
def parse (name : String) : Except String ExecutionMode :=
  match Text.lower (Text.trim name) with
  | "live" => .ok .live
  | "log-only" | "log_only" => .ok .logOnly
  | other =>
    .error ("invalid execution_mode: " ++ other ++ " (expected \"live\" or \"log-only\")")

end ExecutionMode

end Runbook
