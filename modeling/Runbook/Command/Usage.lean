import Runbook.Plan

/-!
# Commands in use

A command can be changed and planned again and again. The plans depend on what the command has
become by then, planning leaves the command alone, and the clean-ups of all plans are counted
together.
-/

namespace Runbook.Command

/-- One thing that is done with a command. -/
inductive Use where
  | addArgs (args : List String)
  | setOs (names : String)
  | setTimeout (timeout : Option String)
  | setPolicy (policy : Policy)
  | plan (context : Context)
  deriving Repr, DecidableEq

/-- A command in use: what it has become, the plans made so far, and the count of clean-ups. -/
structure Usage where
  command : Command
  plans : List Plan := []
  cleanups : Nat := 0

namespace Usage

/-- The command after one more use. -/
def after (usage : Usage) : Use → Usage
  | .addArgs args => { usage with command := usage.command.addArgs args }
  | .setOs names => { usage with command := usage.command.setOs names }
  | .setTimeout timeout => { usage with command := usage.command.setTimeout timeout }
  | .setPolicy policy => { usage with command := usage.command.setPolicy policy }
  | .plan context =>
    { usage with
      plans := usage.plans ++ [usage.command.plan context]
      cleanups := usage.command.planCleanups context usage.cleanups }

/-- The command after a sequence of uses. -/
def afterAll (usage : Usage) (uses : List Use) : Usage :=
  uses.foldl after usage

end Usage

end Runbook.Command
