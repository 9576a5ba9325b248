import Runbook.Failure

/-!
# Collected problems

Validation does not stop at the first problem. Everything that is found is collected in order, so
that a changelog can be mended in one pass.
-/

namespace Runbook

/-- The problems found so far, in order. -/
structure Problems where
  messages : List String := []
  deriving Repr, DecidableEq

namespace Problems

/-- The collection with one more problem. -/
def add (problems : Problems) (message : String) : Problems :=
  ⟨problems.messages ++ [message]⟩

/-- A problem with the place where it was found. -/
def located (place message : String) : String :=
  place ++ ": " ++ message

/-- The collection with the problems of another one, which were found in the given place. -/
def extend (problems : Problems) (place : String) (found : Problems) : Problems :=
  ⟨problems.messages ++ found.messages.map (located place)⟩

/-- All problems in one line. -/
def display (problems : Problems) : String :=
  "; ".intercalate problems.messages

/-- Nothing, or the failure that lists the problems. -/
def result (problems : Problems) : Except Failure Unit :=
  if problems.messages.isEmpty then .ok () else .error (.validation problems.messages)

end Problems

end Runbook
