import Runbook.Failure
import Runbook.Log
import Runbook.Text.Quoted

/-!
# Batches of checksum work

A batch computes the checksum of many items on a bounded pool of workers. Every item is attempted,
and only then are all failures reported together: those of the items in their order, followed by one
report for each worker that was lost. A batch without failures yields its items in their order.
-/

namespace Runbook.Checksum

/-- What a panicking computation leaves behind. -/
inductive PanicPayload where
  | text (message : String)
  | unreadable
  deriving Repr, DecidableEq

/-- The wording of a panic. -/
def PanicPayload.message : PanicPayload → String
  | .text message => message
  | .unreadable => "unknown panic"

/-- How the computation of one item ends. -/
inductive Outcome where
  | computed
  /-- The messages of the error, outermost first. -/
  | failed (chain : List String)
  | panicked (payload : PanicPayload)
  /-- The item was computed, and then its worker was lost with it. -/
  | lost (message : String)
  deriving Repr, DecidableEq

/-- The report on a lost worker. The number of the worker's task says nothing about the work and is
written `<N>`. -/
def lostMessage (message : String) : String :=
  "task <N> panicked with message " ++ Text.quote message

namespace Outcome

/-- The failure that names the item, given its label from before the computation. -/
def itemFailure? (label : String) : Outcome → Option ItemFailure
  | .failed chain => some ⟨label, ": ".intercalate chain⟩
  | .panicked payload => some ⟨label, "panicked: " ++ payload.message⟩
  | _ => none

/-- The failure that a lost worker leaves. It cannot name the item. -/
def workerFailure? : Outcome → Option ItemFailure
  | .lost message => some ⟨"<unknown>", lostMessage message⟩
  | _ => none

end Outcome

/-- A finished computation: how it ended, and the item as it was left. -/
structure Completion (α : Type) where
  outcome : Outcome
  item : α
  events : List Event := []

/-- A kind of checksum work. -/
structure Work (α : Type) where
  label : α → String
  compute : α → Completion α

/-- An item that was attempted: its label from before, and how the computation ended. -/
structure Attempted (α : Type) where
  label : String
  completion : Completion α

/-- One attempt at an item. -/
def Work.attempt {α : Type} (work : Work α) (item : α) : Attempted α :=
  ⟨work.label item, work.compute item⟩

namespace Attempted

variable {α : Type}

/-- The failures of a batch: those that name an item, in the order of the items, and then the lost
workers. -/
def failures (attempts : List (Attempted α)) : List ItemFailure :=
  (attempts.filterMap fun attempt => attempt.completion.outcome.itemFailure? attempt.label) ++
    attempts.filterMap fun attempt => attempt.completion.outcome.workerFailure?

/-- The items of a batch as their computations left them, or the failures. -/
def results (attempts : List (Attempted α)) : Except (List ItemFailure) (List α) :=
  let failed := failures attempts
  if failed.isEmpty then
    .ok (attempts.map fun attempt => attempt.completion.item)
  else
    .error failed

/-- The event that reports how the computation of an item ended. -/
def event (attempt : Attempted α) : Event :=
  match attempt.completion.outcome with
  | .computed => ⟨.debug, .batch, "checksum computed", [("item", attempt.label)]⟩
  | .failed chain =>
    ⟨.warn, .batch, "checksum computation failed",
      [("item", attempt.label), ("error", chain.headD "")]⟩
  | .panicked payload =>
    ⟨.warn, .batch, "checksum computation failed",
      [("item", attempt.label), ("error", "panicked: " ++ payload.message)]⟩
  | .lost message =>
    ⟨.warn, .batch, "checksum worker did not complete", [("error", lostMessage message)]⟩

end Attempted

/-- The number of workers that a requested number stands for. -/
def effectiveWorkers (requested : Nat) : Nat :=
  max requested 1

/-- A pool counts its workers in 61 bits and cannot be set up for more. -/
def workerLimit : Nat :=
  2305843009213693951

/-- A batch run: the events, and the result unless the pool could not be set up. -/
structure BatchRun (α : Type) where
  events : List Event
  result : Option (Except (List ItemFailure) (List α))

/-- Runs a batch on a pool of the given size. -/
def generate {α : Type} (work : Work α) (workers : Nat) (items : List α) : BatchRun α :=
  let count := toString items.length
  let started : Event :=
    ⟨.info, .batch, "generating checksums", [("items", count), ("workers", toString workers)]⟩
  if workerLimit < workers then
    ⟨[started], none⟩
  else
    let attempts := items.map work.attempt
    let steps := attempts.flatMap fun attempt => attempt.completion.events ++ [attempt.event]
    match Attempted.results attempts with
    | .ok finished =>
      ⟨started :: steps ++ [⟨.info, .batch, "all checksums generated", [("items", count)]⟩],
        some (.ok finished)⟩
    | .error failures => ⟨started :: steps, some (.error failures)⟩

end Runbook.Checksum
