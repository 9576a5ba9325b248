import Runbook.Checksum.Batch

/-!
# The pool of workers

A batch is worked on by a pool with a fixed number of permits. Items are submitted one by one, each
with a permit, and a task keeps its permit until its computation has ended, in whatever way. Only
after the last submission are the tasks joined, in whatever order they come to their end. `Step`
lists what can happen next, so that its runs are all the interleavings of the submission, the tasks
and the joining. What would be wrong, a permit asked for too late or a position without a label or a
slot, is a phase of its own in which the pool stays.
-/

namespace Runbook.Checksum

/-- How far the work on a batch has come. -/
inductive Phase where
  /-- Between two items. -/
  | between
  /-- The label of the next item has been noted, and a permit is waited for. -/
  | waiting
  /-- A permit is held for the next item. -/
  | granted
  /-- Everything has been submitted, no more permits are given out, and tasks are joined. -/
  | joining
  /-- A permit was asked for after the permits had been closed, which is an error. -/
  | refused
  /-- A position had no label or no slot, and the batch broke down. -/
  | broken
  deriving Repr, DecidableEq

/-- A task of the pool. -/
inductive Task (α : Type) where
  /-- Submitted with a permit. -/
  | ready (item : α)
  /-- Inside the computation, with the permit. -/
  | computing (item : α)
  /-- The computation has ended, and the permit is still held. -/
  | ended (completion : Completion α)
  /-- Over, and the permit given back. -/
  | released (completion : Completion α)
  | joined (completion : Completion α)

namespace Task

variable {α : Type}

/-- Whether a task holds a permit. -/
def holdsPermit : Task α → Bool
  | .ready _ | .computing _ | .ended _ => true
  | .released _ | .joined _ => false

/-- Whether a task is inside the computation. -/
def isComputing : Task α → Bool
  | .computing _ => true
  | _ => false

/-- Whether a task has been joined. -/
def isJoined : Task α → Bool
  | .joined _ => true
  | _ => false

end Task

/-- A failure with the position of its item, if a lost worker has not taken that along. -/
structure PlacedFailure where
  place : Option Nat
  failure : ItemFailure
  deriving Repr, DecidableEq

/-- Whether a failure may be reported in front of another one: by the positions, and without a
position last. -/
def PlacedFailure.notAfter (first second : PlacedFailure) : Bool :=
  match first.place, second.place with
  | _, none => true
  | none, some _ => false
  | some i, some j => i ≤ j

/-- A pool at work. -/
structure Pool (α : Type) where
  /-- The number of items. -/
  total : Nat
  /-- The items that have not been submitted yet. -/
  queue : List α
  phase : Phase := .between
  /-- The free permits. -/
  permits : Nat
  /-- Whether permits are no longer given out. -/
  closed : Bool := false
  /-- The tasks in the order of submission. -/
  tasks : List (Task α) := []
  /-- The labels in the order of submission. -/
  labels : List String := []
  /-- The items that have come back, each at its position. -/
  slots : List (Option α) := []
  /-- The failures in the order of joining. -/
  failures : List PlacedFailure := []
  /-- The positions of the items whose computation was begun. -/
  begun : List Nat := []

namespace Pool

variable {α : Type}

/-- A pool before its first step. -/
def start (workers : Nat) (items : List α) : Pool α :=
  { total := items.length, queue := items, permits := effectiveWorkers workers }

/-- The pool after a task has been joined. A lost worker has taken the position along, and any other
item goes back to its slot, with its failure noted under its label. -/
def join (pool : Pool α) (index : Nat) (completion : Completion α) : Pool α :=
  let tasks := pool.tasks.set index (.joined completion)
  match completion.outcome.workerFailure? with
  | some failure => { pool with tasks := tasks, failures := pool.failures ++ [⟨none, failure⟩] }
  | none =>
    match pool.labels[index]?, pool.slots[index]? with
    | some label, some _ =>
      { pool with
        tasks := tasks
        slots := pool.slots.set index (some completion.item)
        failures := pool.failures ++
          (completion.outcome.itemFailure? label).toList.map (PlacedFailure.mk (some index)) }
    | _, _ => { pool with phase := .broken }

/-- What can happen next in a pool. -/
inductive Step (work : Work α) : Pool α → Pool α → Prop
  /-- The label of the next item is noted. -/
  | note (pool : Pool α) (item : α) (rest : List α) (hqueue : pool.queue = item :: rest)
      (hphase : pool.phase = .between) :
      Step work pool { pool with phase := .waiting, labels := pool.labels ++ [work.label item] }
  /-- A permit is taken for the next item. -/
  | acquire (pool : Pool α) (permits : Nat) (hpermits : pool.permits = permits + 1)
      (hopen : pool.closed = false) (hphase : pool.phase = .waiting) :
      Step work pool { pool with phase := .granted, permits := permits }
  /-- A permit is asked for, but permits are no longer given out. -/
  | refuse (pool : Pool α) (hclosed : pool.closed = true) (hphase : pool.phase = .waiting) :
      Step work pool { pool with phase := .refused }
  /-- The next item is submitted with its permit. -/
  | submit (pool : Pool α) (item : α) (rest : List α) (hqueue : pool.queue = item :: rest)
      (hphase : pool.phase = .granted) :
      Step work pool
        { pool with queue := rest, phase := .between, tasks := pool.tasks ++ [.ready item] }
  /-- The submission comes to its end. -/
  | close (pool : Pool α) (hqueue : pool.queue = []) (hphase : pool.phase = .between) :
      Step work pool
        { pool with
          phase := .joining
          closed := true
          slots := List.replicate pool.total none }
  /-- A task begins to compute. -/
  | begin (pool : Pool α) (index : Nat) (item : α)
      (htask : pool.tasks[index]? = some (.ready item)) :
      Step work pool
        { pool with
          tasks := pool.tasks.set index (.computing item)
          begun := pool.begun ++ [index] }
  /-- The computation of a task comes to its end, in whatever way. -/
  | finish (pool : Pool α) (index : Nat) (item : α)
      (htask : pool.tasks[index]? = some (.computing item)) :
      Step work pool { pool with tasks := pool.tasks.set index (.ended (work.compute item)) }
  /-- A task gives its permit back and is over. -/
  | release (pool : Pool α) (index : Nat) (completion : Completion α)
      (htask : pool.tasks[index]? = some (.ended completion)) :
      Step work pool
        { pool with
          tasks := pool.tasks.set index (.released completion)
          permits := pool.permits + 1 }
  /-- A task that is over is joined. -/
  | join (pool : Pool α) (index : Nat) (completion : Completion α)
      (htask : pool.tasks[index]? = some (.released completion)) (hphase : pool.phase = .joining) :
      Step work pool (pool.join index completion)

/-- The states that a pool can get into, if it can be set up at all. -/
inductive Reached (work : Work α) (workers : Nat) (items : List α) : Pool α → Prop
  | start (hlimit : effectiveWorkers workers ≤ workerLimit) :
      Reached work workers items (Pool.start workers items)
  | step {pool next : Pool α} (h : Reached work workers items pool) (hstep : Step work pool next) :
      Reached work workers items next

/-- Whether every task has been joined. -/
def isDone (pool : Pool α) : Bool :=
  pool.phase == .joining && pool.tasks.all Task.isJoined

/-- The result of a pool whose tasks have all been joined. -/
def result (pool : Pool α) : Except (List ItemFailure) (List α) :=
  if pool.failures.isEmpty then
    .ok (pool.slots.filterMap id)
  else
    .error ((pool.failures.mergeSort PlacedFailure.notAfter).map PlacedFailure.failure)

end Pool

end Runbook.Checksum
