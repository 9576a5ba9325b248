import Runbook.Checksum.FileDigest
import Runbook.Drainer.Source

/-!
# Child processes and the world

What a run cannot decide by itself is decided by the world: what files contain, whether a process
starts, what it writes and when, and how it ends. A world is a state with answers, and starting a
process may change the state.
-/

namespace Runbook

/-- How the wait for a process ends. -/
inductive Ending where
  | exited (code : Nat)
  | signalled (signal : Nat)
  | waitFailed (message : String)
  deriving Repr, DecidableEq

/-- Who comes to log next, where the supervisor of a process and its drainers log beside each other.
A turn that is `true` goes to the one that is named first. -/
structure Turns where
  /-- Between both drainers, standard output first, for what they report without the order to stop.
  -/
  unasked : List Bool := []
  /-- Between both drainers, standard output first, for what they report after the order to stop. -/
  asked : List Bool := []
  /-- Between what the drainers report without the order to stop and everything else. -/
  supervisor : List Bool := []
  deriving Repr, DecidableEq

/-- The course of a process that was started. -/
structure Child where
  /-- How many waits are interrupted before one ends. -/
  interruptions : Nat := 0
  /-- When the process ends by itself, in milliseconds after its start. -/
  lifetime : Nat
  ending : Ending
  /-- Why the process cannot be killed, if it cannot. -/
  killFault : Option String := none
  stdout : Option (List Arrival)
  stderr : Option (List Arrival)
  turns : Turns := {}
  deriving Repr, DecidableEq

/-- The answer to an attempt to start a process. -/
inductive Launch where
  | refused (fault : OsError)
  | started (child : Child)
  deriving Repr, DecidableEq

/-- What one wait for a process yields. -/
inductive WaitResult where
  | interrupted
  | ended (ending : Ending)
  deriving Repr, DecidableEq

/-- Whether a process ends before its deadline, if it has one. -/
def Child.endsBefore (child : Child) (deadline? : Option Nat) : Bool :=
  deadline?.all fun deadline => child.lifetime < deadline

/-- What the waits for a process yield, one after the other. A process that lives to see its
deadline is still running when the last of them is given up. -/
def Child.waits (child : Child) (deadline? : Option Nat) : List WaitResult :=
  List.replicate child.interruptions .interrupted ++
    if child.endsBefore deadline? then [.ended child.ending] else []

/-- A world with states of type `σ`. -/
structure World (σ : Type) where
  /-- What opening and reading the file at a path yields. -/
  read : σ → String → FileReading
  /-- The directory that relative paths start from. -/
  directory : σ → String
  /-- The number of hardware threads. -/
  parallelism : σ → Nat
  /-- Starts a process with an argument vector. The deadline is the number of milliseconds after
  which the process is going to be killed. -/
  launch : σ → List String → Option Nat → Launch × σ

end Runbook
