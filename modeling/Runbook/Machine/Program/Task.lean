import Runbook.Machine.Course
import Runbook.Machine.Program.Quoted

/-!
# Tasks

What a program of a machine does: it has a name, arguments and variables, it gathers output and
writes it in large pieces, it complains under its name, and it ends with a status.
-/

namespace Runbook.Machine

/-- What a task has to remember. -/
structure TaskState where
  name : String
  environment : Environment
  /-- Pieces of the output that have not been written yet, latest first, and their length. -/
  output : List String := []
  outputSize : Nat := 0
  /-- The status with which the task is going to end unless it fails. -/
  status : Nat := 0
  /-- The status of a failure. -/
  failure : Nat := 1
  /-- What is told about the arguments in front of the way to get help. -/
  synopsis : String := ""

/-- What a program does. It can be left early with a status. -/
abbrev Task := Acting TaskState Nat

namespace Task

/-- How much output is gathered before it is written. -/
def outputLimit : Nat := 4096

/-- Ends the task with a status at once. -/
def leave {α : Type} (status : Nat) : Task α :=
  throw status

/-- Complains on the descriptor for errors and does nothing else. -/
def complain (message : String) : Task Unit := do
  let _ ← Acting.send 2 ((← get).name ++ ": " ++ message ++ "\n")
  return ()

/-- Writes the output that has been gathered. -/
def flush : Task Unit := do
  let state ← get
  if 0 < state.outputSize then
    set { state with output := [], outputSize := 0 }
    if let .error fault ← Acting.send 1 (String.join state.output.reverse) then
      complain ("write error: " ++ fault.wording)
      leave state.failure

/-- Adds to the output. -/
def write (text : String) : Task Unit := do
  modify fun state =>
    { state with output := text :: state.output, outputSize := state.outputSize + text.length }
  if outputLimit ≤ (← get).outputSize then
    flush

/-- Adds a line to the output. -/
def writeLine (text : String) : Task Unit :=
  write (text ++ "\n")

/-- Complains behind the output so far. -/
def warn (message : String) : Task Unit := do
  flush
  complain message

/-- Complains, and has the task end with the status of a failure later on. -/
def err (message : String) : Task Unit := do
  warn message
  modify fun state => { state with status := state.failure }

/-- Has the task end with a status later on. -/
def setStatus (status : Nat) : Task Unit :=
  modify fun state => { state with status := status }

/-- Complains and ends the task. -/
def fail {α : Type} (message : String) : Task α := do
  warn message
  leave (← get).failure

/-- Complains about a file. -/
def errFile (path : String) (fault : OsError) : Task Unit :=
  err (Quoted.file path ++ ": " ++ fault.wording)

/-- Tells how to get help. -/
def suggestHelp : Task Unit := do
  let state ← get
  let _ ← Acting.send 2
    (state.synopsis ++ "Try '" ++ state.name ++ " --help' for more information.\n")
  return ()

/-- Complains about the arguments and ends the task. -/
def failUsage {α : Type} (message : String) : Task α := do
  warn message
  suggestHelp
  leave (← get).failure

/-- The course of a task. -/
def course (task : Task Unit) (argv : List String) (environment : Environment) : Course :=
  let whole : Task Unit := do
    task
    flush
  let state : TaskState := { name := argv.headD "", environment := environment }
  let conclude (status : Nat) (state : TaskState) : Course :=
    (flush : Task Unit) state (fun status _ => .ended status) fun _ _ => .ended status
  whole state conclude fun _ state => .ended state.status

/-! ## Reading -/

/-- Opens a file for reading. A single hyphen stands for what is open already. -/
def openInput (path : String) : Task (Except OsError Nat) := do
  if path == "-" then return .ok 0 else Acting.openPath path { reads := true }

/-- Closes a file that was opened for reading. -/
def closeInput (number : Nat) : Task Unit := do
  if number ≠ 0 then
    Acting.close number

/-- Reads everything from a file. -/
def readFile (path : String) : Task (Except OsError String) := do
  match ← openInput path with
  | .error fault => return .error fault
  | .ok number =>
    let text ← Acting.receiveAll number
    closeInput number
    return text

/-- Hands the pieces of an open file to an act, one after the other, as long as it asks for more. -/
def eachPiece {α : Type} (number : Nat) (first : α) (act : α → String → Task (α × Bool)) :
    Task (Except OsError α) :=
  Acting.iterate
    (fun (value : α) => do
      match ← Acting.receive number Acting.readLimit none with
      | .error fault => return .inr (.error fault)
      | .ok piece =>
        if piece.isEmpty then
          return .inr (.ok value)
        else
          let (value, goesOn) ← act value piece
          return if goesOn then .inl value else .inr (.ok value))
    (.ok first) Acting.endless first

/-- The lines of a text without their ends, and the part behind the last end. -/
def splitLines (mark : Char) (text : List Char) : List (List Char) × List Char :=
  let parts := Text.splitAt mark text
  (parts.dropLast, parts.getLastD [])

/-- Hands the lines of an open file to an act, one after the other, as long as it asks for more. The
act is told whether the line has an end. -/
def eachLine {α : Type} (number : Nat) (mark : Char) (first : α)
    (act : α → List Char → Bool → Task (α × Bool)) : Task (Except OsError α) := do
  let rec go (value : α) : List (List Char) → Task (α × Bool)
    | [] => return (value, true)
    | line :: rest => do
      let (value, goesOn) ← act value line true
      if goesOn then go value rest else return (value, false)
  let read ← eachPiece number ((first, [], true) : α × List Char × Bool)
    fun (value, before, _) piece => do
      let (lines, rest) := splitLines mark (before ++ piece.toList)
      let (value, goesOn) ← go value lines
      return ((value, rest, goesOn), goesOn)
  match read with
  | .error fault => return .error fault
  | .ok (value, rest, goesOn) =>
    if goesOn && !rest.isEmpty then
      let (value, _) ← act value rest false
      return .ok value
    else
      return .ok value

end Task

end Runbook.Machine
