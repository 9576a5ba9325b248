import Runbook.Cli.Invocation
import Runbook.Machine.Computer

/-!
# The program

The program works on a computer of its own: the changelog and the files that it declares are copied
in, the run takes place there, and the files that commands wrote are copied out.
-/

namespace Runbook

/-- The line that shows a log event. -/
def Event.line (event : Event) : String :=
  let fields := event.fields.map fun field => " " ++ field.1 ++ "=" ++ field.2
  event.level.name ++ " " ++ event.origin.target ++ ": " ++ event.message ++ String.join fields

namespace Program

open Machine (Computer)

/-- The computer with a copy of the file at a path, if it can be read. -/
def copyIn (computer : Computer) (path : String) : IO Computer := do
  try
    let content ← IO.FS.readBinFile path
    return computer.writeFile path content.toList
  catch _ =>
    return computer

/-- The files that the changelog at a path declares. -/
def declaredFiles (computer : Computer) (path : String) : List String :=
  match Changelog.load Computer.world computer path with
  | .error _ => []
  | .ok accepted =>
    (accepted.changelog.changeSets (rootDirectory Computer.world computer path)).flatMap
      ChangeSet.files

/-- The computer with copies of everything that the arguments lead to. -/
def copyAll (computer : Computer) (arguments : List String) : IO Computer := do
  match Arguments.parse arguments with
  | .ok (.run arguments) =>
    let computer ← copyIn computer arguments.options.changelog
    (declaredFiles computer arguments.options.changelog).foldlM copyIn computer
  | _ => return computer

/-- The computer that stands for the current directory. -/
def setUp (arguments : List String) : IO Computer := do
  let directory := (← IO.currentDir).toString
  let names := ((Text.splitAt '/' directory.toList).map String.ofList).filter (!·.isEmpty)
  copyAll (Computer.fresh names) arguments

/-- Shows what an invocation came to. -/
def conclude (before : Computer) (invocation : Invocation Computer) : IO Unit := do
  for complaint in invocation.filterComplaint.toList do
    IO.eprintln complaint
  for event in invocation.shownEvents do
    IO.eprintln event.line
  IO.print invocation.output
  for (path, content) in (invocation.stateAfter before).changedFiles before do
    IO.FS.writeBinFile path ⟨content.toArray⟩
  for report in invocation.usageComplaint.toList ++ invocation.report.toList do
    IO.eprint report

end Program

end Runbook

open Runbook in
/-- Runs the program. -/
def main (arguments : List String) : IO UInt32 := do
  let computer ← Program.setUp arguments
  let call : Call := { arguments := arguments, filter := ← IO.getEnv "SHELLSTEP_LOG" }
  let invocation := Invocation.ofCall Machine.Computer.world call computer
  Program.conclude computer invocation
  return invocation.exitCode.toUInt32
