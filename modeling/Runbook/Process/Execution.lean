import Runbook.Drainer.Schedule
import Runbook.Interleaving
import Runbook.Plan
import Runbook.Process.Child
import Runbook.Trace

/-!
# Executions

A process is started, both its output pipes are drained while it runs, and it is waited for up to
its deadline. The drainers are told to stop only when the wait is over, and nothing that they have
gathered is decoded or logged before both have handed it back. Up to then the drainers log their own
ends beside the supervisor, and the child tells who comes first.
-/

namespace Runbook

/-- An execution: the events, and what was observed unless it failed. -/
structure Execution where
  events : List Event
  result : Except Failure Output

/-- The deadline of a timeout. -/
def Timeout.deadline? (timeout : Timeout) : Option Nat :=
  if timeout.isUnbounded then none else some timeout.millis

/-- Only a positive number of milliseconds sets a deadline. -/
theorem Timeout.deadline?_eq_some {timeout : Timeout} {deadline : Nat} :
    timeout.deadline? = some deadline ↔ 0 < deadline ∧ timeout.millis = deadline := by
  unfold deadline? isUnbounded
  split
  · simp_all
    omega
  · simp_all
    omega

namespace Execution

/-- An event of the execution of a command. -/
def event (level : Level) (command message : String) (fields : List (String × String)) : Event :=
  ⟨level, .process, message, ("command", command) :: fields⟩

/-- The events that show captured texts: error output unless it is empty, and output always. -/
def outputEvents (command stdout stderr : String) : List Event :=
  (if stderr.isEmpty then [] else [event .error command stderr []]) ++
    [event .info command stdout []]

/-- The exit code that a wait yields, where a signal counts as -1, or why it yields none. -/
def exitCode : Ending → Except String Int
  | .exited code => .ok code
  | .signalled _ => .ok (-1)
  | .waitFailed message => .error message

/-- The failure of an execution without one of its pipes. -/
def missingPipe (command stream : String) : Failure :=
  .execution command (stream ++ " pipe was not captured")

/-- The event of an interrupted wait. -/
def interruption : Event :=
  ⟨.debug, .process, "process wait interrupted; retrying", []⟩

/-- Waits again as long as a wait is interrupted: the events, and how the process ended, if a wait
tells before the deadline. -/
def awaitExit : List WaitResult → List Event × Option Ending
  | [] => ([], none)
  | .interrupted :: rest =>
    let (events, ending?) := awaitExit rest
    (interruption :: events, ending?)
  | .ended ending :: _ => ([], some ending)

/-- Interruptions are reported, and they decide nothing. -/
theorem awaitExit_replicate (interruptions : Nat) (waits : List WaitResult) :
    awaitExit (List.replicate interruptions .interrupted ++ waits) =
      (List.replicate interruptions interruption ++ (awaitExit waits).1, (awaitExit waits).2) := by
  induction interruptions with
  | zero => rfl
  | succ interruptions ih => simp [List.replicate_succ, awaitExit, ih]

/-- What both drainers hand back. -/
structure Captured where
  stdout : Drainer.HandBack
  stderr : Drainer.HandBack

/-- Drains both pipes until the given time. -/
def capture (stdout stderr : List Arrival) (stopAt : Nat) : Captured :=
  ⟨Drainer.drain "stdout" stdout stopAt, Drainer.drain "stderr" stderr stopAt⟩

namespace Captured

/-- What is logged up to the point at which both drainers have come to their ends. The supervisor
logs the given events before it tells the drainers to stop. -/
def log (captured : Captured) (turns : Turns) (events : List Event) : List Event :=
  interleave turns.supervisor
    (interleave turns.unasked captured.stdout.unasked captured.stderr.unasked)
    (events ++ interleave turns.asked captured.stdout.asked captured.stderr.asked)

/-- How long both drainers still ran after the order to stop. -/
def took (captured : Captured) : Nat :=
  max captured.stdout.took captured.stderr.took

end Captured

/-- The end of an execution that reached its deadline, after what its wait has logged. -/
def overdue (encoding : OutputEncoding) (command : String) (timeout : Timeout) (child : Child)
    (waited : List Event) (captured : Captured) : Execution :=
  let out := encoding.decode captured.stdout.octets
  let err := encoding.decode captured.stderr.octets
  let killEvents :=
    event .warn command "process timed out; killing it" [("timeout", timeout.display)] ::
      child.killFault.toList.map fun fault =>
        event .warn command "failed to kill timed-out process" [("error", fault)]
  { events :=
      captured.log child.turns (waited ++ killEvents) ++ outputEvents command out err
    result := .error (.timeout command timeout.display err) }

/-- The end of an execution whose wait failed, after what its wait has logged. -/
def unwaited (command message : String) (child : Child) (waited : List Event)
    (captured : Captured) : Execution :=
  let killEvents := child.killFault.toList.map fun fault =>
    event .debug command "kill after failed wait" [("error", fault)]
  ⟨captured.log child.turns (waited ++ killEvents), .error (.execution command message)⟩

/-- The end of an execution whose process ended in time, after what its wait has logged. The time
that it has taken is measured when both drainers have come to their ends. -/
def ended (encoding : OutputEncoding) (command : String) (code : Int) (child : Child)
    (waited : List Event) (captured : Captured) : Execution :=
  let output : Output :=
    ⟨code, encoding.decode captured.stdout.octets, encoding.decode captured.stderr.octets⟩
  { events :=
      captured.log child.turns waited ++ outputEvents command output.stdout output.stderr ++
        [event .info command "external process exited"
          [("exit_code", toString code),
            ("elapsed_ms", toString (child.lifetime + captured.took))]]
    result := .ok output }

/-- The rest of an execution after the process was started. -/
def supervise (encoding : OutputEncoding) (command : String) (timeout : Timeout) (child : Child) :
    Execution :=
  match child.stdout, child.stderr with
  | none, _ => ⟨[], .error (missingPipe command "stdout")⟩
  | some _, none => ⟨[], .error (missingPipe command "stderr")⟩
  | some stdout, some stderr =>
    let (waited, ending?) := awaitExit (child.waits timeout.deadline?)
    match ending? with
    | none =>
      overdue encoding command timeout child waited (capture stdout stderr timeout.millis)
    | some ending =>
      let captured := capture stdout stderr child.lifetime
      match exitCode ending with
      | .error message => unwaited command message child waited captured
      | .ok code => ended encoding command code child waited captured

/-- The rest of an execution after the attempt to start the process. -/
def attempted (encoding : OutputEncoding) (command : String) (timeout : Timeout) :
    Launch → Execution
  | .refused fault => ⟨[], .error (.spawn command fault)⟩
  | .started child => supervise encoding command timeout child

/-- The event before the attempt to start a process. -/
def starting (command : String) (timeout : Timeout) : Event :=
  event .info command "starting external process" [("timeout", timeout.display)]

/-- The execution without a program to start. Nothing is started and nothing is logged. -/
def nameless (command : String) : Execution :=
  ⟨[], .error (.execution command "empty command line")⟩

end Execution

/-- The execution of an argument vector, given the answer to the attempt to start it. -/
def execute (encoding : OutputEncoding) (argv : List String) (timeout : Timeout) (launch : Launch) :
    Execution :=
  let command := joinTokens argv
  if argv.isEmpty then
    Execution.nameless command
  else
    let rest := Execution.attempted encoding command timeout launch
    ⟨Execution.starting command timeout :: rest.events, rest.result⟩

namespace Pending

/-- The verdict on an execution, and the events on the way. -/
def judge (pending : Pending) (execution : Execution) : List Event × Except Failure String :=
  (execution.events, execution.result.bind (pending.policy.evaluate pending.line))

/-- The verdict on a command that is ready to run, given the answer to the attempt to start it, and
the events on the way. -/
def conclude (pending : Pending) (launch : Launch) : List Event × Except Failure String :=
  pending.judge (execute pending.encoding pending.argv pending.timeout launch)

end Pending

/-- What running a command does: the trace, the verdict, and the world afterwards. -/
structure Ran (σ : Type) where
  trace : Trace
  verdict : Except Failure String
  state : σ

/-- Runs a command. -/
def Pending.run {σ : Type} (world : World σ) (pending : Pending) (state : σ) : Ran σ :=
  let command := joinTokens pending.argv
  if pending.argv.isEmpty then
    let (events, verdict) := pending.judge (Execution.nameless command)
    ⟨Trace.ofEvents events, verdict, state⟩
  else
    let (launch, after) := world.launch state pending.argv pending.timeout.deadline?
    let (events, verdict) :=
      pending.judge (Execution.attempted pending.encoding command pending.timeout launch)
    { trace :=
        .logged (Execution.starting command pending.timeout) :: .attempted pending.argv ::
          Trace.ofEvents events
      verdict := verdict
      state := after }

/-- Running a command that names a program announces it and attempts to start it. -/
theorem Pending.run_of_named {σ : Type} (world : World σ) {pending : Pending} (state : σ)
    (hnamed : pending.argv ≠ []) :
    let command := joinTokens pending.argv
    let launched := world.launch state pending.argv pending.timeout.deadline?
    pending.run world state =
      { trace :=
          .logged (Execution.starting command pending.timeout) :: .attempted pending.argv ::
            Trace.ofEvents
              (Execution.attempted pending.encoding command pending.timeout launched.1).events
        verdict := (pending.conclude launched.1).2
        state := launched.2 } := by
  have hsome : pending.argv.isEmpty = false := List.isEmpty_eq_false_iff.2 hnamed
  simp only [run, conclude, execute, hsome]
  rfl

end Runbook
