import Runbook.Process.Supervision

/-!
# The supervisor at work

A supervisor waits for its process, has it killed if the wait does not tell how it ended, tells both
drainers to stop, takes what they hand back, and only then decodes it, logs it and returns. `Step`
lists what can be done at each point of this program, while the process and the drainers go on
beside it, so that the runs of a supervisor are all their interleavings.
-/

namespace Runbook

/-- What both drainers have handed back so far. -/
structure Taken where
  stdout : Option (List UInt8) := none
  stderr : Option (List UInt8) := none
  deriving Repr, DecidableEq

namespace Taken

/-- What the drainer of a stream has handed back. -/
def of (taken : Taken) : Stream → Option (List UInt8)
  | .stdout => taken.stdout
  | .stderr => taken.stderr

/-- What has been handed back, with the octets of one more stream. -/
def add (taken : Taken) (stream : Stream) (octets : List UInt8) : Taken :=
  match stream with
  | .stdout => { taken with stdout := some octets }
  | .stderr => { taken with stderr := some octets }

end Taken

/-- Nothing happens between two states of a process that only its supervisor can do: the wait goes
on, no drainer is told to stop, and nothing is decoded. -/
structure Supervision.Apart (before after : Supervision) : Prop where
  wait : after.wait = before.wait
  texts : after.texts = before.texts
  orders : ∀ stream,
    (after.channel stream).loop.stopSent = (before.channel stream).loop.stopSent

/-- The program point of a supervisor together with its live variables. At `waiting` it waits for
the process, at `killing` it has the process killed, and at `joining` it waits for both drainers.
The texts have been made at `decoded` and logged at `shown`, and `returned` is the end. -/
inductive Watch.Point where
  | waiting
  | killing
  | joining
  | decoded (out err : String)
  | shown (out err : String)
  | returned (result : Except Failure Output)

/-- A supervisor at work: the process with its drainers, the point of the program, what has been
handed back, and what the supervisor has logged. -/
structure Watch where
  process : Supervision
  point : Watch.Point := .waiting
  taken : Taken := {}
  events : List Event

namespace Watch

/-- A supervisor of a process that is going to write the given octets, right after its start. -/
def start (pending : Pending) (out err : List UInt8) : Watch where
  process := .start out err
  events := [Execution.starting (joinTokens pending.argv) pending.timeout]

/-- The supervisor after it has logged one more event. -/
def log (watch : Watch) (event : Event) : Watch :=
  { watch with events := watch.events ++ [event] }

/-- The supervisor with another channel of its process. -/
def setChannel (watch : Watch) (stream : Stream) (channel : Channel) : Watch :=
  { watch with process := watch.process.setChannel stream channel }

/-- The supervisor after its wait has come out. -/
def conclude (watch : Watch) (wait : Wait) (point : Point) : Watch :=
  { watch with process := { watch.process with wait := wait }, point := point }

/-- The event of a deadline that has passed. -/
def expiry (pending : Pending) : Event :=
  Execution.event .warn (joinTokens pending.argv) "process timed out; killing it"
    [("timeout", pending.timeout.display)]

/-- The event of a process that could not be killed. -/
def killFault (pending : Pending) (wait : Wait) (fault : String) : Event :=
  match wait with
  | .overdue =>
    Execution.event .warn (joinTokens pending.argv) "failed to kill timed-out process"
      [("error", fault)]
  | _ =>
    Execution.event .debug (joinTokens pending.argv) "kill after failed wait" [("error", fault)]

/-- What can happen next to a supervisor and around it. -/
inductive Step (pending : Pending) (capacity : Nat) : Watch → Watch → Prop
  /-- The process, a drainer or the operating system goes on. -/
  | around (watch : Watch) (next : Supervision)
      (hstep : Supervision.Step capacity pending.encoding watch.process next)
      (hapart : watch.process.Apart next) :
      Step pending capacity watch { watch with process := next }
  /-- A wait is interrupted and begins again. -/
  | interrupted (watch : Watch) (hpoint : watch.point = .waiting) :
      Step pending capacity watch (watch.log Execution.interruption)
  /-- The wait yields an exit code. -/
  | exit (watch : Watch) (ending : Ending) (code : Int) (hpoint : watch.point = .waiting)
      (hended : watch.process.ended = some ending) (hcode : Execution.exitCode ending = .ok code) :
      Step pending capacity watch (watch.conclude (.resolved ending) .joining)
  /-- The wait fails. -/
  | fail (watch : Watch) (message : String) (hpoint : watch.point = .waiting) :
      Step pending capacity watch (watch.conclude (.resolved (.waitFailed message)) .killing)
  /-- The deadline passes, if there is one. -/
  | expire (watch : Watch) (hpoint : watch.point = .waiting)
      (hlimited : pending.timeout.isUnbounded = false) :
      Step pending capacity watch ((watch.conclude .overdue .killing).log (expiry pending))
  /-- The process has ended after the attempt to kill it. -/
  | killed (watch : Watch) (hpoint : watch.point = .killing)
      (hended : watch.process.ended ≠ none) :
      Step pending capacity watch { watch with point := .joining }
  /-- The process cannot be killed. -/
  | unkilled (watch : Watch) (fault : String) (hpoint : watch.point = .killing) :
      Step pending capacity watch
        { watch.log (killFault pending watch.process.wait fault) with point := .joining }
  /-- A drainer is told to stop. -/
  | order (watch : Watch) (stream : Stream) (hpoint : watch.point = .joining)
      (hunsent : (watch.process.channel stream).loop.stopSent = false) :
      Step pending capacity watch
        (watch.setChannel stream
          { watch.process.channel stream with loop := (watch.process.channel stream).loop.send })
  /-- A drainer that has been told to stop and has come to its end hands back what it gathered. -/
  | take (watch : Watch) (stream : Stream) (closing : Drainer.Closing)
      (hpoint : watch.point = .joining) (hnew : watch.taken.of stream = none)
      (hsent : (watch.process.channel stream).loop.stopSent = true)
      (hclosed : (watch.process.channel stream).loop.point = .closed closing) :
      Step pending capacity watch
        { watch with
          taken :=
            watch.taken.add stream (watch.process.channel stream).loop.drainer.sink.octets }
  /-- Both drainers have handed back, and what they gathered is decoded. -/
  | decode (watch : Watch) (out err : List UInt8) (hpoint : watch.point = .joining)
      (htaken : watch.taken = ⟨some out, some err⟩)
      (hfailed : ∀ message, watch.process.wait ≠ .resolved (.waitFailed message)) :
      Step pending capacity watch
        { watch with
          process :=
            { watch.process with
              texts := some (pending.encoding.decode out, pending.encoding.decode err) }
          point := .decoded (pending.encoding.decode out) (pending.encoding.decode err) }
  /-- Both drainers have handed back after a wait that failed, and it is all thrown away. -/
  | abandon (watch : Watch) (out err : List UInt8) (message : String)
      (hpoint : watch.point = .joining) (htaken : watch.taken = ⟨some out, some err⟩)
      (hfailed : watch.process.wait = .resolved (.waitFailed message)) :
      Step pending capacity watch
        { watch with
          point := .returned (.error (.execution (joinTokens pending.argv) message)) }
  /-- The texts are logged. -/
  | display (watch : Watch) (out err : String) (hpoint : watch.point = .decoded out err) :
      Step pending capacity watch
        { watch with
          point := .shown out err
          events :=
            watch.events ++ Execution.outputEvents (joinTokens pending.argv) out err }
  /-- The output of a process that ended in time is returned. -/
  | finish (watch : Watch) (out err : String) (ending : Ending) (code : Int) (elapsed : Nat)
      (hpoint : watch.point = .shown out err) (hwait : watch.process.wait = .resolved ending)
      (hcode : Execution.exitCode ending = .ok code) :
      Step pending capacity watch
        { watch.log
            (Execution.event .info (joinTokens pending.argv) "external process exited"
              [("exit_code", toString code), ("elapsed_ms", toString elapsed)]) with
          point := .returned (.ok ⟨code, out, err⟩) }
  /-- The failure of a process that saw its deadline is returned. -/
  | giveUp (watch : Watch) (out err : String) (hpoint : watch.point = .shown out err)
      (hwait : watch.process.wait = .overdue) :
      Step pending capacity watch
        { watch with
          point :=
            .returned
              (.error (.timeout (joinTokens pending.argv) pending.timeout.display err)) }

/-- The states that the supervisor of a process which is going to write the given octets can get
into, together with everything around it. -/
inductive Reached (pending : Pending) (capacity : Nat) (out err : List UInt8) : Watch → Prop
  | start : Reached pending capacity out err (Watch.start pending out err)
  | step {watch next : Watch} (h : Reached pending capacity out err watch)
      (hstep : Step pending capacity watch next) : Reached pending capacity out err next

/-- Steps after which there is as much to do as before: an idle one around the supervisor, or an
interrupted wait. -/
inductive Idle : Watch → Watch → Prop
  | around (watch : Watch) (next : Supervision) (hidle : watch.process.Idle next) :
      Idle watch { watch with process := next }
  | interrupted (watch : Watch) : Idle watch (watch.log Execution.interruption)

end Watch

end Runbook
