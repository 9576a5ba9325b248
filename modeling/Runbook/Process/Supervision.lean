import Runbook.Drainer.Loop
import Runbook.Process.Execution

/-!
# Supervised processes

A process writes to two pipes of limited capacity, two drainers read from them, and a supervisor
waits for the process. `Step` lists what each of them can do next, so that its runs are all their
interleavings. The supervisor tells the drainers to stop when the wait is over, and it decodes what
they gathered when both have come to their end.
-/

namespace Runbook

/-- The two output streams of a process. -/
inductive Stream where
  | stdout
  | stderr
  deriving Repr, DecidableEq

/-- The label of a stream in log events. -/
def Stream.label : Stream → String
  | .stdout => "stdout"
  | .stderr => "stderr"

/-- The way of a stream: what the process has not written yet, what is in the pipe, and the drainer
at the other end. -/
structure Channel where
  unwritten : List UInt8
  pipe : List UInt8 := []
  /-- Whether the process has closed its end of the pipe before its own end. -/
  closed : Bool := false
  loop : Drainer.Loop
  deriving Repr, DecidableEq

namespace Channel

/-- The channel of a process that is going to write the given octets. -/
def start (stream : Stream) (octets : List UInt8) : Channel :=
  { unwritten := octets, loop := .start stream.label }

/-- The channel after so many octets have been written. -/
def write (channel : Channel) (count : Nat) : Channel :=
  { channel with
    unwritten := channel.unwritten.drop count
    pipe := channel.pipe ++ channel.unwritten.take count }

/-- The channel after the drainer has read so many octets. -/
def read (channel : Channel) (count : Nat) : Channel :=
  { channel with
    pipe := channel.pipe.drop count
    loop := channel.loop.receive (.data (channel.pipe.take count)) }

/-- The channel after a read that took nothing out of the pipe. -/
def receive (channel : Channel) (result : ReadResult) : Channel :=
  { channel with loop := channel.loop.receive result }

end Channel

/-- What is known about the wait for a process. -/
inductive Wait where
  | pending
  | resolved (ending : Ending)
  /-- The deadline has passed. -/
  | overdue
  deriving Repr, DecidableEq

/-- Whether a wait may still tell, or has told, how the process ended. -/
def Wait.isCalm : Wait → Bool
  | .resolved (.waitFailed _) => false
  | .overdue => false
  | _ => true

/-- Whether a drainer is at work or has ended with the end of the file. -/
def Drainer.Point.isCalm : Drainer.Point → Bool
  | .closed closing => closing == .endOfFile
  | _ => true

/-- A process with its supervisor. -/
structure Supervision where
  stdout : Channel
  stderr : Channel
  /-- How the process ended, if it has. Its ends of the pipes are closed then. -/
  ended : Option Ending := none
  wait : Wait := .pending
  /-- The decoded texts of both streams, once they are known. -/
  texts : Option (String × String) := none
  deriving Repr, DecidableEq

namespace Supervision

/-- A process that is going to write the given octets, before its first step. -/
def start (out err : List UInt8) : Supervision :=
  { stdout := .start .stdout out, stderr := .start .stderr err }

/-- The channel of a stream. -/
def channel (supervision : Supervision) : Stream → Channel
  | .stdout => supervision.stdout
  | .stderr => supervision.stderr

/-- The process with another channel of a stream. -/
def setChannel (supervision : Supervision) (stream : Stream) (channel : Channel) : Supervision :=
  match stream with
  | .stdout => { supervision with stdout := channel }
  | .stderr => { supervision with stderr := channel }

/-- What can happen next to a supervised process. -/
inductive Step (capacity : Nat) (encoding : OutputEncoding) : Supervision → Supervision → Prop
  /-- The process writes octets for which the pipe has room. -/
  | write (supervision : Supervision) (stream : Stream) (count : Nat)
      (hrunning : supervision.ended = none)
      (hsome : 0 < count ∧ count ≤ (supervision.channel stream).unwritten.length)
      (hroom : (supervision.channel stream).pipe.length + count ≤ capacity) :
      Step capacity encoding supervision
        (supervision.setChannel stream ((supervision.channel stream).write count))
  /-- The process ends by itself after it has written everything. -/
  | finish (supervision : Supervision) (ending : Ending) (hrunning : supervision.ended = none)
      (hout : supervision.stdout.unwritten = []) (herr : supervision.stderr.unwritten = []) :
      Step capacity encoding supervision { supervision with ended := some ending }
  /-- The process closes its end of a pipe early, after it has written everything. -/
  | close (supervision : Supervision) (stream : Stream) (hrunning : supervision.ended = none)
      (hopen : (supervision.channel stream).closed = false)
      (hwritten : (supervision.channel stream).unwritten = []) :
      Step capacity encoding supervision
        (supervision.setChannel stream { supervision.channel stream with closed := true })
  /-- A drainer reads octets from its pipe. -/
  | read (supervision : Supervision) (stream : Stream) (since count : Nat)
      (hpoint : (supervision.channel stream).loop.point = .awaiting since)
      (hsome : 0 < count ∧ count ≤ (supervision.channel stream).pipe.length)
      (hsize : count ≤ readSize) :
      Step capacity encoding supervision
        (supervision.setChannel stream ((supervision.channel stream).read count))
  /-- A read is interrupted or fails. -/
  | disturb (supervision : Supervision) (stream : Stream) (since : Nat) (result : ReadResult)
      (hpoint : (supervision.channel stream).loop.point = .awaiting since)
      (hresult : result = .interrupted ∨ ∃ message, result = .failed message) :
      Step capacity encoding supervision
        (supervision.setChannel stream ((supervision.channel stream).receive result))
  /-- A drainer meets the end of the file: the pipe is empty, and nobody writes to it any more. -/
  | endOfFile (supervision : Supervision) (stream : Stream) (since : Nat)
      (hpoint : (supervision.channel stream).loop.point = .awaiting since)
      (hempty : (supervision.channel stream).pipe = [])
      (hended : supervision.ended ≠ none ∨ (supervision.channel stream).closed = true) :
      Step capacity encoding supervision
        (supervision.setChannel stream ((supervision.channel stream).receive .endOfFile))
  /-- A drainer goes on by itself. -/
  | drain (supervision : Supervision) (stream : Stream) (next : Drainer.Loop)
      (hstep : Drainer.Loop.Step (supervision.channel stream).loop next) :
      Step capacity encoding supervision
        (supervision.setChannel stream { supervision.channel stream with loop := next })
  /-- The wait yields how the process ended. -/
  | resolve (supervision : Supervision) (ending : Ending) (hwait : supervision.wait = .pending)
      (hended : supervision.ended = some ending) :
      Step capacity encoding supervision { supervision with wait := .resolved ending }
  /-- The wait fails. -/
  | fail (supervision : Supervision) (message : String) (hwait : supervision.wait = .pending) :
      Step capacity encoding supervision
        { supervision with wait := .resolved (.waitFailed message) }
  /-- The deadline passes. -/
  | expire (supervision : Supervision) (hwait : supervision.wait = .pending) :
      Step capacity encoding supervision { supervision with wait := .overdue }
  /-- The process is killed after a wait that did not tell how it ended. -/
  | kill (supervision : Supervision) (ending : Ending) (hrunning : supervision.ended = none)
      (hwait : supervision.wait ≠ .pending) :
      Step capacity encoding supervision { supervision with ended := some ending }
  /-- A drainer is told to stop once the wait is over. -/
  | stop (supervision : Supervision) (stream : Stream) (hwait : supervision.wait ≠ .pending)
      (hunsent : (supervision.channel stream).loop.stopSent = false) :
      Step capacity encoding supervision
        (supervision.setChannel stream
          { supervision.channel stream with loop := (supervision.channel stream).loop.send })
  /-- Both drainers have been told to stop and have come to their ends, and what they gathered is
  decoded, unless the wait has failed. -/
  | decode (supervision : Supervision) (out err : Drainer.Closing)
      (hwait : supervision.wait ≠ .pending)
      (hfailed : ∀ message, supervision.wait ≠ .resolved (.waitFailed message))
      (hnew : supervision.texts = none)
      (hsent : supervision.stdout.loop.stopSent ∧ supervision.stderr.loop.stopSent)
      (hout : supervision.stdout.loop.point = .closed out)
      (herr : supervision.stderr.loop.point = .closed err) :
      Step capacity encoding supervision
        { supervision with
          texts :=
            some (encoding.decode supervision.stdout.loop.drainer.sink.octets,
              encoding.decode supervision.stderr.loop.drainer.sink.octets) }

/-- Steps after which there is as much to do as before: a read is interrupted, or time passes for a
drainer. -/
inductive Idle : Supervision → Supervision → Prop
  | interrupted (supervision : Supervision) (stream : Stream) :
      Idle supervision
        (supervision.setChannel stream ((supervision.channel stream).receive .interrupted))
  | passing (supervision : Supervision) (stream : Stream) (millis : Nat) :
      Idle supervision
        (supervision.setChannel stream
          { supervision.channel stream with
            loop :=
              { (supervision.channel stream).loop with
                clock := (supervision.channel stream).loop.clock + millis } })

/-- The output that an execution returns: the texts, once they are known, if the wait has told how
the process ended. -/
def output? (supervision : Supervision) : Option Output :=
  match supervision.wait, supervision.texts with
  | .resolved ending, some (out, err) =>
    (Execution.exitCode ending).toOption.map fun code => ⟨code, out, err⟩
  | _, _ => none

/-- Whether nothing has gone wrong: the wait has neither failed nor taken too long, and no drainer
has met a read error or has had its flush cut. -/
def isCalm (supervision : Supervision) : Bool :=
  supervision.wait.isCalm && supervision.stdout.loop.point.isCalm &&
    supervision.stderr.loop.point.isCalm

/-- The states that a process which is going to write the given octets can get into. -/
inductive Reached (capacity : Nat) (encoding : OutputEncoding) (out err : List UInt8) :
    Supervision → Prop
  | start : Reached capacity encoding out err (Supervision.start out err)
  | step {supervision next : Supervision} (h : Reached capacity encoding out err supervision)
      (hstep : Step capacity encoding supervision next) : Reached capacity encoding out err next

end Supervision

end Runbook
