import Runbook.Drainer.Source
import Runbook.Log
import Runbook.Sink

/-!
# Drainers

A drainer keeps one output pipe of a process empty. It reads into a sink until it is told to stop,
and then flushes: it picks up what is still in the pipe, for a bounded time. The end of the file and
read errors end it in either phase, while an interrupted read changes nothing.
-/

namespace Runbook

/-- What a drainer is doing. -/
inductive DrainPhase where
  | reading
  /-- Picking up what is left, since the given time and with so many octets gathered before. -/
  | flushing (began gathered : Nat)
  | ended
  deriving Repr, DecidableEq

/-- A drainer of the named stream. -/
structure Drainer where
  stream : String
  phase : DrainPhase := .reading
  sink : Sink := .empty
  events : List Event := []
  deriving Repr, DecidableEq

namespace Drainer

/-- How long in milliseconds a flush waits for one read. -/
def idleLimit : Nat := 100

/-- For how many milliseconds after its begin a flush starts reads. -/
def flushLimit : Nat := 2000

/-- The drainer with one more event, whose first field is the stream. -/
def report (drainer : Drainer) (level : Level) (message : String)
    (fields : List (String × String)) : Drainer :=
  { drainer with
    events := drainer.events ++
      [⟨level, .drainer, message, ("stream", drainer.stream) :: fields⟩] }

/-- The drainer at its end. The end of a flush is reported with what it added. -/
def finish (drainer : Drainer) : Drainer :=
  match drainer.phase with
  | .flushing _ gathered =>
    let total := drainer.sink.octets.length
    { drainer.report .debug "stream drainer finished"
        [("flushed", toString (total - gathered)), ("total", toString total)] with
      phase := .ended }
  | _ => { drainer with phase := .ended }

/-- Coming to its end changes nothing that a drainer has gathered. -/
@[simp] theorem sink_finish (drainer : Drainer) : drainer.finish.sink = drainer.sink := by
  unfold finish
  split <;> rfl

/-- The drainer after it met the end of the file. -/
def meetEnd (drainer : Drainer) : Drainer :=
  match drainer.phase with
  | .reading =>
    (drainer.report .debug "stream reached EOF"
      [("bytes", toString drainer.sink.octets.length)]).finish
  | _ => drainer.finish

/-- The end of the file adds nothing. -/
@[simp] theorem sink_meetEnd (drainer : Drainer) : drainer.meetEnd.sink = drainer.sink := by
  unfold meetEnd
  split <;> simp [report]

/-- The drainer after a read error. -/
def meetError (drainer : Drainer) (message : String) : Drainer :=
  match drainer.phase with
  | .reading =>
    (drainer.report .warn "failed to drain process stream" [("error", message)]).finish
  | _ => (drainer.report .warn "failed to flush process stream" [("error", message)]).finish

/-- A read error adds nothing. -/
@[simp] theorem sink_meetError (drainer : Drainer) (message : String) :
    (drainer.meetError message).sink = drainer.sink := by
  unfold meetError
  split <;> simp [report]

/-- The drainer after its reader broke down: everything gathered is lost. -/
def breakDown (drainer : Drainer) : Drainer :=
  { drainer.report .warn "stream drainer task failed" [] with phase := .ended, sink := .empty }

/-- The drainer after one read. -/
def receive (drainer : Drainer) : ReadResult → Drainer
  | .data octets => { drainer with sink := drainer.sink.push octets }
  | .interrupted => drainer
  | .endOfFile => drainer.meetEnd
  | .failed message => drainer.meetError message
  | .panicked => drainer.breakDown

/-- The drainer after it noticed at the given time that it is to stop. -/
def stop (drainer : Drainer) (now : Nat) : Drainer :=
  match drainer.phase with
  | .reading => { drainer with phase := .flushing now drainer.sink.octets.length }
  | _ => drainer

/-- Taking notice of the order to stop changes nothing that has been gathered. -/
@[simp] theorem sink_stop (drainer : Drainer) (now : Nat) :
    (drainer.stop now).sink = drainer.sink := by
  unfold stop
  split <;> rfl

/-- The drainer after a read of the flush waited in vain. -/
def giveUp (drainer : Drainer) : Drainer :=
  (drainer.report .debug "no more output within flush window" []).finish

/-- Giving up a read adds nothing. -/
@[simp] theorem sink_giveUp (drainer : Drainer) : drainer.giveUp.sink = drainer.sink := by
  simp [giveUp, report]

end Drainer

end Runbook
