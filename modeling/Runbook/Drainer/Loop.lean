import Runbook.Drainer.Basic

/-!
# The loop of a drainer

A drainer works step by step, and everything around it may happen between two steps: time passes,
reads yield something or nothing, and the order to stop is given. `Step` lists what the drainer does
on its own account, and `Reached` adds the outside world: it relates every state that a drainer can
get into to the reads that it has consumed by then.
-/

namespace Runbook

namespace Drainer

/-- How a drainer came to its end. -/
inductive Closing where
  | endOfFile
  /-- After a read error. -/
  | failed
  /-- With its reader, and without anything gathered. -/
  | lost
  /-- After a read of the flush waited in vain. -/
  | idle
  /-- When the time for the flush was used up. -/
  | overtime
  deriving Repr, DecidableEq

/-- How a read result ends a drainer, if it does. -/
def Closing.ofRead? : ReadResult → Option Closing
  | .data _ | .interrupted => none
  | .endOfFile => some .endOfFile
  | .failed _ => some .failed
  | .panicked => some .lost

/-- Where a drainer stands. -/
inductive Point where
  /-- Between two reads. -/
  | between
  /-- In a read that was started at the given time. -/
  | awaiting (since : Nat)
  | closed (closing : Closing)
  deriving Repr, DecidableEq

/-- A drainer at work: what it has gathered, the time, where it stands, and whether it has been told
to stop. -/
structure Loop where
  drainer : Drainer
  clock : Nat := 0
  point : Point := .between
  stopSent : Bool := false
  deriving Repr, DecidableEq

namespace Loop

/-- A drainer of a stream before its first step. -/
def start (stream : String) : Loop :=
  { drainer := { stream := stream } }

/-- The drainer after it has been told to stop. It may take notice later. -/
def send (loop : Loop) : Loop :=
  { loop with stopSent := true }

/-- The drainer after its read has yielded something. -/
def receive (loop : Loop) (result : ReadResult) : Loop :=
  { loop with
    drainer := loop.drainer.receive result
    point := ((Closing.ofRead? result).map Point.closed).getD .between }

/-- What a drainer does on its own account. -/
inductive Step : Loop → Loop → Prop
  /-- It starts a read unless it has been told to stop. -/
  | read (loop : Loop) (hpoint : loop.point = .between) (hphase : loop.drainer.phase = .reading)
      (hsent : loop.stopSent = false) :
      Step loop { loop with point := .awaiting loop.clock }
  /-- It takes notice of the order to stop, also in the middle of a read, which then has not
  happened. -/
  | heed (loop : Loop) (hpoint : ∀ closing, loop.point ≠ .closed closing)
      (hphase : loop.drainer.phase = .reading) (hsent : loop.stopSent = true) :
      Step loop { loop with drainer := loop.drainer.stop loop.clock, point := .between }
  /-- It starts a read of the flush while there is time for it. -/
  | flush (loop : Loop) (began gathered : Nat) (hpoint : loop.point = .between)
      (hphase : loop.drainer.phase = .flushing began gathered)
      (htime : loop.clock < began + flushLimit) :
      Step loop { loop with point := .awaiting loop.clock }
  /-- It ends when the time for the flush has been used up. -/
  | expire (loop : Loop) (began gathered : Nat) (hpoint : loop.point = .between)
      (hphase : loop.drainer.phase = .flushing began gathered)
      (htime : began + flushLimit ≤ loop.clock) :
      Step loop { loop with drainer := loop.drainer.finish, point := .closed .overtime }
  /-- It gives up a read of the flush that has waited long enough. -/
  | giveUp (loop : Loop) (since began gathered : Nat) (hpoint : loop.point = .awaiting since)
      (hphase : loop.drainer.phase = .flushing began gathered)
      (htime : loop.clock = since + idleLimit) :
      Step loop { loop with drainer := loop.drainer.giveUp, point := .closed .idle }
  /-- Time passes while it waits for a read, in the flush only until the read is given up. -/
  | wait (loop : Loop) (since millis : Nat) (hpoint : loop.point = .awaiting since)
      (htime : loop.drainer.phase = .reading ∨ loop.clock + millis ≤ since + idleLimit) :
      Step loop { loop with clock := loop.clock + millis }

/-- The states that a drainer of a stream can get into, with the reads consumed by then. -/
inductive Reached (stream : String) : List ReadResult → Loop → Prop
  | start : Reached stream [] (Loop.start stream)
  | step {consumed : List ReadResult} {loop next : Loop} (h : Reached stream consumed loop)
      (hstep : Step loop next) : Reached stream consumed next
  | send {consumed : List ReadResult} {loop : Loop} (h : Reached stream consumed loop) :
      Reached stream consumed loop.send
  | receive {consumed : List ReadResult} {loop : Loop} {since : Nat} (result : ReadResult)
      (h : Reached stream consumed loop) (hpoint : loop.point = .awaiting since) :
      Reached stream (consumed ++ [result]) (loop.receive result)

end Loop

end Drainer

/-- The octets that reads deliver before the first end or error. -/
def ReadResult.gathered : List ReadResult → List UInt8
  | [] => []
  | .data octets :: rest => octets ++ gathered rest
  | .interrupted :: rest => gathered rest
  | _ => []

end Runbook
