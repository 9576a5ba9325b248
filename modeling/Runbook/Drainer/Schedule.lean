import Runbook.Drainer.Loop

/-!
# Drainers on a clock

The course of a drainer is fixed by the arrivals of its source and by the time at which it is told
to stop. The order to stop wins over data that is available at the same time, and within a flush
data that arrives in the last moment of a wait still counts.
-/

namespace Runbook.Drainer

/-- The course of a flush: the drainer at its end and the time of the end. -/
def flush (drainer : Drainer) (now : Nat) : List Arrival → Drainer × Nat
  | [] =>
    match drainer.phase with
    | .flushing began _ =>
      if now < began + flushLimit then (drainer.giveUp, now + idleLimit) else (drainer.finish, now)
    | _ => (drainer, now)
  | arrival :: rest =>
    match drainer.phase with
    | .flushing began _ =>
      if now < began + flushLimit then
        if arrival.time ≤ now + idleLimit then
          flush (drainer.receive arrival.result) (max now arrival.time) rest
        else
          (drainer.giveUp, now + idleLimit)
      else
        (drainer.finish, now)
    | _ => (drainer, now)

/-- The course of a drainer that is told to stop at the time `stopAt`: the drainer at its end and
the time of the end. -/
def serve (drainer : Drainer) (now stopAt : Nat) : List Arrival → Drainer × Nat
  | [] => flush (drainer.stop stopAt) stopAt []
  | arrival :: rest =>
    match drainer.phase with
    | .reading =>
      if max now arrival.time < stopAt then
        serve (drainer.receive arrival.result) (max now arrival.time) stopAt rest
      else
        flush (drainer.stop stopAt) stopAt (arrival :: rest)
    | _ => (drainer, now)

/-- What ends a drainer before it is told to stop, if anything does. -/
def endsBefore? (stopAt : Nat) (arrivals : List Arrival) : Option Closing :=
  (arrivals.takeWhile fun arrival => arrival.time < stopAt).findSome? fun arrival =>
    Closing.ofRead? arrival.result

/-- An arrival before the order ends the drainer, or leaves that to the ones behind it. -/
theorem endsBefore?_of_early {stopAt : Nat} {arrival : Arrival} (htime : arrival.time < stopAt)
    (rest : List Arrival) :
    endsBefore? stopAt (arrival :: rest) =
      (Closing.ofRead? arrival.result).or (endsBefore? stopAt rest) := by
  simp only [endsBefore?, List.takeWhile_cons, decide_eq_true htime, if_true, List.findSome?_cons]
  cases Closing.ofRead? arrival.result <;> rfl

/-- An arrival that does not come before the order leaves the drainer to it. -/
theorem endsBefore?_of_late {stopAt : Nat} {arrival : Arrival} (htime : stopAt ≤ arrival.time)
    (rest : List Arrival) : endsBefore? stopAt (arrival :: rest) = none := by
  simp [endsBefore?, Nat.not_lt.2 htime]

/-- What a drainer hands back. -/
structure HandBack where
  octets : List UInt8
  /-- How long the drainer still ran after the order to stop. -/
  took : Nat
  events : List Event
  /-- Whether the drainer came to its end, and reported that, without the order to stop. A reader
  that breaks down does not report it, but is found broken after the order. -/
  isUnasked : Bool
  deriving Repr, DecidableEq

namespace HandBack

/-- The events that were reported without the order to stop. -/
def unasked (back : HandBack) : List Event :=
  if back.isUnasked then back.events else []

/-- The events that were reported after the order to stop. -/
def asked (back : HandBack) : List Event :=
  if back.isUnasked then [] else back.events

end HandBack

/-- Drains a source from time zero until the order to stop. -/
def drain (stream : String) (arrivals : List Arrival) (stopAt : Nat) : HandBack :=
  let (drainer, ended) := serve { stream := stream } 0 stopAt arrivals
  { octets := drainer.sink.octets
    took := ended - stopAt
    events := drainer.events
    isUnasked := (endsBefore? stopAt arrivals).any (· != .lost) }

end Runbook.Drainer
