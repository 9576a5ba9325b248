/-!
# Sinks

A sink gathers octets piece by piece. Only the sequence of all octets counts, never the way in which
it was cut into pieces.
-/

namespace Runbook

/-- Octets gathered so far, as pieces with the latest first. -/
structure Sink where
  pieces : List (List UInt8)
  deriving Repr, DecidableEq

namespace Sink

/-- The sink that has gathered nothing. -/
def empty : Sink := ⟨[]⟩

/-- The sink after one more piece. -/
def push (sink : Sink) (piece : List UInt8) : Sink := ⟨piece :: sink.pieces⟩

/-- Everything gathered, in order. -/
def octets (sink : Sink) : List UInt8 := sink.pieces.reverse.flatten

/-- Nothing is gathered at first. -/
@[simp] theorem octets_empty : empty.octets = [] := rfl

/-- A piece goes to the end. -/
@[simp] theorem octets_push (sink : Sink) (piece : List UInt8) :
    (sink.push piece).octets = sink.octets ++ piece := by
  simp [octets, push]

/-- Pieces go to the end one after the other. -/
@[simp] theorem octets_foldl_push (pieces : List (List UInt8)) (sink : Sink) :
    (pieces.foldl push sink).octets = sink.octets ++ pieces.flatten := by
  induction pieces generalizing sink with
  | nil => simp
  | cons piece rest ih => simp [ih]

end Sink

end Runbook
