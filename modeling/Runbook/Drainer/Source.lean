/-!
# Sources

A source is one end of a pipe as its reader sees it: a sequence of read results, each with the time
from which it can be had. After the last one the pipe stays open and silent.
-/

namespace Runbook

/-- What one read from a pipe yields. -/
inductive ReadResult where
  | data (octets : List UInt8)
  | interrupted
  | endOfFile
  | failed (message : String)
  /-- The reader itself breaks down. -/
  | panicked
  deriving Repr, DecidableEq

/-- A read result with the time in milliseconds from which it is available. -/
structure Arrival where
  time : Nat
  result : ReadResult
  deriving Repr, DecidableEq

/-- The most octets that one read delivers. -/
def readSize : Nat := 8192

/-- A list cut into pieces of `size + 1` elements, the last one possibly shorter. -/
def piecesOf {α : Type} (size : Nat) : List α → List (List α)
  | [] => []
  | first :: rest => (first :: rest.take size) :: piecesOf size (rest.drop size)
  termination_by items => items.length
  decreasing_by
    rw [List.length_drop, List.length_cons]
    omega

/-- Cutting into pieces loses nothing. -/
theorem flatten_piecesOf {α : Type} (size : Nat) (items : List α) :
    (piecesOf size items).flatten = items := by
  fun_induction piecesOf size items with
  | case1 => rfl
  | case2 first rest ih => simp [ih]

/-- The reads that deliver octets available at a time. Nothing at all reads as the end of the file.
-/
def Arrival.ofOctets (time : Nat) (octets : List UInt8) : List Arrival :=
  if octets.isEmpty then
    [⟨time, .endOfFile⟩]
  else
    (piecesOf (readSize - 1) octets).map fun piece => ⟨time, .data piece⟩

end Runbook
