import Runbook.Text.Blank
import Runbook.Text.Number
import Runbook.Text.Property.Decimal
import Runbook.Text.Quoted

/-!
# Timeouts

A timeout is written as a number with an optional unit letter, such as `10s`, `2m`, `1h` or a bare
`5`, with white space allowed around both parts. `parse?` reads that grammar with exact arithmetic
and refuses what does not fit into 64 bits of milliseconds. `Timeout` is the resolved value: it
keeps the spelling for messages, and zero milliseconds mean that there is no limit.
-/

namespace Runbook

namespace Timeout

/-- The units of a timeout. -/
inductive Scale where
  | seconds
  | minutes
  | hours
  deriving Repr, DecidableEq

/-- The milliseconds of one unit. -/
def Scale.millis : Scale → Nat
  | .seconds => 1000
  | .minutes => 60000
  | .hours => 3600000

/-- The unit that a letter names, in either case. -/
def Scale.ofLetter? : Char → Option Scale
  | 's' | 'S' => some .seconds
  | 'm' | 'M' => some .minutes
  | 'h' | 'H' => some .hours
  | _ => none

/-- Durations are counted in 64 bits. -/
def limit : Nat := Text.wordLimit

/-- The unit at the end of a timeout: nothing, or one letter and white space. -/
def scaleOf? : List Char → Option Scale
  | [] => some .seconds
  | letter :: rest =>
    if rest.all Text.isBlank then Scale.ofLetter? letter else none

/-- The milliseconds of so many units, if they can be counted. -/
def Scale.times? (scale : Scale) (count : Nat) : Option Nat :=
  let millis := count * scale.millis
  if millis < limit then some millis else none

/-- The milliseconds that a timeout spells: white space, decimal digits, white space, at most one
unit letter, white space. A missing unit means seconds. The digits may be of any script, but only
those of ASCII can be read as a number. -/
def parse? (spec : String) : Option Nat :=
  let body := spec.toList.dropWhile Text.isBlank
  let digits := body.takeWhile Text.isDecimal
  let tail := (body.dropWhile Text.isDecimal).dropWhile Text.isBlank
  if digits.isEmpty then
    none
  else
    (scaleOf? tail).bind fun scale => (Text.word? (String.ofList digits)).bind scale.times?

/-- The milliseconds that a timeout spells, where anything else means that there is no limit. -/
def millisOf (spec : String) : Nat :=
  (parse? spec).getD 0

/-- What is wrong with a text that spells no timeout. -/
def complaint (spec : String) : String :=
  "Invalid value specified for timeout: " ++ spec

/-- The complaint about a text, unless it spells a timeout. -/
def check (spec : String) : Option String :=
  if (parse? spec).isSome then none else some (complaint spec)

end Timeout

/-- A resolved timeout with its spelling, if it had one. -/
structure Timeout where
  millis : Nat
  spec : Option String
  deriving Repr, DecidableEq

namespace Timeout

/-- No limit: the process may take as long as it likes. -/
def unbounded : Timeout := ⟨0, none⟩

/-- A limit given as a number. -/
def ofMillis (millis : Nat) : Timeout := ⟨millis, none⟩

/-- A limit given as a text, trimmed. A missing or blank text sets no limit. -/
def ofSpec : Option String → Timeout
  | none => unbounded
  | some text =>
    let spec := Text.trim text
    if spec.isEmpty then unbounded else ⟨millisOf spec, some spec⟩

/-- Whether there is no limit. -/
def isUnbounded (timeout : Timeout) : Bool :=
  timeout.millis == 0

/-- The form of a timeout in messages: its spelling, or else its milliseconds. -/
def display (timeout : Timeout) : String :=
  timeout.spec.getD (toString timeout.millis ++ " ms")

/-- The record form of a timeout. -/
def describe (timeout : Timeout) : String :=
  "Timeout \x7b millis: " ++ toString timeout.millis ++ ", spec: " ++
    Text.quoteOption Text.quote timeout.spec ++ " \x7d"

end Timeout

end Runbook
