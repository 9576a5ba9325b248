import Runbook.Log
import Runbook.Text.Alphanumeric
import Runbook.Text.Blank
import Runbook.Text.Number
import Runbook.Text.Pattern.Parser
import Runbook.Text.Split
import Runbook.Text.Utf8

/-!
# Log filters

A log filter is a comma-separated list of directives. A directive is a level, or a target with a
level, where a target stands for every part of the program whose name begins with it; a directive
can also ask for a span or for fields. The most specific directive that applies to an event decides
whether the event is shown.
-/

namespace Runbook

/-- How verbose events may be: nothing is shown at zero, and everything at five. -/
abbrev Threshold := Nat

namespace Threshold

/-- The threshold that a name stands for, in either case. -/
def ofName? (name : String) : Option Threshold :=
  match name.toLower with
  | "off" => some 0
  | "" | "error" => some 1
  | "warn" => some 2
  | "info" => some 3
  | "debug" => some 4
  | "trace" => some 5
  | _ => none

/-- The threshold that a number or a name stands for. -/
def parse? (text : String) : Option Threshold :=
  match Text.word? text with
  | some number => if number ≤ 5 then some number else none
  | none => ofName? text

/-- The threshold at which everything is shown. -/
def everything : Threshold := 5

end Threshold

/-- A field that a directive asks for, with a value or with any. -/
structure FieldPattern where
  name : String
  value : Option String
  deriving Repr, DecidableEq

/-- A directive of a log filter. -/
structure Directive where
  threshold : Threshold := .everything
  target : Option String := none
  span : Option String := none
  fields : List FieldPattern := []
  deriving Repr, DecidableEq

/-- Why a text is no log filter. -/
inductive FilterFault where
  | malformed
  /-- A part of a directive would begin or end inside a character. -/
  | cutCharacter
  deriving Repr, DecidableEq

namespace Directive

/-- Where the reading of a directive stands, with the octet position at which the current part
begins. -/
inductive Place where
  | start
  | levelOrTarget (first : Nat)
  | span (first : Nat)
  | field (first : Nat)
  | fieldsEnd
  | targetEnd
  | level (first : Nat)
  deriving Repr, DecidableEq

/-- What reading a directive yields. -/
abbrev Reading (α : Type) := Except FilterFault α

/-- The part of a text between two octet positions. -/
def part (text : String) (first last : Nat) : Reading String :=
  let octets := Text.Utf8.encode text
  let before := octets.take first
  let between := (octets.take last).drop first
  match Text.Utf8.decode? before, Text.Utf8.decode? between with
  | some _, some found => .ok found
  | _, _ => .error .cutCharacter

/-- A level behind an equals sign, where nothing at all means every level. -/
def levelOf (text : String) : Reading Threshold :=
  if text.isEmpty then
    .ok .everything
  else
    match Threshold.parse? text with
    | some threshold => .ok threshold
    | none => .error .malformed

/-- Whether a text spells a value of a field: a number, or a pattern that an automaton can be built
for. The names of truth values are patterns too. -/
def isFieldValue (text : String) : Bool :=
  Text.isFloatingPoint text.toList || (Text.Pattern.parse? text).any Text.Pattern.isAutomatic

/-- The field that a text between braces asks for. -/
def fieldOf (text : String) : Reading FieldPattern :=
  match (Text.splitAt '=' text.toList).map String.ofList with
  | name :: value :: _ =>
    if isFieldValue value then .ok ⟨name, some value⟩ else .error .malformed
  | _ => if text.isEmpty then .error .malformed else .ok ⟨text, none⟩

/-- Whether a directive can begin with a character. -/
def canStart (c : Char) : Bool :=
  c == '-' || c == ':' || c == '_' || Text.isAlphanumeric c

/-- One step of reading a directive, at the character at an octet position. Positions are counted
without the white space in front, while parts are cut out of the text as it stands. -/
def step (text : String) (directive : Directive) (place : Place) (position : Nat) (c : Char) :
    Reading (Directive × Place) :=
  match place, c with
  | .start, '[' => .ok (directive, .span (position + 1))
  | .start, c => if canStart c then .ok (directive, .levelOrTarget position) else .error .malformed
  | .levelOrTarget first, '=' => do
    return ({ directive with target := some (← part text first position) }, .level (position + 1))
  | .levelOrTarget first, '[' => do
    return ({ directive with target := some (← part text first position) }, .span (position + 1))
  | .levelOrTarget first, _ => .ok (directive, .levelOrTarget first)
  | .targetEnd, '=' => .ok (directive, .level (position + 1))
  | .span first, ']' => do
    return ({ directive with span := some (← part text first position) }, .targetEnd)
  | .span first, '\x7b' => do
    let name ← part text first position
    let span := if name.isEmpty then none else some name
    return ({ directive with span := span }, .field (position + 1))
  | .span first, _ => .ok (directive, .span first)
  | .field first, '\x7d' => do
    let pattern ← fieldOf (← part text first position)
    return ({ directive with fields := directive.fields ++ [pattern] }, .fieldsEnd)
  | .field first, _ => .ok (directive, .field first)
  | .fieldsEnd, ']' => .ok (directive, .targetEnd)
  | .level first, _ => .ok (directive, .level first)
  | _, _ => .error .malformed

/-- Reads the characters from an octet position on. -/
def readFrom (text : String) (directive : Directive) (place : Place) (position : Nat) :
    List Char → Reading (Directive × Place)
  | [] => .ok (directive, place)
  | c :: rest => do
    let (directive, place) ← step text directive place position c
    readFrom text directive place (position + c.utf8Size) rest

/-- The directive at the end of its text. A word on its own that is no level names a target, all
events of which are shown. -/
def complete (text : String) (directive : Directive) : Place → Reading Directive
  | .levelOrTarget first => do
    let word ← part text first text.utf8ByteSize
    match Threshold.parse? word with
    | some threshold => return { directive with threshold := threshold }
    | none => return { directive with target := some word }
  | .level first => do
    let threshold ← levelOf (← part text first text.utf8ByteSize)
    return { directive with threshold := threshold }
  | .targetEnd => .ok directive
  | _ => .error .malformed

/-- The directive that a text spells. -/
def parse (text : String) : Reading Directive := do
  let (directive, place) ← readFrom text {} .start 0 (Text.trimChars text.toList)
  complete text directive place

/-- Whether a directive depends on spans or on values of fields. It then applies inside spans only,
and events are reported outside of them. -/
def isDynamic (directive : Directive) : Bool :=
  directive.span.isSome || directive.fields.any fun field => field.value.isSome

/-- Whether an event has a field. Its message counts as one. -/
def hasField (event : Event) (name : String) : Bool :=
  name == "message" || event.fields.any fun field => field.1 == name

/-- Whether a directive applies to an event. -/
def applies (directive : Directive) (event : Event) : Bool :=
  !directive.isDynamic &&
    (directive.target.all fun target => event.origin.target.startsWith target) &&
      directive.fields.all fun field => hasField event field.name

/-- How specific the target of a directive is. No target is the least. -/
def targetWeight (directive : Directive) : Nat :=
  (directive.target.map fun target => target.utf8ByteSize + 1).getD 0

/-- Whether one directive goes before another that was given earlier. The length of the target
counts first, then the number of fields, and then the order of the names of the fields. -/
def overrides (later earlier : Directive) : Bool :=
  let names := later.fields.map FieldPattern.name
  let others := earlier.fields.map FieldPattern.name
  earlier.targetWeight < later.targetWeight ||
    (earlier.targetWeight == later.targetWeight &&
      (others.length < names.length || (others.length == names.length && !(names < others))))

end Directive

/-- A log filter. -/
structure LogFilter where
  directives : List Directive
  deriving Repr, DecidableEq

namespace LogFilter

/-- The filter that shows everything up to a level. -/
def upTo (level : Level) : LogFilter :=
  ⟨[{ threshold := level.verbosity }]⟩

/-- The filter that a text spells. Nothing between two commas means nothing. -/
def parse (text : String) : Except FilterFault LogFilter :=
  let pieces :=
    ((Text.splitAt ',' text.toList).filter fun piece => !piece.isEmpty).map String.ofList
  (pieces.mapM Directive.parse).map LogFilter.mk

/-- The directive that decides about an event: the most specific one that applies, and the last one
of several with the same target and fields. -/
def deciding? (filter : LogFilter) (event : Event) : Option Directive :=
  (filter.directives.filter fun directive => directive.applies event).foldl
    (fun best directive =>
      match best with
      | none => some directive
      | some other => if directive.overrides other then some directive else some other)
    none

/-- Whether an event is shown. Where no directive applies, nothing is. -/
def shows (filter : LogFilter) (event : Event) : Bool :=
  match filter.deciding? event with
  | some directive => event.level.verbosity ≤ directive.threshold
  | none => false

end LogFilter

end Runbook
