import Runbook.Machine.Program.Reading

/-!
# Columns

The programs that cut columns out of lines and put lines of several files side by side.
-/

namespace Runbook.Machine.Program.Columns

open OptionTable

/-! ## Lists of positions -/

/-- A range of positions, which may have no end. -/
structure Range where
  first : Nat
  last : Option Nat
  deriving Repr, DecidableEq

/-- What positions count, as far as complaints tell it. -/
structure Wording where
  zero : String
  range : String
  value : String
  tooLarge : String

/-- The wording for fields. -/
def fieldWording : Wording :=
  ⟨"fields are numbered from 1", "invalid field range", "invalid field value ", "field number "⟩

/-- The wording for octets. -/
def octetWording : Wording :=
  ⟨"byte/character positions are numbered from 1", "invalid byte or character range",
    "invalid byte/character position ", "byte/character offset "⟩

/-- How far reading a list has come: the first number of a range, and the number that is being read.
-/
structure Reading where
  start : Option Nat := none
  hasDash : Bool := false
  number : Option Nat := none

/-- The range that has been read. -/
def Reading.finish (wording : Wording) (reading : Reading) : Except String Range :=
  if reading.hasDash then
    match reading.start, reading.number with
    | none, none => .error "invalid range with no endpoint: -"
    | start, none => .ok ⟨start.getD 1, none⟩
    | start, some last =>
      if last < start.getD 1 then .error "invalid decreasing range"
      else .ok ⟨start.getD 1, some last⟩
  else
    match reading.number with
    | none | some 0 => .error wording.zero
    | some number => .ok ⟨number, some number⟩

/-- Reads a list of ranges. -/
def readRanges (wording : Wording) : List Char → Reading → Except String (List Range)
  | [], reading => do return [← reading.finish wording]
  | c :: rest, reading =>
    if c == '-' then
      if reading.hasDash then .error wording.range
      else if reading.number == some 0 then .error wording.zero
      else readRanges wording rest { start := reading.number, hasDash := true }
    else if c == ',' || c == ' ' || c == '\t' then do
      let range ← reading.finish wording
      return range :: (← readRanges wording rest {})
    else if c.isDigit then
      let number := reading.number.getD 0 * 10 + (c.toNat - 48)
      if Numeral.greatestUnsigned ≤ number then
        let digits := toString (reading.number.getD 0) ++ String.ofList ((c :: rest).takeWhile Char.isDigit)
        .error (wording.tooLarge ++ Quoted.plain digits ++ " is too large")
      else
        readRanges wording rest { reading with number := some number }
    else
      .error (wording.value ++ Quoted.plain (String.ofList (c :: rest)))

/-- Whether a position lies in a range. -/
def Range.holds (position : Nat) (range : Range) : Bool :=
  range.first ≤ position &&
    match range.last with
    | some last => position ≤ last
    | none => true

/-- Ranges in ascending order, where those that overlap have become one. -/
def mergeRanges (ranges : List Range) : List Range :=
  let sorted := ranges.mergeSort fun first second => first.first ≤ second.first
  let merged := sorted.foldl
    (fun (done : List Range) range =>
      match done with
      | before :: others =>
        if before.last.all fun last => range.first ≤ last then
          let last := do some (max (← before.last) (← range.last))
          ⟨before.first, last⟩ :: others
        else
          range :: done
      | [] => [range])
    []
  merged.reverse

/-- The positions that are in no range. -/
def complement (ranges : List Range) : List Range :=
  let (gaps, next) := ranges.foldl
    (fun (state : List Range × Option Nat) range =>
      match state.2 with
      | none => state
      | some next =>
        let gaps := if next < range.first then ⟨next, some (range.first - 1)⟩ :: state.1 else state.1
        (gaps, range.last.map (· + 1)))
    ([], some 1)
  gaps.reverse ++ (next.map fun first => Range.mk first none).toList

/-! ## Cutting -/

/-- How lines are cut. -/
structure Cutting where
  ranges : List Range
  /-- The sign between fields, or nothing if octets are cut out. -/
  separator : Option Char
  output : Option String
  onlySeparated : Bool

/-- The octets of a line in ranges. -/
def Cutting.octets (cutting : Cutting) (line : List Char) : String :=
  let part (range : Range) : List Char :=
    let from' := line.drop (range.first - 1)
    match range.last with
    | some last => from'.take (last + 1 - range.first)
    | none => from'
  let parts := (cutting.ranges.filter fun range => range.first ≤ line.length).map part
  (cutting.output.getD "").intercalate (parts.map String.ofList)

/-- The fields of a line in ranges, or nothing if the line is left out. -/
def Cutting.fields (cutting : Cutting) (separator : Char) (line : List Char) : Option String :=
  if !line.contains separator then
    if cutting.onlySeparated then none else some (String.ofList line)
  else
    let fields := (Text.splitAt separator line).zipIdx.filter fun (_, index) =>
      cutting.ranges.any (Range.holds (index + 1))
    let between := cutting.output.getD separator.toString
    some (between.intercalate (fields.map fun (field, _) => String.ofList field))

/-- Prints parts of lines. -/
def cut (arguments : List String) : Task Unit := do
  let table := ofLists "b:c:d:f:nsz"
    (flags [("only-delimited", "s"), ("complement", "complement"), ("zero-terminated", "z")] ++
      valued [("bytes", "b"), ("characters", "c"), ("fields", "f"), ("delimiter", "d"),
        ("output-delimiter", "output-delimiter")])
  let given ← Task.options table arguments
  let lists := given.options.filter fun option => ["b", "c", "f"].contains option.1
  if 1 < lists.length then
    Task.failUsage "only one list may be specified"
  if given.options.any fun option => option.1 == "d" && 1 < (option.2.getD "").length then
    Task.failUsage "the delimiter must be a single character"
  match lists with
  | (key, text) :: _ =>
    let ofFields := key == "f"
    if !ofFields && given.has "d" then
      Task.failUsage "an input delimiter may be specified only when operating on fields"
    if !ofFields && given.has "s" then
      Task.failUsage
        "suppressing non-delimited lines makes sense\n\tonly when operating on fields"
    match readRanges (if ofFields then fieldWording else octetWording) (text.getD "").toList {} with
    | .error complaint => Task.failUsage complaint
    | .ok ranges =>
      let merged := mergeRanges ranges
      let cutting : Cutting :=
        { ranges := if given.has "complement" then complement merged else merged
          separator :=
            if ofFields then some ((((given.value? "d").getD "\t").toList).headD '\x00') else none
          output := given.value? "output-delimiter"
          onlySeparated := given.has "s" }
      let mark := if given.has "z" then '\x00' else '\n'
      for path in filesOf given.operands do
        match ← Task.openInput path with
        | .error fault => Task.errFile path fault
        | .ok number =>
          let read ← Task.eachLine number mark () fun _ line _ => do
            match cutting.separator with
            | none => Task.write (cutting.octets line ++ mark.toString)
            | some separator =>
              if let some text := cutting.fields separator line then
                Task.write (text ++ mark.toString)
            return ((), true)
          if let .error fault := read then
            Task.errFile path fault
          Task.closeInput number
  | [] => Task.failUsage "you must specify a list of bytes, characters, or fields"

/-! ## Pasting -/

/-- The signs of a list between columns, where none stands between columns that follow at once. -/
def separators : List Char → Option (List (Option Char))
  | [] => some []
  | ['\\'] => none
  | '\\' :: c :: rest =>
    let sign : Option Char :=
      match c with
      | '0' => none
      | 'b' => some '\x08'
      | 'f' => some '\x0C'
      | 'n' => some '\n'
      | 'r' => some '\x0D'
      | 't' => some '\t'
      | 'v' => some '\x0B'
      | c => some c
    (separators rest).map (sign :: ·)
  | c :: rest => (separators rest).map (some c :: ·)

/-- Texts with the signs of a list between them, which is used again from its beginning when it is
used up. -/
def joined (signs : List (Option Char)) (texts : List String) : String :=
  let sign (index : Nat) : String :=
    match signs[index % max 1 signs.length]? with
    | some (some c) => c.toString
    | _ => ""
  match texts with
  | [] => ""
  | first :: rest =>
    first ++ String.join (rest.zipIdx.map fun (text, index) => sign index ++ text)

/-- The lines of a file. -/
def linesOf (mark : Char) (text : String) : List String :=
  let (lines, rest) := Task.splitLines mark text.toList
  (lines ++ if rest.isEmpty then [] else [rest]).map String.ofList

/-- One line from each of the columns, those of which that are not named share the first one. -/
def takeRow : List (Option (List String)) → List String →
    List (Option (List String)) × List String × List (Option String)
  | [], shared => ([], shared, [])
  | none :: columns, shared =>
    let (columns, rest, row) := takeRow columns (shared.drop 1)
    (none :: columns, rest, shared.head? :: row)
  | some lines :: columns, shared =>
    let (columns, rest, row) := takeRow columns shared
    (some (lines.drop 1) :: columns, rest, lines.head? :: row)

/-- Prints the lines of columns side by side. The fuel bounds their number. -/
def pasteRows (signs : List (Option Char)) (mark : Char) :
    Nat → List (Option (List String)) → List String → Task Unit
  | 0, _, _ => return ()
  | fuel + 1, columns, shared => do
    let (columns, shared, row) := takeRow columns shared
    if row.any Option.isSome then
      Task.write (joined signs (row.map (Option.getD · "")) ++ mark.toString)
      pasteRows signs mark fuel columns shared

/-- Puts the lines of files side by side. -/
def paste (arguments : List String) : Task Unit := do
  let given ← Task.options
    (ofLists "d:sz"
      (flags [("serial", "s"), ("zero-terminated", "z")] ++ valued [("delimiters", "d")])) arguments
  let list := (given.value? "d").getD "\t"
  let signs ←
    match separators list.toList with
    | some signs => pure signs
    | none => Task.fail ("delimiter list ends with an unescaped backslash: " ++ list)
  let mark := if given.has "z" then '\x00' else '\n'
  let operands := filesOf given.operands
  if given.has "s" then
    for path in operands do
      match ← Task.readFile path with
      | .error fault => Task.errFile path fault
      | .ok text => Task.write (joined signs (linesOf mark text) ++ mark.toString)
  else
    let mut columns : List (Option (List String)) := []
    let mut shared : List String := []
    let mut count := 0
    for path in operands do
      if path == "-" && columns.contains none then
        columns := none :: columns
      else
        match ← Task.readFile path with
        | .error fault => Task.fail (Quoted.file path ++ ": " ++ fault.wording)
        | .ok text =>
          let lines := linesOf mark text
          count := count + lines.length
          if path == "-" then
            shared := lines
            columns := none :: columns
          else
            columns := some lines :: columns
    pasteRows signs mark (count + 1) columns.reverse shared

end Runbook.Machine.Program.Columns
