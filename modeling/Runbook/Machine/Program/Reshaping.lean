import Runbook.Machine.Program.Reading
import Runbook.Machine.Regex

/-!
# Reshaping lines

The programs that turn lines around, number them, break them, and put blanks for tabulators or
tabulators for blanks.
-/

namespace Runbook.Machine.Program.Reshaping

open OptionTable

/-- Hands the lines of files to an act, one after the other. -/
def eachLineOf {α : Type} (operands : List String) (first : α)
    (act : α → List Char → Bool → Task (α × Bool)) : Task Unit := do
  let mut value := first
  for path in filesOf operands do
    match ← Task.openInput path with
    | .error fault => Task.errFile path fault
    | .ok number =>
      match ← Task.eachLine number '\n' value act with
      | .error fault => Task.errFile path fault
      | .ok after => value := after
      Task.closeInput number

/-! ## Turning around -/

/-- Prints lines from their ends to their beginnings. -/
def reverse (arguments : List String) : Task Unit := do
  let given ← Task.options (ofLists "hV0" (flags [("zero", "0")])) arguments
  let mark := if given.has "0" then '\x00' else '\n'
  for path in filesOf given.operands do
    match ← Task.openInput path with
    | .error fault => Task.err ("cannot open " ++ path ++ ": " ++ fault.wording)
    | .ok number =>
      let read ← Task.eachLine number mark () fun _ line hasEnd => do
        Task.write (String.ofList line.reverse ++ (if hasEnd then mark.toString else ""))
        return ((), true)
      if let .error fault := read then
        Task.err (path ++ ": " ++ fault.wording)
      Task.closeInput number

/-! ## Numbering -/

/-- Which lines get numbers. -/
inductive Numbered where
  | all
  | full
  | none
  | matching (regex : Regex)

/-- How lines are numbered. -/
structure Numbering where
  header : Numbered := .none
  body : Numbered := .full
  footer : Numbered := .none
  first : Int := 1
  step : Int := 1
  /-- How many empty lines count as one. -/
  blanks : Nat := 1
  separator : String := "\t"
  width : Nat := 6
  format : String := "rn"
  restarts : Bool := true
  delimiter : List Char := ['\\', ':']

/-- How far numbering has come. -/
structure Count where
  number : Int
  blanks : Nat := 0
  current : Numbered

/-- A number as it stands in front of a line. -/
def Numbering.text (numbering : Numbering) (number : Int) : String :=
  let sign := if number < 0 then ['-'] else []
  let digits := (toString number.natAbs).toList
  let missing := numbering.width - sign.length - digits.length
  String.ofList
    (match numbering.format with
    | "ln" => sign ++ digits ++ List.replicate missing ' '
    | "rz" => sign ++ List.replicate missing '0' ++ digits
    | _ => List.replicate missing ' ' ++ sign ++ digits) ++ numbering.separator

/-- Numbers one more line. -/
def Numbering.line (numbering : Numbering) (count : Count) (line : List Char) : Count × String :=
  let enter (current : Numbered) : Count × String :=
    ({ count with
        current := current
        number := if numbering.restarts then numbering.first else count.number }, "\n")
  let times (copies : Nat) : List Char := (List.replicate copies numbering.delimiter).flatten
  if !numbering.delimiter.isEmpty && line == times 3 then enter numbering.header
  else if !numbering.delimiter.isEmpty && line == times 2 then enter numbering.body
  else if !numbering.delimiter.isEmpty && line == times 1 then enter numbering.footer
  else
    let isEmpty := line.isEmpty
    let (isNumbered, blanks) :=
      match count.current with
      | .all =>
        if 1 < numbering.blanks then
          if !isEmpty || count.blanks + 1 = numbering.blanks then (true, 0)
          else (false, count.blanks + 1)
        else
          (true, count.blanks)
      | .full => (!isEmpty, count.blanks)
      | .none => (false, count.blanks)
      | .matching regex =>
        ((Regex.find? regex { text := line.toArray } 0).isSome, count.blanks)
    let text := String.ofList line ++ "\n"
    if isNumbered then
      ({ count with number := count.number + numbering.step, blanks := blanks },
        numbering.text count.number ++ text)
    else
      let gap := List.replicate (numbering.width + numbering.separator.length) ' '
      ({ count with blanks := blanks }, String.ofList gap ++ text)

/-- Which lines an option asks to number. -/
def numberedOf (what text : String) : Task Numbered := do
  match text.toList with
  | ['a'] => return .all
  | ['t'] => return .full
  | ['n'] => return .none
  | 'p' :: pattern =>
    match Regex.read .basic false pattern with
    | .ok (regex, _, _) => return .matching regex
    | .error complaint => Task.fail complaint
  | _ => Task.failUsage ("invalid " ++ what ++ " numbering style: " ++ Quoted.plain text)

/-- A whole number that an option gives. -/
def wholeNumber (what text : String) : Task Int := do
  let (digits, isNegative) :=
    match text.toList.dropWhile Numeral.isSpace with
    | '-' :: rest => (rest, true)
    | '+' :: rest => (rest, false)
    | cs => (cs, false)
  match Text.natural? digits with
  | some size => return if isNegative then -size else size
  | none => Task.fail ("invalid " ++ what ++ ": " ++ Quoted.plain text)

/-- A whole number of at least one that an option gives. -/
def positiveNumber (what text : String) : Task Nat := do
  let number ← wholeNumber what text
  if number < 1 then
    Task.fail ("invalid " ++ what ++ ": " ++ Quoted.plain text ++
      ": Numerical result out of range")
  return number.toNat

/-- Prints lines with numbers. -/
def number (arguments : List String) : Task Unit := do
  let given ← Task.options
    (ofLists "h:b:f:v:i:pl:s:w:n:d:"
      (flags [("no-renumber", "p")] ++
        valued [("header-numbering", "h"), ("body-numbering", "b"), ("footer-numbering", "f"),
          ("starting-line-number", "v"), ("line-increment", "i"), ("join-blank-lines", "l"),
          ("number-separator", "s"), ("number-width", "w"), ("number-format", "n"),
          ("section-delimiter", "d")])) arguments
  let mut numbering : Numbering := { restarts := !given.has "p" }
  for (key, value) in given.options do
    let text := value.getD ""
    match key with
    | "h" => numbering := { numbering with header := ← numberedOf "header" text }
    | "b" => numbering := { numbering with body := ← numberedOf "body" text }
    | "f" => numbering := { numbering with footer := ← numberedOf "footer" text }
    | "v" => numbering := { numbering with first := ← wholeNumber "starting line number" text }
    | "i" => numbering := { numbering with step := ← wholeNumber "line number increment" text }
    | "l" =>
      numbering := { numbering with blanks := ← positiveNumber "line number of blank lines" text }
    | "s" => numbering := { numbering with separator := text }
    | "w" =>
      numbering := { numbering with width := ← positiveNumber "line number field width" text }
    | "n" =>
      if !(["ln", "rn", "rz"].contains text) then
        Task.failUsage ("invalid line numbering format: " ++ Quoted.plain text)
      numbering := { numbering with format := text }
    | "d" =>
      numbering := { numbering with
        delimiter := match text.toList with
          | [c] => [c, ':']
          | cs => cs }
    | _ => pure ()
  let chosen := numbering
  eachLineOf given.operands (Count.mk chosen.first 0 chosen.body) fun count line _ => do
    let (count, text) := chosen.line count line
    Task.write text
    return (count, true)

/-! ## Breaking -/

/-- How lines are broken. -/
structure Breaking where
  width : Nat := 80
  countsOctets : Bool := false
  atBlanks : Bool := false

/-- The column behind a character. -/
def Breaking.advance (breaking : Breaking) (column : Nat) (c : Char) : Nat :=
  if breaking.countsOctets then column + 1
  else
    match c with
    | '\x08' => column - 1
    | '\x0D' => 0
    | '\t' => column + 8 - column % 8
    | _ => column + 1

/-- Adds a character to a line that is given latest first with its column. Lines that are full are
put in front of those that are done. The fuel bounds the number of breaks. -/
def Breaking.add (breaking : Breaking) (c : Char) :
    Nat → List Char × Nat × List (List Char) → List Char × Nat × List (List Char)
  | 0, state => state
  | fuel + 1, (line, column, done) =>
    let next := breaking.advance column c
    if next ≤ breaking.width then (c :: line, next, done)
    else
      let isBlank (c : Char) : Bool := c == ' ' || c == '\t'
      let tail := line.takeWhile (!isBlank ·)
      if breaking.atBlanks && tail.length < line.length then
        let start := tail.reverse.foldl breaking.advance 0
        breaking.add c fuel (tail, start, line.drop tail.length :: done)
      else if line.isEmpty then ([c], next, done)
      else breaking.add c fuel ([], 0, line :: done)

/-- The lines that a line is broken into. -/
def Breaking.lines (breaking : Breaking) (line : List Char) : List (List Char) :=
  let (last, _, done) := line.foldl
    (fun state c => breaking.add c (line.length + 2) state) ([], 0, [])
  (last :: done).reverse.map List.reverse

/-- Breaks lines that are too long. -/
def fold (arguments : List String) : Task Unit := do
  let widths := arguments.map fun argument =>
    match argument.toList with
    | '-' :: c :: rest => if c.isDigit then "-w" ++ String.ofList (c :: rest) else argument
    | _ => argument
  let given ← Task.options
    (ofLists "bsw:" (flags [("bytes", "b"), ("spaces", "s")] ++ valued [("width", "w")])) widths
  let width ←
    match given.value? "w" with
    | some text => positiveNumber "number of columns" text
    | none => pure 80
  let breaking : Breaking :=
    { width := width, countsOctets := given.has "b", atBlanks := given.has "s" }
  eachLineOf given.operands () fun _ line hasEnd => do
    let lines := (breaking.lines line).map String.ofList
    Task.write ("\n".intercalate lines ++ (if hasEnd then "\n" else ""))
    return ((), true)

/-! ## Tabulators -/

/-- The columns of tabulators: either at equal distances, or at places that are named. -/
structure Stops where
  distance : Nat := 8
  places : List Nat := []

/-- The next column of a tabulator, unless there is none. -/
def Stops.next? (stops : Stops) (column : Nat) : Option Nat :=
  if stops.places.isEmpty then some (column + stops.distance - column % stops.distance)
  else stops.places.find? (column < ·)

/-- The columns of tabulators that an option gives. -/
def stopsOf (text : Option String) : Task Stops := do
  match text with
  | none => return {}
  | some text =>
    let words := (Text.splitAt ',' (text.toList.map fun c => if c == ' ' then ',' else c)).filter
      (!·.isEmpty)
    let numbers ← words.mapM fun word => do
      match Text.natural? word with
      | some number => return number
      | none =>
        let bad := word.dropWhile Char.isDigit
        Task.fail ("tab size contains invalid character(s): " ++ Quoted.plain (String.ofList bad))
    if numbers.contains 0 then
      Task.fail "tab size cannot be 0"
    if (numbers.zip (numbers.drop 1)).any fun pair => pair.2 ≤ pair.1 then
      Task.fail "tab sizes must be ascending"
    match numbers with
    | [distance] => return { distance := distance }
    | [] => return {}
    | places => return { places := places }

/-- The arguments where digits behind a hyphen stand for columns of tabulators. -/
def withStops (arguments : List String) : List String :=
  arguments.map fun argument =>
    match argument.toList with
    | '-' :: c :: rest => if c.isDigit then "-t" ++ String.ofList (c :: rest) else argument
    | _ => argument

/-- A line with blanks for tabulators. -/
def expanded (stops : Stops) (onlyFirst : Bool) (line : List Char) : List Char :=
  let (output, _, _) := line.foldl
    (fun (state : List Char × Nat × Bool) c =>
      let (output, column, isActive) := state
      if !isActive then (c :: output, column, false)
      else if c == '\t' then
        let next := (stops.next? column).getD (column + 1)
        (List.replicate (next - column) ' ' ++ output, next, true)
      else if c == '\x08' then (c :: output, column - 1, !onlyFirst)
      else (c :: output, column + 1, !onlyFirst || c == ' '))
    ([], 0, true)
  output.reverse

/-- Puts blanks for tabulators. -/
def expand (arguments : List String) : Task Unit := do
  let given ← Task.options
    (ofLists "it:" (flags [("initial", "i")] ++ valued [("tabs", "t")])) (withStops arguments)
  let stops ← stopsOf (given.value? "t")
  eachLineOf given.operands () fun _ line hasEnd => do
    Task.write (String.ofList (expanded stops (given.has "i") line) ++ (if hasEnd then "\n" else ""))
    return ((), true)

/-- How far putting tabulators has come within a line. -/
structure Squeezed where
  output : List Char := []
  column : Nat := 0
  /-- Blanks of which it is not known yet what becomes of them. -/
  pending : List Char := []
  /-- Whether a single blank came right in front of a column of a tabulator. -/
  isSingle : Bool := false
  afterBlank : Bool := true
  isActive : Bool := true

/-- Writes the blanks that are pending. -/
def Squeezed.settle (state : Squeezed) : Squeezed :=
  let pending :=
    if 1 < state.pending.length && state.isSingle then '\t' :: state.pending.drop 1
    else state.pending
  if pending.isEmpty then state
  else
    { state with output := pending.reverse ++ state.output, pending := [], isSingle := false }

/-- Adds a character to a line in which tabulators are put for blanks. -/
def Squeezed.add (stops : Stops) (wholeLine : Bool) (state : Squeezed) (c : Char) : Squeezed :=
  let put (state : Squeezed) (c : Char) : Squeezed := { state with output := c :: state.output }
  if !state.isActive then put state c
  else
    let isBlank := c == ' ' || c == '\t'
    let conclude (state : Squeezed) (c : Char) : Squeezed :=
      put { state.settle with
        afterBlank := isBlank, isActive := state.isActive && (wholeLine || isBlank) } c
    if isBlank then
      match stops.next? state.column with
      | none => conclude { state with isActive := false } c
      | some next =>
        let single := state.isSingle
        let keep (state : Squeezed) : Squeezed :=
          { state with pending := if single then state.pending.take 1 else [] }
        if c == '\t' then
          let pending := if state.pending.isEmpty then [] else '\t' :: state.pending.drop 1
          conclude (keep { state with column := next, pending := pending }) '\t'
        else
          let column := state.column + 1
          if state.afterBlank && column = next then
            let pending := '\t' :: state.pending.drop 1
            conclude (keep { state with column := column, pending := pending }) '\t'
          else
            { state with
              column := column
              isSingle := state.isSingle || column = next
              pending := state.pending ++ [c]
              afterBlank := true }
    else if c == '\x08' then conclude { state with column := state.column - 1 } c
    else conclude { state with column := state.column + 1 } c

/-- Puts tabulators for blanks. -/
def unexpand (arguments : List String) : Task Unit := do
  let given ← Task.options
    (ofLists "at:"
      (flags [("all", "a"), ("first-only", "first")] ++ valued [("tabs", "t")]))
    (withStops arguments)
  let stops ← stopsOf (given.value? "t")
  let wholeLine := (given.has "a" || given.has "t") && !given.has "first"
  eachLineOf given.operands () fun _ line hasEnd => do
    let state := (line.foldl (Squeezed.add stops wholeLine) {}).settle
    Task.write (String.ofList state.output.reverse ++ (if hasEnd then "\n" else ""))
    return ((), true)

end Runbook.Machine.Program.Reshaping
