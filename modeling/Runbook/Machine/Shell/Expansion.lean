import Runbook.Machine.Shell.Arithmetic
import Runbook.Machine.Shell.Field
import Runbook.Machine.Shell.Pattern
import Runbook.Machine.Shell.Variables

/-!
# Expansion

What words stand for: parameters, the output of commands, numbers and home directories are put in
place, the result is divided into fields, and fields that are patterns give way to the paths of
files. Whoever expands supplies what runs the commands.
-/

namespace Runbook.Machine.Shell

/-- How a word is expanded. -/
structure Manner where
  /-- Whether the result is going to be divided into fields. -/
  divides : Bool := false
  /-- Whether a tilde at the beginning stands for a directory. -/
  tilde : Bool := false
  /-- Whether a tilde behind the first equals sign or a colon stands for a directory. -/
  assigns : Bool := false
  /-- Whether that equals sign has been seen. -/
  afterEquals : Bool := false
  isQuoted : Bool := false
  /-- Whether the word stands in for a value, so that its own text may be divided as well. -/
  standsIn : Bool := false
  /-- Whether the word has no effect at all. -/
  isIdle : Bool := false

/-- The manner of arguments. -/
def Manner.argument : Manner := { divides := true, tilde := true }

/-- The manner of assignments. -/
def Manner.assignment : Manner := { assigns := true }

/-- An expansion as far as it has come. -/
structure Expansion where
  cells : Array Cell := #[]
  /-- The parts that may be divided, latest first. -/
  regions : List Region := []

/-- What expands. -/
abbrev Expanding := StateT Expansion Act

/-- What runs the command of a substitution and yields its output. -/
abbrev Substitute := Option Tree → Act String

/-- The home directories of users by their names. -/
def homeDirectories : List (String × String) :=
  [("root", "/root"), ("daemon", "/usr/sbin"), ("bin", "/bin"), ("sys", "/dev"),
    ("sync", "/bin"), ("games", "/usr/games"), ("man", "/var/cache/man"), ("lp", "/var/spool/lpd"),
    ("mail", "/var/mail"), ("news", "/var/spool/news"), ("uucp", "/var/spool/uucp"),
    ("proxy", "/bin"), ("www-data", "/var/www"), ("backup", "/var/backups"),
    ("list", "/var/list"), ("irc", "/run/ircd"), ("_apt", "/nonexistent"),
    ("nobody", "/nonexistent")]

namespace Expanding

/-- Adds a cell. -/
def add (cell : Cell) : Expanding Unit :=
  modify fun expansion => { expansion with cells := expansion.cells.push cell }

/-- Adds a text, whose characters have no meaning of their own if it is quoted. -/
def addText (isQuoted : Bool) (text : String) : Expanding Unit :=
  modify fun expansion =>
    { expansion with
      cells := text.foldl
        (fun cells c => cells.push (if isQuoted then .escaped c else .plain c)) expansion.cells }

/-- The number of cells so far. -/
def size : Expanding Nat :=
  return (← get).cells.size

/-- Notes that the cells from an index on may be divided. -/
def addRegion (first : Nat) (isQuoted : Bool) : Expanding Unit :=
  modify fun expansion =>
    { expansion with
      regions :=
        { first := first, last := expansion.cells.size, isQuoted := isQuoted } ::
          expansion.regions }

/-- Takes back the cells from an index on, and the regions there. -/
def takeBack (first : Nat) : Expanding (List Cell) := do
  let expansion ← get
  set (σ := Expansion)
    { cells := expansion.cells.extract 0 first
      regions := expansion.regions.filter fun region => region.first < first }
  return (expansion.cells.extract first expansion.cells.size).toList

/-! ## Tildes -/

/-- The part of a word behind a tilde that names a user, unless it holds anything but plain
characters. -/
def userName? (assigns : Bool) : List Part → Option (List Char × List Part)
  | [] => some ([], [])
  | part :: rest =>
    match part with
    | .char '/' => some ([], part :: rest)
    | .char c =>
      if assigns && c == ':' then some ([], part :: rest)
      else (userName? assigns rest).map fun (name, rest) => (c :: name, rest)
    | _ => none

/-- Replaces a tilde at the beginning of parts, and yields the parts behind. -/
def tilde (manner : Manner) (parts : List Part) : Expanding (List Part) := do
  match parts with
  | .char '~' :: rest =>
    match userName? manner.assigns rest with
    | none => return parts
    | some (name, behind) =>
      if manner.isIdle then
        return behind
      let memory ← getThe Memory
      let home :=
        if name.isEmpty then memory.value? "HOME"
        else homeDirectories.lookup (String.ofList name)
      match home with
      | some directory =>
        addText true directory
        return behind
      | none => return parts
  | _ => return parts

/-! ## Parameters -/

/-- Adds texts with something between them, and yields their common length. -/
def addAll (isQuoted : Bool) (between : String) : List String → Expanding Nat
  | [] => return 0
  | [text] => do
    addText isQuoted text
    return text.length
  | text :: rest => do
    addText isQuoted text
    if between == parameterEnd.toString then
      add (.plain parameterEnd)
    else
      addText isQuoted between
    return text.length + between.length + (← addAll isQuoted between rest)

/-- What stands between parameters where all of them are joined. -/
def joint (memory : Memory) (isEach divides isQuoted : Bool) : String :=
  let separators := memory.value? "IFS"
  if isEach && isQuoted && divides then
    parameterEnd.toString
  else if divides && !isQuoted then
    if separators.isSome then parameterEnd.toString else " "
  else
    match separators with
    | some text => (text.take 1).toString
    | none => " "

/-- Adds the value of a parameter, and yields its length, unless there is no value. -/
def addValue (divides isQuoted : Bool) (name : String) : Expanding (Option Nat) := do
  let memory ← getThe Memory
  let single (value : Option String) : Expanding (Option Nat) := do
    match value with
    | some text =>
      addText isQuoted text
      return some text.length
    | none => return none
  match name with
  | "$" => single (some (toString memory.identity))
  | "?" => single (some (toString memory.status))
  | "#" => single (some (toString memory.parameters.length))
  | "!" => single (memory.lastBackground.map toString)
  | "-" =>
    let letters := optionNames.filterMap fun (letter, option) =>
      if memory.has option then letter else none
    single (some (String.ofList letters.reverse))
  | "@" | "*" =>
    return some (← addAll isQuoted (joint memory (name == "@") divides isQuoted) memory.parameters)
  | _ =>
    if name.all Char.isDigit then
      let index := Text.decimalValue name.toList
      single (if index = 0 then some memory.name else memory.parameters[index - 1]?)
    else
      single (memory.value? name)

/-- Complains about a missing value. -/
def complainMissing {α : Type} (name message : String) : Expanding α :=
  monadLift (Act.fail (name ++ ": " ++ message) : Act α)

/-- The value without what a pattern fits at one of its ends. -/
def trimmed (operation : Operation) (items : List Item) (cells : List Cell) : List Cell :=
  let text := textOf cells
  let fitsFirst (count : Nat) : Bool := Pattern.fits items (text.toList.take count)
  let fitsLast (count : Nat) : Bool := Pattern.fits items (text.toList.drop count)
  let counts := List.range (cells.length + 1)
  match operation with
  | .trimLeft longest =>
    let order := if longest then counts.reverse else counts
    match order.find? fitsFirst with
    | some count => cells.drop count
    | none => cells
  | .trimRight longest =>
    let order := if longest then counts else counts.reverse
    match order.find? fitsLast with
    | some count => cells.take count
    | none => cells
  | _ => cells

/-! ## Words -/

/-- The plain characters at the beginning of a word that form one text. Where tildes are looked for,
the text ends behind a sign that one may follow. -/
def plainRun (splits : Char → Bool) : List Part → List Char × List Part
  | .char c :: rest =>
    if splits c then
      ([c], rest)
    else
      let (run, behind) := plainRun splits rest
      (c :: run, behind)
  | parts => ([], parts)

/-- Whether the parts behind a mark are exactly the list of all parameters and another mark. -/
def isAllQuoted : List Part → Option (List Part)
  | .parameter "@" .value false _ :: .mark :: rest => some rest
  | _ => none

/-- Complains about an expression. -/
def complainArithmetic {α : Type} (text : String) (fault : Arithmetic.Fault) : Act α :=
  let message (what : String) : String :=
    "arithmetic expression: " ++ what ++ ": \"" ++ text ++ "\""
  match fault with
  | .expecting what => Act.fail (message ("expecting " ++ what))
  | .divisionByZero => Act.fail (message "division by zero")
  | .badNumber text => Act.fail ("Illegal number: " ++ text)
  | .overflow => do
    Acting.signalSelf 8
    throw .finish

/-- The value of an expression, after what it assigns has been assigned. -/
def evaluated (text : String) : Act Int := do
  let memory ← get
  match Arithmetic.evaluate (fun name => (memory.value? name).getD "") text with
  | .error fault => complainArithmetic text fault
  | .ok (value, assigned) =>
    for (name, value) in assigned do
      Act.assign name (toString value)
    return value

/-- Whether something is missing, where an empty value may count as missing. -/
def isMissing (colon : Bool) (length : Option Nat) : Bool :=
  match length with
  | none => true
  | some count => colon && count = 0

/-- Runs an expansion on the side and yields the cells. -/
def aside (expand : Expanding Unit) : Expanding (List Cell) := do
  let saved ← getThe Expansion
  set (σ := Expansion) {}
  expand
  let cells := (← getThe Expansion).cells.toList
  set saved
  return cells

mutual

/-- Expands parts. Quotes may be open around them. The fuel bounds the number of parts and their
depth. -/
def parts (substitute : Substitute) : Nat → Manner → Bool → List Part → Expanding Unit
  | 0, _, _, _ => return ()
  | fuel + 1, manner, inQuotes, list => do
    let splits (c : Char) : Bool :=
      manner.assigns && (if manner.afterEquals then c == ':' else c == '=')
    let quoted := manner.isQuoted || inQuotes
    match list with
    | [] => return ()
    | .char _ :: _ =>
      let (run, rest) := plainRun splits list
      if !manner.isIdle then
        let first ← size
        addText false (String.ofList run)
        if manner.standsIn && !manner.isQuoted && !inQuotes then
          addRegion first false
      let last := run.getLastD ' '
      let rest ← if splits last then tilde manner rest else pure rest
      let afterEquals := manner.afterEquals || splits last
      parts substitute fuel { manner with afterEquals := afterEquals } inQuotes rest
    | .escaped c :: rest =>
      if !manner.isIdle then
        add (.escaped c)
      parts substitute fuel manner inQuotes rest
    | .mark :: rest =>
      match if inQuotes then none else isAllQuoted rest with
      | some rest =>
        parameter substitute fuel { manner with isQuoted := true } "@" .value false []
        parts substitute fuel manner inQuotes rest
      | none =>
        if !manner.isIdle then
          add .mark
        parts substitute fuel manner (!inQuotes) rest
    | .parameter name operation colon word :: rest =>
      parameter substitute fuel { manner with isQuoted := quoted } name operation colon word
      parts substitute fuel manner inQuotes rest
    | .output tree :: rest =>
      if !manner.isIdle then
        let first ← size
        let text ← (monadLift (substitute tree) : Expanding String)
        let kept := (text.toList.reverse.dropWhile (· == '\n')).reverse
        addText quoted (String.ofList (kept.filter (· != '\x00')))
        if !quoted then
          addRegion first false
      parts substitute fuel manner inQuotes rest
    | .arithmetic expression :: rest =>
      let cells ← aside (parts substitute fuel { isIdle := manner.isIdle } false expression)
      if !manner.isIdle then
        let first ← size
        let value ← (monadLift (evaluated (textOf cells)) : Expanding Int)
        addText quoted (toString value)
        if !quoted then
          addRegion first false
      parts substitute fuel manner inQuotes rest

/-- Expands a parameter. -/
def parameter (substitute : Substitute) :
    Nat → Manner → String → Operation → Bool → List Part → Expanding Unit
  | 0, _, _, _, _, _ => return ()
  | fuel + 1, manner, name, operation, colon, word => do
    let first ← size
    let standIn (isIdle : Bool) : Expanding Unit := do
      let inner := { manner with standsIn := true, isIdle := manner.isIdle || isIdle }
      let word ← tilde inner word
      parts substitute fuel { inner with tilde := false } false word
    let record : Expanding Unit := do
      if !manner.isIdle then
        if !manner.isQuoted then
          addRegion first false
        else if name == "@" && !(← getThe Memory).parameters.isEmpty then
          addRegion first true
    if operation = .bad then
      if manner.isIdle then
        return ()
      else
        monadLift (Act.fail "Bad substitution" : Act Unit)
    else
      let length ← addValue manner.divides manner.isQuoted name
      if operation = .instead || operation = .length || manner.isIdle then
        let _ ← takeBack first
      let missing := isMissing colon length
      match operation with
      | .otherwise =>
        standIn !missing
        if !missing then
          record
      | .instead =>
        standIn missing
        if missing then
          record
      | .assign | .demand =>
        if !missing then
          standIn true
          record
        else if !manner.isIdle then
          let cells ← aside do
            let word ← tilde {} word
            parts substitute fuel {} false word
          let text := textOf cells
          if operation = .demand then
            let usual := if colon then "parameter not set or null" else "parameter not set"
            complainMissing name (if word.isEmpty then usual else text)
          else
            monadLift (Act.assign name text : Act Unit)
            let _ ← takeBack first
            let _ ← addValue manner.divides manner.isQuoted name
            record
      | _ =>
        if missing && !manner.isIdle && (← getThe Memory).has "nounset" then
          complainMissing name "parameter not set"
        match operation with
        | .length =>
          if !manner.isIdle then
            addText manner.isQuoted (toString (length.getD 0))
            record
        | .value =>
          if !missing then
            record
        | _ =>
          let isIdle := manner.isIdle || missing
          let cells ← aside do
            let word ← tilde { isIdle := isIdle } word
            parts substitute fuel { isIdle := isIdle } false word
          if !isIdle then
            let value ← takeBack first
            let items := Pattern.items (patternOf false cells)
            let kept := trimmed operation items value
            modify fun expansion => { expansion with cells := expansion.cells ++ kept.toArray }
            record

end

/-- Expands a word. -/
def word (substitute : Substitute) (manner : Manner) (list : Word) : Expanding Unit := do
  let list ← if manner.tilde then tilde manner list else pure list
  parts substitute Reader.endless { manner with tilde := false } false list

end Expanding

namespace Act

/-- The separators of fields. -/
def separators : Act String :=
  return ((← get).value? "IFS").getD " \t\n"

/-- The fields that a word stands for. -/
def expandFields (substitute : Substitute) (manner : Manner) (word : Word) :
    Act (List String) := do
  let (_, expansion) ← (Expanding.word substitute manner word).run {}
  let cells := expansion.cells
  let fields := fieldsOf (← separators).toList none cells expansion.regions.reverse
  let memory ← get
  let mut found := #[]
  for field in fields do
    let pattern := patternOf false field
    let mayMatch := !memory.has "noglob" && field.any fun cell =>
      cell == .plain '*' || cell == .plain '?' || cell == .plain '['
    let paths ←
      if mayMatch then
        Acting.observe fun self host => Pattern.paths host.files (host.directoryOf self) pattern
      else
        pure []
    found := found ++ if paths.isEmpty then #[textOf field] else paths.toArray
  return found.toList

/-- The text that a word stands for without being divided. -/
def expandText (substitute : Substitute) (manner : Manner) (word : Word) : Act String := do
  let (_, expansion) ← (Expanding.word substitute manner word).run {}
  return textOf expansion.cells.toList

/-- The pattern that a word stands for. -/
def expandPattern (substitute : Substitute) (word : Word) : Act (List Item) := do
  let (_, expansion) ← (Expanding.word substitute { tilde := true } word).run {}
  return Pattern.items (patternOf false expansion.cells.toList)

end Act

end Runbook.Machine.Shell
