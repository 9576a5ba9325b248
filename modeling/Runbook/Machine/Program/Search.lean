import Runbook.Machine.Program.Entries
import Runbook.Machine.Program.Reading
import Runbook.Machine.Regex
import Runbook.Machine.Shell.Pattern

/-!
# Searching files

The program that prints the lines of files in which an expression fits, with the lines around them,
their numbers and the names of the files.
-/

namespace Runbook.Machine.Program.Search

open OptionTable

/-! ## Matching -/

/-- How expressions are written. -/
inductive Style where
  | basic
  | extended
  | fixed
  deriving Repr, DecidableEq

/-- What is searched for. -/
structure Matcher where
  patterns : List Regex
  ignoresCase : Bool := false
  wholeWords : Bool := false
  wholeLines : Bool := false

/-- Whether a text between two places is what is searched for, as far as its surroundings go. -/
def Matcher.accepts (matcher : Matcher) (text : Array Char) (first last : Nat) : Bool :=
  let isWord (place : Nat) : Bool := (text[place]?).any Regex.isWordChar
  let isWhole := first = 0 && last = text.size
  let touches := (0 < first && isWord (first - 1)) || isWord last
  (!matcher.wholeLines || isWhole) && (!matcher.wholeWords || !touches)

/-- The longest text from a place on that is searched for. -/
def Matcher.fitAt (matcher : Matcher) (line : Array Char) (first : Nat) : Option Nat :=
  let subject : Regex.Subject :=
    { text := line, ignoresCase := matcher.ignoresCase, remembers := true }
  let ends := matcher.patterns.flatMap fun pattern =>
    (pattern.reaches subject { position := first }).map Regex.Reach.position
  (ends.filter (matcher.accepts line first)).foldl
    (fun best last => some (max last (best.getD 0))) none

/-- The first text from a place on that is searched for. The fuel bounds the number of places. -/
def Matcher.find? (matcher : Matcher) (line : Array Char) : Nat → Nat → Option (Nat × Nat)
  | 0, _ => none
  | fuel + 1, first =>
    if line.size < first then none
    else
      match matcher.fitAt line first with
      | some last => some (first, last)
      | none => if matcher.wholeLines then none else matcher.find? line fuel (first + 1)

/-- All texts in a line that are searched for, but for empty ones. The fuel bounds their number. -/
def Matcher.all (matcher : Matcher) (line : Array Char) : Nat → Nat → List (Nat × Nat)
  | 0, _ => []
  | fuel + 1, first =>
    match matcher.find? line (line.size + 2) first with
    | none => []
    | some (first, last) =>
      if last ≤ first then matcher.all line fuel (first + 1)
      else (first, last) :: matcher.all line fuel last

/-- The expression that fits nothing but a text. -/
def literal (text : List Char) : Regex :=
  text.foldr (fun c rest => .both (.one (· == c)) rest) .empty

/-- The complaint about an expression that makes no sense. -/
def complaintOf (pattern : List Char) (complaint : String) : String :=
  if complaint == Regex.unmatchedBracket && pattern.getLast? == some '[' then
    "Invalid regular expression"
  else
    complaint

/-- A part of an expression: a character that may be an operator, one that is none because a
backslash stands in front of it, or what stands between brackets. -/
inductive Part where
  | sign (c : Char) (rest : List Char)
  | escaped (c : Char)
  | bracket (content : List Char)

/-- What stands in front of the closing bracket and what stands behind it. The fuel bounds the
length. -/
def bracketSpan : Nat → List Char → List Char × List Char
  | 0, cs => ([], cs)
  | _ + 1, [] => ([], [])
  | _ + 1, ']' :: rest => ([], rest)
  | fuel + 1, '[' :: kind :: rest =>
    if [':', '.', '='].contains kind then
      let name := rest.takeWhile (· != ']')
      let (content, behind) := bracketSpan fuel (rest.drop (name.length + 1))
      ('[' :: kind :: name ++ ']' :: content, behind)
    else
      let (content, behind) := bracketSpan fuel (kind :: rest)
      ('[' :: content, behind)
  | fuel + 1, c :: rest =>
    let (content, behind) := bracketSpan fuel rest
    (c :: content, behind)

/-- The parts of an expression. The fuel bounds its length. -/
def partsOf : Nat → List Char → List Part
  | 0, _ | _ + 1, [] => []
  | fuel + 1, '\\' :: c :: rest => .escaped c :: partsOf fuel rest
  | fuel + 1, '[' :: rest =>
    let inner := if rest.head? == some '^' then rest.drop 1 else rest
    let first := if inner.head? == some ']' then [']'] else []
    let inner := inner.drop first.length
    let (content, behind) := bracketSpan (inner.length + 1) inner
    .bracket (first ++ content) :: partsOf fuel behind
  | fuel + 1, c :: rest => .sign c rest :: partsOf fuel rest

/-- Whether what stands between brackets looks like the name of a class whose own brackets were
forgotten. -/
def looksLikeClass (content : List Char) : Bool :=
  content.head? == some ':' && content.getLast? == some ':' && content.any (· != ':') &&
    !content.contains '[' && !(content.drop 1).dropLast.contains '-'

/-- The warnings about operators of the extended notation that have nothing to work on. -/
def warningsOf : Bool → List Part → List String
  | _, [] => []
  | isStart, part :: rest =>
    let warning (sign : String) : List String := [sign ++ " at start of expression"]
    match part with
    | .bracket _ | .escaped _ => warningsOf false rest
    | .sign c behind =>
      if c == '*' || c == '+' || c == '?' then
        (if isStart then warning (String.singleton c) else []) ++ warningsOf isStart rest
      else if c == '\x7b' && isStart && (Regex.interval? .extended behind).isSome then
        warning "\x7b...\x7d" ++ warningsOf false rest
      else
        warningsOf (c == '(' || c == '|' || (isStart && (c == '^' || c == '$'))) rest

/-- Reads an expression. -/
def patternOf (style : Style) (pattern : List Char) : Except String Regex :=
  let read (written : Regex.Notation) : Except String Regex :=
    match Regex.read written false pattern with
    | .ok (regex, _, _) =>
      let isConfusing : Part → Bool
        | .bracket content => looksLikeClass content
        | _ => false
      if (partsOf pattern.length pattern).any isConfusing then
        .error "character class syntax is [[:space:]], not [:space:]"
      else
        .ok regex
    | .error complaint => .error (complaintOf pattern complaint)
  match style with
  | .fixed => .ok (literal pattern)
  | .basic => read .basic
  | .extended => read .extended

/-! ## Printing -/

/-- What is printed of the lines that are found. -/
structure Showing where
  inverts : Bool := false
  counts : Bool := false
  /-- Whether only the names of files are printed, of those with lines or of those without. -/
  lists : Option Bool := none
  quiet : Bool := false
  onlyMatches : Bool := false
  withName : Bool := false
  withNumber : Bool := false
  withOffset : Bool := false
  before : Nat := 0
  after : Nat := 0
  limit : Option Nat := none
  mark : Char := '\n'
  isText : Bool := false
  silent : Bool := false
  label : String := "(standard input)"
  nameEnd : Option Char := none
  colors : Bool := false

/-- A line of a file, with its number and its place in the file. -/
structure Line where
  text : List Char
  number : Nat
  offset : Nat

/-- The lines of a file with their numbers and places. -/
def linesOf (mark : Char) (text : String) : List Line :=
  let (lines, rest) := Task.splitLines mark text.toList
  let all := lines ++ if rest.isEmpty then [] else [rest]
  let (numbered, _, _) := all.foldl
    (fun (state : List Line × Nat × Nat) line =>
      let (done, number, offset) := state
      (⟨line, number, offset⟩ :: done, number + 1, offset + line.length + 1))
    ([], 1, 0)
  numbered.reverse

/-- What stands in front of a line, or of a part of it. -/
def Showing.front (showing : Showing) (name : String) (separator : String) (number offset : Nat) :
    String :=
  let nameText :=
    if !showing.withName then ""
    else
      match showing.nameEnd with
      | some c => name ++ c.toString
      | none => name ++ separator
  nameText ++ (if showing.withNumber then toString number ++ separator else "") ++
    (if showing.withOffset then toString offset ++ separator else "")

/-- A line in which what was searched for has a color. -/
def colored (matcher : Matcher) (line : List Char) : String :=
  let text := line.toArray
  let rec go (position : Nat) : List (Nat × Nat) → String
    | [] => String.ofList (line.drop position)
    | (first, last) :: rest =>
      String.ofList ((line.drop position).take (first - position)) ++ "\x1b[01;31m\x1b[K" ++
        String.ofList ((line.drop first).take (last - first)) ++ "\x1b[m\x1b[K" ++ go last rest
  go 0 (matcher.all text (text.size + 1) 0)

/-- Prints a line that was selected. -/
def printSelected (matcher : Matcher) (showing : Showing) (name : String) (line : Line) :
    Task Unit := do
  if showing.onlyMatches then
    if !showing.inverts then
      let text := line.text.toArray
      for (first, last) in matcher.all text (text.size + 1) 0 do
        let part := String.ofList ((text.extract first last).toList)
        let part := if showing.colors then "\x1b[01;31m\x1b[K" ++ part ++ "\x1b[m\x1b[K" else part
        Task.write (showing.front name ":" line.number (line.offset + first) ++ part ++
          showing.mark.toString)
  else
    let text :=
      if showing.colors && !showing.inverts then colored matcher line.text
      else String.ofList line.text
    Task.write (showing.front name ":" line.number line.offset ++ text ++ showing.mark.toString)

/-- Prints lines, of which some were selected and others stand near those. The number of the line
that was printed last is given, if one was. -/
def printLines (matcher : Matcher) (showing : Showing) (name : String) :
    Option Nat → List (Line × Bool) → Task (Option Nat)
  | last, [] => return last
  | last, (line, isSelected) :: rest => do
    let hasContext := 0 < showing.before || 0 < showing.after
    if let some last := last then
      if hasContext && last + 1 < line.number && !showing.onlyMatches then
        Task.write "--\n"
    if isSelected then
      printSelected matcher showing name line
    else if !showing.onlyMatches then
      Task.write (showing.front name "-" line.number line.offset ++ String.ofList line.text ++
        showing.mark.toString)
    printLines matcher showing name (some line.number) rest

/-- The lines that were selected, with those near them. -/
def withContext (showing : Showing) (lines : List (Line × Bool)) : List (Line × Bool) :=
  let selected := lines.filterMap fun (line, isSelected) =>
    if isSelected then some line.number else none
  let isNear (number : Nat) : Bool := selected.any fun other =>
    (other ≤ number && number ≤ other + showing.after) ||
      (number ≤ other && other ≤ number + showing.before)
  if showing.before = 0 && showing.after = 0 then lines.filter Prod.snd
  else lines.filter fun (line, _) => isNear line.number

/-- Deselects all lines behind the first so many. -/
def limited : Option Nat → List (Line × Bool) → List (Line × Bool)
  | none, lines => lines
  | _, [] => []
  | some 0, (line, _) :: rest => (line, false) :: limited (some 0) rest
  | some (count + 1), (line, isSelected) :: rest =>
    (line, isSelected) :: limited (some (if isSelected then count else count + 1)) rest

/-- What has been found so far. -/
structure Found where
  isAny : Bool := false
  /-- Whether something was printed with lines around it. -/
  printed : Bool := false

/-- Searches a text. -/
def searchText (matcher : Matcher) (showing : Showing) (name text : String) (found : Found) :
    Task Found := do
  let lines := (linesOf showing.mark text).map fun line =>
    let fits := (matcher.find? line.text.toArray (line.text.length + 2) 0).isSome
    (line, fits != showing.inverts)
  let lines := limited showing.limit lines
  let count := (lines.filter Prod.snd).length
  let isAny := found.isAny || 0 < count
  if showing.quiet then
    if 0 < count then
      Task.leave 0
    return { found with isAny := isAny }
  if let some wanted := showing.lists then
    if wanted == decide (0 < count) then
      Task.write (name ++ (showing.nameEnd.getD '\n').toString)
    return { found with isAny := isAny }
  if showing.counts then
    let front := { showing with withNumber := false, withOffset := false }.front name ":" 0 0
    Task.write (front ++ toString count ++ "\n")
    return { found with isAny := isAny }
  let isBinary := !showing.isText && showing.mark == '\n' && text.toList.contains '\x00'
  if isBinary then
    if 0 < count then
      Task.flush
      Task.complain (name ++ ": binary file matches")
    return { found with isAny := isAny }
  let chosen := withContext showing lines
  if chosen.isEmpty then
    return { found with isAny := isAny }
  let hasContext := 0 < showing.before || 0 < showing.after
  if found.printed && hasContext && !showing.onlyMatches then
    Task.write "--\n"
  let _ ← printLines matcher showing name none chosen
  return { found with isAny := isAny, printed := true }

/-! ## Files -/

/-- Which files of a directory are searched. -/
structure Choice where
  recursive : Bool := false
  skipsDirectories : Bool := false
  included : List String := []
  excluded : List String := []
  excludedDirectories : List String := []

/-- Whether a name fits a pattern for file names. -/
def isMatch (name pattern : String) : Bool :=
  Shell.Pattern.fits (Shell.Pattern.items pattern.toList) name.toList

/-- Whether a file with a name is searched. -/
def Choice.takes (choice : Choice) (name : String) : Bool :=
  (choice.included.isEmpty || choice.included.any (isMatch name)) &&
    !choice.excluded.any (isMatch name)

/-- Complains about a file. -/
def errFile (showing : Showing) (path : String) (fault : OsError) : Task Unit := do
  if showing.silent then Task.setStatus 2
  else Task.err (path ++ ": " ++ fault.wording)

/-- Searches what a path leads to. The fuel bounds the depth. -/
def searchPath (matcher : Matcher) (choice : Choice) :
    Nat → Bool → Showing → String → Found → Task Found
  | 0, _, _, _, found => return found
  | fuel + 1, isArgument, showing, path, found => do
    if path == "-" && isArgument then
      match ← Acting.receiveAll 0 with
      | .ok text => return ← searchText matcher showing showing.label text found
      | .error fault =>
        errFile showing showing.label fault
        return found
    match ← fileAt path true with
    | .error fault =>
      errFile showing path fault
      return found
    | .ok (number, file) =>
      if isDirectoryKind file.kind then
        if choice.recursive then
          let names ← Acting.observe fun _ host =>
            ((host.files.entries number).mergeSort fun first second =>
              first.2 ≤ second.2).map Prod.fst
          let mut found := found
          for name in names do
            let below := if path == "." && !isArgument then name else inside path name
            let (isDirectory, isLink) ←
              match ← fileAt (inside path name) false with
              | .ok (_, file) => pure (isDirectoryKind file.kind, file.kind matches .link _)
              | .error _ => pure (false, false)
            let isWanted :=
              if isDirectory then !choice.excludedDirectories.any (isMatch name)
              else choice.takes name && !isLink
            if isWanted then
              found ← searchPath matcher choice fuel false showing below found
          return found
        else
          if !choice.skipsDirectories then
            errFile showing path .isADirectory
          return found
      else if isArgument && !choice.takes (lastName path) then
        return found
      else
        match ← Task.readFile path with
        | .ok text => searchText matcher showing path text found
        | .error fault =>
          errFile showing path fault
          return found

/-! ## The program -/

/-- What is told about the arguments. -/
def synopsis : String := "Usage: grep [OPTION]... PATTERNS [FILE]...\n"

/-- The options. -/
def table : OptionTable :=
  ofLists "0123456789A:B:C:D:EFGHILPRTUVX:abcd:e:f:hilm:noqrsuvwxyzZ"
    (flags [("basic-regexp", "G"), ("byte-offset", "b"), ("count", "c"),
      ("dereference-recursive", "R"), ("extended-regexp", "E"), ("files-with-matches", "l"),
      ("files-without-match", "L"), ("fixed-regexp", "F"), ("fixed-strings", "F"),
      ("ignore-case", "i"), ("no-ignore-case", "no-ignore-case"), ("initial-tab", "T"),
      ("invert-match", "v"), ("line-buffered", "line-buffered"), ("line-number", "n"),
      ("line-regexp", "x"), ("no-filename", "h"), ("no-group-separator", "no-separator"),
      ("no-messages", "s"), ("null", "Z"), ("null-data", "z"), ("only-matching", "o"),
      ("perl-regexp", "P"), ("quiet", "q"), ("silent", "q"), ("recursive", "r"), ("text", "a"),
      ("binary", "U"), ("with-filename", "H"), ("word-regexp", "w")] ++
      valued [("after-context", "A"), ("before-context", "B"), ("context", "C"),
        ("binary-files", "binary-files"), ("directories", "d"), ("devices", "D"),
        ("exclude", "exclude"), ("exclude-from", "exclude-from"),
        ("exclude-dir", "exclude-dir"), ("file", "f"), ("include", "include"),
        ("label", "label"), ("max-count", "m"), ("regexp", "e"),
        ("group-separator", "group-separator")] ++
      [{ name := "color", arity := .optional, key := "color" },
        { name := "colour", arity := .optional, key := "color" }])

/-- The patterns that the options and the first argument give, and the other arguments. -/
def patternsOf (given : Given) : Task (List (List Char) × List String) := do
  let mut parts : List (List Char) := []
  for (key, value) in given.options do
    let text := value.getD ""
    if key == "e" then
      parts := parts ++ Text.splitAt '\n' text.toList
    else if key == "f" then
      match ← Task.readFile text with
      | .error fault => Task.fail (text ++ ": " ++ fault.wording)
      | .ok content =>
        let (lines, rest) := Task.splitLines '\n' content.toList
        parts := parts ++ lines ++ (if rest.isEmpty then [] else [rest])
  if given.has "e" || given.has "f" then
    return (parts, given.operands)
  match given.operands with
  | pattern :: rest => return (Text.splitAt '\n' pattern.toList, rest)
  | [] =>
    Task.suggestHelp
    Task.leave 2

/-- How many lines around others an option asks for. -/
def contextOf (text : String) : Task Nat := do
  match Text.natural? text.toList with
  | some count => return count
  | none => Task.fail (text ++ ": invalid context length argument")

/-- Searches files, where expressions are written in a style unless options tell something else. -/
def searchIn (usual : Style) (arguments : List String) : Task Unit := do
  modify fun state => { state with failure := 2, synopsis := synopsis }
  let given ← Task.options table arguments
  let digits := given.options.filter fun option =>
    option.1.length = 1 && option.1.toList.all Char.isDigit
  let around ←
    match given.value? "C" with
    | some text => contextOf text
    | none => pure (Text.decimalValue (digits.flatMap fun option => option.1.toList))
  let before ← (given.value? "B").mapM contextOf
  let after ← (given.value? "A").mapM contextOf
  let limit ←
    match given.value? "m" with
    | none => pure none
    | some text =>
      match Text.natural? text.toList with
      | some count => pure (some count)
      | none => if text.startsWith "-" then pure none else Task.fail "invalid max count"
  let (patterns, operands) ← patternsOf given
  let style : Style :=
    match given.last? ["E", "F", "G", "P"] with
    | some "E" | some "P" => .extended
    | some "F" => .fixed
    | some "G" => .basic
    | _ => usual
  let regexes ← patterns.mapM fun pattern => do
    match patternOf style pattern with
    | .ok regex =>
      if style = .extended then
        for warning in warningsOf true (partsOf pattern.length pattern) do
          Task.warn ("warning: " ++ warning)
      return regex
    | .error complaint => Task.fail complaint
  let matcher : Matcher :=
    { patterns := regexes
      ignoresCase := given.last? ["i", "y", "no-ignore-case"] ∈ [some "i", some "y"]
      wholeWords := given.has "w"
      wholeLines := given.has "x" }
  let texts (key : String) : List String :=
    given.options.filterMap fun option => if option.1 == key then option.2 else none
  let recursive := given.has "r" || given.has "R" || given.value? "d" == some "recurse"
  let choice : Choice :=
    { recursive := recursive
      skipsDirectories := given.value? "d" == some "skip"
      included := texts "include"
      excluded := texts "exclude"
      excludedDirectories := texts "exclude-dir" }
  let isImplied := operands.isEmpty && recursive
  let paths := if operands.isEmpty then (if recursive then ["."] else ["-"]) else operands
  let isDirectory ← isDirectoryAt (paths.headD "") true
  let named :=
    match given.last? ["H", "h"] with
    | some "H" => true
    | some _ => false
    | none => 1 < paths.length || (recursive && isDirectory)
  let color := (given.value? "color").getD (if given.has "color" then "auto" else "never")
  let showing : Showing :=
    { inverts := given.has "v"
      counts := given.has "c"
      lists := (given.last? ["l", "L"]).map (· == "l")
      quiet := given.has "q"
      onlyMatches := given.has "o"
      withName := named
      withNumber := given.has "n"
      withOffset := given.has "b"
      before := before.getD around
      after := after.getD around
      limit := limit
      mark := if given.has "z" then '\x00' else '\n'
      isText := given.has "a" || given.value? "binary-files" == some "text"
      silent := given.has "s"
      label := (given.value? "label").getD "(standard input)"
      nameEnd := if given.has "Z" then some '\x00' else none
      colors := ["always", "yes", "force"].contains color }
  let mut found : Found := {}
  for path in paths do
    found ← searchPath matcher choice depthLimit (!isImplied) showing path found
  if (← get).status = 0 && !found.isAny then
    Task.setStatus 1

/-- Searches files for expressions in the basic notation. -/
def search (arguments : List String) : Task Unit :=
  searchIn .basic arguments

/-- Searches files for expressions in the extended notation. -/
def searchExtended (arguments : List String) : Task Unit :=
  searchIn .extended arguments

/-- Searches files for texts. -/
def searchFixed (arguments : List String) : Task Unit :=
  searchIn .fixed arguments

end Runbook.Machine.Program.Search
