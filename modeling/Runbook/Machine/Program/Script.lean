import Runbook.Machine.Program.Options
import Runbook.Machine.Numeral
import Runbook.Machine.Regex

/-!
# Scripts of the stream editor

The commands of the stream editor, and how they are read. Each command may have addresses that tell
for which lines it counts.
-/

namespace Runbook.Machine.Program.Editing

/-- A line for which a command counts, or at which it begins to. -/
inductive Address where
  | line (number : Nat)
  /-- Every so many lines from one on. -/
  | every (first step : Nat)
  | last
  /-- Lines in which an expression fits, or the one that was used last. -/
  | pattern (regex : Option (Regex × Bool))

/-- Where a range of lines ends. -/
inductive Ending where
  | address (address : Address)
  | after (count : Nat)
  | multiple (number : Nat)

/-- For which lines a command counts. -/
structure Scope where
  first : Option Address := none
  ending : Option Ending := none
  inverted : Bool := false

/-- A part of a replacement. -/
inductive Piece where
  | text (cs : List Char)
  | group (number : Nat)
  /-- How letters are changed from here on: by `U`, `L`, or not at all by `E`, or the next one by `u`
  or `l`. -/
  | case (letter : Char)

/-- Where something is written. -/
inductive Sink where
  | output
  | errors
  | file (path : String)
  deriving Repr, DecidableEq

/-- A replacement of what an expression fits. -/
structure Substitution where
  regex : Option (Regex × Bool)
  pieces : List Piece
  isGlobal : Bool := false
  /-- From which fitting place on there is a replacement. -/
  count : Nat := 1
  prints : Nat := 0
  sink : Option Sink := none

/-- When a branch is taken. -/
inductive Branching where
  | always
  | substituted
  | notSubstituted
  deriving Repr, DecidableEq

/-- What a command does. -/
inductive Action where
  /-- Goes on behind a block unless the lines are those that count. -/
  | block (behind : Nat)
  | nothing
  | branch (when' : Branching) (label : String)
  | substitute (substitution : Substitution)
  | transliterate (table : List (Char × Char))
  | append (text : List Char)
  | insert (text : List Char)
  | change (text : List Char)
  | readFile (path : String)
  | readLine (path : String)
  | write (sink : Sink)
  | writeFirst (sink : Sink)
  | list (width : Option Nat)
  | quit (isSilent : Bool) (status : Nat)
  /-- A command that is nothing but its letter. -/
  | letter (c : Char)

/-- A command with its lines. -/
structure Command where
  scope : Scope
  action : Action

/-- Commands with the places of labels. -/
structure Script where
  commands : Array Command := #[]
  labels : List (String × Nat) := []

/-- Why a script makes no sense. -/
inductive Fault where
  /-- A complaint with the number of characters that were read. -/
  | at (position : Nat) (complaint : String)
  /-- A complaint about a block that is not closed, with the place where it was opened. -/
  | unclosed (position : Nat) (complaint : String)
  | whole (complaint : String)

/-- Reading as far as it has come. -/
structure Reading where
  text : Array Char
  position : Nat := 0
  commands : Array Command := #[]
  /-- The numbers of blocks that are open and their places, innermost first. -/
  blocks : List (Nat × Nat) := []
  labels : List (String × Nat) := []
  isExtended : Bool := false

/-- What reads a part of a script. -/
abbrev Reader := StateT Reading (Except Fault)

namespace Reader

/-- Takes the next character. -/
def next? : Reader (Option Char) := do
  let reading ← get
  match reading.text[reading.position]? with
  | some c =>
    set { reading with position := reading.position + 1 }
    return some c
  | none => return none

/-- Gives a character back. -/
def back : Option Char → Reader Unit
  | some _ => modify fun reading => { reading with position := reading.position - 1 }
  | none => return ()

/-- Complains at the place that was reached. -/
def fail {α : Type} (complaint : String) : Reader α := do
  throw (.at (← get).position complaint)

/-- Takes the next character that meets a condition. -/
def takeIf? (condition : Char → Bool) : Reader (Option Char) := do
  match ← next? with
  | some c =>
    if condition c then return some c
    back (some c)
    return none
  | none => return none

/-- How many characters are left. -/
def fuel : Reader Nat := do
  let reading ← get
  return reading.text.size + 1 - reading.position

/-- Takes characters as long as they meet a condition. -/
def takeWhile (condition : Char → Bool) : Reader (List Char) := do
  let reading ← get
  let taken := (reading.text.toList.drop reading.position).takeWhile condition
  set { reading with position := reading.position + taken.length }
  return taken

/-- Takes the next character that is no blank. -/
def nextWord? : Reader (Option Char) := do
  let _ ← takeWhile fun c => c == ' ' || c == '\t'
  next?

/-- Takes digits behind one that was taken already. -/
def number (first : Char) : Reader Nat := do
  return Text.decimalValue (first :: (← takeWhile Char.isDigit))

/-- Takes the end of a command. -/
def commandEnd : Reader Unit := do
  match ← nextWord? with
  | none | some '\n' | some ';' => return ()
  | some c =>
    if c == '\x7d' || c == '#' then back (some c)
    else fail "extra characters after command"

end Reader

open Reader

/-- Takes the characters up to a sign that ends them, where brackets keep the sign from doing so in
an expression. -/
def upTo (sign : Char) (isRegex : Bool) : Nat → List Char → Bool → Reader (Option (List Char))
  | 0, _, _ => return none
  | fuel + 1, taken, inBrackets => do
    match ← next? with
    | none => return none
    | some c =>
      if c == sign && !inBrackets then return some taken.reverse
      else if c == '\n' && isRegex then return none
      else if c == '\\' && !inBrackets then
        match ← next? with
        | none => return none
        | some d =>
          if d == sign && !(!isRegex && d == '&') then upTo sign isRegex fuel (d :: taken) false
          else if d == 'n' && isRegex then upTo sign isRegex fuel ('\n' :: taken) false
          else if d == '\n' && isRegex then upTo sign isRegex fuel ('\n' :: taken) false
          else upTo sign isRegex fuel (d :: '\\' :: taken) false
      else if isRegex && c == '[' && !inBrackets then
        let opening ← takeIf? (· == '^')
        let closing ← takeIf? (· == ']')
        upTo sign isRegex fuel (closing.toList ++ opening.toList ++ c :: taken) true
      else if inBrackets && c == '[' then
        match ← takeIf? fun c => c == ':' || c == '.' || c == '=' with
        | none => upTo sign isRegex fuel (c :: taken) true
        | some mark =>
          let inner ← Reader.takeWhile fun c => c != ']' && c != '\n'
          let closing ← takeIf? (· == ']')
          upTo sign isRegex fuel (closing.toList ++ inner.reverse ++ mark :: c :: taken) true
      else if inBrackets && c == ']' then upTo sign isRegex fuel (c :: taken) false
      else upTo sign isRegex fuel (c :: taken) inBrackets

/-- The characters that stand for others behind a backslash, in expressions and replacements,
where one that has a meaning of its own may be guarded by a backslash. The fuel bounds the number of
characters. -/
def unescape (guards : Bool) : Nat → List Char → List Char
  | 0, cs => cs
  | _, [] => []
  | fuel + 1, '\\' :: c :: rest =>
    let numbered (base count : Nat) (isDigit : Char → Bool) : Option (List Char) :=
      let digits := (rest.take count).takeWhile isDigit
      if digits.isEmpty then none
      else
        let c := Char.ofNat (Text.valueIn base digits % 256)
        let others := unescape guards fuel (rest.drop digits.length)
        some (if guards && (c == '&' || c == '\\') then '\\' :: c :: others else c :: others)
    let kept := '\\' :: c :: unescape guards fuel rest
    match c with
    | 'a' => '\x07' :: unescape guards fuel rest
    | 'f' => '\x0C' :: unescape guards fuel rest
    | 'r' => '\x0D' :: unescape guards fuel rest
    | 't' => '\t' :: unescape guards fuel rest
    | 'v' => '\x0B' :: unescape guards fuel rest
    | 'd' => (numbered 10 3 Char.isDigit).getD kept
    | 'o' => (numbered 8 3 Text.isOctalDigit).getD kept
    | 'x' => (numbered 16 2 Text.isHexDigit).getD kept
    | _ => kept
  | fuel + 1, c :: rest => c :: unescape guards fuel rest

/-- Reads an expression, where none stands for the one that was used last. -/
def regexOf (pattern : List Char) (ignoresCase : Bool) :
    Reader (Option (Regex × Bool) × Nat) := do
  if pattern.isEmpty then return (none, 0)
  let style : Regex.Notation := if (← get).isExtended then .extended else .basic
  match Regex.read style true (unescape false (pattern.length + 1) pattern) with
  | .ok (regex, _, groups) => return (some (regex, ignoresCase), groups)
  | .error complaint => fail complaint

/-- Reads an address that begins with a character, if there is one. -/
def address? (c : Char) : Reader (Option Address) := do
  if c == '/' || c == '\\' then
    let sign ←
      if c == '/' then pure '/'
      else do
        match ← next? with
        | some sign => pure sign
        | none => fail "unexpected \x60,'"
    match ← upTo sign true (← fuel) [] false with
    | none => fail "unterminated address regex"
    | some pattern =>
      let flags ← Reader.takeWhile fun c => c == 'I' || c == 'M'
      return some (.pattern (← regexOf pattern (flags.contains 'I')).1)
  else if c.isDigit then
    let first ← number c
    match ← nextWord? with
    | some '~' =>
      let step ← Reader.takeWhile Char.isDigit
      return some (.every first (Text.decimalValue step))
    | other =>
      back other
      return some (.line first)
  else if c == '$' then return some .last
  else if c == '+' || c == '~' then
    let _ ← next?
    fail "invalid usage of +N or ~N as first address"
  else
    return none

/-- Reads what stands in front of a command: the lines for which it counts, and the character behind
that. -/
def scopeOf (c : Char) : Reader (Scope × Option Char) := do
  let (scope, next) ←
    match ← address? c with
    | none => pure (({} : Scope), some c)
    | some first => do
      match ← nextWord? with
      | some ',' =>
        let ending ←
          match ← nextWord? with
          | none => fail "unexpected \x60,'"
          | some sign =>
            if sign == '+' || sign == '~' then
              let digits ← Reader.takeWhile Char.isDigit
              let count := Text.decimalValue digits
              pure (if sign == '+' then Ending.after count else .multiple count)
            else
              match ← address? sign with
              | some address => pure (Ending.address address)
              | none => fail "unexpected \x60,'"
        let isZero := first matches .line 0
        let toPattern := ending matches .address (.pattern _)
        let behind ← nextWord?
        if isZero && !toPattern then
          fail "invalid usage of line address 0"
        pure ({ first := some first, ending := some ending }, behind)
      | behind =>
        if first matches .line 0 then
          fail "invalid usage of line address 0"
        pure ({ first := some first }, behind)
  if next == some '!' then
    let behind ← nextWord?
    if behind == some '!' then
      fail "multiple \x60!'s"
    return ({ scope with inverted := true }, behind)
  else
    return (scope, next)

/-- Reads the text of a command up to the end of a line that has no backslash in front of it. -/
def textLines : Nat → List Char → Reader (List Char)
  | 0, taken => return taken.reverse
  | fuel + 1, taken => do
    match ← next? with
    | none | some '\n' => return taken.reverse
    | some '\\' =>
      match ← next? with
      | some c => textLines fuel (c :: '\\' :: taken)
      | none => return taken.reverse
    | some c => textLines fuel (c :: taken)

/-- A text of a command without the backslashes that take the meaning of what follows. -/
def plainText : List Char → List Char
  | '\\' :: 'n' :: rest => '\n' :: plainText rest
  | '\\' :: c :: rest => c :: plainText rest
  | c :: rest => c :: plainText rest
  | [] => []

/-- Reads the text of a command, which is complete lines. -/
def text : Reader (List Char) := do
  let cs ← textLines (← fuel) []
  return plainText (unescape false (cs.length + 1) cs) ++ ['\n']

/-- Reads the text that a command adds. -/
def addedText : Reader (List Char) := do
  let isBlank (c : Char) : Bool := c == ' ' || c == '\t'
  match ← nextWord? with
  | none => fail "expected \\ after \x60a', \x60c' or \x60i'"
  | some '\\' =>
    let blanks ← Reader.takeWhile isBlank
    match ← next? with
    | none => return []
    | some '\n' => text
    | some c =>
      back (some c)
      modify fun reading => { reading with position := reading.position - blanks.length }
      text
  | some c =>
    back (some c)
    text

/-- Reads the name of a file up to the end of a line. -/
def fileName : Reader String := do
  let _ ← Reader.takeWhile fun c => c == ' ' || c == '\t'
  let name ← Reader.takeWhile (· != '\n')
  let _ ← next?
  if name.isEmpty then
    fail "missing filename in r/R/w/W commands"
  return String.ofList name

/-- Where a name leads that something is written to. -/
def sinkOf (name : String) : Sink :=
  match name with
  | "/dev/stdout" => .output
  | "/dev/stderr" => .errors
  | _ => .file name

/-- Reads a label. -/
def label : Reader String := do
  let _ ← Reader.takeWhile fun c => c == ' ' || c == '\t'
  let name ← Reader.takeWhile fun c => c != '\n' && c != ';' && c != ' ' && c != '\t'
  return String.ofList name

/-- The parts of a replacement. The fuel bounds the number of characters. -/
def pieces : Nat → List Char → List Char → List Piece
  | 0, _, _ => []
  | _, plain, [] => if plain.isEmpty then [] else [.text plain.reverse]
  | fuel + 1, plain, c :: rest =>
    let before : List Piece := if plain.isEmpty then [] else [.text plain.reverse]
    match c, rest with
    | '&', _ => before ++ .group 0 :: pieces fuel [] rest
    | '\\', d :: rest =>
      if d.isDigit then before ++ .group (d.toNat - 48) :: pieces fuel [] rest
      else if ['U', 'L', 'E', 'u', 'l'].contains d then before ++ .case d :: pieces fuel [] rest
      else if d == 'n' then pieces fuel ('\n' :: plain) rest
      else pieces fuel (d :: plain) rest
    | _, _ => pieces fuel (c :: plain) rest

/-- Reads the flags of a substitution. The fuel bounds their number. -/
def substitutionFlags : Nat → Bool → Substitution → Bool → Reader (Substitution × Bool)
  | 0, _, substitution, ignoresCase => return (substitution, ignoresCase)
  | fuel + 1, hasCount, substitution, ignoresCase => do
    match ← next? with
    | none | some '\n' | some ';' => return (substitution, ignoresCase)
    | some c =>
      match c with
      | 'i' | 'I' => substitutionFlags fuel hasCount substitution true
      | 'm' | 'M' | 'e' => substitutionFlags fuel hasCount substitution ignoresCase
      | 'g' =>
        if substitution.isGlobal then
          fail "multiple \x60g' options to \x60s' command"
        substitutionFlags fuel hasCount { substitution with isGlobal := true } ignoresCase
      | 'p' =>
        if 0 < substitution.prints then
          fail "multiple \x60p' options to \x60s' command"
        substitutionFlags fuel hasCount { substitution with prints := 1 } ignoresCase
      | 'w' =>
        let name ← fileName
        return ({ substitution with sink := some (sinkOf name) }, ignoresCase)
      | '#' | '\x7d' =>
        back (some c)
        return (substitution, ignoresCase)
      | _ =>
        if c.isDigit then
          if hasCount then
            fail "multiple number options to \x60s' command"
          let count ← number c
          if count = 0 then
            fail "number option to \x60s' command may not be zero"
          substitutionFlags fuel true { substitution with count := count } ignoresCase
        else if c == ' ' || c == '\t' || c == '\x0D' then
          substitutionFlags fuel hasCount substitution ignoresCase
        else
          fail "unknown option to \x60s'"

/-- Reads a substitution. -/
def substitution : Reader Action := do
  match ← next? with
  | none => fail "unterminated \x60s' command"
  | some sign =>
    match ← upTo sign true (← fuel) [] false with
    | none => fail "unterminated \x60s' command"
    | some pattern =>
      match ← upTo sign false (← fuel) [] false with
      | none => fail "unterminated \x60s' command"
      | some replacement =>
        let plain := unescape true (replacement.length + 1) replacement
        let parts := pieces (plain.length + 1) [] plain
        let (substitution, ignoresCase) ←
          substitutionFlags (← fuel) false ⟨none, parts, false, 1, 0, none⟩ false
        let (regex, groups) ← regexOf pattern ignoresCase
        let wanted := parts.foldl
          (fun most part =>
            match part with
            | .group number => max most number
            | _ => most)
          0
        if regex.isSome && groups < wanted then
          fail ("invalid reference \\" ++ toString wanted ++ " on \x60s' command's RHS")
        return .substitute { substitution with regex := regex }

/-- The characters of a list of a transliteration. -/
def listed : List Char → List Char
  | '\\' :: 'n' :: rest => '\n' :: listed rest
  | '\\' :: '\\' :: rest => '\\' :: listed rest
  | c :: rest => c :: listed rest
  | [] => []

/-- Reads a transliteration. -/
def transliteration : Reader Action := do
  match ← next? with
  | none => fail "unterminated \x60y' command"
  | some sign =>
    match ← upTo sign false (← fuel) [] false with
    | none => fail "unterminated \x60y' command"
    | some source =>
      match ← upTo sign false (← fuel) [] false with
      | none => fail "unterminated \x60y' command"
      | some target =>
        let source := listed (unescape false (source.length + 1) source)
        let target := listed (unescape false (target.length + 1) target)
        if source.length ≠ target.length then
          fail "strings for \x60y' command are different lengths"
        commandEnd
        return .transliterate (source.zip target)

/-- Reads a whole number behind a command, if there is one. -/
def argument? : Reader (Option Nat) := do
  match ← nextWord? with
  | some c =>
    if c.isDigit then
      return some (← number c)
    else
      back (some c)
      return none
  | none => return none

/-- Puts a command behind those that have been read. -/
def add (scope : Scope) (action : Action) : Reader Unit :=
  modify fun reading => { reading with commands := reading.commands.push ⟨scope, action⟩ }

/-- Reads a command with a letter. -/
def command (scope : Scope) (letter : Char) : Reader Unit := do
  match letter with
  | '#' =>
    if scope.first.isSome then
      fail "comments don't accept any addresses"
    let _ ← Reader.takeWhile (· != '\n')
  | ':' =>
    if scope.first.isSome then
      fail ": doesn't want any addresses"
    let name ← label
    if name.isEmpty then
      fail "\":\" lacks a label"
    modify fun reading =>
      { reading with labels := reading.labels ++ [(name, reading.commands.size)] }
  | '\x7b' =>
    modify fun reading =>
      { reading with blocks := (reading.commands.size, reading.position) :: reading.blocks }
    add scope (.block 0)
  | '\x7d' =>
    match (← get).blocks with
    | [] => fail "unexpected \x60\x7d'"
    | (place, _) :: rest =>
      if scope.first.isSome then
        fail "\x7d doesn't want any addresses"
      modify fun reading =>
        { reading with
          blocks := rest
          commands := reading.commands.modify place fun command =>
            { command with action := .block reading.commands.size } }
      commandEnd
  | 'a' => add scope (.append (← addedText))
  | 'i' => add scope (.insert (← addedText))
  | 'c' => add scope (.change (← addedText))
  | 'b' | 't' | 'T' =>
    let _ ← Reader.takeWhile fun c => c == ' ' || c == '\t'
    let name ← Reader.takeWhile fun c => !Numeral.isSpace c && c != ';' && c != '\x7d'
    let branching : Branching :=
      match letter with
      | 'b' => .always
      | 't' => .substituted
      | _ => .notSubstituted
    add scope (.branch branching (String.ofList name))
  | 'r' => add scope (.readFile (← fileName))
  | 'R' => add scope (.readLine (← fileName))
  | 'w' => add scope (.write (sinkOf (← fileName)))
  | 'W' => add scope (.writeFirst (sinkOf (← fileName)))
  | 's' => add scope (← substitution)
  | 'y' => add scope (← transliteration)
  | 'q' | 'Q' =>
    if scope.ending.isSome then
      fail "command only uses one address"
    let status ← argument?
    commandEnd
    add scope (.quit (letter == 'Q') (status.getD 0))
  | 'l' | 'L' =>
    let width ← argument?
    commandEnd
    add scope (.list width)
  | _ =>
    if "dDgGhHnNpPxz=F".toList.contains letter then
      commandEnd
      add scope (.letter letter)
    else
      fail ("unknown command: \x60" ++ letter.toString ++ "'")

/-- Reads commands. The fuel bounds their number. -/
def commands : Nat → Reader Unit
  | 0 => return ()
  | fuel + 1 => do
    let _ ← Reader.takeWhile fun c => c == ';' || c == ' ' || (9 ≤ c.toNat && c.toNat ≤ 13)
    match ← next? with
    | none => return ()
    | some c =>
      let (scope, letter) ← scopeOf c
      match letter with
      | none => fail "missing command"
      | some letter =>
        command scope letter
        commands fuel

/-- Reads a script. -/
def scriptOf (isExtended : Bool) (text : List Char) : Except Fault Script := do
  let act : Reader Unit := do
    commands (text.length + 2)
    if let (_, position) :: _ := (← get).blocks then
      throw (.unclosed position "unmatched \x60\x7b'")
  let (_, reading) ← act.run { text := text.toArray, isExtended := isExtended }
  for command in reading.commands.reverse do
    if let .branch _ name := command.action then
      if !name.isEmpty && (reading.labels.lookup name).isNone then
        throw (.whole ("can't find label for jump to \x60" ++ name ++ "'"))
  return { commands := reading.commands, labels := reading.labels }

end Runbook.Machine.Program.Editing
