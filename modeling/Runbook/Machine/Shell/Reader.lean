import Runbook.Machine.Shell.Token

/-!
# Reading scripts

A script is read character by character. The text of an alias that stands for a word is read in
front of the rest, and as long as that goes on the word stands for itself. A script may come in
pieces, and reading stops where the next piece has to be waited for.
-/

namespace Runbook.Machine.Shell

/-- A text in front of the rest of the script, and the alias that it belongs to. -/
structure Insertion where
  text : List Char
  aliasName : Option String := none
  /-- Whether the word behind the text is looked up as an alias as well. -/
  endsInBlank : Bool := false
  /-- Characters that had been given back before the text was put in front. -/
  behind : List (Option Char) := []

/-- What is still to be read. -/
structure Input where
  text : List Char
  /-- Whether nothing will follow the text. -/
  isWhole : Bool := true
  line : Nat := 1
  insertions : List Insertion := []
  /-- Characters that were given back, the next one first. The end of the input can be one. -/
  returned : List (Option Char) := []
  /-- The aliases whose texts have just come to their ends. -/
  ending : List String := []
  /-- The aliases whose texts are being read around this input. -/
  outer : List String := []

/-- Why reading stopped. -/
inductive Stop where
  | fault (message : String) (line : Nat)
  /-- The input ends where it must not, but more of it may come. -/
  | unfinished
  deriving Repr, DecidableEq

/-- A text that will follow the line: its number, the line that ends it, whether tabulators at the
beginnings of lines are dropped, and whether it is expanded. -/
structure Pending where
  number : Nat
  mark : List Char
  dropsTabs : Bool
  expands : Bool

/-- The kinds of redirections by their signs. -/
inductive Arrow where
  | read
  | write
  | override
  | append
  | readWrite
  | copy
  | document (dropsTabs : Bool)
  deriving Repr, DecidableEq

/-- What the next token is checked for. -/
structure Checks where
  newlines : Bool := false
  reserved : Bool := false
  aliases : Bool := false
  /-- The token is the mark of a text that follows, in which nothing is expanded. -/
  mark : Bool := false
  deriving Repr, DecidableEq

/-- The checks where a command begins. -/
def Checks.command : Checks := { newlines := true, reserved := true, aliases := true }

/-- The state of reading. -/
structure Reading where
  input : Input
  aliases : List (String × String)
  checks : Checks := {}
  token : Token := .newline
  /-- Whether the token was given back. -/
  isReturned : Bool := false
  word : Word := []
  isQuoted : Bool := false
  arrow : Nat × Arrow := (0, .read)
  pending : List Pending := []
  documents : Array Word

/-- What reads. -/
abbrev Reader := StateT Reading (Except Stop)

namespace Reader

/-- Changes the input. -/
def modifyInput (change : Input → Input) : Reader Unit :=
  modify fun reading => { reading with input := change reading.input }

/-- Goes to the next line. -/
def countLine : Reader Unit :=
  modifyInput fun input => { input with line := input.line + 1 }

/-- Stops with a complaint about the script. -/
def fail {α : Type} (message : String) : Reader α := do
  throw (.fault ("Syntax error: " ++ message) (← get).input.line)

/-- Stops with a complaint about the last token. -/
def unexpected {α : Type} (wanted : Option Token) : Reader α := do
  let found := (← get).token.name ++ " unexpected"
  match wanted with
  | some token => fail (found ++ " (expecting " ++ token.name ++ ")")
  | none => fail found

/-- The next character of the insertions and the text, without those that were given back. -/
def fresh : List Insertion → Reader (Option Char)
  | [] => do
    let input := (← get).input
    match input.text with
    | c :: rest =>
      modifyInput fun input => { input with text := rest, insertions := [] }
      return some c
    | [] =>
      modifyInput fun input => { input with insertions := [] }
      if input.isWhole then return none else throw .unfinished
  | insertion :: outer => do
    match insertion.text with
    | c :: rest =>
      modifyInput fun input =>
        { input with insertions := { insertion with text := rest } :: outer }
      return some c
    | [] =>
      if insertion.aliasName.isSome && insertion.endsInBlank then
        modify fun reading => { reading with checks := { reading.checks with aliases := true } }
      modifyInput fun input =>
        { input with
          ending := insertion.aliasName.toList ++ input.ending
          insertions := outer
          returned := insertion.behind.drop 1 }
      match insertion.behind with
      | c :: _ => return c
      | [] => fresh outer

/-- The next character, or nothing at the end. -/
def next : Reader (Option Char) := do
  modifyInput fun input => { input with ending := [] }
  let input := (← get).input
  match input.returned with
  | c :: rest =>
    modifyInput fun input => { input with returned := rest }
    return c
  | [] => fresh input.insertions

/-- Gives a character back. -/
def back (c : Option Char) : Reader Unit :=
  modifyInput fun input => { input with returned := c :: input.returned }

/-- How often anything is repeated in reading. -/
def endless : Nat := 1000000000

/-- The next character behind all line ends with a backslash in front of them. The fuel bounds how
many there are. -/
def nextBehindJoints : Nat → Reader (Option Char)
  | 0 => next
  | fuel + 1 => do
    let c ← next
    if c != some '\\' then
      return c
    let following ← next
    if following == some '\n' then
      countLine
      nextBehindJoints fuel
    else
      back following
      return c

/-- The next character behind all line ends with a backslash in front of them. -/
def nextJoined : Reader (Option Char) :=
  nextBehindJoints endless

/-- Puts a text in front of what is still to be read. -/
def insert (insertion : Insertion) : Reader Unit :=
  modifyInput fun input =>
    { input with
      insertions := { insertion with behind := input.returned } :: input.insertions
      returned := [] }

/-- The alias that a word stands for, unless its text is being read. -/
def meaning? (word : String) : Reader (Option String) := do
  let reading ← get
  let input := reading.input
  let busy := input.outer ++ input.ending ++ input.insertions.filterMap Insertion.aliasName
  return if busy.contains word then none else reading.aliases.lookup word

/-- Reads something else in between, and goes on with the input afterwards. -/
def within {α : Type} (text : List Char) (read : Reader α) : Reader α := do
  let saved := (← get).input
  let busy := saved.outer ++ saved.ending ++ saved.insertions.filterMap Insertion.aliasName
  modify fun reading => { reading with input := { text := text, outer := busy } }
  let value ← read
  modify fun reading => { reading with input := saved }
  return value

end Reader

end Runbook.Machine.Shell
