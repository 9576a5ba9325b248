/-!
# Commands

The commands of the shell language as they are read. A word is a row of parts, in which marks stand
where quotes begin and end.
-/

namespace Runbook.Machine.Shell

/-- What is done with the value of a parameter. -/
inductive Operation where
  /-- The brackets hold something that is no operation. -/
  | bad
  | value
  /-- Another word stands in for a missing value. -/
  | otherwise
  /-- Another word stands in for a value that is there. -/
  | instead
  /-- A missing value is an error. -/
  | demand
  /-- A missing value is supplied for good. -/
  | assign
  | trimRight (longest : Bool)
  | trimLeft (longest : Bool)
  | length
  deriving Repr, DecidableEq

mutual

/-- A part of a word. -/
inductive Part where
  | char (c : Char)
  /-- A character without any meaning of its own. -/
  | escaped (c : Char)
  /-- The beginning or the end of a quotation. -/
  | mark
  /-- The value of a parameter. With a colon, an empty value counts as missing. -/
  | parameter (name : String) (operation : Operation) (colon : Bool) (word : List Part)
  /-- What a command writes. -/
  | output (tree : Option Tree)
  | arithmetic (expression : List Part)

/-- What a descriptor is made to lead to. -/
inductive Target where
  | read (name : List Part)
  | write (name : List Part) (overrides : Bool)
  | append (name : List Part)
  | readWrite (name : List Part)
  | copy (number : Nat)
  | close
  /-- The descriptor whose number a word gives. -/
  | copyOf (word : List Part)
  /-- A text that follows the line, by its number, and whether it is expanded. -/
  | document (number : Nat) (expands : Bool)

/-- A command. The line is the one in which it begins. -/
inductive Tree where
  | simple (line : Nat) (assignments words : List (List Part))
      (redirections : List (Nat × Target))
  | pipeline (commands : List Tree) (inBackground : Bool)
  | redirected (line : Nat) (tree : Tree) (redirections : List (Nat × Target))
  | background (line : Nat) (tree : Tree) (redirections : List (Nat × Target))
  | subshell (line : Nat) (tree : Tree) (redirections : List (Nat × Target))
  | both (first second : Tree)
  | either (first second : Tree)
  | sequence (first second : Tree)
  | opposite (tree : Tree)
  | conditional (test yes : Tree) (no : Option Tree)
  | loop (goesOnUntil : Bool) (test body : Tree)
  | forEach (line : Nat) (name : String) (words : List (List Part)) (body : Tree)
  | choice (line : Nat) (subject : List Part) (cases : List (List (List Part) × Option Tree))
  | define (name : String) (line : Nat) (body : Tree)

end

/-- A word. -/
abbrev Word := List Part

/-- A redirection of a descriptor. -/
abbrev Redirection := Nat × Target

instance : Inhabited Tree := ⟨.simple 0 [] [] []⟩

/-- The text of a word that consists of plain characters only. -/
def plainText? (word : Word) : Option String :=
  let plain? : Part → Option Char
    | .char c => some c
    | _ => none
  (word.mapM plain?).map String.ofList

/-- Whether a character can begin a name. -/
def isNameStart (c : Char) : Bool :=
  c.isAlpha || c == '_'

/-- Whether a character can stand in a name. -/
def isNamePart (c : Char) : Bool :=
  c.isAlphanum || c == '_'

/-- The name at the beginning of characters, which is empty if there is none. -/
def leadingName (cs : List Char) : List Char :=
  match cs with
  | c :: _ => if isNameStart c then cs.takeWhile isNamePart else []
  | [] => []

/-- Whether a text is a name. -/
def isName (text : String) : Bool :=
  !text.isEmpty && leadingName text.toList == text.toList

/-- The plain characters at the beginning of a word. -/
def plainStart : Word → List Char
  | .char c :: rest => c :: plainStart rest
  | _ => []

/-- Whether a word assigns to a variable: whether it begins with a name and an equals sign. -/
def isAssignment (word : Word) : Bool :=
  let start := plainStart word
  let name := leadingName start
  !name.isEmpty && (start.drop name.length).head? == some '='

/-- Whether a character is a parameter by itself. -/
def isSpecialParameter (c : Char) : Bool :=
  ['!', '#', '$', '-', '*', '@', '?'].contains c || c.isDigit

end Runbook.Machine.Shell
