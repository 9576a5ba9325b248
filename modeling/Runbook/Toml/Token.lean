import Runbook.Text.Number

/-!
# Tokens of a document

The characters of a TOML document are grouped into tokens by an automaton that reads one character
at a time. Texts between quotes come out decoded, comments leave nothing behind, and what is neither
punctuation nor quoted becomes an atom: a bare key or part of a scalar.
-/

namespace Runbook.Toml

/-- A token. -/
inductive Token where
  | dot
  | equals
  | comma
  | openBracket
  | closeBracket
  | openBrace
  | closeBrace
  | newline
  /-- A blank that does not end the line. -/
  | blank (c : Char)
  /-- A quoted text on one line. -/
  | text (value : String)
  /-- A quoted text that may span lines. -/
  | block (value : String)
  | atom (spelling : List Char)
  deriving Repr, DecidableEq

/-- Whether a character may occur in a document at all. -/
def isAllowed (c : Char) : Bool :=
  (0x20 ≤ c.toNat && c.toNat != 0x7F) || c == '\t' || c == '\n' || c == '\r'

/-- Whether every carriage return is followed by a line feed. -/
def returnsArePaired : List Char → Bool
  | [] => true
  | ['\r'] => false
  | '\r' :: c :: rest => c == '\n' && returnsArePaired rest
  | _ :: rest => returnsArePaired rest

/-- The two kinds of quoted text. -/
inductive Quoting where
  /-- Between double quotes, with escapes. -/
  | basic
  /-- Between single quotes, where every character stands for itself. -/
  | literal
  deriving Repr, DecidableEq

/-- The quote of a kind. -/
def Quoting.mark : Quoting → Char
  | .basic => '"'
  | .literal => '\''

/-- Whether a quoted text ends at one quote or at three. -/
inductive Extent where
  | line
  | block
  deriving Repr, DecidableEq

/-- What the automaton is in the middle of. What has been read so far of a token is kept in reverse.
-/
inductive Mode where
  | between
  | comment
  | atom (read : List Char)
  /-- One quote, or two if `twice`, where a text begins. -/
  | opening (quoting : Quoting) (twice : Bool)
  | line (quoting : Quoting) (read : List Char)
  /-- A text between three quotes, with the number of quotes just read. At its very start a line end
  is dropped. -/
  | block (quoting : Quoting) (atStart : Bool) (quotes : Nat) (read : List Char)
  | escape (extent : Extent) (read : List Char)
  /-- Hexadecimal digits of an escape, so many of them still to come. -/
  | digits (extent : Extent) (owed value : Nat) (read : List Char)
  /-- The blanks after a backslash that joins lines, and whether the line has ended yet. -/
  | joint (ended : Bool) (read : List Char)
  deriving Repr, DecidableEq

/-- The automaton: the tokens so far, latest first, and the mode. -/
structure Lexer where
  tokens : List Token := []
  mode : Mode := .between
  deriving Repr, DecidableEq

namespace Lexer

/-- The automaton with one more token, between tokens. -/
def emit (lexer : Lexer) (token : Token) : Lexer :=
  ⟨token :: lexer.tokens, .between⟩

/-- The automaton in another mode. -/
def enter (lexer : Lexer) (mode : Mode) : Lexer :=
  { lexer with mode := mode }

/-- The text of characters that were read in reverse. -/
def textOf (read : List Char) : String :=
  String.ofList read.reverse

/-- One character between tokens. -/
def stepBetween (lexer : Lexer) (c : Char) : Lexer :=
  match c with
  | '.' => lexer.emit .dot
  | '=' => lexer.emit .equals
  | ',' => lexer.emit .comma
  | '[' => lexer.emit .openBracket
  | ']' => lexer.emit .closeBracket
  | '\x7b' => lexer.emit .openBrace
  | '\x7d' => lexer.emit .closeBrace
  | '\n' => lexer.emit .newline
  | ' ' | '\t' | '\r' => lexer.emit (.blank c)
  | '#' => lexer.enter .comment
  | '"' => lexer.enter (.opening .basic false)
  | '\'' => lexer.enter (.opening .literal false)
  | _ => lexer.enter (.atom [c])

/-- Whether a character ends an atom. -/
def endsAtom (c : Char) : Bool :=
  ['.', '=', ',', '[', ']', '\x7b', '\x7d', ' ', '\t', '\r', '\n', '#'].contains c

/-- One character within a text on one line. -/
def stepLine (lexer : Lexer) (quoting : Quoting) (read : List Char) (c : Char) : Option Lexer :=
  if c = quoting.mark then some (lexer.emit (.text (textOf read)))
  else if c = '\n' then none
  else if quoting = .basic ∧ c = '\\' then some (lexer.enter (.escape .line read))
  else some (lexer.enter (.line quoting (c :: read)))

/-- One character within a text between three quotes that is no quote of its kind. -/
def stepBlock (lexer : Lexer) (quoting : Quoting) (read : List Char) (c : Char) : Lexer :=
  if quoting = .basic ∧ c = '\\' then lexer.enter (.escape .block read)
  else lexer.enter (.block quoting false 0 (c :: read))

/-- The text between three quotes that was followed by at least three quotes. At most two of them
still belong to it. -/
def closeBlock (lexer : Lexer) (quoting : Quoting) (quotes : Nat) (read : List Char) : Lexer :=
  lexer.emit (.block (textOf (List.replicate (quotes - 3) quoting.mark ++ read)))

/-- The mode within a text with escapes. -/
def resume (extent : Extent) (read : List Char) : Mode :=
  match extent with
  | .line => .line .basic read
  | .block => .block .basic false 0 read

/-- The character that a one-letter escape stands for. -/
def escaped? : Char → Option Char
  | 'b' => some '\x08'
  | 't' => some '\t'
  | 'n' => some '\n'
  | 'f' => some '\x0c'
  | 'r' => some '\r'
  | 'e' => some '\x1b'
  | '"' => some '"'
  | '\\' => some '\\'
  | _ => none

/-- How many hexadecimal digits follow a letter after a backslash. -/
def digitsAfter? : Char → Option Nat
  | 'x' => some 2
  | 'u' => some 4
  | 'U' => some 8
  | _ => none

/-- The character with a code point, unless it is a surrogate or out of range. -/
def character? (code : Nat) : Option Char :=
  if code.isValidChar then some (Char.ofNat code) else none

/-- One character after a backslash. -/
def stepEscape (lexer : Lexer) (extent : Extent) (read : List Char) (c : Char) : Option Lexer :=
  match escaped? c, digitsAfter? c with
  | some image, _ => some (lexer.enter (resume extent (image :: read)))
  | none, some owed => some (lexer.enter (.digits extent owed 0 read))
  | none, none =>
    if extent = .block ∧ [' ', '\t', '\r', '\n'].contains c then
      some (lexer.enter (.joint (c == '\n') read))
    else
      none

/-- One hexadecimal digit of an escape. -/
def stepDigit (lexer : Lexer) (extent : Extent) (owed value : Nat) (read : List Char) (c : Char) :
    Option Lexer := do
  guard (Text.isHexDigit c)
  let value := value * 16 + Text.digitValue c
  if owed = 1 then
    let image ← character? value
    some (lexer.enter (resume extent (image :: read)))
  else
    some (lexer.enter (.digits extent (owed - 1) value read))

/-- One character in any mode. -/
def step (lexer : Lexer) (c : Char) : Option Lexer :=
  match lexer.mode with
  | .between => some (lexer.stepBetween c)
  | .comment => some (if c = '\n' then lexer.emit .newline else lexer)
  | .atom read =>
    if endsAtom c then
      some ((lexer.emit (.atom read.reverse)).stepBetween c)
    else
      some (lexer.enter (.atom (c :: read)))
  | .opening quoting false =>
    if c = quoting.mark then some (lexer.enter (.opening quoting true))
    else lexer.stepLine quoting [] c
  | .opening quoting true =>
    if c = quoting.mark then some (lexer.enter (.block quoting true 0 []))
    else some ((lexer.emit (.text "")).stepBetween c)
  | .line quoting read => lexer.stepLine quoting read c
  | .block quoting atStart quotes read =>
    if c = quoting.mark then
      if quotes = 4 then some (lexer.closeBlock quoting 5 read)
      else some (lexer.enter (.block quoting false (quotes + 1) read))
    else if quotes ≥ 3 then
      some ((lexer.closeBlock quoting quotes read).stepBetween c)
    else if atStart ∧ c = '\n' then
      some (lexer.enter (.block quoting false 0 []))
    else if atStart ∧ c = '\r' then
      some lexer
    else
      some (lexer.stepBlock quoting (List.replicate quotes quoting.mark ++ read) c)
  | .escape extent read => lexer.stepEscape extent read c
  | .digits extent owed value read => lexer.stepDigit extent owed value read c
  | .joint ended read =>
    if c = '\n' then some (lexer.enter (.joint true read))
    else if c = ' ' ∨ c = '\t' ∨ c = '\r' then some lexer
    else if ended then
      if c = '"' then some (lexer.enter (.block .basic false 1 read))
      else some (lexer.stepBlock .basic read c)
    else none

/-- All tokens, unless the document ends in the middle of one. -/
def finish (lexer : Lexer) : Option (List Token) :=
  match lexer.mode with
  | .between | .comment => some lexer.tokens.reverse
  | .atom read => some (lexer.emit (.atom read.reverse)).tokens.reverse
  | .opening _ true => some (lexer.emit (.text "")).tokens.reverse
  | .block quoting _ quotes read =>
    if quotes ≥ 3 then some (lexer.closeBlock quoting quotes read).tokens.reverse else none
  | _ => none

end Lexer

/-- A document without the byte order mark that may stand in front of it. -/
def dropMark : List Char → List Char
  | c :: rest => if c.toNat = 0xFEFF then rest else c :: rest
  | [] => []

/-- The tokens of a document. -/
def tokens? (document : String) : Option (List Token) :=
  let cs := dropMark document.toList
  if cs.all isAllowed && returnsArePaired cs then
    (cs.foldlM Lexer.step {}).bind Lexer.finish
  else
    none

/-- The tokens of a document that is given by its characters. -/
theorem tokens_ofList (characters : List Char) :
    tokens? (String.ofList characters) =
      if (dropMark characters).all isAllowed && returnsArePaired (dropMark characters) then
        ((dropMark characters).foldlM Lexer.step {}).bind Lexer.finish
      else
        none := by
  rw [tokens?, String.toList_ofList]

end Runbook.Toml
