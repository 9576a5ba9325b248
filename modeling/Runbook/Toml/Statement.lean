import Runbook.Toml.Scalar
import Runbook.Toml.Token

/-!
# Statements of a document

A document is a sequence of lines, each of which opens a table, opens an element of an array of
tables, or gives a key its value. Values in brackets and braces may span lines, and so may the
entries between braces, but no dotted key does.
-/

namespace Runbook.Toml

/-- A value as it is written: the entries of a table have dotted paths and nothing is merged yet. -/
inductive Written where
  | value (value : Value)
  | array (items : List Written)
  | table (entries : List ((List String × String) × Written))

/-- The path of a key: the keys of the tables on the way, and the key itself. -/
abbrev KeyPath := List String × String

/-- A line of a document. -/
inductive Statement where
  | openTable (path : KeyPath)
  | openElement (path : KeyPath)
  | assign (path : KeyPath) (value : Written)

/-- How deep brackets and braces may be nested, and how many keys a path has at most. -/
def nestingLimit : Nat := 80

/-- The tokens after blanks. -/
def skipBlanks : List Token → List Token
  | .blank _ :: rest => skipBlanks rest
  | tokens => tokens

/-- The tokens after blanks and line ends. -/
def skipSpace : List Token → List Token
  | .blank _ :: rest => skipSpace rest
  | .newline :: rest => skipSpace rest
  | tokens => tokens

/-- Whether a character may occur in a key without quotes. -/
def isBareKeyChar (c : Char) : Bool :=
  c.isAlphanum || c == '-' || c == '_'

/-- The key that a token stands for. -/
def key? : Token → Option String
  | .text value => some value
  | .atom spelling => if spelling.all isBareKeyChar then some (String.ofList spelling) else none
  | _ => none

/-- Reads the rest of a key path after a key. The fuel bounds the number of tokens. -/
def pathAfter (above : List String) (key : String) :
    Nat → List Token → Option (KeyPath × List Token)
  | 0, tokens => some ((above.reverse, key), tokens)
  | fuel + 1, tokens =>
    match skipBlanks tokens with
    | .dot :: rest =>
      match skipBlanks rest with
      | token :: rest => do
        let next ← key? token
        pathAfter (key :: above) next fuel rest
      | [] => none
    | rest => some ((above.reverse, key), rest)

/-- Reads a key path. -/
def path? (tokens : List Token) : Option (KeyPath × List Token) :=
  match skipBlanks tokens with
  | token :: rest => do
    let key ← key? token
    let (path, rest) ← pathAfter [] key rest.length rest
    guard (path.1.length < nestingLimit)
    some (path, rest)
  | [] => none

/-- The characters of the atoms and dots in front. -/
def run : List Token → List Char × List Token
  | .atom spelling :: rest =>
    let (cs, rest) := run rest
    (spelling ++ cs, rest)
  | .dot :: rest =>
    let (cs, rest) := run rest
    ('.' :: cs, rest)
  | tokens => ([], tokens)

/-- The characters of the scalar in front. After a date, one space may separate a time. -/
def scalarRun (tokens : List Token) : List Char × List Token :=
  let (cs, rest) := run tokens
  match (Moment.afterDate? cs).map List.isEmpty, rest with
  | some true, .blank ' ' :: .atom (c :: time) :: more =>
    if c.isDigit then
      let (following, rest) := run (.atom (c :: time) :: more)
      (cs ++ ' ' :: following, rest)
    else
      (cs, rest)
  | _, _ => (cs, rest)

mutual

/-- Reads a value. The fuel bounds the number of tokens, and `depth` is how much further values may
be nested. -/
def writtenValue : Nat → Nat → List Token → Option (Written × List Token)
  | 0, _, _ => none
  | _ + 1, _, .text value :: rest => some (.value (.text value), rest)
  | _ + 1, _, .block value :: rest => some (.value (.text value), rest)
  | fuel + 1, depth + 1, .openBracket :: rest => writtenItems fuel depth [] rest
  | fuel + 1, depth + 1, .openBrace :: rest => writtenEntries fuel depth [] rest
  | _ + 1, _, tokens => do
    let (cs, rest) := scalarRun tokens
    let value ← scalar? cs
    some (.value value, rest)

/-- Reads the items of an array up to its bracket. -/
def writtenItems : Nat → Nat → List Written → List Token → Option (Written × List Token)
  | 0, _, _, _ => none
  | fuel + 1, depth, read, tokens =>
    match skipSpace tokens with
    | .closeBracket :: rest => some (.array read.reverse, rest)
    | tokens => do
      let (item, rest) ← writtenValue fuel depth tokens
      match skipSpace rest with
      | .comma :: rest => writtenItems fuel depth (item :: read) rest
      | .closeBracket :: rest => some (.array (item :: read).reverse, rest)
      | _ => none

/-- Reads the entries of a table between braces up to the closing one. -/
def writtenEntries :
    Nat → Nat → List (KeyPath × Written) → List Token → Option (Written × List Token)
  | 0, _, _, _ => none
  | fuel + 1, depth, read, tokens =>
    match skipSpace tokens with
    | .closeBrace :: rest => some (.table read.reverse, rest)
    | tokens => do
      let (path, rest) ← path? tokens
      match skipSpace rest with
      | .equals :: rest =>
        let (value, rest) ← writtenValue fuel depth (skipSpace rest)
        match skipSpace rest with
        | .comma :: rest => writtenEntries fuel depth ((path, value) :: read) rest
        | .closeBrace :: rest => some (.table ((path, value) :: read).reverse, rest)
        | _ => none
      | _ => none

end

/-- Reads a line. -/
def statement? (tokens : List Token) : Option (Statement × List Token) :=
  match tokens with
  | .openBracket :: .openBracket :: rest => do
    let (path, rest) ← path? rest
    match skipBlanks rest with
    | .closeBracket :: .closeBracket :: rest => some (.openElement path, rest)
    | _ => none
  | .openBracket :: rest => do
    let (path, rest) ← path? rest
    match skipBlanks rest with
    | .closeBracket :: rest => some (.openTable path, rest)
    | _ => none
  | _ => do
    let (path, rest) ← path? tokens
    match skipBlanks rest with
    | .equals :: rest =>
      let (value, rest) ← writtenValue (2 * rest.length + 2) nestingLimit (skipBlanks rest)
      some (.assign path value, rest)
    | _ => none

/-- Reads all lines. The fuel bounds the number of tokens. -/
def statementsFrom : Nat → List Token → Option (List Statement)
  | 0, tokens => if (skipSpace tokens).isEmpty then some [] else none
  | fuel + 1, tokens =>
    match skipSpace tokens with
    | [] => some []
    | tokens => do
      let (statement, rest) ← statement? tokens
      match skipBlanks rest with
      | [] => some [statement]
      | .newline :: rest =>
        let statements ← statementsFrom fuel rest
        some (statement :: statements)
      | _ => none

/-- The lines of a document. -/
def statements? (document : String) : Option (List Statement) :=
  (tokens? document).bind fun tokens => statementsFrom tokens.length tokens

end Runbook.Toml
