import Runbook.Text.Alphanumeric
import Runbook.Text.Blank
import Runbook.Text.Number
import Runbook.Text.Pattern

/-!
# Reading patterns

Patterns are read by recursive descent. Where blanks mean nothing, they may stand between any two
parts, and so may comments. A brace that opens outside of brackets would have to be closed, which
no pattern here does, so it is refused.
-/

namespace Runbook.Text.Pattern

/-- The characters after blanks and comments. -/
def skipGap (inComment : Bool) : List Char → List Char
  | [] => []
  | c :: rest =>
    if inComment then skipGap (c != '\n') rest
    else if isBlank c then skipGap false rest
    else if c == '#' then skipGap true rest
    else c :: rest

/-- The characters after blanks and comments, if `spaced` says that those mean nothing. -/
def skip (spaced : Bool) (cs : List Char) : List Char :=
  if spaced then skipGap false cs else cs

/-- The character behind the first one. Where blanks mean nothing, those are passed over, and so are
the mark of a comment and the blanks behind it. -/
def following? (spaced : Bool) (cs : List Char) : Option Char :=
  let rest := cs.drop 1
  if spaced then
    match rest.dropWhile isBlank with
    | '#' :: more => (more.dropWhile isBlank).head?
    | more => more.head?
  else
    rest.head?

/-- Reads a fixed number of hexadecimal digits, given the value of those before. -/
def hexDigits? (spaced : Bool) : Nat → Nat → List Char → Option (Nat × List Char)
  | 0, value, cs => some (value, cs)
  | owed + 1, value, cs =>
    match skip spaced cs with
    | c :: rest =>
      if isHexDigit c then hexDigits? spaced owed (value * 16 + digitValue c) rest else none
    | [] => none

/-- Reads the code of a character, which is written with a fixed number of digits. -/
def code? (spaced : Bool) (digits : Nat) (cs : List Char) : Option (Char × List Char) := do
  let (value, rest) ← hexDigits? spaced digits 0 cs
  guard value.isValidChar
  some (Char.ofNat value, rest)

/-- The characters that an escape by a letter stands for. -/
def controlOf? : Char → Option Char
  | 'a' => some '\x07'
  | 'f' => some '\x0c'
  | 't' => some '\t'
  | 'n' => some '\n'
  | 'r' => some '\r'
  | 'v' => some '\x0b'
  | _ => none

/-- Reads what follows a backslash. -/
def escape? (spaced : Bool) : List Char → Option (PatternAtom × List Char)
  | [] => none
  | 'x' :: rest => (code? spaced 2 rest).map fun (c, rest) => (.octet c, rest)
  | 'u' :: rest => (code? spaced 4 rest).map fun (c, rest) => (.literal c, rest)
  | 'U' :: rest => (code? spaced 8 rest).map fun (c, rest) => (.literal c, rest)
  | c :: rest =>
    if c == 'p' || c == 'P' then
      match skip spaced rest with
      | letter :: rest => if letter == '\\' then none else some (.category letter, rest)
      | [] => none
    else if ['d', 's', 'w'].contains c then some (.shorthand false, rest)
    else if ['D', 'S', 'W'].contains c then some (.shorthand true, rest)
    else if ['b', 'B', '<', '>'].contains c then some (.wordEdge, rest)
    else if c == 'A' || c == 'z' then some (.edge, rest)
    else
      match controlOf? c with
      | some control => some (.literal control, rest)
      | none => if c.toNat < 0x80 && !c.isAlphanum then some (.literal c, rest) else none

/-- Reads a part of a set. -/
def setAtom? (spaced : Bool) : List Char → Option (PatternAtom × List Char)
  | '\\' :: rest => escape? spaced rest
  | c :: rest => some (.literal c, rest)
  | [] => none

/-- Whether an atom may stand in a set. -/
def mayBeListed : PatternAtom → Bool
  | .literal _ | .octet _ | .shorthand _ | .category _ => true
  | .anyChar | .edge | .wordEdge => false

/-- The range between two atoms. -/
def range? (first last : PatternAtom) : Option PatternSet := do
  let lower ← first.char?
  let upper ← last.char?
  guard (lower ≤ upper)
  some (.range first last)

/-- Reads an atom of a set or a range. A dash stands for itself in front of the closing bracket and
belongs to a difference in front of another dash. -/
def setItem? (spaced : Bool) (cs : List Char) : Option (PatternSet × List Char) := do
  let (first, rest) ← setAtom? spaced cs
  match skip spaced rest with
  | [] => none
  | '-' :: more =>
    let next := following? spaced ('-' :: more)
    if next == some ']' || next == some '-' then
      guard (mayBeListed first)
      some (.atom first, '-' :: more)
    else
      let (last, rest) ← setAtom? spaced (skip spaced more)
      some (← range? first last, rest)
  | rest =>
    guard (mayBeListed first)
    some (.atom first, rest)

/-- The names of classes. -/
def classNames : List String :=
  ["alnum", "alpha", "ascii", "blank", "cntrl", "digit", "graph", "lower", "print", "punct",
    "space", "upper", "word", "xdigit"]

/-- Reads the name of a class behind a bracket. -/
def className? : List Char → Option (PatternSet × List Char)
  | ':' :: rest =>
    let negated := rest.head? == some '^'
    let rest := if negated then rest.drop 1 else rest
    let name := rest.takeWhile (· != ':')
    match rest.dropWhile (· != ':') with
    | ':' :: ']' :: more =>
      if classNames.contains (String.ofList name) then some (.named negated, more) else none
    | _ => none
  | _ => none

/-- Reads the dashes at the start of a set, which stand for themselves. -/
def leadingDashes (spaced : Bool) (read : List PatternSet) :
    Nat → List Char → List PatternSet × List Char
  | 0, cs => (read, cs)
  | fuel + 1, cs =>
    match cs with
    | '-' :: rest => leadingDashes spaced (.atom (.literal '-') :: read) fuel (skip spaced rest)
    | _ => (read, cs)

/-- Reads the start of a set behind its bracket: whether it is negated, and what can only stand
there. The items are kept in reverse. -/
def openSet (spaced : Bool) (cs : List Char) : Bool × List PatternSet × List Char :=
  let cs := skip spaced cs
  let negated := cs.head? == some '^'
  let cs := if negated then skip spaced (cs.drop 1) else cs
  match leadingDashes spaced [] cs.length cs with
  | ([], ']' :: rest) => (negated, [.atom (.literal ']')], rest)
  | (read, rest) => (negated, read, rest)

/-- The set of items that were read in reverse. -/
def unionOf : List PatternSet → PatternSet
  | [item] => item
  | items => .union items.reverse

/-- A set with what stands to the left of it. -/
def combine : Option PatternSet → PatternSet → PatternSet
  | none, right => right
  | some left, right => .combined left right

/-- Reads a set up to its closing bracket, given what stands to the left of an operator and the
items so far, in reverse. The fuel bounds the number of characters. -/
def setFrom? (spaced : Bool) :
    Nat → Option PatternSet → List PatternSet → List Char → Option (PatternSet × List Char)
  | 0, _, _, _ => none
  | fuel + 1, left, read, cs =>
    match skip spaced cs with
    | [] => none
    | ']' :: rest => some (combine left (unionOf read), rest)
    | '&' :: '&' :: rest => setFrom? spaced fuel (some (combine left (unionOf read))) [] rest
    | '-' :: '-' :: rest => setFrom? spaced fuel (some (combine left (unionOf read))) [] rest
    | '~' :: '~' :: rest => setFrom? spaced fuel (some (combine left (unionOf read))) [] rest
    | '[' :: rest =>
      match className? rest with
      | some (named, rest) => setFrom? spaced fuel left (named :: read) rest
      | none => do
        let (negated, first, rest) := openSet spaced rest
        let (content, rest) ← setFrom? spaced fuel none first rest
        setFrom? spaced fuel left (.bracketed negated content :: read) rest
    | cs => do
      let (item, rest) ← setItem? spaced cs
      setFrom? spaced fuel left (item :: read) rest

/-- The letters that set flags. -/
def flagLetters : List Char :=
  ['i', 'm', 's', 'U', 'u', 'R', 'x']

/-- Reads flags, each set or, after a dash, unset, up to the character that ends them. The flags so
far are kept in reverse. -/
def flags? (negated : Bool) (read : List (Char × Bool)) :
    List Char → Option (List (Char × Bool) × List Char)
  | [] => none
  | '-' :: c :: rest =>
    if negated || c == ':' || c == ')' then none else flags? true read (c :: rest)
  | c :: rest =>
    if c == ':' || c == ')' then
      some (read.reverse, c :: rest)
    else if flagLetters.contains c && (read.lookup c).isNone then
      flags? negated ((c, !negated) :: read) rest
    else
      none

/-- Reads the name of a group up to its closing bracket. -/
def groupName? (cs : List Char) : Option (String × List Char) := do
  let name := cs.takeWhile (· != '>')
  let rest ← (cs.dropWhile (· != '>')).tail?
  let first ← name.head?
  guard (first == '_' || isAlphabetic first)
  guard (name.all fun c => ['_', '.', '[', ']'].contains c || isAlphanumeric c)
  some (String.ofList name, rest)

/-- What an opening bracket begins. -/
inductive Opening where
  /-- Flags for the rest of the group around them. -/
  | setting (flags : List (Char × Bool))
  | group (flags : List (Char × Bool)) (name : Option String)

/-- Reads what belongs to an opening bracket. Looking ahead or behind is refused. -/
def opening? (cs : List Char) : Option (Opening × List Char) :=
  match cs with
  | '?' :: '=' :: _ | '?' :: '!' :: _ | '?' :: '<' :: '=' :: _ | '?' :: '<' :: '!' :: _ => none
  | '?' :: 'P' :: '<' :: rest | '?' :: '<' :: rest => do
    let (name, rest) ← groupName? rest
    some (.group [] (some name), rest)
  | '?' :: rest => do
    let (found, rest) ← flags? false [] rest
    match rest with
    | ':' :: rest => some (.group found none, rest)
    | _ => if found.isEmpty then none else some (.setting found, rest.drop 1)
  | rest => some (.group [] none, rest)

/-- The sequence of parts that were read in reverse. -/
def sequenceOf : List Pattern → Pattern
  | [] => .empty
  | [part] => part
  | parts => .sequence parts.reverse

/-- The choice between branches that were read in reverse. -/
def choiceOf : List Pattern → Pattern
  | [branch] => branch
  | branches => .choice branches.reverse

/-- A part that is repeated. Only something that matches can be. -/
def repeated? : List Pattern → Option (List Pattern)
  | [] => none
  | .flags _ :: _ => none
  | part :: rest => some (.repeated part :: rest)

/-- Where reading stands: the names of the groups so far, and the characters to come. -/
structure Reader where
  names : List String
  rest : List Char

/-- Reads branches up to a closing bracket or the end, given the branches so far and the parts of
the branch so far, both in reverse. The fuel bounds the number of characters. -/
def branchesFrom? :
    Nat → Bool → List Pattern → List Pattern → Reader → Option (Pattern × Reader)
  | 0, _, _, _, _ => none
  | fuel + 1, spaced, branches, parts, reader =>
    match skip spaced reader.rest with
    | [] => some (choiceOf (sequenceOf parts :: branches), { reader with rest := [] })
    | ')' :: rest =>
      some (choiceOf (sequenceOf parts :: branches), { reader with rest := ')' :: rest })
    | '|' :: rest =>
      branchesFrom? fuel spaced (sequenceOf parts :: branches) [] { reader with rest := rest }
    | '\x7b' :: _ => none
    | '(' :: rest => do
      let (opening, rest) ← opening? (skip spaced rest)
      match opening with
      | .setting found =>
        branchesFrom? fuel ((found.lookup 'x').getD spaced) branches
          (.flags (found.lookup 'u') :: parts) { reader with rest := rest }
      | .group found name =>
        guard (name.all fun name => !reader.names.contains name)
        let (body, reader) ←
          branchesFrom? fuel ((found.lookup 'x').getD spaced) [] []
            ⟨name.toList ++ reader.names, rest⟩
        match reader.rest with
        | ')' :: rest =>
          branchesFrom? fuel spaced branches (.group (found.lookup 'u') body :: parts)
            { reader with rest := rest }
        | _ => none
    | '[' :: rest => do
      let (negated, first, rest) := openSet spaced rest
      let (content, rest) ← setFrom? spaced (rest.length + 1) none first rest
      branchesFrom? fuel spaced branches (.set negated content :: parts) { reader with rest := rest }
    | '\\' :: rest => do
      let (found, rest) ← escape? spaced rest
      branchesFrom? fuel spaced branches (.atom found :: parts) { reader with rest := rest }
    | c :: rest =>
      if ['?', '*', '+'].contains c then do
        let parts ← repeated? parts
        let rest := if rest.head? == some '?' then rest.drop 1 else rest
        branchesFrom? fuel spaced branches parts { reader with rest := rest }
      else
        let found :=
          if c == '.' then .anyChar else if c == '^' || c == '$' then .edge else .literal c
        branchesFrom? fuel spaced branches (.atom found :: parts) { reader with rest := rest }

/-- The pattern that a text spells. -/
def parse? (text : String) : Option Pattern := do
  let cs := text.toList
  let (pattern, reader) ← branchesFrom? (2 * cs.length + 2) false [] [] ⟨[], cs⟩
  if reader.rest.isEmpty then some pattern else none

end Runbook.Text.Pattern
