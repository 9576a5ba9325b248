import Runbook.Text.Number

/-!
# Regular expressions over octets

The regular expressions of the programs that search texts, in two notations: in the basic one most
operators stand behind a backslash, in the extended one they do not. Of all the places where an
expression fits, the first one counts, and there the longest text.
-/

namespace Runbook.Machine

/-- A regular expression. -/
inductive Regex where
  | empty
  /-- One octet out of a set. -/
  | one (isIn : Char → Bool)
  | both (first second : Regex)
  | either (first second : Regex)
  | repeated (least : Nat) (most : Option Nat) (body : Regex)
  | group (number : Nat) (body : Regex)
  /-- The text that a group has fitted. -/
  | again (number : Nat)
  | start
  | finish
  /-- The edge of a word, or a place that is none. -/
  | edge (isEdge : Bool)
  /-- The beginning or the end of a word. -/
  | wordEdge (isStart : Bool)

namespace Regex

/-! ## Fitting -/

/-- Whether a character belongs to a word. -/
def isWordChar (c : Char) : Bool :=
  c.isAlphanum || c == '_'

/-- A place in a text that has been reached, with the places that groups have fitted. -/
structure Reach where
  position : Nat
  groups : List (Nat × Nat × Nat) := []

/-- What a text is looked at with. -/
structure Subject where
  text : Array Char
  ignoresCase : Bool := false
  /-- Whether texts that groups have fitted can be asked for again. -/
  remembers : Bool := false
  /-- Whether the beginning and the end of the text count as those of a line. -/
  isLine : Bool := true

/-- Whether a set holds an octet, or the same letter in another case. -/
def Subject.holds (subject : Subject) (isIn : Char → Bool) (c : Char) : Bool :=
  isIn c || (subject.ignoresCase && (isIn c.toLower || isIn c.toUpper))

/-- Reaches without those that have been there before. -/
def distinct (subject : Subject) (reaches : List Reach) : List Reach :=
  let isSame (first second : Reach) : Bool :=
    first.position == second.position && (!subject.remembers || first.groups == second.groups)
  (reaches.foldl
    (fun (kept : List Reach) reach => if kept.any (isSame reach) then kept else reach :: kept)
    []).reverse

/-- Whether words are on the two sides of a place. -/
def Subject.wordsAround (subject : Subject) (position : Nat) : Bool × Bool :=
  let isWord (c : Option Char) : Bool := c.any isWordChar
  (0 < position && isWord subject.text[position - 1]?, isWord subject.text[position]?)

/-- The reaches after a body has been repeated, from those after some repetitions. The fuel bounds
the number of repetitions. -/
def repetitions (subject : Subject) (act : Reach → List Reach) (least : Nat) (most : Option Nat) :
    Nat → Nat → List Reach → List Reach
  | 0, _, reaches => reaches
  | fuel + 1, count, reaches =>
    if most.any (· ≤ count) || reaches.isEmpty then reaches
    else
      let next := distinct subject (reaches.flatMap fun reach =>
        (act reach).filter fun after => count < least || after.position != reach.position)
      let further := repetitions subject act least most fuel (count + 1) next
      if count < least then further else distinct subject (further ++ reaches)

/-- Where an expression leads from a place, those first that go further as a rule. -/
def reaches (subject : Subject) : Regex → Reach → List Reach
  | .empty, reach => [reach]
  | .one isIn, reach =>
    match subject.text[reach.position]? with
    | some c =>
      if subject.holds isIn c then [{ reach with position := reach.position + 1 }] else []
    | none => []
  | .both first second, reach =>
    distinct subject ((reaches subject first reach).flatMap (reaches subject second))
  | .either first second, reach =>
    distinct subject (reaches subject first reach ++ reaches subject second reach)
  | .repeated least most body, reach =>
    repetitions subject (reaches subject body) least most (subject.text.size + least + 1) 0 [reach]
  | .group number body, reach =>
    (reaches subject body reach).map fun after =>
      { after with
        groups := (number, reach.position, after.position) ::
          after.groups.filter fun group => group.1 != number }
  | .again number, reach =>
    match reach.groups.lookup number with
    | none => []
    | some (first, last) =>
      let wanted := (subject.text.extract first last).toList
      let found := (subject.text.extract reach.position (reach.position + wanted.length)).toList
      let isSame :=
        if subject.ignoresCase then wanted.map Char.toLower == found.map Char.toLower
        else wanted == found
      if isSame then [{ reach with position := reach.position + wanted.length }] else []
  | .start, reach => if subject.isLine && reach.position = 0 then [reach] else []
  | .finish, reach => if subject.isLine && reach.position = subject.text.size then [reach] else []
  | .edge isEdge, reach =>
    let (before, behind) := subject.wordsAround reach.position
    if (before != behind) == isEdge then [reach] else []
  | .wordEdge isStart, reach =>
    let (before, behind) := subject.wordsAround reach.position
    if before == !isStart && behind == isStart then [reach] else []

/-- The longest text that an expression fits from a place on. -/
def fitAt (regex : Regex) (subject : Subject) (position : Nat) : Option Reach :=
  (regex.reaches subject { position := position }).foldl
    (fun best reach =>
      match best with
      | none => some reach
      | some found => if found.position < reach.position then some reach else best)
    none

/-- The first place from a bound on at which an expression fits, with the longest text there. The
fuel bounds the number of places. -/
def search (regex : Regex) (subject : Subject) : Nat → Nat → Option (Nat × Reach)
  | 0, _ => none
  | fuel + 1, position =>
    if subject.text.size < position then none
    else
      match regex.fitAt subject position with
      | some reach => some (position, reach)
      | none => search regex subject fuel (position + 1)

/-- The first place from a bound on at which an expression fits. -/
def find? (regex : Regex) (subject : Subject) (position : Nat) : Option (Nat × Reach) :=
  regex.search subject (subject.text.size + 1) position

/-! ## Reading -/

/-- The notations. -/
inductive Notation where
  | basic
  | extended
  deriving Repr, DecidableEq

/-- Reading as far as it has come. -/
structure Parse where
  rest : List Char
  /-- Whether an operator that has nothing to work on is refused. -/
  isStrict : Bool := false
  groups : Nat := 0
  /-- The groups that are complete. -/
  closed : List Nat := []
  remembers : Bool := false

/-- What reads a part of an expression. -/
abbrev Parser := StateT Parse (Except String)

/-- The members of a class of characters by its name. -/
def classNamed? : String → Option (Char → Bool)
  | "alpha" => some Char.isAlpha
  | "digit" => some Char.isDigit
  | "alnum" => some Char.isAlphanum
  | "upper" => some Char.isUpper
  | "lower" => some Char.isLower
  | "space" => some fun c => c == ' ' || (9 ≤ c.toNat && c.toNat ≤ 13)
  | "blank" => some fun c => c == ' ' || c == '\t'
  | "punct" => some fun c => '!' ≤ c && c ≤ '~' && !c.isAlphanum
  | "print" => some fun c => ' ' ≤ c && c ≤ '~'
  | "graph" => some fun c => '!' ≤ c && c ≤ '~'
  | "cntrl" => some fun c => c < ' ' || c == '\x7F'
  | "xdigit" => some Text.isHexDigit
  | _ => none

/-- What an opening sign in brackets begins, up to the same sign and a bracket. -/
def bracketName (sign : Char) : Nat → List Char → Option (List Char × List Char)
  | 0, _ => none
  | fuel + 1, cs =>
    match cs with
    | c :: ']' :: rest =>
      if c == sign then some ([], rest)
      else (bracketName sign fuel (']' :: rest)).map fun (name, rest) => (c :: name, rest)
    | c :: rest => (bracketName sign fuel rest).map fun (name, rest) => (c :: name, rest)
    | [] => none

/-- The complaint about brackets that are not closed. -/
def unmatchedBracket : String := "Unmatched [, [^, [:, [., or [="

/-- One end of a range in brackets, with whether it is a whole class. -/
def bracketItem (cs : List Char) : Except String ((Char → Bool) × Option Char × List Char) :=
  match cs with
  | '[' :: sign :: rest =>
    if sign == ':' || sign == '.' || sign == '=' then
      match bracketName sign (rest.length + 1) rest with
      | none => .error unmatchedBracket
      | some (name, rest) =>
        if sign == ':' then
          match classNamed? (String.ofList name) with
          | some isIn => .ok (isIn, none, rest)
          | none => .error "Invalid character class name"
        else
          match name with
          | [c] => .ok ((· == c), some c, rest)
          | _ => .error "Invalid collation character"
    else .ok ((· == '['), some '[', sign :: rest)
  | c :: rest => .ok ((· == c), some c, rest)
  | [] => .error unmatchedBracket

/-- The set in brackets behind the opening one. The fuel bounds its length. -/
def bracketSet : Nat → Bool → List Char → Except String ((Char → Bool) × List Char)
  | 0, _, _ => .error unmatchedBracket
  | fuel + 1, isFirst, cs => do
    match cs with
    | [] => .error unmatchedBracket
    | ']' :: rest =>
      if !isFirst then
        return (fun _ => false, rest)
    | _ => pure ()
    let (isIn, low, rest) ← bracketItem cs
    match low, rest with
    | some low, '-' :: c :: rest =>
      if c == ']' then
        let (others, rest) ← bracketSet fuel false ('-' :: c :: rest)
        return (fun c => isIn c || others c, rest)
      else
        let (_, high, rest) ← bracketItem (c :: rest)
        match high with
        | none => .error "Invalid range end"
        | some high =>
          if high < low then
            .error "Invalid range end"
          else
            let (others, rest) ← bracketSet fuel false rest
            return (fun c => (low ≤ c && c ≤ high) || others c, rest)
    | _, _ =>
      let (others, rest) ← bracketSet fuel false rest
      return (fun c => isIn c || others c, rest)

/-- The set in brackets behind the opening one, where a sign in front turns it around. -/
def bracket (cs : List Char) : Except String ((Char → Bool) × List Char) := do
  match cs with
  | '^' :: rest =>
    let (isIn, rest) ← bracketSet (rest.length + 1) true rest
    return (fun c => !isIn c, rest)
  | _ => bracketSet (cs.length + 1) true cs

/-- A repetition count in braces behind the opening one, if there is one. -/
def interval? (style : Notation) (cs : List Char) : Option (Nat × Option Nat × List Char) :=
  let low := cs.takeWhile Char.isDigit
  let rest := cs.drop low.length
  let close (rest : List Char) : Option (List Char) :=
    match style, rest with
    | .basic, '\\' :: '\x7d' :: rest => some rest
    | .extended, '\x7d' :: rest => some rest
    | _, _ => none
  match rest with
  | ',' :: rest =>
    let high := rest.takeWhile Char.isDigit
    (close (rest.drop high.length)).map fun behind =>
      (Text.decimalValue low, if high.isEmpty then none else some (Text.decimalValue high), behind)
  | _ =>
    if low.isEmpty then none
    else (close rest).map fun behind => (Text.decimalValue low, some (Text.decimalValue low), behind)

/-- The characters that are still to be read. -/
def remaining : Parser (List Char) :=
  return (← get).rest

/-- Goes on behind some characters. -/
def advanceTo (rest : List Char) : Parser Unit :=
  modify fun parse => { parse with rest := rest }

/-- The expression that a letter behind a backslash stands for by itself. -/
def escapeNamed? : Char → Option Regex
  | 'w' => some (.one isWordChar)
  | 'W' => some (.one fun c => !isWordChar c)
  | 's' => (classNamed? "space").map .one
  | 'S' => (classNamed? "space").map fun isIn => .one fun c => !isIn c
  | 'b' => some (.edge true)
  | 'B' => some (.edge false)
  | '<' => some (.wordEdge true)
  | '>' => some (.wordEdge false)
  | '\x60' => some .start
  | '\'' => some .finish
  | _ => none

/-- What follows where an operator is looked for. -/
inductive Sign where
  | opening
  | closing
  | bar
  | none
  deriving Repr, DecidableEq

/-- The operator at the beginning of characters, and what follows it. -/
def signOf (style : Notation) (cs : List Char) : Sign × List Char :=
  match style, cs with
  | .basic, '\\' :: '(' :: rest | .extended, '(' :: rest => (.opening, rest)
  | .basic, '\\' :: ')' :: rest | .extended, ')' :: rest => (.closing, rest)
  | .basic, '\\' :: '|' :: rest | .extended, '|' :: rest => (.bar, rest)
  | _, _ => (.none, cs)

/-- Whether characters begin with the sign that closes the bounds of a repetition. -/
def closesBounds : Notation → List Char → Bool
  | .basic, '\\' :: '\x7d' :: _ | .extended, '\x7d' :: _ => true
  | _, _ => false

/-- The characters from the place on where a number among the bounds of a repetition ends, and
whether there is nothing but digits in front of it. -/
def behindBound (style : Notation) : List Char → Bool × List Char
  | [] => (true, [])
  | c :: rest =>
    if c == ',' || closesBounds style (c :: rest) then (true, c :: rest)
    else
      let (isNumber, behind) := behindBound style rest
      (isNumber && c.isDigit, behind)

/-- Why bounds that are none are refused. -/
def boundsComplaint (style : Notation) (cs : List Char) : String :=
  let complaint (rest : List Char) : String :=
    if rest.isEmpty then "Unmatched \\\x7b" else "Invalid content of \\\x7b\\\x7d"
  match behindBound style cs with
  | (true, ',' :: rest) => complaint (behindBound style rest).2
  | (_, rest) => complaint rest

/-- A sign of repetition at the beginning of characters: the bounds and what follows. -/
def repetition? (style : Notation) (isStrict : Bool) (cs : List Char) :
    Except String (Option (Nat × Option Nat × List Char)) :=
  let bounded (rest : List Char) : Except String (Option (Nat × Option Nat × List Char)) :=
    match interval? style rest with
    | some (least, most, rest) =>
      if most.any (· < least) then .error "Invalid content of \\\x7b\\\x7d"
      else if 32767 < most.getD least then .error "Regular expression too big"
      else .ok (some (least, most, rest))
    | none =>
      if style = .extended && !isStrict && !closesBounds style rest then .ok none
      else .error (boundsComplaint style rest)
  match style, cs with
  | _, '*' :: rest => .ok (some (0, none, rest))
  | .extended, '+' :: rest | .basic, '\\' :: '+' :: rest => .ok (some (1, none, rest))
  | .extended, '?' :: rest | .basic, '\\' :: '?' :: rest => .ok (some (0, some 1, rest))
  | .extended, '\x7b' :: rest | .basic, '\\' :: '\x7b' :: rest => bounded rest
  | _, _ => .ok none

/-- Reads all signs of repetition behind an expression. A second one of the basic notation is
refused where reading is strict. The fuel bounds their number. -/
def repetitionsOf (style : Notation) : Nat → Regex → Parser Regex
  | 0, body => return body
  | fuel + 1, body => do
    let isStrict := (← get).isStrict
    match ← (repetition? style isStrict (← remaining) : Except String _) with
    | none => return body
    | some (least, most, rest) =>
      advanceTo rest
      if isStrict && style = .basic then
        match rest with
        | '*' :: _ | '\\' :: '\x7b' :: _ => throw "Invalid preceding regular expression"
        | _ => pure ()
      repetitionsOf style fuel (.repeated least most body)

mutual

/-- Reads alternatives. The depth is that of the groups, and the fuel bounds the length. -/
def alternatives (style : Notation) : Nat → Nat → Parser Regex
  | 0, _ => throw "Regular expression too big"
  | fuel + 1, depth => do
    let first ← sequence style fuel depth true
    match signOf style (← remaining) with
    | (.bar, rest) =>
      advanceTo rest
      return .either first (← alternatives style fuel depth)
    | _ => return first

/-- Reads what follows each other. -/
def sequence (style : Notation) : Nat → Nat → Bool → Parser Regex
  | 0, _, _ => throw "Regular expression too big"
  | fuel + 1, depth, isFirst => do
    let rest ← remaining
    if rest.isEmpty then
      return .empty
    match signOf style rest with
    | (.bar, _) => return .empty
    | (.closing, _) =>
      if 0 < depth then
        return .empty
      else if style = .basic || (← get).isStrict then
        throw "Unmatched ) or \\)"
    | _ => pure ()
    let (item, isAnchor) ← atom style fuel depth isFirst
    let item ← if isAnchor then pure item else repetitionsOf style (rest.length + 1) item
    let others ← sequence style fuel depth (isAnchor && style = .extended)
    return .both item others

/-- Reads one item, and tells whether it is an anchor, which is not repeated. -/
def atom (style : Notation) : Nat → Nat → Bool → Parser (Regex × Bool)
  | 0, _, _ => throw "Regular expression too big"
  | fuel + 1, depth, isFirst => do
    let cs ← remaining
    let plain (c : Char) (rest : List Char) : Parser (Regex × Bool) := do
      advanceTo rest
      return (.one (· == c), false)
    match signOf style cs with
    | (.opening, rest) =>
      let number := (← get).groups + 1
      modify fun parse => { parse with rest := rest, groups := number }
      let body ← alternatives style fuel (depth + 1)
      match signOf style (← remaining) with
      | (.closing, rest) =>
        modify fun parse => { parse with rest := rest, closed := number :: parse.closed }
        return (.group number body, false)
      | _ => throw "Unmatched ( or \\("
    | _ =>
      match cs with
      | [] => return (.empty, false)
      | '^' :: rest =>
        if style = .extended || isFirst then
          advanceTo rest
          return (.start, true)
        else
          plain '^' rest
      | '$' :: rest =>
        let isLast := rest.isEmpty || (signOf style rest).1 = .bar || (signOf style rest).1 = .closing
        if style = .extended || isLast then
          advanceTo rest
          return (.finish, true)
        else
          plain '$' rest
      | '.' :: rest =>
        advanceTo rest
        return (.one fun _ => true, false)
      | '[' :: rest =>
        let (isIn, rest) ← (bracket rest : Except String _)
        advanceTo rest
        return (.one isIn, false)
      | '\\' :: [] => throw "Trailing backslash"
      | '\\' :: c :: rest =>
        if c.isDigit && c != '0' then
          let number := c.toNat - '0'.toNat
          if !(← get).closed.contains number then
            throw "Invalid back reference"
          modify fun parse => { parse with rest := rest, remembers := true }
          return (.again number, false)
        else if style = .basic && c == '\x7b' && (← get).isStrict then
          throw "Invalid preceding regular expression"
        else
          match escapeNamed? c with
          | some item =>
            advanceTo rest
            return (item, !(['w', 'W', 's', 'S'].contains c))
          | none => plain c rest
      | c :: rest =>
        let isOperator :=
          style = .extended && (['*', '+', '?'].contains c || (c == '\x7b' && isFirst))
        if isOperator then
          if (← get).isStrict then
            throw "Invalid preceding regular expression"
          advanceTo rest
          return (.empty, true)
        else
          plain c rest

end

/-- The expression that a text spells, and whether it asks for the text of a group again. Where
reading is strict, an operator that has nothing to work on is refused. -/
def read (style : Notation) (isStrict : Bool) (text : List Char) :
    Except String (Regex × Bool × Nat) := do
  let (regex, parse) ←
    (alternatives style (4 * text.length + 8) 0).run { rest := text, isStrict := isStrict }
  return (regex, parse.remembers, parse.groups)

end Regex

end Runbook.Machine
