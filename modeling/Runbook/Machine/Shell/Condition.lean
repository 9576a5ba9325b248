import Runbook.Machine.Shell.Print

/-!
# Conditions

The conditions that a shell tests by itself: comparisons of texts and numbers, properties of files,
and their combinations. How a word is read depends on the words around it.
-/

namespace Runbook.Machine.Shell.Condition

/-- What an operator is applied to. -/
inductive Arity where
  | unary
  | binary
  | other
  deriving Repr, DecidableEq

/-- The operators. -/
def operators : List (String × Arity) :=
  [("-r", .unary), ("-w", .unary), ("-x", .unary), ("-e", .unary), ("-f", .unary),
    ("-d", .unary), ("-c", .unary), ("-b", .unary), ("-p", .unary), ("-u", .unary),
    ("-g", .unary), ("-k", .unary), ("-s", .unary), ("-t", .unary), ("-z", .unary),
    ("-n", .unary), ("-h", .unary), ("-O", .unary), ("-G", .unary), ("-L", .unary),
    ("-S", .unary), ("=", .binary), ("!=", .binary), ("<", .binary), (">", .binary),
    ("-eq", .binary), ("-ne", .binary), ("-ge", .binary), ("-gt", .binary), ("-le", .binary),
    ("-lt", .binary), ("-nt", .binary), ("-ot", .binary), ("-ef", .binary), ("!", .other),
    ("-a", .other), ("-o", .other), ("(", .other), (")", .other)]

/-- The arity of a word as an operator. -/
def arity? (word : String) : Option Arity :=
  operators.lookup word

/-- What the first of some words is. -/
inductive Meaning where
  | finish
  | operand
  | operator (name : String) (arity : Arity)
  deriving Repr, DecidableEq

/-- Whether an operator with one operand is an operand itself, given the words behind it. -/
def isOperand (behind : List String) : Bool :=
  match behind with
  | [] => true
  | [_] => false
  | word :: _ :: _ => arity? word == some .binary

/-- The meaning of the first of some words. -/
def meaning (words : List String) : Meaning :=
  match words with
  | [] => .finish
  | word :: behind =>
    match arity? word with
    | none => .operand
    | some arity =>
      if arity = .unary && isOperand behind then .operand
      else if word == "(" && behind.isEmpty then .operand
      else .operator word arity

/-- Why a condition cannot be tested. -/
abbrev Fault := String

/-- The number that a word spells. -/
def number (word : String) : Except Fault Int :=
  let isBlank (c : Char) : Bool := c == ' ' || (9 ≤ c.toNat && c.toNat ≤ 13)
  let unsigned := word.toList.dropWhile isBlank
  let digits := (Text.withoutSign unsigned).takeWhile Char.isDigit
  let rest := (Text.withoutSign unsigned).drop digits.length
  let size : Int := Text.decimalValue digits
  let value := if unsigned.head? == some '-' then -size else size
  if digits.isEmpty || !rest.all isBlank || value < -0x8000000000000000
      || 0x7FFFFFFFFFFFFFFF < value then
    .error ("Illegal number: " ++ word)
  else
    .ok value

/-- What is asked about files. -/
structure Looks where
  /-- The file that a path leads to, where a symbolic link may be meant itself. -/
  file : String → Bool → Option (Nat × File)
  size : Nat → Nat

/-- Whether a file has a property. -/
def fileIs (looks : Looks) (operator path : String) : Bool :=
  match looks.file path !(operator == "-h" || operator == "-L") with
  | none => false
  | some (number, file) =>
    match operator, file.kind with
    | "-f", .regular _ | "-f", .program _ | "-d", .directory _ _ | "-c", .device _
    | "-p", .queue _ | "-h", .link _ | "-L", .link _ => true
    | "-x", .directory _ _ => true
    | "-x", _ => file.permissions &&& 0x49 != 0
    | "-s", _ => looks.size number != 0
    | "-u", _ => file.permissions &&& 0x800 != 0
    | "-g", _ => file.permissions &&& 0x400 != 0
    | "-k", _ => file.permissions &&& 0x200 != 0
    | "-e", _ | "-r", _ | "-w", _ | "-O", _ | "-G", _ => true
    | _, _ => false

/-- The value of an operator with one operand. -/
def unary (looks : Looks) (operator operand : String) : Except Fault Bool :=
  match operator with
  | "-z" => .ok operand.isEmpty
  | "-n" => .ok !operand.isEmpty
  | "-t" => do
    let _ ← number operand
    return false
  | _ => .ok (fileIs looks operator operand)

/-- The value of an operator with two operands. -/
def binary (looks : Looks) (first operator second : String) : Except Fault Bool :=
  let compare (holds : Int → Int → Bool) : Except Fault Bool := do
    let first ← number first
    let second ← number second
    return holds first second
  let times (holds : Nat → Nat → Bool) : Except Fault Bool :=
    match looks.file first true, looks.file second true with
    | some (_, first), some (_, second) => .ok (holds first.modified second.modified)
    | _, _ => .ok false
  match operator with
  | "=" => .ok (first == second)
  | "!=" => .ok (first != second)
  | "<" => .ok (first < second)
  | ">" => .ok (first > second)
  | "-eq" => compare (· == ·)
  | "-ne" => compare (· != ·)
  | "-ge" => compare (· ≥ ·)
  | "-gt" => compare (· > ·)
  | "-le" => compare (· ≤ ·)
  | "-lt" => compare (· < ·)
  | "-nt" => times (· > ·)
  | "-ot" => times (· < ·)
  | _ =>
    match looks.file first true, looks.file second true with
    | some (first, _), some (second, _) => .ok (first == second)
    | _, _ => .ok false

/-- The wording of a complaint about an operator. -/
def about (operator what : String) : Fault :=
  if operator.isEmpty then what else operator ++ ": " ++ what

/-- The parts of a condition, from those that bind least on. -/
inductive Level where
  | disjunction
  | conjunction
  | negation
  | primary
  deriving Repr, DecidableEq

/-- The value of a condition at a level, and the words from the last one that belongs to it. The
fuel bounds the number of words. -/
def valueAt (looks : Looks) : Nat → Level → List String → Except Fault (Bool × List String)
  | 0, _, _ => .error "argument expected"
  | fuel + 1, level, words => do
    let go := valueAt looks fuel
    match level with
    | .disjunction =>
      let (first, rest) ← go .conjunction words
      match meaning (rest.drop 1) with
      | .operator "-o" _ =>
        let (second, rest) ← go .disjunction (rest.drop 2)
        return (first || second, rest)
      | _ => return (first, rest)
    | .conjunction =>
      let (first, rest) ← go .negation words
      match meaning (rest.drop 1) with
      | .operator "-a" _ =>
        let (second, rest) ← go .conjunction (rest.drop 2)
        return (first && second, rest)
      | _ => return (first, rest)
    | .negation =>
      match meaning words with
      | .operator "!" _ =>
        if (words.drop 1).isEmpty then
          return (true, words)
        let (value, rest) ← go .negation (words.drop 1)
        return (!value, rest)
      | _ => go .primary words
    | .primary =>
      match meaning words, words with
      | .finish, _ => return (false, words)
      | .operator "(" _, _ =>
        let inside := words.drop 1
        match meaning inside with
        | .operator ")" _ => return (false, inside)
        | _ =>
          let (value, rest) ← go .disjunction inside
          match meaning (rest.drop 1) with
          | .operator ")" _ => return (value, rest.drop 1)
          | _ => throw "closing paren expected"
      | .operator name .unary, _ =>
        match words.drop 1 with
        | [] => throw (about name "argument expected")
        | operand :: rest => return (← unary looks name operand, operand :: rest)
      | _, word :: behind =>
        match meaning behind, behind with
        | .operator name .binary, _ :: second :: rest =>
          return (← binary looks word name second, second :: rest)
        | .operator name .binary, _ => throw (about name "argument expected")
        | _, _ => return (!word.isEmpty, words)
      | _, [] => return (false, words)

/-- The value of a condition that has to end with the last word. -/
def whole (looks : Looks) (level : Level) (words : List String) : Except Fault Bool := do
  let (value, rest) ← valueAt looks (4 * words.length + 8) level words
  match rest with
  | last :: _ :: _ => throw (about last "unexpected operator")
  | _ => return value

/-- The value of a condition, or of its opposite. Few words are read by their number. The fuel bounds
how often an exclamation mark stands in front. -/
def value (looks : Looks) : Nat → Bool → List String → Except Fault Bool
  | 0, _, _ => .ok false
  | fuel + 1, isOpposite, words =>
    let conclude (found : Except Fault Bool) : Except Fault Bool := found.map (· != isOpposite)
    let byEnds (first last : String) : Except Fault Bool :=
      if first == "(" && last == ")" then
        conclude (whole looks .disjunction (words.drop 1).dropLast)
      else if first == "!" then
        value looks fuel true (words.drop 1)
      else
        conclude (whole looks .disjunction words)
    match words with
    | [] => conclude (.ok false)
    | [first, operator, third] =>
      if arity? operator == some .binary then conclude (binary looks first operator third)
      else byEnds first third
    | [first, _, _, last] => byEnds first last
    | _ => conclude (whole looks .disjunction words)

end Runbook.Machine.Shell.Condition

namespace Runbook.Machine.Shell.Act

/-- What a process sees of files. -/
def looks : Act Condition.Looks :=
  Acting.observe fun self host =>
    { file := fun path follows =>
        match host.files.find (host.directoryOf self) path follows with
        | .ok number => (host.files.file? number).map fun file => (number, file)
        | .error _ => none
      size := host.files.sizeOf }

/-- Tests a condition. -/
def test (name : String) (arguments : List String) : Act Nat := do
  let words ←
    if name == "[" then
      if arguments.getLast? == some "]" then pure arguments.dropLast else fail "missing ]"
    else
      pure arguments
  match Condition.value (← looks) (words.length + 1) false words with
  | .ok holds => return if holds then 0 else 1
  | .error message => fail message

end Runbook.Machine.Shell.Act
