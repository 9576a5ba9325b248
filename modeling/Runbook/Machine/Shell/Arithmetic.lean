import Runbook.Text.Number
import Runbook.Machine.Shell.Tree

/-!
# Arithmetic expressions

The values of integer expressions with the usual operators. Names stand for the values of variables
and can be assigned to. Numbers are words of 64 bits with a sign. The part of an expression whose
value does not matter is read without being carried out.
-/

namespace Runbook.Machine.Shell.Arithmetic

/-- A binary operator. -/
inductive Operator where
  | multiply
  | divide
  | remainder
  | add
  | subtract
  | shiftLeft
  | shiftRight
  | less
  | lessOrEqual
  | greater
  | greaterOrEqual
  | equal
  | unequal
  | bitAnd
  | bitXor
  | bitOr
  deriving Repr, DecidableEq

/-- A token of an expression. -/
inductive Token where
  | finish
  | bad
  | number (value : Int)
  | name (name : String)
  | operator (operator : Operator)
  /-- An assignment, of the result of an operator if there is one. -/
  | assign (operator : Option Operator)
  | not
  | complement
  | both
  | either
  | question
  | colon
  | opening
  | closing
  deriving Repr, DecidableEq

/-- Why an expression has no value. -/
inductive Fault where
  | expecting (what : String)
  | divisionByZero
  /-- The quotient of two words is no word. -/
  | overflow
  | badNumber (text : String)
  deriving Repr, DecidableEq

/-- A number as a word with a sign. -/
def wrap (value : Int) : Int :=
  value.bmod 0x10000000000000000

/-- The greatest number. -/
def greatest : Int := 0x7FFFFFFFFFFFFFFF

/-- The least number. -/
def least : Int := -0x8000000000000000

/-- The tokens that are signs, longer ones first. -/
def signs : List (String × Token) :=
  [("<<=", .assign (some .shiftLeft)), (">>=", .assign (some .shiftRight)),
    ("<<", .operator .shiftLeft), (">>", .operator .shiftRight),
    ("<=", .operator .lessOrEqual), (">=", .operator .greaterOrEqual),
    ("==", .operator .equal), ("!=", .operator .unequal), ("&&", .both), ("||", .either),
    ("+=", .assign (some .add)), ("-=", .assign (some .subtract)),
    ("*=", .assign (some .multiply)), ("/=", .assign (some .divide)),
    ("%=", .assign (some .remainder)), ("&=", .assign (some .bitAnd)),
    ("|=", .assign (some .bitOr)), ("^=", .assign (some .bitXor)), ("+", .operator .add),
    ("-", .operator .subtract), ("*", .operator .multiply), ("/", .operator .divide),
    ("%", .operator .remainder), ("<", .operator .less), (">", .operator .greater), ("!", .not),
    ("~", .complement), ("&", .operator .bitAnd), ("|", .operator .bitOr),
    ("^", .operator .bitXor), ("?", .question), (":", .colon), ("=", .assign none),
    ("(", .opening), (")", .closing)]

/-- The value of a digit. -/
def digitValue (c : Char) : Nat :=
  if c.isDigit then c.toNat - '0'.toNat
  else if 'a' ≤ c && c ≤ 'z' then c.toNat - 'a'.toNat + 10
  else if 'A' ≤ c && c ≤ 'Z' then c.toNat - 'A'.toNat + 10
  else 36

/-- The number that digits at the beginning of characters spell, and how many digits there are. -/
def digits (base : Nat) (cs : List Char) : Nat × Nat :=
  let found := cs.takeWhile fun c => digitValue c < base
  (found.foldl (fun value c => value * base + digitValue c) 0, found.length)

/-- The number that characters begin with in the notation of a program's text, and how many there
are. -/
def literal (cs : List Char) : Nat × Nat :=
  match cs with
  | '0' :: x :: rest =>
    if x == 'x' || x == 'X' then
      let (value, count) := digits 16 rest
      if count = 0 then (0, 1) else (value, count + 2)
    else
      digits 8 cs
  | '0' :: _ => digits 8 cs
  | _ => digits 10 cs

/-- The first token, and what stands behind it. -/
def nextToken (cs : List Char) : Token × List Char :=
  let cs := cs.dropWhile fun c => c == ' ' || c == '\t' || c == '\n'
  match cs with
  | [] => (.finish, [])
  | c :: _ =>
    if c.isDigit then
      let (value, count) := literal cs
      (.number (min value greatest), cs.drop count)
    else
      let name := leadingName cs
      if !name.isEmpty then
        (.name (String.ofList name), cs.drop name.length)
      else
        match signs.find? fun sign => sign.1.toList.isPrefixOf cs with
        | some (text, token) => (token, cs.drop text.length)
        | none => (.bad, cs)

/-- The number that the value of a variable spells. Blanks around it do not matter, and blanks alone
are zero. -/
def valueOf (text : String) : Except Fault Int :=
  let isBlank (c : Char) : Bool := c == ' ' || (9 ≤ c.toNat && c.toNat ≤ 13)
  let cs := text.toList.dropWhile isBlank
  let (isNegative, unsigned) :=
    match cs with
    | '-' :: rest => (true, rest)
    | '+' :: rest => (false, rest)
    | _ => (false, cs)
  let (size, count) := literal unsigned
  let value : Int := if isNegative then -size else size
  let rest := if count = 0 then text.toList.dropWhile isBlank else unsigned.drop count
  if value < least || greatest < value || !rest.all isBlank then .error (.badNumber text)
  else .ok value

/-- The truth value as a number. -/
def ofBool (b : Bool) : Int := if b then 1 else 0

/-- A bitwise operation on words. -/
def bitwise (operation : UInt64 → UInt64 → UInt64) (first second : Int) : Int :=
  (operation (Int64.ofInt first).toUInt64 (Int64.ofInt second).toUInt64).toInt64.toInt

/-- How strongly an operator binds, where zero is strongest. -/
def Operator.strength : Operator → Nat
  | .multiply | .divide | .remainder => 0
  | .add | .subtract => 1
  | .shiftLeft | .shiftRight => 2
  | .less | .lessOrEqual | .greater | .greaterOrEqual => 3
  | .equal | .unequal => 4
  | .bitAnd => 5
  | .bitXor => 6
  | .bitOr => 7

/-- The bound that no strength reaches. -/
def strengthLimit : Nat := 8

/-- The value of a quotient or a remainder. -/
def divided (operation : Int → Int → Int) (first second : Int) : Except Fault Int :=
  if second = 0 then .error .divisionByZero
  else if first = least && second = -1 then .error .overflow
  else .ok (operation first second)

/-- The value of a binary operation. -/
def Operator.apply (operator : Operator) (first second : Int) : Except Fault Int :=
  match operator with
  | .multiply => .ok (wrap (first * second))
  | .divide => divided Int.tdiv first second
  | .remainder => divided Int.tmod first second
  | .add => .ok (wrap (first + second))
  | .subtract => .ok (wrap (first - second))
  | .shiftLeft => .ok (bitwise (· <<< ·) first second)
  | .shiftRight => .ok (Int.shiftRight first ((second.emod 64).toNat))
  | .less => .ok (ofBool (first < second))
  | .lessOrEqual => .ok (ofBool (first ≤ second))
  | .greater => .ok (ofBool (first > second))
  | .greaterOrEqual => .ok (ofBool (first ≥ second))
  | .equal => .ok (ofBool (first == second))
  | .unequal => .ok (ofBool (first != second))
  | .bitAnd => .ok (bitwise (· &&& ·) first second)
  | .bitXor => .ok (bitwise (· ^^^ ·) first second)
  | .bitOr => .ok (bitwise (· ||| ·) first second)

/-- The state of an evaluation: the current token, what stands behind it, and what was assigned,
latest first. -/
structure Progress where
  token : Token
  rest : List Char
  assigned : List (String × Int) := []

/-- What evaluates an expression. -/
abbrev Evaluation := StateT Progress (Except Fault)

/-- Goes to the next token. -/
def advance : Evaluation Unit :=
  modify fun progress =>
    let (token, rest) := nextToken progress.rest
    { progress with token := token, rest := rest }

/-- The value of a name, given the values of variables. -/
def lookUp (before : String → String) (name : String) : Evaluation Int := do
  match (← get).assigned.lookup name with
  | some value => return value
  | none => valueOf (before name)

/-- Evaluates operands and what is built from them. The level tells what is read: an operand, a
binary operation under a bound with its first operand and its operator, or the operations that bind
less. -/
inductive Level where
  | operand
  | operations
  | operationsBehind (first : Int) (operator : Operator) (bound : Nat)
  | conjunction
  | disjunction
  | choice
  | assignment
  deriving Repr, DecidableEq

/-- The operator that the current token is. -/
def operator? : Evaluation (Option Operator) := do
  match (← get).token with
  | .operator operator => return some operator
  | _ => return none

/-- The value of an expression at a level. Nothing is carried out where it is idle. The fuel bounds
the depth. -/
def evaluateAt (before : String → String) : Nat → Level → Bool → Evaluation Int
  | 0, _, _ => throw (.expecting "primary")
  | fuel + 1, level, isIdle => do
    let go := evaluateAt before fuel
    match level with
    | .operand =>
      match (← get).token with
      | .opening =>
        advance
        let value ← go .assignment isIdle
        if (← get).token ≠ .closing then
          throw (.expecting "')'")
        advance
        return value
      | .number value =>
        advance
        return value
      | .name name =>
        advance
        if isIdle then return 0 else lookUp before name
      | .operator .add =>
        advance
        go .operand isIdle
      | .operator .subtract =>
        advance
        return wrap (-(← go .operand isIdle))
      | .not =>
        advance
        return ofBool ((← go .operand isIdle) == 0)
      | .complement =>
        advance
        return -(← go .operand isIdle) - 1
      | _ => throw (.expecting "primary")
    | .operations =>
      let first ← go .operand isIdle
      match ← operator? with
      | some operator => go (.operationsBehind first operator strengthLimit) isIdle
      | none => return first
    | .operationsBehind first operator bound =>
      advance
      let second ← go .operand isIdle
      let second ← match ← operator? with
        | some next =>
          if next.strength < operator.strength then
            go (.operationsBehind second next operator.strength) isIdle
          else
            pure second
        | none => pure second
      let value ← if isIdle then pure second else operator.apply first second
      match ← operator? with
      | some next =>
        if next.strength < bound then go (.operationsBehind value next bound) isIdle
        else return value
      | none => return value
    | .conjunction =>
      let first ← go .operations isIdle
      if (← get).token ≠ .both then
        return first
      advance
      let second ← go .conjunction (isIdle || first == 0)
      return ofBool (first != 0 && second != 0)
    | .disjunction =>
      let first ← go .conjunction isIdle
      if (← get).token ≠ .either then
        return first
      advance
      let second ← go .disjunction (isIdle || first != 0)
      return ofBool (first != 0 || second != 0)
    | .choice =>
      let condition ← go .disjunction isIdle
      if (← get).token ≠ .question then
        return condition
      advance
      let first ← go .assignment (isIdle || condition == 0)
      if (← get).token ≠ .colon then
        throw (.expecting "':'")
      advance
      let second ← go .choice (isIdle || condition != 0)
      return if condition != 0 then first else second
    | .assignment =>
      let progress ← get
      match progress.token with
      | .name name =>
        match nextToken progress.rest with
        | (.assign operator, _) =>
          advance
          advance
          let value ← go .assignment isIdle
          if isIdle then
            return value
          let value ← match operator with
            | some operator => do
              let old ← lookUp before name
              operator.apply old value
            | none => pure value
          modify fun progress => { progress with assigned := (name, value) :: progress.assigned }
          return value
        | _ => go .choice isIdle
      | _ => go .choice isIdle

/-- The value of an expression, with what it assigns, earliest first. -/
def evaluate (before : String → String) (text : String) :
    Except Fault (Int × List (String × Int)) := do
  let (token, rest) := nextToken text.toList
  let (value, progress) ←
    (evaluateAt before (8 * text.length + 16) .assignment false).run { token := token, rest := rest }
  if progress.token ≠ .finish then
    throw (.expecting "EOF")
  return (value, progress.assigned.reverse)

end Runbook.Machine.Shell.Arithmetic
