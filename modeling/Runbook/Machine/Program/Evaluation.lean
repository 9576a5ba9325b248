import Runbook.Machine.Program.Options
import Runbook.Machine.Regex
import Runbook.Machine.Shell.Condition

/-!
# Conditions and expressions as programs

The program that tests a condition, and the one that computes the value of an expression. Both get
every word as an argument of its own.
-/

namespace Runbook.Machine.Program

/-! ## Conditions -/

namespace Condition

open Shell.Condition (Looks fileIs)

/-- The arguments that are left, behind the last one that was read. -/
structure Words where
  rest : List String
  last : String := ""

/-- Why a condition makes no sense. -/
abbrev Fault := String

/-- The complaint about a missing argument. -/
def missing (words : Words) : Fault :=
  "missing argument after " ++ Quoted.plain (words.rest.getLastD words.last)

/-- The words without the first one. -/
def Words.next (words : Words) : Words :=
  { rest := words.rest.drop 1, last := words.rest.headD words.last }

/-- The operators that stand between two arguments. -/
def isBinary (word : String) : Bool :=
  ["=", "==", "!=", "-nt", "-ot", "-ef", "-eq", "-ne", "-lt", "-le", "-gt", "-ge"].contains word

/-- The number that an argument spells. -/
def integer (word : String) : Except Fault Int :=
  let cs := word.toList.dropWhile Numeral.isSpace
  let (isNegative, digits) :=
    match cs with
    | '-' :: rest => (true, rest)
    | '+' :: rest => (false, rest)
    | _ => (false, cs)
  let number := digits.takeWhile Char.isDigit
  let rest := (digits.drop number.length).dropWhile fun c => c == ' ' || c == '\t'
  if number.isEmpty || !rest.isEmpty then
    .error ("invalid integer " ++ Quoted.plain word)
  else
    .ok (if isNegative then -(Text.decimalValue number : Int) else Text.decimalValue number)

/-- The value of an operator between two arguments. -/
def binary (looks : Looks) (first operator second : String) : Except Fault Bool := do
  let compare (holds : Int → Int → Bool) : Except Fault Bool := do
    let size (word : String) : Except Fault Int := integer word
    return holds (← size first) (← size second)
  match operator with
  | "-eq" => compare (· == ·)
  | "-ne" => compare (· != ·)
  | "-lt" => compare (· < ·)
  | "-le" => compare (· ≤ ·)
  | "-gt" => compare (· > ·)
  | "-ge" => compare (· ≥ ·)
  | "==" => return first == second
  | "-nt" | "-ot" =>
    let time (path : String) : Option Nat := (looks.file path true).map fun found => found.2.modified
    return match time first, time second with
      | some first, some second => if operator == "-nt" then second < first else first < second
      | some _, none => operator == "-nt"
      | none, some _ => operator == "-ot"
      | none, none => false
  | _ => Shell.Condition.binary looks first operator second

/-- Whether a word has the form of an operator in front of an argument. -/
def isSwitch (word : String) : Bool :=
  word.startsWith "-" && word.length = 2

/-- The value of an operator in front of an argument. -/
def unary (looks : Looks) (words : Words) : Except Fault (Bool × Words) := do
  match words.rest with
  | operator :: operand :: _ =>
    let behind := words.next.next
    match operator with
    | "-z" => return (operand.isEmpty, behind)
    | "-n" => return (!operand.isEmpty, behind)
    | "-t" =>
      let _ ← integer operand
      return (false, behind)
    | _ =>
      if "rwxefdcbpugksOGNhLS".toList.contains (operator.toList.getD 1 ' ') then
        return (fileIs looks operator operand, behind)
      else
        throw (Quoted.plain operator ++ ": unary operator expected")
  | operator :: _ =>
    if "zntrwxefdcbpugksOGNhLS".toList.contains (operator.toList.getD 1 ' ') then
      throw (missing words)
    else throw (Quoted.plain operator ++ ": unary operator expected")
  | [] => throw (missing words)

mutual

/-- The value of a number of arguments. The fuel bounds their number. -/
def counted (looks : Looks) : Nat → Nat → Words → Except Fault (Bool × Words)
  | 0, _, words => throw (missing words)
  | fuel + 1, count, words => do
    let opposite (count : Nat) : Except Fault (Bool × Words) := do
      let (value, words) ← counted looks fuel count words.next
      return (!value, words)
    let inside (count : Nat) : Except Fault (Bool × Words) := do
      let (value, words) ← counted looks fuel count words.next
      return (value, words.next)
    let word (index : Nat) : String := (words.rest[index]?).getD ""
    match count with
    | 1 => return (!(word 0).isEmpty, words.next)
    | 2 =>
      if word 0 == "!" then opposite 1
      else if isSwitch (word 0) then unary looks words
      else throw (missing words)
    | 3 =>
      if isBinary (word 1) then
        return (← binary looks (word 0) (word 1) (word 2), words.next.next.next)
      else if word 0 == "!" then opposite 2
      else if word 0 == "(" && word 2 == ")" then inside 1
      else if word 1 == "-a" || word 1 == "-o" then disjunction looks fuel words
      else throw (Quoted.plain (word 1) ++ ": binary operator expected")
    | 4 =>
      if word 0 == "!" then opposite 3
      else if word 0 == "(" && word 3 == ")" then inside 2
      else disjunction looks fuel words
    | _ => disjunction looks fuel words

/-- The value of conditions of which one has to hold. -/
def disjunction (looks : Looks) : Nat → Words → Except Fault (Bool × Words)
  | 0, words => throw (missing words)
  | fuel + 1, words => do
    let (first, rest) ← conjunction looks fuel words
    if rest.rest.head? == some "-o" then
      let (second, rest) ← disjunction looks fuel rest.next
      return (first || second, rest)
    else
      return (first, rest)

/-- The value of conditions all of which have to hold. -/
def conjunction (looks : Looks) : Nat → Words → Except Fault (Bool × Words)
  | 0, words => throw (missing words)
  | fuel + 1, words => do
    let (first, rest) ← term looks fuel words
    if rest.rest.head? == some "-a" then
      let (second, rest) ← conjunction looks fuel rest.next
      return (first && second, rest)
    else
      return (first, rest)

/-- The value of a single condition. -/
def term (looks : Looks) : Nat → Words → Except Fault (Bool × Words)
  | 0, words => throw (missing words)
  | fuel + 1, words => do
    match words.rest with
    | [] => throw (missing words)
    | "!" :: rest =>
      if rest.isEmpty then
        throw (missing words)
      let (value, words) ← term looks fuel words.next
      return (!value, words)
    | "(" :: rest =>
      if rest.isEmpty then
        throw (missing words)
      let inside := (rest.drop 1).takeWhile (· != ")")
      let count := if inside.length < 4 then inside.length + 1 else rest.length
      let count := min count (max 1 rest.length)
      let (value, words) ← counted looks fuel count words.next
      match words.rest with
      | [] => throw (Quoted.plain ")" ++ " expected")
      | ")" :: _ => return (value, words.next)
      | other :: _ => throw (Quoted.plain ")" ++ " expected, found " ++ Quoted.plain other)
    | first :: rest =>
      match rest with
      | operator :: second :: _ =>
        if isBinary operator then
          return (← binary looks first operator second, words.next.next.next)
      | _ => pure ()
      if isSwitch first then unary looks words
      else return (!first.isEmpty, words.next)

end

/-- Whether a condition holds. -/
def holds (looks : Looks) (arguments : List String) : Except Fault Bool := do
  if arguments.isEmpty then
    return false
  let (value, words) ←
    counted looks (8 * arguments.length + 8) arguments.length { rest := arguments }
  match words.rest with
  | [] => return value
  | extra :: _ => throw ("extra argument " ++ Quoted.plain extra)

/-- Tests a condition. -/
def test (isBracketed : Bool) (arguments : List String) : Task Unit := do
  modify fun state => { state with failure := 2 }
  let arguments ←
    if !isBracketed then pure arguments
    else if arguments.getLast? == some "]" then pure arguments.dropLast
    else Task.fail ("missing " ++ Quoted.plain "]")
  let looks ← Acting.observe fun self host =>
    ({ file := fun path follows =>
         match host.files.find (host.directoryOf self) path follows with
         | .ok number => (host.files.file? number).map fun file => (number, file)
         | .error _ => none
       size := host.files.sizeOf } : Looks)
  match holds looks arguments with
  | .ok value => if !value then Task.leave 1
  | .error message => Task.fail message

end Condition

/-! ## Expressions -/

namespace Expression

/-- The value of an expression. -/
inductive Value where
  | number (value : Int)
  | text (value : String)
  deriving Repr, DecidableEq

/-- The number that a text spells. -/
def integer? (text : String) : Option Int :=
  let (isNegative, digits) :=
    match text.toList with
    | '-' :: rest => (true, rest)
    | cs => (false, cs)
  if digits.isEmpty || !digits.all Char.isDigit then none
  else some (if isNegative then -(Text.decimalValue digits : Int) else Text.decimalValue digits)

namespace Value

/-- The text of a value. -/
def toText : Value → String
  | .number value => toString value
  | .text value => value

/-- The number of a value. -/
def toNumber? : Value → Option Int
  | .number value => some value
  | .text value => integer? value

/-- Whether a value counts as nothing. -/
def isNothing (value : Value) : Bool :=
  value.toText.isEmpty || value.toNumber? == some 0

end Value

/-- The levels of operators, from those that bind least on. -/
inductive Level where
  | disjunction
  | conjunction
  | comparison
  | sum
  | product
  | fitting
  | function
  | primary
  deriving Repr, DecidableEq

/-- The level of what operators at a level stand between. -/
def Level.next : Level → Level
  | .disjunction => .conjunction
  | .conjunction => .comparison
  | .comparison => .sum
  | .sum => .product
  | .product => .fitting
  | .fitting => .function
  | _ => .primary

/-- The operators at a level. -/
def operatorsAt : Level → List String
  | .disjunction => ["|"]
  | .conjunction => ["&"]
  | .comparison => ["<", "<=", "=", "==", "!=", ">=", ">"]
  | .sum => ["+", "-"]
  | .product => ["*", "/", "%"]
  | .fitting => [":"]
  | _ => []

/-- What a regular expression fits at the beginning of a text: the text of its group, or how much. -/
def fitted (text pattern : String) : Except String Value := do
  let (regex, remembers, groups) ← Regex.read .basic false pattern.toList
  let subject : Regex.Subject := { text := text.toList.toArray, remembers := remembers }
  match regex.fitAt subject 0 with
  | none => return if 0 < groups then .text "" else .number 0
  | some reach =>
    if 0 < groups then
      match reach.groups.lookup 1 with
      | some (first, last) =>
        return .text (String.ofList (subject.text.extract first last).toList)
      | none => return .text ""
    else
      return .number reach.position

/-- The value of an operator between two values. -/
def apply (operator : String) (first second : Value) : Except String Value := do
  let truth (holds : Bool) : Value := .number (if holds then 1 else 0)
  let compare (order : Ordering → Bool) : Value :=
    match first.toNumber?, second.toNumber? with
    | some first, some second => truth (order (Ord.compare first second))
    | _, _ => truth (order (Ord.compare first.toText second.toText))
  let numbers : Except String (Int × Int) :=
    match first.toNumber?, second.toNumber? with
    | some first, some second => .ok (first, second)
    | _, _ => .error "non-integer argument"
  match operator with
  | "|" =>
    return if !first.isNothing then first else if second.isNothing then .number 0 else second
  | "&" => return if first.isNothing || second.isNothing then .number 0 else first
  | "<" => return compare (· == .lt)
  | "<=" => return compare (· != .gt)
  | "=" | "==" => return compare (· == .eq)
  | "!=" => return compare (· != .eq)
  | ">=" => return compare (· != .lt)
  | ">" => return compare (· == .gt)
  | ":" => fitted first.toText second.toText
  | _ =>
    let (first, second) ← numbers
    match operator with
    | "+" => return .number (first + second)
    | "-" => return .number (first - second)
    | "*" => return .number (first * second)
    | _ =>
      if second = 0 then
        throw "division by zero"
      return .number (if operator == "/" then Int.tdiv first second else Int.tmod first second)

/-- The part of a text from a place on, with a length. -/
def part (text place length : Value) : Value :=
  match place.toNumber?, length.toNumber? with
  | some place, some length =>
    if place ≤ 0 || length ≤ 0 then .text ""
    else .text (String.ofList ((text.toText.toList.drop (place.toNat - 1)).take length.toNat))
  | _, _ => .text ""

/-- The place of the first character of a text that is among others. -/
def firstPlace (text others : Value) : Value :=
  let cs := text.toText.toList
  let before := cs.takeWhile fun c => !others.toText.toList.contains c
  .number (if before.length = cs.length then 0 else before.length + 1)

/-- The complaint about an expression that makes no sense. -/
def senseless (what : String) : String := "syntax error: " ++ what

mutual

/-- The value of an expression at a level, with the words behind it and the last word. What is not
evaluated has no errors. The fuel bounds the number of words and levels. -/
def valueAt (words : List String) : Nat → Level → Bool → Nat → Except String (Value × Nat)
  | 0, _, _, _ => throw (senseless "too long")
  | fuel + 1, level, evaluates, place => do
    let more (place : Nat) : Except String String :=
      match words[place]? with
      | some word => .ok word
      | none => .error (senseless ("missing argument after " ++
          Quoted.plain ((words[place - 1]?).getD "")))
    match level with
    | .primary =>
      let word ← more place
      if word == "(" then
        let (value, place) ← valueAt words fuel .disjunction evaluates (place + 1)
        match words[place]? with
        | some ")" => return (value, place + 1)
        | some other =>
          throw (senseless ("expecting ')' instead of " ++ Quoted.plain other))
        | none =>
          throw (senseless ("expecting ')' after " ++ Quoted.plain ((words[place - 1]?).getD "")))
      else if word == ")" then
        throw (senseless "unexpected ')'")
      else
        return (.text word, place + 1)
    | .function =>
      let argument (place : Nat) : Except String (Value × Nat) :=
        valueAt words fuel .function evaluates place
      match words[place]? with
      | some "+" => return (.text (← more (place + 1)), place + 2)
      | some "length" =>
        let (text, place) ← argument (place + 1)
        return (.number text.toText.length, place)
      | some "match" =>
        let (text, place) ← argument (place + 1)
        let (pattern, place) ← argument place
        if evaluates then return (← fitted text.toText pattern.toText, place)
        else return (text, place)
      | some "index" =>
        let (text, place) ← argument (place + 1)
        let (others, place) ← argument place
        return (firstPlace text others, place)
      | some "substr" =>
        let (text, place) ← argument (place + 1)
        let (first, place) ← argument place
        let (length, place) ← argument place
        return (part text first length, place)
      | _ => valueAt words fuel .primary evaluates place
    | level =>
      let (value, place) ← valueAt words fuel level.next evaluates place
      valueBehind words fuel level evaluates value place

/-- The value of what follows a value at a level. -/
def valueBehind (words : List String) :
    Nat → Level → Bool → Value → Nat → Except String (Value × Nat)
  | 0, _, _, _, _ => throw (senseless "too long")
  | fuel + 1, level, evaluates, value, place => do
    match words[place]? with
    | none => return (value, place)
    | some operator =>
      if !(operatorsAt level).contains operator then
        return (value, place)
      let evaluatesSecond :=
        match operator with
        | "|" => evaluates && value.isNothing
        | "&" => evaluates && !value.isNothing
        | _ => evaluates
      let (second, place) ← valueAt words fuel level.next evaluatesSecond (place + 1)
      let value ← if evaluates then apply operator value second else pure value
      valueBehind words fuel level evaluates value place

end

/-- The value of the expression that words form. -/
def value (words : List String) : Except String Value := do
  let (value, place) ← valueAt words (20 * words.length + 20) .disjunction true 0
  match words[place]? with
  | some word => throw (senseless ("unexpected argument " ++ Quoted.plain word))
  | none => return value

/-- Computes the value of an expression. -/
def expr (arguments : List String) : Task Unit := do
  modify fun state => { state with failure := 2 }
  let words := if arguments.head? == some "--" then arguments.drop 1 else arguments
  if words.isEmpty then
    Task.failMissing
  match value words with
  | .error message => Task.fail message
  | .ok value =>
    Task.writeLine value.toText
    if value.isNothing then
      Task.setStatus 1

end Expression

end Runbook.Machine.Program
