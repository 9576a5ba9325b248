import Runbook.Machine.Numeral
import Runbook.Machine.Program.Task

/-!
# Quantities in arguments

How many lines or octets an argument asks for: a number without a sign, with a letter for a multiple
behind it.
-/

namespace Runbook.Machine.Quantity

/-- Why a text is no quantity. -/
inductive Fault where
  | invalid
  | tooLarge
  deriving Repr, DecidableEq

/-- How often the base of multiples is taken for a letter. -/
def power? (letter : Char) : Option Nat :=
  match letter with
  | 'k' | 'K' => some 1
  | 'm' | 'M' => some 2
  | 'g' | 'G' => some 3
  | 't' | 'T' => some 4
  | 'P' => some 5
  | 'E' => some 6
  | 'Z' => some 7
  | 'Y' => some 8
  | 'R' => some 9
  | 'Q' => some 10
  | _ => none

/-- The multiple that the letters behind a number stand for, if they are among those that are known.
-/
def multiple? (known : List Char) (letters : List Char) : Option Nat :=
  match letters with
  | [] => some 1
  | letter :: rest =>
    if !known.contains letter then none
    else
      match letter, power? letter with
      | 'b', _ => if rest.isEmpty then some 512 else none
      | 'c', _ => if rest.isEmpty then some 1 else none
      | 'w', _ => if rest.isEmpty then some 2 else none
      | 'B', _ => if rest.isEmpty then some 1024 else none
      | _, none => none
      | _, some power =>
        match rest with
        | [] | ['i', 'B'] => some (Nat.pow 1024 power)
        | ['B'] => some (Nat.pow 1000 power)
        | _ => none

/-- The quantity that a text gives. -/
def read (known : String) (text : String) : Except Fault Nat :=
  let cs := text.toList.dropWhile Numeral.isSpace
  let cs :=
    match cs with
    | '+' :: rest => rest
    | _ => cs
  let digits := cs.takeWhile Char.isDigit
  let letters := cs.drop digits.length
  match multiple? known.toList letters with
  | none => .error .invalid
  | some multiple =>
    if digits.isEmpty && letters.isEmpty then .error .invalid
    else
      let value := (if digits.isEmpty then 1 else Text.decimalValue digits) * multiple
      if Numeral.greatestUnsigned < value then .error .tooLarge else .ok value

/-- The letters for multiples that most programs know. -/
def usual : String := "bkKmMGTPEZYRQ0"

end Runbook.Machine.Quantity

namespace Runbook.Machine.Task

/-- The quantity that an argument gives. -/
def quantity (known what text : String) : Task Nat := do
  let complaint := "invalid " ++ what ++ ": " ++ Quoted.plain text
  match Quantity.read known text with
  | .ok value => return value
  | .error .invalid => fail complaint
  | .error .tooLarge => fail (complaint ++ ": Value too large for defined data type")

end Runbook.Machine.Task
