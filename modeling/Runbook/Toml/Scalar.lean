import Runbook.Text.Number
import Runbook.Text.Split
import Runbook.Toml.Moment
import Runbook.Toml.Value

/-!
# Scalars

The values that are written without quotes and brackets: booleans, numbers and moments. Numbers of
any size can be written; an integer that is held fits in 128 bits, with or without sign, and a
floating-point number that is held is within the range of double precision.
-/

namespace Runbook.Toml

/-- Digits without the underscores between them, given which characters are digits. -/
def digits? (isDigit : Char → Bool) (cs : List Char) : Option (List Char) :=
  let groups := Text.splitAt '_' cs
  if groups.all fun group => !group.isEmpty && group.all isDigit then
    some groups.flatten
  else
    none

/-- Whether a character is a digit of base two. -/
def isBinaryDigit (c : Char) : Bool := c == '0' || c == '1'

/-- The value of a decimal number without sign. A zero stands in front of other digits nowhere. -/
def natural? (cs : List Char) : Option Nat :=
  match cs with
  | '0' :: _ :: _ => none
  | _ => (digits? Char.isDigit cs).map Text.decimalValue

/-- A sign and the characters after it. -/
def splitSign : List Char → Bool × List Char
  | '+' :: rest => (false, rest)
  | '-' :: rest => (true, rest)
  | cs => (false, cs)

/-- The value of a number in a base, given which characters are its digits. -/
def spelledIn? (base : Nat) (isDigit : Char → Bool) (cs : List Char) : Option Int :=
  (digits? isDigit cs).map fun digits => (Text.valueIn base digits : Int)

/-- The value of an integer. Only decimal numbers may have a sign. -/
def integer? (cs : List Char) : Option Int :=
  match cs with
  | '0' :: 'x' :: rest => spelledIn? 16 Text.isHexDigit rest
  | '0' :: 'o' :: rest => spelledIn? 8 Text.isOctalDigit rest
  | '0' :: 'b' :: rest => spelledIn? 2 isBinaryDigit rest
  | _ =>
    let (negative, body) := splitSign cs
    (natural? body).map fun value => if negative then -(value : Int) else value

/-- Whether an integer fits in 128 bits, with or without sign. -/
def integerFits (value : Int) : Bool :=
  -(Nat.pow 2 127 : Int) ≤ value && value < (Nat.pow 2 128 : Int)

/-- The smallest number that rounds to infinity in double precision. -/
def overflowBound : Nat :=
  Nat.pow 2 1024 - Nat.pow 2 970

/-- Whether a decimal number, the digits times a power of ten, is too large for double precision. -/
def overflows (digits : List Char) (exponent : Int) : Bool :=
  let significant := digits.dropWhile (· == '0')
  let magnitude : Int := significant.length + exponent
  if significant.isEmpty || magnitude < 300 then
    false
  else if magnitude > 320 then
    true
  else if 0 ≤ exponent then
    overflowBound ≤ Text.decimalValue significant * Nat.pow 10 exponent.toNat
  else
    overflowBound * Nat.pow 10 exponent.natAbs ≤ Text.decimalValue significant

/-- The value of an exponent, which may have a sign and leading zeros. -/
def exponent? (cs : List Char) : Option Int :=
  let (negative, body) := splitSign cs
  (digits? Char.isDigit body).map fun digits =>
    if negative then -(Text.decimalValue digits : Int) else Text.decimalValue digits

/-- The digits of a fraction, given the characters between the whole part and the exponent. -/
def fraction? : List Char → Option (List Char)
  | [] => some []
  | '.' :: rest => digits? Char.isDigit rest
  | _ => none

/-- Whether a floating-point number is within range, given the characters that spell it without
sign, or `none` if they spell none. -/
def unsignedFloat? (cs : List Char) : Option Bool :=
  let isMark (c : Char) : Bool := c == 'e' || c == 'E'
  let mantissa := cs.takeWhile fun c => !isMark c
  let power := cs.dropWhile fun c => !isMark c
  let whole := mantissa.takeWhile (· != '.')
  let fraction := mantissa.dropWhile (· != '.')
  let exponent :=
    match power with
    | [] => if fraction.isEmpty then none else some 0
    | _ :: rest => exponent? rest
  match natural? whole, digits? Char.isDigit whole, fraction? fraction, exponent with
  | some _, some wholeDigits, some fractionDigits, some exponent =>
    some (!overflows (wholeDigits ++ fractionDigits) (exponent - fractionDigits.length))
  | _, _, _, _ => none

/-- Whether a floating-point number is within range, given the characters that spell it, or `none`
if they spell none. -/
def float? (cs : List Char) : Option Bool :=
  let body := (splitSign cs).2
  if body == ['i', 'n', 'f'] || body == ['n', 'a', 'n'] then some true else unsignedFloat? body

/-- The value that characters without quotes and brackets spell. -/
def scalar? (cs : List Char) : Option Value :=
  if cs == ['t', 'r', 'u', 'e'] then some (.boolean true)
  else if cs == ['f', 'a', 'l', 's', 'e'] then some (.boolean false)
  else if Moment.spells cs then some (.moment (String.ofList cs))
  else
    match integer? cs with
    | some value =>
      some (if integerFits value then .integer value else .excessive (String.ofList cs))
    | none =>
      (float? cs).map fun fits =>
        if fits then .float (String.ofList cs) else .excessive (String.ofList cs)

end Runbook.Toml
