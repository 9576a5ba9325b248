/-!
# Numbers

The value of digits, the decimal numbers that fit into a machine word, and the spelling of
floating-point numbers.
-/

namespace Runbook.Text

/-- The value of decimal digits. -/
def decimalValue (digits : List Char) : Nat :=
  digits.foldl (fun value digit => value * 10 + (digit.toNat - '0'.toNat)) 0

/-- Whether a character is a digit of base eight. -/
def isOctalDigit (c : Char) : Bool := '0' ≤ c && c ≤ '7'

/-- Whether a character is a digit of base sixteen. -/
def isHexDigit (c : Char) : Bool :=
  c.isDigit || ('a' ≤ c && c ≤ 'f') || ('A' ≤ c && c ≤ 'F')

/-- The value of a digit of a base up to sixteen. -/
def digitValue (c : Char) : Nat :=
  if c.isDigit then c.toNat - '0'.toNat else c.toLower.toNat - 'a'.toNat + 10

/-- The value of digits in a base up to sixteen. -/
def valueIn (base : Nat) (digits : List Char) : Nat :=
  digits.foldl (fun value digit => value * base + digitValue digit) 0

/-- The number that decimal digits spell, and nothing else. -/
def natural? (cs : List Char) : Option Nat :=
  if cs.isEmpty || !cs.all Char.isDigit then none else some (decimalValue cs)

/-- The numbers below this one fit into 64 bits. -/
def wordLimit : Nat := 18446744073709551616

/-- The number that a text spells, perhaps after a plus sign, if it fits into 64 bits. -/
def word? (text : String) : Option Nat :=
  let digits :=
    match text.toList with
    | '+' :: digits => digits
    | digits => digits
  match natural? digits with
  | some value => if value < wordLimit then some value else none
  | none => none

/-- The characters after a sign, if there is one. -/
def withoutSign : List Char → List Char
  | '+' :: rest => rest
  | '-' :: rest => rest
  | cs => cs

/-- Whether characters spell the exponent of a floating-point number with its mark, or nothing. -/
def isExponent : List Char → Bool
  | [] => true
  | c :: rest =>
    let digits := withoutSign rest
    (c == 'e' || c == 'E') && !digits.isEmpty && digits.all Char.isDigit

/-- Whether characters spell a floating-point number: digits with a point anywhere among them and
perhaps an exponent, or a name, with or without sign. -/
def isFloatingPoint (cs : List Char) : Bool :=
  let body := withoutSign cs
  let whole := body.takeWhile Char.isDigit
  let rest := body.dropWhile Char.isDigit
  let pointed := rest.head? == some '.'
  let fraction := if pointed then (rest.drop 1).takeWhile Char.isDigit else []
  let exponent := if pointed then (rest.drop 1).dropWhile Char.isDigit else rest
  let named := ["inf", "infinity", "nan"].contains (String.ofList (body.map Char.toLower))
  named || (!(whole ++ fraction).isEmpty && isExponent exponent)

end Runbook.Text
