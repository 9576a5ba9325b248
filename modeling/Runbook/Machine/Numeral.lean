import Runbook.Text.Number

/-!
# Whole numbers in arguments

How programs read a whole number at the beginning of an argument: behind blanks and a sign, in the
decimal, the octal or the hexadecimal system, as far as it goes. Numbers have 64 binary digits, and
what is beyond them becomes the last of them.
-/

namespace Runbook.Machine.Numeral

/-- Blanks in front of a number. -/
def isSpace (c : Char) : Bool :=
  c == ' ' || (9 ≤ c.toNat && c.toNat ≤ 13)

/-- The size of a number at the beginning of characters whose system is told by its first digits,
and how many characters it has. -/
def literal (cs : List Char) : Nat × Nat :=
  match cs with
  | '0' :: x :: rest =>
    let hex := rest.takeWhile Text.isHexDigit
    if (x == 'x' || x == 'X') && !hex.isEmpty then (Text.valueIn 16 hex, hex.length + 2)
    else
      let octal := cs.takeWhile Text.isOctalDigit
      (Text.valueIn 8 octal, octal.length)
  | _ =>
    let digits := cs.takeWhile Char.isDigit
    (Text.decimalValue digits, digits.length)

/-- The sign of a number at the beginning of characters, its size, and what stands behind it. -/
def read (cs : List Char) : Bool × Nat × List Char :=
  let unsigned := cs.dropWhile isSpace
  let (isNegative, digits) :=
    match unsigned with
    | '-' :: rest => (true, rest)
    | '+' :: rest => (false, rest)
    | _ => (false, unsigned)
  let (size, count) := literal digits
  if count = 0 then (false, 0, cs) else (isNegative, size, digits.drop count)

/-- The least and the greatest number with a sign. -/
def signedBounds : Int × Int := (-0x8000000000000000, 0x7FFFFFFFFFFFFFFF)

/-- The greatest number without a sign. -/
def greatestUnsigned : Nat := 0xFFFFFFFFFFFFFFFF

/-- The number with a sign that is meant, and whether it is out of range. -/
def signed (isNegative : Bool) (size : Nat) : Int × Bool :=
  let value : Int := if isNegative then -size else size
  let (least, greatest) := signedBounds
  (max least (min greatest value), value < least || greatest < value)

/-- The number without a sign that is meant, and whether it is out of range. A sign in front turns
it around. -/
def unsigned (isNegative : Bool) (size : Nat) : Nat × Bool :=
  if greatestUnsigned < size then (greatestUnsigned, true)
  else if isNegative then ((greatestUnsigned + 1 - size) % (greatestUnsigned + 1), false)
  else (size, false)

end Runbook.Machine.Numeral
