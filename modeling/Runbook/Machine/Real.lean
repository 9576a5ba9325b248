import Runbook.Text.Number

/-!
# Binary floating-point numbers

Numbers with a fixed number of binary digits: how texts are read as such numbers, and how they are
written with decimal or hexadecimal digits. Everything is computed exactly and rounded once, to the
nearest number, where of two that are equally near the even one is taken.
-/

namespace Runbook.Machine

/-- A number without its sign. -/
inductive Magnitude where
  /-- The product of a whole number and a power of two. -/
  | finite (digits : Nat) (exponent : Int)
  | infinite
  | notANumber
  deriving Repr, DecidableEq

/-- A number. -/
structure Real where
  isNegative : Bool := false
  magnitude : Magnitude
  deriving Repr, DecidableEq

/-- The numbers of a format: how many binary digits they have, and the bounds of the exponents. -/
structure RealFormat where
  size : Nat
  least : Int
  greatest : Int

namespace Real

/-- Numbers of 64 bits. -/
def double : RealFormat := ⟨53, -1074, 971⟩

/-- Numbers of 80 bits. -/
def extended : RealFormat := ⟨64, -16445, 16320⟩

/-- A power of two as a factor of a numerator and one of a denominator. -/
def powerOfTwo (exponent : Int) : Nat × Nat :=
  if 0 ≤ exponent then (Nat.shiftLeft 1 exponent.toNat, 1)
  else (1, Nat.shiftLeft 1 (-exponent).toNat)

/-- The whole number nearest to a quotient. -/
def roundedQuotient (numerator denominator : Nat) : Nat :=
  let quotient := numerator / denominator
  let rest := numerator % denominator
  if 2 * rest < denominator || (2 * rest = denominator && quotient % 2 = 0) then quotient
  else quotient + 1

/-- The number of binary digits of a whole number. -/
def bitLength (value : Nat) : Nat :=
  if value = 0 then 0 else value.log2 + 1

/-- The magnitude nearest to a quotient. -/
def ofQuotient (format : RealFormat) (numerator denominator : Nat) : Magnitude :=
  if numerator = 0 then .finite 0 0
  else
    let guess : Int := (bitLength numerator : Int) - bitLength denominator - format.size
    let roundedAt (exponent : Int) : Nat :=
      let (up, down) := powerOfTwo (-exponent)
      roundedQuotient (numerator * up) (denominator * down)
    let bound := Nat.shiftLeft 1 format.size
    let floorAt (exponent : Int) : Nat :=
      let (up, down) := powerOfTwo (-exponent)
      (numerator * up) / (denominator * down)
    let exponent := if bound ≤ floorAt guess then guess + 1 else guess
    let exponent := max exponent format.least
    let digits := roundedAt exponent
    let (digits, exponent) :=
      if digits = bound then (digits / 2, exponent + 1) else (digits, exponent)
    if format.greatest < exponent then .infinite else .finite digits exponent

/-- Beyond this power of ten, every format has left its range. -/
def exponentLimit : Int := 20000

/-- The magnitude nearest to decimal digits times a power of ten. -/
def ofDecimal (format : RealFormat) (digits : Nat) (exponent : Int) (digitCount : Nat) :
    Magnitude :=
  if digits = 0 then .finite 0 0
  else if exponentLimit < exponent then .infinite
  else if exponent + digitCount < -exponentLimit then .finite 0 0
  else if 0 ≤ exponent then ofQuotient format (digits * Nat.pow 10 exponent.toNat) 1
  else ofQuotient format digits (Nat.pow 10 (-exponent).toNat)

/-- The exponent that characters begin with behind its mark, with how many characters it takes. -/
def exponent? (isMark : Char → Bool) (cs : List Char) : Option (Int × Nat) :=
  match cs with
  | c :: rest =>
    if isMark c then
      let digits := (Text.withoutSign rest).takeWhile Char.isDigit
      let signs := rest.length - (Text.withoutSign rest).length
      if digits.isEmpty then none
      else
        let size : Int := Text.decimalValue digits
        some (if rest.head? == some '-' then -size else size, 1 + signs + digits.length)
    else
      none
  | [] => none

/-- The magnitude that characters begin with, and how many of them spell it. -/
def magnitude? (format : RealFormat) (cs : List Char) : Option (Magnitude × Nat) :=
  let lower := cs.map Char.toLower
  if "infinity".toList.isPrefixOf lower then some (.infinite, 8)
  else if "inf".toList.isPrefixOf lower then some (.infinite, 3)
  else if "nan".toList.isPrefixOf lower then
    let name := (lower.drop 4).takeWhile fun c => c.isAlphanum || c == '_'
    if lower[3]? == some '(' && lower[4 + name.length]? == some ')' then
      some (.notANumber, 5 + name.length)
    else
      some (.notANumber, 3)
  else
    let isHex := "0x".toList.isPrefixOf lower
    let isDigit (c : Char) : Bool := if isHex then Text.isHexDigit c else c.isDigit
    let body := if isHex then cs.drop 2 else cs
    let whole := body.takeWhile isDigit
    let behind := body.drop whole.length
    let fraction := if behind.head? == some '.' then (behind.drop 1).takeWhile isDigit else []
    let digits := whole ++ fraction
    if digits.isEmpty then
      if isHex then some (.finite 0 0, 1) else none
    else
      let pointed := behind.head? == some '.'
      let used := digits.length + (if pointed then 1 else 0)
      let rest := body.drop used
      if isHex then
        let (power, more) := (exponent? (fun c => c == 'p' || c == 'P') rest).getD (0, 0)
        let value := Text.valueIn 16 digits
        let power := power - 4 * fraction.length
        let magnitude :=
          if value = 0 then .finite 0 0
          else if exponentLimit < power then .infinite
          else if power < -2 * exponentLimit then .finite 0 0
          else
            let (up, down) := powerOfTwo power
            ofQuotient format (value * up) down
        some (magnitude, 2 + used + more)
      else
        let (power, more) := (exponent? (fun c => c == 'e' || c == 'E') rest).getD (0, 0)
        let power := power - fraction.length
        some (ofDecimal format (Text.decimalValue digits) power digits.length, used + more)

/-- The number that characters begin with, behind blanks and a sign, and what stands behind it. -/
def read? (format : RealFormat) (cs : List Char) : Option (Real × List Char) :=
  let isBlank (c : Char) : Bool := c == ' ' || (9 ≤ c.toNat && c.toNat ≤ 13)
  let unsigned := Text.withoutSign (cs.dropWhile isBlank)
  (magnitude? format unsigned).map fun (magnitude, used) =>
    (⟨(cs.dropWhile isBlank).head? == some '-', magnitude⟩, unsigned.drop used)

/-- Whether a number that was read from a text has left the range of a format: whether it has become
infinite, or so small that it has fewer digits than others. -/
def isOutOfRange (format : RealFormat) (text : List Char) (value : Real) : Bool :=
  match value.magnitude with
  | .infinite => text.any Char.isDigit
  | .finite digits exponent =>
    bitLength digits < format.size && exponent = format.least ||
      digits = 0 && (text.takeWhile fun c => c != 'e' && c != 'E' && c != 'p' && c != 'P').any
        fun c => c.isDigit && c != '0'
  | .notANumber => false

/-- The whole number nearest to a finite magnitude times a power of ten. -/
def scaled (digits : Nat) (exponent : Int) (places : Int) : Nat :=
  let (up, down) := powerOfTwo exponent
  if 0 ≤ places then roundedQuotient (digits * up * Nat.pow 10 places.toNat) down
  else roundedQuotient (digits * up) (down * Nat.pow 10 (-places).toNat)

/-- Decimal digits, at least so many. -/
def decimalDigits (least value : Nat) : List Char :=
  let digits := Nat.toDigits 10 value
  List.replicate (least - digits.length) '0' ++ digits

/-- Digits with a point in front of the last so many, and without one if there are none, unless it
is asked for. -/
def pointed (keepsPoint : Bool) (places : Nat) (digits : List Char) : List Char :=
  let whole := digits.take (digits.length - places)
  let fraction := digits.drop (digits.length - places)
  if fraction.isEmpty && !keepsPoint then whole else whole ++ '.' :: fraction

/-- A finite magnitude with so many decimal places. -/
def fixed (keepsPoint : Bool) (places digits : Nat) (exponent : Int) : List Char :=
  pointed keepsPoint places (decimalDigits (places + 1) (scaled digits exponent places))

/-- An exponent with its sign and at least so many digits. -/
def exponentText (least : Nat) (exponent : Int) : List Char :=
  (if exponent < 0 then '-' else '+') :: decimalDigits least exponent.natAbs

/-- The decimal exponent of a finite magnitude rounded to so many places behind its first digit, and
all the digits. The search starts close to the exponent. -/
def scientificDigits (places digits : Nat) (exponent : Int) : Int × Nat :=
  if digits = 0 then (0, 0)
  else
    let bits : Int := (bitLength digits : Int) + exponent
    let start := (bits * 30103) / 100000 - 2
    let bound := Nat.pow 10 (places + 1)
    let candidates := (List.range 6).map fun (step : Nat) => start + (step : Int)
    match candidates.find? fun power => scaled digits exponent (places - power) < bound with
    | some power => (power, scaled digits exponent (places - power))
    | none => (start, 0)

/-- A finite magnitude with one digit in front of the point and so many places behind. -/
def scientific (keepsPoint : Bool) (places digits : Nat) (exponent : Int) : List Char :=
  let (power, found) := scientificDigits places digits exponent
  pointed keepsPoint places (decimalDigits (places + 1) found) ++ 'e' :: exponentText 2 power

/-- Digits with a point, without the zeros at the end. -/
def withoutZeros (text : List Char) : List Char :=
  if text.contains '.' then
    let kept := text.reverse.dropWhile (· == '0')
    (if kept.head? == some '.' then kept.drop 1 else kept).reverse
  else
    text

/-- A finite magnitude with so many digits that count, in the shorter of both forms. -/
def general (keepsZeros : Bool) (precision digits : Nat) (exponent : Int) : List Char :=
  let count := max precision 1
  let (power, _) := scientificDigits (count - 1) digits exponent
  if -4 ≤ power && power < count then
    let text := fixed keepsZeros ((count : Int) - 1 - power).toNat digits exponent
    if keepsZeros then text else withoutZeros text
  else
    let text := scientific keepsZeros (count - 1) digits exponent
    if keepsZeros then text
    else withoutZeros (text.takeWhile (· != 'e')) ++ text.dropWhile (· != 'e')

/-- A finite magnitude with hexadecimal digits. Numbers of the longer format have four bits in front
of the point and others have one. -/
def hexadecimal (isExtended : Bool) (precision : Option Nat) (keepsPoint : Bool) (digits : Nat)
    (exponent : Int) : List Char :=
  let leading := if isExtended then 4 else 1
  let places : Nat := if isExtended then 15 else 13
  if digits = 0 then
    let zeros := List.replicate (precision.getD 0) '0'
    '0' :: (if zeros.isEmpty && !keepsPoint then [] else '.' :: zeros) ++ ['p', '+', '0']
  else
    let width := leading + 4 * places
    let shift : Int := (width : Int) - bitLength digits
    let aligned := digits * (powerOfTwo shift).1 / (powerOfTwo shift).2
    let power := exponent - shift + 4 * places
    let kept := min (precision.getD places) places
    let rounded := roundedQuotient aligned (Nat.shiftLeft 1 (4 * (places - kept)))
    let text := Nat.toDigits 16 rounded
    let text := List.replicate (kept + 1 - text.length) '0' ++ text
    let whole := text.take (text.length - kept)
    let fraction := text.drop (text.length - kept)
    let fraction :=
      match precision with
      | some asked => fraction ++ List.replicate (asked - kept) '0'
      | none => (fraction.reverse.dropWhile (· == '0')).reverse
    whole ++ (if fraction.isEmpty && !keepsPoint then [] else '.' :: fraction) ++
      'p' :: exponentText 1 power

/-- How far apart two numbers stand, for comparing finite ones: the difference of both as a quotient
with a common positive denominator. -/
def difference (first second : Int × Int) : Int :=
  let common := min first.2 second.2
  let raise (value : Int × Int) : Int := value.1 * (powerOfTwo (value.2 - common)).1
  raise first - raise second

/-- A finite number as a whole number and a power of two. -/
def parts? (value : Real) : Option (Int × Int) :=
  match value.magnitude with
  | .finite digits exponent =>
    some (if value.isNegative then -(digits : Int) else digits, exponent)
  | _ => none

end Real

end Runbook.Machine
