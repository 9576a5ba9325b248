import Runbook.Machine.Layout
import Runbook.Machine.Numeral
import Runbook.Machine.Program.Options

/-!
# Sequences of numbers

The program that prints numbers at equal distances. They are computed with decimal digits, so that
no distance is lost to rounding.
-/

namespace Runbook.Machine.Program.Sequence

open OptionTable

/-- A number with so many decimal places, as a whole number of the last place. -/
structure Decimal where
  units : Int
  places : Nat
  deriving Repr, DecidableEq

/-- A decimal number in units of a smaller place. -/
def Decimal.unitsAt (places : Nat) (value : Decimal) : Int :=
  value.units * (Nat.pow 10 (places - value.places) : Nat)

/-- A number that was given, and how it was written. -/
structure Operand where
  /-- The number, or nothing if it is infinite. -/
  value : Option Decimal
  isNegative : Bool
  /-- How many characters it takes up. -/
  width : Int := 0
  /-- How many places stand behind its point, if that can be told. -/
  precision : Option Nat := none
  deriving Repr, DecidableEq

/-- The greatest exponent of ten that is looked at. -/
def exponentLimit : Int := 20000

/-- The exponent behind its mark, if there is one. -/
def exponentOf (cs : List Char) : Option Int :=
  match cs.dropWhile fun c => c != 'e' && c != 'E' with
  | _ :: rest =>
    let value : Int := Text.decimalValue ((Text.withoutSign rest).takeWhile Char.isDigit)
    some (max (-exponentLimit) (min exponentLimit (if rest.head? == some '-' then -value else value)))
  | [] => none

/-- The number that decimal digits spell. -/
def decimalOf (cs : List Char) : Decimal :=
  let unsigned := Text.withoutSign cs
  let whole := unsigned.takeWhile Char.isDigit
  let fraction :=
    match unsigned.drop whole.length with
    | '.' :: rest => rest.takeWhile Char.isDigit
    | _ => []
  let size : Int := Text.decimalValue (whole ++ fraction)
  let units := if cs.head? == some '-' then -size else size
  let places : Int := fraction.length - (exponentOf cs).getD 0
  if places < 0 then ⟨units * (Nat.pow 10 (-places).toNat : Nat), 0⟩ else ⟨units, places.toNat⟩

/-- The number with binary digits as one with decimal digits. -/
def decimalOfReal (value : Real) : Option Decimal :=
  value.parts?.map fun (digits, exponent) =>
    if 0 ≤ exponent then ⟨digits * (Nat.pow 2 exponent.toNat : Nat), 0⟩
    else ⟨digits * (Nat.pow 5 (-exponent).toNat : Nat), (-exponent).toNat⟩

/-- How many characters a decimal number takes up when it is written without an exponent, and how
many places it has. -/
def extentOf (cs : List Char) : Int × Nat :=
  let before := cs.takeWhile (· != '.')
  let hasPoint := before.length < cs.length
  let fraction := (cs.drop (before.length + 1)).takeWhile fun c => c != 'e' && c != 'E'
  let size : Int := cs.length
  let width :=
    if !hasPoint then size
    else if fraction.isEmpty then size - 1
    else if (before.getLast?.map Char.isDigit) == some true then size
    else size + 1
  match exponentOf cs with
  | none => (width, fraction.length)
  | some exponent =>
    let tail : Int := (cs.dropWhile fun c => c != 'e' && c != 'E').length
    let width := width - tail
    if exponent < 0 then
      let grows := !hasPoint || fraction.isEmpty
      (width + (if grows then 1 else 0) - exponent, fraction.length + (-exponent).toNat)
    else
      let precision := fraction.length - exponent.toNat
      let shrinks := hasPoint && precision = 0 && !fraction.isEmpty
      let zeros : Int := exponent - min (fraction.length : Int) exponent
      (width - (if shrinks then 1 else 0) + zeros, precision)

/-- The number that an argument gives. -/
def operand (text : String) : Task Operand := do
  match Real.read? Real.extended text.toList with
  | some (value, []) =>
    let cs := text.toList.dropWhile fun c => Numeral.isSpace c || c == '+'
    let plain := if cs.contains '.' || cs.contains 'p' then none else some 0
    match value.magnitude with
    | .notANumber =>
      Task.failUsage ("invalid " ++ Quoted.plain "not-a-number" ++ " argument: " ++
        Quoted.plain text)
    | .infinite => return ⟨none, value.isNegative, 0, plain⟩
    | .finite _ _ =>
      if cs.contains 'x' || cs.contains 'X' then
        return ⟨decimalOfReal value, value.isNegative, 0, plain⟩
      else
        let (width, precision) := extentOf cs
        return ⟨some (decimalOf cs), value.isNegative, width, some precision⟩
  | _ => Task.failUsage ("invalid floating point argument: " ++ Quoted.plain text)

/-! ## Printing -/

/-- What stands in front of a number, how the number is laid out, and what stands behind it. -/
structure Format where
  before : String
  layout : Layout
  letter : Char
  behind : String

/-- The characters of a format up to a directive, in which two percent signs stand for one. -/
def literalPart : List Char → List Char × List Char
  | '%' :: '%' :: rest =>
    let (part, rest) := literalPart rest
    ('%' :: part, rest)
  | '%' :: rest => ([], '%' :: rest)
  | c :: rest =>
    let (part, rest) := literalPart rest
    (c :: part, rest)
  | [] => ([], [])

/-- Reads a format. -/
def formatOf (text : String) : Task Format := do
  let quoted := Quoted.plain text
  match literalPart text.toList with
  | (before, '%' :: rest) =>
    let (directive, behind) := Directive.read "-+#0 '".toList [] rest
    let (letter, behind) :=
      match directive.letter, behind with
      | some 'L', letter :: behind => (some letter, behind)
      | some 'L', [] => (none, [])
      | letter, _ => (letter, behind)
    match letter with
    | none => Task.fail ("format " ++ quoted ++ " ends in %")
    | some letter =>
      if !"efgaEFGA".toList.contains letter then
        Task.fail ("format " ++ quoted ++ " has unknown %" ++ letter.toString ++ " directive")
      match literalPart behind with
      | (behind, []) =>
        let layout : Layout :=
          { flags := directive.flags
            width := directive.width.getD 0
            precision := directive.precision.bind fun precision => precision }
        return ⟨String.ofList before, layout, letter, String.ofList behind⟩
      | _ => Task.fail ("format " ++ quoted ++ " has too many % directives")
  | _ => Task.fail ("format " ++ quoted ++ " has no % directive")

/-- The binary number nearest to a number of units. -/
def realOf (units : Int) (places : Nat) (isNegative : Bool) : Real :=
  ⟨isNegative, Real.ofQuotient Real.extended units.natAbs (Nat.pow 10 places)⟩

/-- A number of units with so many places behind the point, and filled up with zeros. -/
def fixedText (width precision places : Nat) (isNegative : Bool) (units : Int) : String :=
  let size :=
    if places ≤ precision then units.natAbs * Nat.pow 10 (precision - places)
    else Real.roundedQuotient units.natAbs (Nat.pow 10 (places - precision))
  let digits := Real.pointed false precision (Real.decimalDigits (precision + 1) size)
  let sign := if isNegative then ['-'] else []
  let zeros := List.replicate (width - sign.length - digits.length) '0'
  String.ofList (sign ++ zeros ++ digits)

/-- The format of numbers for which none was given, as their width and precision. -/
def usualFormat (sameWidth : Bool) (first step last : Operand) : Option (Nat × Nat) := do
  let before ← first.precision
  let precision := max before (← step.precision)
  let behind ← last.precision
  let point (own : Nat) : Int := if own = 0 && precision ≠ 0 then 1 else 0
  let firstWidth := first.width + (precision - before : Int) + point before
  let lastWidth := last.width + (precision - behind : Int) + point behind -
    (if behind ≠ 0 && precision = 0 then 1 else 0)
  return (if sameWidth then (max firstWidth lastWidth).toNat else 0, precision)

/-- Prints numbers. -/
def print (shown : Bool → Int → String) (separator : String) (first : Int) (isNegative : Bool)
    (step : Int) (last : Option Int) : Task Unit := do
  let isOver (value : Int) : Bool :=
    match last with
    | some last => if 0 < step then last < value else value < last
    | none => false
  if isOver first then
    return ()
  Task.write (shown isNegative first)
  Acting.iterate
    (fun value : Int => do
      if isOver value then return .inr ()
      else
        Task.write (separator ++ shown (value < 0) value)
        return .inl (value + step))
    () Acting.endless (first + step)
  Task.write "\n"

/-- Prints the numbers from one to another one. -/
def sequence (arguments : List String) : Task Unit := do
  let table :=
    { ofLists "f:s:w"
        (flags [("equal-width", "w")] ++ valued [("format", "f"), ("separator", "s")]) with
      mayFollow := false
      knowsNumbers := true }
  let given ← Task.options table arguments
  if given.operands.isEmpty then
    Task.failMissing
  if let extra :: _ := given.operands.drop 3 then
    Task.failExtra extra
  let format ← (given.value? "f").mapM formatOf
  if format.isSome && given.has "w" then
    Task.failUsage "format string may not be specified when printing equal width strings"
  let one : Operand := ⟨some ⟨1, 0⟩, false, 1, some 0⟩
  let (first, step, last) : Operand × Operand × Operand ←
    match given.operands with
    | [last] => do pure (one, one, ← operand last)
    | [first, last] => do
      let first ← operand first
      pure (first, one, ← operand last)
    | first :: step :: last :: _ => do
      let first ← operand first
      let step' ← operand step
      if step'.value.any fun value => value.units = 0 then
        Task.failUsage ("invalid Zero increment value: " ++ Quoted.plain step)
      pure (first, step', ← operand last)
    | [] => pure (one, one, one)
  match first.value, step.value with
  | some start, some distance =>
    let places := max (max start.places distance.places)
      ((last.value.map Decimal.places).getD 0)
    let units := distance.unitsAt places
    let isNever := last.value.isNone && (last.isNegative == decide (0 < units))
    if isNever then
      return ()
    let shown : Bool → Int → String :=
      match format, usualFormat (given.has "w") first step last with
      | some format, _ => fun isNegative units =>
        format.before ++ String.ofList (format.layout.real true format.letter
          (realOf units places isNegative)) ++ format.behind
      | none, some (width, precision) => fixedText width precision places
      | none, none => fun isNegative units =>
        String.ofList (({} : Layout).real true 'g' (realOf units places isNegative))
    print shown ((given.value? "s").getD "\n") (start.unitsAt places) first.isNegative units
      (last.value.map (Decimal.unitsAt places))
  | _, _ => return ()

end Runbook.Machine.Program.Sequence
