import Runbook.Machine.Real

/-!
# Layouts of values

How a value is laid out under a directive: the flags, the least width and the precision that the
directive gives, and what its letter makes of the value.
-/

namespace Runbook.Machine

/-- What a directive says about the layout of a value. -/
structure Layout where
  flags : List Char := []
  width : Nat := 0
  precision : Option Nat := none
  deriving Repr, DecidableEq

namespace Layout

/-- Whether a flag is given. -/
def has (layout : Layout) (flag : Char) : Bool :=
  layout.flags.contains flag

/-- Characters filled up with blanks to the width. -/
def pad (layout : Layout) (cs : List Char) : List Char :=
  let blanks := List.replicate (layout.width - cs.length) ' '
  if layout.has '-' then cs ++ blanks else blanks ++ cs

/-- A text, of which the precision bounds the length. -/
def text (layout : Layout) (cs : List Char) : List Char :=
  match layout.precision with
  | some count => layout.pad (cs.take count)
  | none => layout.pad cs

/-- The sign in front of a number. -/
def sign (layout : Layout) (isNegative : Bool) : List Char :=
  if isNegative then ['-']
  else if layout.has '+' then ['+']
  else if layout.has ' ' then [' ']
  else []

/-- A number with what stands in front of it, filled up with zeros if that is asked for. -/
def filled (layout : Layout) (zeros : Bool) (start digits : List Char) : List Char :=
  if zeros && layout.has '0' && !layout.has '-' then
    start ++ List.replicate (layout.width - start.length - digits.length) '0' ++ digits
  else
    layout.pad (start ++ digits)

/-- A whole number in the notation of a letter. -/
def integer (layout : Layout) (letter : Char) (isNegative : Bool) (size : Nat) : List Char :=
  let digits :=
    if size = 0 && layout.precision == some 0 then []
    else
      match letter with
      | 'x' => Nat.toDigits 16 size
      | 'X' => (Nat.toDigits 16 size).map Char.toUpper
      | 'o' => Nat.toDigits 8 size
      | _ => Nat.toDigits 10 size
  let digits := List.replicate ((layout.precision.getD 0) - digits.length) '0' ++ digits
  let isSigned := letter == 'd' || letter == 'i'
  let start :=
    if isSigned then layout.sign isNegative
    else if layout.has '#' && letter == 'x' && size != 0 then ['0', 'x']
    else if layout.has '#' && letter == 'X' && size != 0 then ['0', 'X']
    else if layout.has '#' && letter == 'o' && digits.head? != some '0' then ['0']
    else []
  layout.filled layout.precision.isNone start digits

/-- A number with binary digits in the notation of a letter. -/
def real (layout : Layout) (isExtended : Bool) (letter : Char) (value : Real) : List Char :=
  let keeps := layout.has '#'
  let precision := layout.precision.getD 6
  let lower := letter.toLower
  let (start, digits, zeros) : List Char × List Char × Bool :=
    match value.magnitude with
    | .infinite => ([], ['i', 'n', 'f'], false)
    | .notANumber => ([], ['n', 'a', 'n'], false)
    | .finite digits exponent =>
      match lower with
      | 'f' => ([], Real.fixed keeps precision digits exponent, true)
      | 'e' => ([], Real.scientific keeps precision digits exponent, true)
      | 'g' => ([], Real.general keeps precision digits exponent, true)
      | _ => (['0', 'x'],
          Real.hexadecimal isExtended layout.precision keeps digits exponent, true)
  let all := layout.filled zeros (layout.sign value.isNegative ++ start) digits
  if letter.isUpper then all.map Char.toUpper else all

end Layout

/-- A directive as it is written, before its arguments are known. -/
structure Directive where
  flags : List Char
  /-- The width, or nothing if an argument gives it. -/
  width : Option Nat
  /-- The precision, if there is one, or nothing in it if an argument gives it. -/
  precision : Option (Option Nat)
  /-- The characters of the directive behind the percent sign up to the letter. -/
  written : List Char
  letter : Option Char

namespace Directive

/-- A number, or a star that asks for an argument. -/
def count (cs : List Char) : Option Nat × List Char :=
  match cs with
  | '*' :: rest => (none, rest)
  | _ =>
    let digits := cs.takeWhile Char.isDigit
    (some (Text.decimalValue digits), cs.drop digits.length)

/-- Reads a directive behind the percent sign. Some letters may stand in front of its letter without
any meaning. -/
def read (flags passed : List Char) (cs : List Char) : Directive × List Char :=
  let found := cs.takeWhile flags.contains
  let rest := cs.drop found.length
  let (width, rest) := count rest
  let (precision, rest) :=
    match rest with
    | '.' :: rest =>
      let (precision, rest) := count rest
      (some precision, rest)
    | _ => (none, rest)
  let rest := rest.dropWhile passed.contains
  let written := cs.take (cs.length - rest.length)
  match rest with
  | letter :: rest => (⟨found, width, precision, written, some letter⟩, rest)
  | [] => (⟨found, width, precision, written, none⟩, [])

end Directive

end Runbook.Machine
