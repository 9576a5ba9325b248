import Runbook.Machine.Layout
import Runbook.Machine.Numeral
import Runbook.Machine.Shell.Memory

/-!
# Printing

The built-in commands that print their arguments, as they are or under a format. In a format and in
some arguments a backslash stands for other characters together with what follows it.
-/

namespace Runbook.Machine.Shell.Print

/-- The octet that a letter behind a backslash stands for. -/
def letterEscape? : Char → Option Char
  | '\\' => some '\\'
  | 'a' => some '\x07'
  | 'b' => some '\x08'
  | 'e' => some '\x1B'
  | 'f' => some '\x0C'
  | 'n' => some '\n'
  | 'r' => some '\x0D'
  | 't' => some '\t'
  | 'v' => some '\x0B'
  | _ => none

/-- What a backslash and the characters behind it stand for, and what follows. Up to three octal
digits stand for an octet, and a backslash in front of anything else for itself. -/
def unescapeOne (cs : List Char) : Char × List Char :=
  match cs with
  | [] => ('\\', [])
  | c :: rest =>
    match letterEscape? c with
    | some octet => (octet, rest)
    | none =>
      let digits := (cs.take 3).takeWhile Text.isOctalDigit
      if digits.isEmpty then ('\\', cs)
      else (Char.ofNat (Text.valueIn 8 digits % 256), cs.drop digits.length)

/-- A text with its backslashes resolved, and whether one of them ends all output. A zero may stand
in front of octal digits. The fuel bounds the length. -/
def unescapeWithin : Nat → List Char → List Char × Bool
  | 0, _ => ([], false)
  | _, [] => ([], false)
  | fuel + 1, '\\' :: rest =>
    if rest.head? == some 'c' then
      ([], true)
    else
      let rest :=
        match rest with
        | '0' :: digit :: more => if Text.isOctalDigit digit then digit :: more else rest
        | _ => rest
      let (c, rest) := unescapeOne rest
      let (text, isOver) := unescapeWithin fuel rest
      (c :: text, isOver)
  | fuel + 1, c :: rest =>
    let (text, isOver) := unescapeWithin fuel rest
    (c :: text, isOver)

/-- A text with its backslashes resolved, and whether one of them ends all output. -/
def unescape (text : String) : List Char × Bool :=
  unescapeWithin (text.length + 1) text.toList

/-- Texts separated by blanks, and whether the line ends behind them. -/
def echoed : Bool → List String → List Char
  | silent, [] => if silent then [] else ['\n']
  | silent, text :: rest =>
    let (cs, isOver) := unescape text
    if isOver || (silent && rest.isEmpty) then cs
    else cs ++ (if rest.isEmpty then ['\n'] else ' ' :: echoed silent rest)

/-- What printing under a format has come to. -/
structure Printed where
  output : List (List Char) := []
  arguments : List String
  complaints : List String := []
  /-- Why nothing more can be printed. -/
  failure : Option String := none
  isOver : Bool := false

/-- Printing with more output. -/
def Printed.add (printed : Printed) (cs : List Char) : Printed :=
  { printed with output := cs :: printed.output }

/-- Takes the next argument. -/
def Printed.take (printed : Printed) : Option String × Printed :=
  (printed.arguments.head?, { printed with arguments := printed.arguments.drop 1 })

/-- Printing with a complaint about an argument that is a number only in its first part. -/
def Printed.check (printed : Printed) (text : String) (rest : List Char) (isOutOfRange : Bool) :
    Printed :=
  let complain (what : String) : Printed :=
    { printed with complaints := printed.complaints ++ [text ++ ": " ++ what] }
  if !rest.isEmpty then
    complain (if rest.length = text.length then "expected numeric value"
      else "not completely converted")
  else if isOutOfRange then complain "Numerical result out of range"
  else printed

/-- Takes the next argument as a whole number. A quote asks for the code of what follows it. -/
def Printed.takeNumber (printed : Printed) (isSigned : Bool) : Int × Printed :=
  match printed.take with
  | (none, printed) => (0, printed)
  | (some text, printed) =>
    match text.toList with
    | quote :: rest =>
      if quote == '\'' || quote == '"' then
        ((rest.headD '\x00').toNat, printed)
      else
        let (isNegative, size, behind) := Numeral.read text.toList
        let (value, isOutOfRange) : Int × Bool :=
          if isSigned then Numeral.signed isNegative size
          else
            let (value, isOutOfRange) := Numeral.unsigned isNegative size
            (value, isOutOfRange)
        (value, printed.check text behind isOutOfRange)
    | [] => (0, printed)

/-- Takes the next argument as a number with binary digits. -/
def Printed.takeReal (printed : Printed) : Real × Printed :=
  match printed.take with
  | (none, printed) => (⟨false, .finite 0 0⟩, printed)
  | (some text, printed) =>
    match text.toList with
    | quote :: rest =>
      if quote == '\'' || quote == '"' then
        (⟨false, .finite (rest.headD '\x00').toNat 0⟩, printed)
      else
        match Real.read? Real.double text.toList with
        | none => (⟨false, .finite 0 0⟩, printed.check text text.toList false)
        | some (value, behind) =>
          (value, printed.check text behind
            (Real.isOutOfRange Real.double text.toList value))
    | [] => (⟨false, .finite 0 0⟩, printed)

/-- The layout that a directive asks for, where arguments are taken for stars. -/
def Printed.layout (printed : Printed) (directive : Directive) : Layout × Printed :=
  let (width, printed) : Int × Printed :=
    match directive.width with
    | some width => (width, printed)
    | none => printed.takeNumber true
  let (precision, printed) : Option Int × Printed :=
    match directive.precision with
    | none => (none, printed)
    | some (some precision) => (some precision, printed)
    | some none =>
      let (precision, printed) := printed.takeNumber true
      (if precision < 0 then none else some precision, printed)
  ({ flags := if width < 0 then '-' :: directive.flags else directive.flags
     width := width.natAbs
     precision := precision.map Int.toNat }, printed)

/-- Prints an argument under a directive. -/
def Printed.apply (printed : Printed) (directive : Directive) : Printed :=
  match directive.letter with
  | none => { printed with failure := some "missing format character" }
  | some letter =>
    let (layout, printed) := printed.layout directive
    match letter with
    | 's' =>
      let (text, printed) := printed.take
      printed.add (layout.text (text.getD "").toList)
    | 'b' =>
      let (text, printed) := printed.take
      let (cs, isOver) := unescape (text.getD "")
      { printed.add (layout.text cs) with isOver := isOver }
    | 'c' =>
      let (text, printed) := printed.take
      printed.add (layout.pad [(text.getD "").toList.headD '\x00'])
    | 'd' | 'i' =>
      let (value, printed) := printed.takeNumber true
      printed.add (layout.integer letter (value < 0) value.natAbs)
    | 'o' | 'u' | 'x' | 'X' =>
      let (value, printed) := printed.takeNumber false
      printed.add (layout.integer letter false value.natAbs)
    | 'a' | 'A' | 'e' | 'E' | 'f' | 'F' | 'g' | 'G' =>
      let (value, printed) := printed.takeReal
      printed.add (layout.real false letter value)
    | _ =>
      let text := '%' :: directive.written ++ [letter]
      { printed with failure := some (String.ofList text ++ ": invalid directive") }

/-- Goes through a format once. The fuel bounds its length. -/
def once : Nat → List Char → Printed → Printed
  | 0, _, printed => printed
  | _, [], printed => printed
  | fuel + 1, '\\' :: rest, printed =>
    let (c, rest) := unescapeOne rest
    once fuel rest (printed.add [c])
  | fuel + 1, '%' :: '%' :: rest, printed => once fuel rest (printed.add ['%'])
  | fuel + 1, '%' :: rest, printed =>
    let (directive, rest) := Directive.read ['#', '-', '+', ' ', '0'] [] rest
    let printed := printed.apply directive
    if printed.isOver || printed.failure.isSome then printed else once fuel rest printed
  | fuel + 1, c :: rest, printed => once fuel rest (printed.add [c])

/-- Goes through a format until the arguments are used up. The fuel bounds their number. -/
def repeated (format : List Char) : Nat → Printed → Printed
  | 0, printed => printed
  | fuel + 1, printed =>
    let count := printed.arguments.length
    let printed := once (format.length + 1) format printed
    if printed.isOver || printed.failure.isSome || printed.arguments.isEmpty
        || printed.arguments.length = count then
      printed
    else
      repeated format fuel printed

/-- Prints arguments under a format. -/
def formatted (format : String) (arguments : List String) : Printed :=
  repeated format.toList (arguments.length + 1) { arguments := arguments }

end Runbook.Machine.Shell.Print

namespace Runbook.Machine.Shell.Act

/-- The options in front of arguments, with the values of those that have some, and the other
arguments. A colon behind a letter tells that it has a value. -/
def options (known : List Char) : List String → Act (List (Char × String) × List String)
  | [] => return ([], [])
  | argument :: rest => do
    match argument.toList with
    | ['-', '-'] => return ([], rest)
    | '-' :: c :: letters =>
      let (found, value) ← cluster (c :: letters)
      match value with
      | none =>
        let (others, rest) ← options known rest
        return (found ++ others, rest)
      | some letter =>
        match rest with
        | [] => fail ("No arg for -" ++ letter.toString ++ " option")
        | value :: rest =>
          let (others, rest) ← options known rest
          return (found ++ (letter, value) :: others, rest)
    | _ => return ([], argument :: rest)
where
  /-- Whether an option has a value. -/
  hasValue (c : Char) : List Char → Bool
    | letter :: ':' :: rest => letter == c || hasValue c rest
    | _ :: rest => hasValue c rest
    | [] => false
  /-- The options in one argument, and the last of them if its value is still to come. -/
  cluster : List Char → Act (List (Char × String) × Option Char)
    | [] => return ([], none)
    | c :: rest => do
      if c == ':' || !known.contains c then
        fail ("Illegal option -" ++ c.toString)
      else if hasValue c known then
        if rest.isEmpty then return ([], some c) else return ([(c, String.ofList rest)], none)
      else
        let (others, pending) ← cluster rest
        return ((c, "") :: others, pending)

/-- Prints arguments in a line. -/
def echo (arguments : List String) : Act Nat := do
  let (silent, texts) :=
    match arguments with
    | "-n" :: rest => (true, rest)
    | _ => (false, arguments)
  print (String.ofList (Print.echoed silent texts))
  return 0

/-- Prints arguments under a format. -/
def printf (arguments : List String) : Act Nat := do
  let (_, arguments) ← options [] arguments
  match arguments with
  | [] => fail "usage: printf format [arg ...]"
  | format :: arguments =>
    let printed := Print.formatted format arguments
    print (String.ofList printed.output.reverse.flatten)
    for complaint in printed.complaints do
      warn complaint
    match printed.failure with
    | some message => fail message
    | none => return if printed.complaints.isEmpty then 0 else 1

end Runbook.Machine.Shell.Act
