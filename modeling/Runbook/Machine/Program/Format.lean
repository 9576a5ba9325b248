import Runbook.Machine.Layout
import Runbook.Machine.Numeral
import Runbook.Machine.Program.Options

/-!
# Printing under a format

The program that prints its arguments under a format, and the one that prints them in a line.
-/

namespace Runbook.Machine.Program.Format

/-- The octet that a letter behind a backslash stands for. -/
def letterEscape? : Char → Option Char
  | '"' => some '"'
  | '\\' => some '\\'
  | 'a' => some '\x07'
  | 'b' => some '\x08'
  | 'e' => some '\x1B'
  | 'f' => some '\x0C'
  | 'n' => some '\n'
  | 'r' => some '\x0D'
  | 't' => some '\t'
  | 'v' => some '\x0B'
  | _ => none

/-- The text of a character that octets have to stand for: itself if it is one of the simple ones, and
its number otherwise. -/
def unicodeText (code : Nat) : String :=
  let hex := (Nat.toDigits 16 code).map Char.toUpper
  let padded (width : Nat) : String :=
    String.ofList (List.replicate (width - hex.length) '0' ++ hex)
  if code < 128 then (Char.ofNat code).toString
  else if code < 65536 then "\\u" ++ padded 4
  else "\\U" ++ padded 8

/-- Whether a code may be given for a character. -/
def isAllowedCode (code : Nat) : Bool :=
  !((code ≤ 0x9F && code != 0x24 && code != 0x40 && code != 0x60) ||
    (0xD800 ≤ code && code ≤ 0xDFFF))

/-- Prints what a backslash and the characters behind it stand for, and yields what follows. In an
argument, a zero may stand in front of octal digits. -/
def printEscape (inArgument : Bool) (cs : List Char) : Task (List Char) := do
  match cs with
  | [] => Task.write "\\"; return []
  | 'c' :: _ => Task.leave (← get).status
  | 'x' :: rest =>
    let digits := (rest.take 2).takeWhile Text.isHexDigit
    if digits.isEmpty then
      Task.fail "missing hexadecimal number in escape"
    Task.write (Char.ofNat (Text.valueIn 16 digits)).toString
    return rest.drop digits.length
  | c :: rest =>
    if Text.isOctalDigit c then
      let start := if inArgument && c == '0' then rest else cs
      let digits := (start.take 3).takeWhile Text.isOctalDigit
      Task.write (Char.ofNat (Text.valueIn 8 digits % 256)).toString
      return start.drop digits.length
    else if let some octet := letterEscape? c then
      Task.write octet.toString
      return rest
    else if c == 'u' || c == 'U' then
      let width := if c == 'u' then 4 else 8
      let digits := (rest.take width).takeWhile Text.isHexDigit
      if digits.length < width then
        Task.fail "missing hexadecimal number in escape"
      let code := Text.valueIn 16 digits
      if !isAllowedCode code then
        Task.fail ("invalid universal character name \\" ++ c.toString ++
          String.ofList (digits.map Char.toLower))
      Task.write (unicodeText code)
      return rest.drop width
    else
      Task.write (String.ofList ['\\', c])
      return rest

/-- Prints an argument with its backslashes resolved. The fuel bounds its length. -/
def printEscaped : Nat → List Char → Task Unit
  | 0, _ => return ()
  | _, [] => return ()
  | fuel + 1, '\\' :: rest => do printEscaped fuel (← printEscape true rest)
  | fuel + 1, c :: rest => do
    Task.write c.toString
    printEscaped fuel rest

/-- Complains about an argument that is not a number from its beginning to its end. -/
def check (text : String) (rest : List Char) (isOutOfRange : Bool) : Task Unit := do
  let quoted := Quoted.plain text
  if isOutOfRange then
    Task.err (quoted ++ ": Numerical result out of range")
  else if !rest.isEmpty then
    Task.err (quoted ++
      (if rest.length = text.length then ": expected a numeric value"
        else ": value not completely converted"))

/-- The code of the character behind a quote, if an argument has such a form. -/
def quotedCode? (text : String) : Task (Option Nat) := do
  match text.toList with
  | quote :: c :: rest =>
    if quote == '\'' || quote == '"' then
      if !rest.isEmpty then
        Task.warn ("warning: " ++ String.ofList rest ++
          ": character(s) following character constant have been ignored")
      return some c.toNat
    else
      return none
  | _ => return none

/-- The whole number with a sign that an argument gives. -/
def signedValue (text : String) : Task Int := do
  match ← quotedCode? text with
  | some code => return code
  | none =>
    let (isNegative, size, rest) := Numeral.read text.toList
    let (value, isOutOfRange) := Numeral.signed isNegative size
    check text rest isOutOfRange
    return value

/-- The whole number without a sign that an argument gives. -/
def unsignedValue (text : String) : Task Nat := do
  match ← quotedCode? text with
  | some code => return code
  | none =>
    let (isNegative, size, rest) := Numeral.read text.toList
    let (value, isOutOfRange) := Numeral.unsigned isNegative size
    check text rest isOutOfRange
    return value

/-- The number with binary digits that an argument gives. -/
def realValue (text : String) : Task Real := do
  match ← quotedCode? text with
  | some code => return ⟨false, .finite code 0⟩
  | none =>
    match Real.read? Real.extended text.toList with
    | none =>
      check text text.toList false
      return ⟨false, .finite 0 0⟩
    | some (value, rest) =>
      check text rest (Real.isOutOfRange Real.extended text.toList value)
      return value

/-- Whether a letter fits what stands in front of it. -/
def isAllowed (directive : Directive) (letter : Char) : Bool :=
  let has (c : Char) : Bool := directive.flags.contains c
  let isOneOf (letters : String) : Bool := letters.toList.contains letter
  isOneOf "aAcdeEfFgGiosuxX" &&
    !((has '\'' || has 'I') && isOneOf "aAceEosxX") &&
    !(has '#' && isOneOf "cdisu") && !(has '0' && isOneOf "cs") &&
    !(directive.precision.isSome && letter == 'c')

/-- The bounds of widths and precisions that arguments give. -/
def countLimit : Int := 2147483647

/-- The layout that a directive asks for, where arguments are taken for stars, and the arguments that
are left. -/
def layoutOf (directive : Directive) (arguments : List String) :
    Task (Layout × List String) := do
  let given (what : String) (least : Int) (arguments : List String) : Task (Int × List String) := do
    match arguments with
    | [] => return (0, [])
    | text :: rest =>
      let value ← signedValue text
      if value < least || countLimit < value then
        Task.fail ("invalid " ++ what ++ ": " ++ Quoted.plain text)
      return (value, rest)
  let (width, arguments) : Int × List String ←
    match directive.width with
    | some width => pure ((width : Int), arguments)
    | none => given "field width" (-countLimit - 1) arguments
  let (precision, arguments) : Option Int × List String ←
    match directive.precision with
    | none => pure (none, arguments)
    | some (some precision) => pure (some (precision : Int), arguments)
    | some none => do
      let (precision, rest) ← given "precision" Numeral.signedBounds.1 arguments
      pure (if precision < 0 then none else some precision, rest)
  return ({ flags := if width < 0 then '-' :: directive.flags else directive.flags
            width := width.natAbs
            precision := precision.map Int.toNat }, arguments)

/-- Prints an argument under a directive, and yields the arguments and the characters that are left.
-/
def printDirective (cs : List Char) (arguments : List String) :
    Task (List Char × List String) := do
  let take (rest : List Char) (print : String → Task Unit) : Task (List Char × List String) := do
    if let text :: _ := arguments then
      print text
    return (rest, arguments.drop 1)
  match cs with
  | '%' :: rest =>
    Task.write "%"
    return (rest, arguments)
  | 'b' :: rest => take rest fun text => printEscaped (text.length + 1) text.toList
  | 'q' :: rest => take rest fun text => Task.write (Quoted.whereNeeded text)
  | _ =>
    let (directive, rest) := Directive.read "-+ #0'I".toList "lLhjtz".toList cs
    let (layout, arguments) ← layoutOf directive arguments
    let letter := directive.letter.getD '\x00'
    if !isAllowed directive letter then
      Task.fail ("%" ++ String.ofList (directive.written ++ directive.letter.toList) ++
        ": invalid conversion specification")
    let text := arguments.headD ""
    let cs ←
      match letter with
      | 's' => pure (layout.text text.toList)
      | 'c' => pure (layout.pad [text.toList.headD '\x00'])
      | 'd' | 'i' => do
        let value ← signedValue text
        pure (layout.integer letter (value < 0) value.natAbs)
      | 'o' | 'u' | 'x' | 'X' => do pure (layout.integer letter false (← unsignedValue text))
      | _ => do pure (layout.real true letter (← realValue text))
    Task.write (String.ofList cs)
    return (rest, arguments.drop 1)

/-- Goes through a format once, and yields the arguments that are left. The fuel bounds its length.
-/
def once : Nat → List Char → List String → Task (List String)
  | 0, _, arguments => return arguments
  | _, [], arguments => return arguments
  | fuel + 1, c :: rest, arguments => do
    match c with
    | '%' =>
      let (rest, arguments) ← printDirective rest arguments
      once fuel rest arguments
    | '\\' => once fuel (← printEscape false rest) arguments
    | c =>
      Task.write c.toString
      once fuel rest arguments

/-- Goes through a format as long as it uses up arguments. The fuel bounds their number. -/
def repeated (format : List Char) : Nat → List String → Task (List String)
  | 0, arguments => return arguments
  | fuel + 1, arguments => do
    let rest ← once (format.length + 1) format arguments
    if rest.isEmpty || rest.length = arguments.length then return rest
    else repeated format fuel rest

/-- Prints arguments under a format. -/
def printf (arguments : List String) : Task Unit := do
  let arguments := if arguments.head? == some "--" then arguments.drop 1 else arguments
  match arguments with
  | [] => Task.failMissing
  | format :: arguments =>
    match ← repeated format.toList (arguments.length + 1) arguments with
    | [] => return ()
    | text :: _ =>
      Task.warn ("warning: ignoring excess arguments, starting with " ++ Quoted.plain text)

/-! ## Lines of arguments -/

/-- A text with its backslashes resolved, and whether one of them ends all output. The fuel bounds
the length. -/
def unescape : Nat → List Char → List Char × Bool
  | 0, _ => ([], false)
  | _, [] => ([], false)
  | fuel + 1, '\\' :: c :: rest =>
    let behind (octets : List Char) (rest : List Char) : List Char × Bool :=
      let (text, isOver) := unescape fuel rest
      (octets ++ text, isOver)
    let octal (digits rest : List Char) : List Char × Bool :=
      behind [Char.ofNat (Text.valueIn 8 digits % 256)] (rest.drop digits.length)
    if c == 'c' then ([], true)
    else if c == 'x' then
      let digits := (rest.take 2).takeWhile Text.isHexDigit
      if digits.isEmpty then behind ['\\', c] rest
      else behind [Char.ofNat (Text.valueIn 16 digits)] (rest.drop digits.length)
    else if c == '0' then octal ((rest.take 3).takeWhile Text.isOctalDigit) rest
    else if Text.isOctalDigit c then
      let digits := ((c :: rest).take 3).takeWhile Text.isOctalDigit
      octal digits (c :: rest)
    else
      match if c == '"' then none else letterEscape? c with
      | some octet => behind [octet] rest
      | none => behind ['\\', c] rest
  | fuel + 1, c :: rest =>
    let (text, isOver) := unescape fuel rest
    (c :: text, isOver)

/-- The letters in front of the arguments: whether the line ends, and whether backslashes are
resolved. -/
def echoOptions : Bool → Bool → List String → Bool × Bool × List String
  | ends, resolves, [] => (ends, resolves, [])
  | ends, resolves, argument :: rest =>
    match argument.toList with
    | '-' :: c :: cs =>
      let letters := c :: cs
      if letters.all fun c => c == 'n' || c == 'e' || c == 'E' then
        let resolves := letters.foldl
          (fun resolves c => if c == 'e' then true else if c == 'E' then false else resolves)
          resolves
        echoOptions (ends && !letters.contains 'n') resolves rest
      else
        (ends, resolves, argument :: rest)
    | _ => (ends, resolves, argument :: rest)

/-- Prints arguments in a line. -/
def echo (arguments : List String) : Task Unit := do
  let (ends, resolves, texts) := echoOptions true false arguments
  let text := " ".intercalate texts
  if resolves then
    let parts := texts.map fun text => unescape (text.length + 1) text.toList
    let shown := parts.takeWhile fun part => !part.2
    let last := (parts.drop shown.length).take 1
    Task.write (String.intercalate " " ((shown ++ last).map fun part => String.ofList part.1))
    if !last.isEmpty then
      return ()
  else
    Task.write text
  if ends then
    Task.write "\n"

end Runbook.Machine.Program.Format
