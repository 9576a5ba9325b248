import Runbook.Machine.Shell.Reader

/-!
# Words and other tokens

How characters form tokens. Inside of a word there are levels, each with a style of quotation of its
own: an expression in parentheses, or what stands in the braces of a parameter.
-/

namespace Runbook.Machine.Shell.Reader

/-- The styles in which characters are read. -/
inductive Style where
  | plain
  | double
  | single
  | arithmetic
  deriving Repr, DecidableEq

/-- A level of a word. -/
structure Level where
  style : Style
  /-- Whether the level stands within double quotes. -/
  isQuoted : Bool := false
  /-- Whether double quotes are open within the braces of the level. -/
  hasInnerQuotes : Bool := false
  /-- How many braces are open. -/
  braces : Nat := 0
  /-- How many of them were opened within double quotes. -/
  quotedBraces : Nat := 0
  parentheses : Nat := 0
  /-- Whether the level ends with the last of its braces. -/
  endsWithBrace : Bool := false

/-- What is open in a word. -/
inductive Bracket where
  | parameter (name : String) (operation : Operation) (colon : Bool)
  | arithmetic

/-- The part that closing a bracket makes of what stands in it. -/
def Bracket.close (bracket : Bracket) (word : Word) : Part :=
  match bracket with
  | .parameter name operation colon => .parameter name operation colon word
  | .arithmetic => .arithmetic word

/-- A word as far as it was read. The parts are in reverse, and so are those around each bracket
that is open. -/
structure Scan where
  top : Level
  below : List Level := []
  parts : List Part := []
  brackets : List (Bracket × List Part) := []
  isQuoted : Bool := false

namespace Scan

/-- The word with another part. -/
def add (scan : Scan) (part : Part) : Scan :=
  { scan with parts := part :: scan.parts }

/-- The word with a bracket opened. -/
def enter (scan : Scan) (bracket : Bracket) : Scan :=
  { scan with brackets := (bracket, scan.parts) :: scan.brackets, parts := [] }

/-- The word with a bracket closed. -/
def leave (scan : Scan) : Scan :=
  match scan.brackets with
  | (bracket, outer) :: rest =>
    { scan with parts := bracket.close scan.parts.reverse :: outer, brackets := rest }
  | [] => scan

/-- The word with another level. -/
def push (scan : Scan) (level : Level) : Scan :=
  { scan with top := level, below := scan.top :: scan.below }

/-- The word without its innermost level. -/
def pop (scan : Scan) : Scan :=
  match scan.below with
  | level :: rest => { scan with top := level, below := rest }
  | [] => scan

/-- The word with its innermost level changed. -/
def modifyTop (scan : Scan) (change : Level → Level) : Scan :=
  { scan with top := change scan.top }

end Scan

/-- The classes of characters. -/
inductive CharClass where
  | ordinary
  /-- It has a meaning for patterns or tildes, which quotes take away. -/
  | special
  | newline
  | backslash
  | singleQuote
  | doubleQuote
  | endQuote
  | dollar
  | brace
  | opening
  | closing
  | backquote
  /-- It ends a word. -/
  | separator
  | finish
  deriving Repr, DecidableEq

/-- The class of a character in a style. -/
def classOf (style : Style) (c : Option Char) : CharClass :=
  match c with
  | none => .finish
  | some '\n' => .newline
  | some c =>
    match style with
    | .plain =>
      match c with
      | '\\' => .backslash
      | '\'' => .singleQuote
      | '"' => .doubleQuote
      | '\x60' => .backquote
      | '$' => .dollar
      | '\x7d' => .brace
      | '<' | '>' | '(' | ')' | ';' | '&' | '|' | ' ' | '\t' => .separator
      | _ => .ordinary
    | .double =>
      match c with
      | '\\' => .backslash
      | '"' => .endQuote
      | '\x60' => .backquote
      | '$' => .dollar
      | '\x7d' => .brace
      | '!' | '*' | '?' | '[' | '=' | '~' | ':' | '/' | '-' | ']' => .special
      | _ => .ordinary
    | .single =>
      match c with
      | '\'' => .endQuote
      | '!' | '*' | '?' | '[' | '=' | '~' | ':' | '/' | '-' | ']' | '\\' => .special
      | _ => .ordinary
    | .arithmetic =>
      match c with
      | '\\' => .backslash
      | '\x60' => .backquote
      | '$' => .dollar
      | '\x7d' => .brace
      | '(' => .opening
      | ')' => .closing
      | _ => .ordinary

/-- The next character within a level. -/
def nextIn (level : Level) : Reader (Option Char) :=
  if level.style = .single then next else nextJoined

/-- Whether a character that may be missing meets a condition. -/
def holds (condition : Char → Bool) (c : Option Char) : Bool :=
  c.any condition

/-- Takes characters as long as they meet a condition, the first of them being given, and yields
them with the character behind. -/
def takeWhile (condition : Char → Bool) : Nat → Option Char → Reader (List Char × Option Char)
  | 0, c => return ([], c)
  | fuel + 1, c => do
    match c with
    | some letter =>
      if condition letter then
        let (rest, c) ← takeWhile condition fuel (← nextJoined)
        return (letter :: rest, c)
      else
        return ([], c)
    | none => return ([], c)

/-! ## The ends of texts that follow a line -/

/-- Takes characters that agree with a mark, the first being given, and yields all that were taken
with the answer whether the whole mark was there and the line ended behind it. -/
def matchMark : List Char → Option Char → Reader (Bool × List (Option Char))
  | [], c => return (c == none || c == some '\n', [c])
  | letter :: mark, c => do
    if c != some letter then
      return (false, [c])
    else
      let (found, taken) ← matchMark mark (← next)
      return (found, c :: taken)

/-- Takes tabulators, the first character being given, and yields what stands behind them. -/
def skipTabs : Nat → Option Char → Reader (Option Char)
  | 0, c => return c
  | fuel + 1, c => do
    if c == some '\t' then skipTabs fuel (← next) else return c

/-- The first character of a line, unless the line is the mark that ends the text. -/
def lineStart (pending : Option Pending) (c : Option Char) : Reader (Option Char) := do
  match pending with
  | none => return c
  | some text =>
    let c ← if text.dropsTabs then skipTabs endless c else pure c
    let (found, taken) ← matchMark text.mark c
    if found then
      countLine
      return none
    else
      let others := (taken.drop 1).filterMap id
      if !others.isEmpty then
        insert { text := others }
      return c

/-! ## Substitutions -/

/-- The text up to the end of an old command substitution, in which a backslash takes away the
meaning of some characters. -/
def backquoted (isQuoted : Bool) : Nat → List Char → Reader (List Char)
  | 0, text => return text.reverse
  | fuel + 1, text => do
    match ← nextJoined with
    | none => fail "EOF in backquote substitution"
    | some '\x60' => return text.reverse
    | some '\\' =>
      match ← next with
      | none => fail "EOF in backquote substitution"
      | some c =>
        let isTaken := c == '\\' || c == '\x60' || c == '$' || (isQuoted && c == '"')
        backquoted isQuoted fuel (if isTaken then c :: text else c :: '\\' :: text)
    | some c =>
      if c == '\n' then
        countLine
      backquoted isQuoted fuel (c :: text)

/-- What stands in the braces of a parameter as far as it was read: the name, the operation, the
colon, and the character behind, which still has to be read unless it is taken. -/
structure Braced where
  name : String
  operation : Operation
  colon : Bool := false
  following : Option Char
  isTaken : Bool := false

/-- The operation on the parameter of a name, given the character behind the name. -/
def operationBehind (name : String) (c : Option Char) : Reader Braced := do
  let simple (c : Option Char) : Operation :=
    match c with
    | some '\x7d' => .value
    | some '-' => .otherwise
    | some '+' => .instead
    | some '?' => .demand
    | some '=' => .assign
    | _ => .bad
  match c with
  | some ':' =>
    let c ← nextJoined
    return ⟨name, simple c, true, c, true⟩
  | some '%' =>
    let c ← nextJoined
    return ⟨name, .trimRight (c == some '%'), false, c, c == some '%'⟩
  | some '#' =>
    let c ← nextJoined
    return ⟨name, .trimLeft (c == some '#'), false, c, c == some '#'⟩
  | _ => return ⟨name, simple c, false, c, true⟩

/-- The name of a parameter, and whatever follows it in braces, given its first character. -/
def bracedName (asksLength : Bool) (c : Option Char) : Reader Braced := do
  let conclude (name : List Char) (c : Option Char) : Reader Braced := do
    let name := String.ofList name
    if asksLength then
      return ⟨name, if c == some '\x7d' then .length else .bad, false, c, false⟩
    else
      operationBehind name c
  if holds isNameStart c then
    let (name, c) ← takeWhile isNamePart endless c
    conclude name c
  else
    let (name, c) ← takeWhile Char.isDigit endless c
    conclude name c

/-- What stands in the braces of a parameter behind the opening brace. -/
def braced : Reader Braced := do
  let c ← nextJoined
  if holds (fun c => isNameStart c || c.isDigit) c then
    bracedName false c
  else if c == some '\x7d' then
    return ⟨"", .bad, false, c, false⟩
  else if c == some '#' then
    let first ← nextJoined
    if holds (fun c => isNamePart c) first then
      bracedName true first
    else
      let second ← nextJoined
      if first == some '\x7d' || second != some '\x7d' then
        back second
        operationBehind "#" first
      else if holds isSpecialParameter first then
        return ⟨String.ofList first.toList, .length, false, second, false⟩
      else
        return ⟨"", .bad, false, second, false⟩
  else
    let following ← nextJoined
    if holds isSpecialParameter c then operationBehind (String.ofList c.toList) following
    else return ⟨"", .bad, false, following, false⟩

/-- The word behind the braces of a parameter that were opened. -/
def enterBraces (scan : Scan) (found : Braced) : Scan :=
  if found.operation = .value && !found.colon then
    scan.add (.parameter found.name .value false [])
  else
    let style : Style :=
      match found.operation with
      | .trimLeft _ | .trimRight _ => .plain
      | _ => if scan.top.style = .arithmetic then .double else scan.top.style
    let scan :=
      if style ≠ scan.top.style || scan.top.hasInnerQuotes then
        scan.push { style := style, isQuoted := style ≠ .plain, endsWithBrace := true }
      else
        scan
    let scan := scan.modifyTop fun level =>
      { level with
        braces := level.braces + 1
        quotedBraces := if level.isQuoted then level.quotedBraces + 1 else level.quotedBraces }
    scan.enter (.parameter found.name found.operation found.colon)

/-- The word behind a dollar sign. The tree of a command substitution is read by the given reader,
which is told whether it is one of the old kind. -/
def dollar (commands : Bool → Reader (Option Tree)) (scan : Scan) : Reader Scan := do
  let c ← nextJoined
  let begins := holds
    (fun c => c == '(' || c == '\x7b' || isNameStart c || isSpecialParameter c) c
  if (← get).checks.mark || !begins then
    back c
    return scan.add (.char '$')
  else if c == some '(' then
    let second ← nextJoined
    if second == some '(' then
      return (scan.enter .arithmetic).push { style := .arithmetic, isQuoted := true }
    else
      back second
      return scan.add (.output (← commands false))
  else if c == some '\x7b' then
    let found ← braced
    if !found.isTaken then
      back found.following
    return enterBraces scan found
  else if holds isNameStart c then
    let (name, following) ← takeWhile isNamePart endless c
    back following
    return scan.add (.parameter (String.ofList name) .value false [])
  else
    return scan.add (.parameter (String.ofList c.toList) .value false [])

/-- The word behind a backslash. -/
def backslash (inText : Bool) (scan : Scan) : Reader Scan := do
  match ← next with
  | none =>
    back none
    return scan.add (.escaped '\\')
  | some c =>
    let level := scan.top
    let keeps := level.isQuoted && c != '\\' && c != '\x60' && c != '$' &&
      (c != '"' || (inText && level.braces = 0)) && (c != '\x7d' || level.braces = 0)
    let scan := if keeps then scan.add (.escaped '\\') else scan
    return { scan.add (.escaped c) with isQuoted := true }

/-! ## Words -/

/-- The word with the beginning or the end of a quotation. -/
def quotation (inText : Bool) (scan : Scan) : Scan :=
  if inText then scan else scan.add .mark

/-- The word with double quotes that begin or end. -/
def doubleQuotation (inText : Bool) (scan : Scan) : Scan :=
  quotation inText <|
    if scan.top.braces = 0 then scan
    else scan.modifyTop fun level => { level with hasInnerQuotes := !level.hasInnerQuotes }

/-- The word behind the end of a quotation. -/
def endQuotation (inText : Bool) (c : Char) (scan : Scan) : Scan :=
  if inText && scan.top.braces = 0 then
    scan.add (.char c)
  else
    let scan :=
      if scan.top.quotedBraces = 0 then
        scan.modifyTop fun level => { level with style := .plain, isQuoted := false }
      else
        scan
    let scan := { scan with isQuoted := true }
    if c == '"' then doubleQuotation inText scan else quotation inText scan

/-- The word behind a closing brace. -/
def closeBrace (scan : Scan) : Scan :=
  let level := scan.top
  if level.hasInnerQuotes || level.braces = 0 then
    scan.add (.char '\x7d')
  else
    let scan := scan.modifyTop fun level => { level with braces := level.braces - 1 }
    let scan :=
      if level.braces = 1 && level.endsWithBrace then scan.pop
      else scan.modifyTop fun level => { level with quotedBraces := level.quotedBraces - 1 }
    scan.leave

/-- The word behind a closing parenthesis in an expression. -/
def closeParenthesis (scan : Scan) : Reader Scan := do
  if 0 < scan.top.parentheses then
    return (scan.modifyTop fun level => { level with parentheses := level.parentheses - 1 }).add
      (.char ')')
  else
    let c ← nextJoined
    if c == some ')' then
      return scan.pop.leave
    else
      back c
      return scan.add (.char ')')

/-- Reads a word, or a text that follows a line, from its first character on. The result comes with
the character behind. The fuel bounds the length. -/
def scanWord (commands : Bool → Reader (Option Tree)) (pending : Option Pending) :
    Nat → Scan → Option Char → Reader (Scan × Option Char)
  | 0, scan, c => return (scan, c)
  | fuel + 1, scan, c => do
    let inText := pending.isSome
    let go (scan : Scan) : Reader (Scan × Option Char) := do
      scanWord commands pending fuel scan (← nextIn scan.top)
    let letter := c.getD ' '
    match classOf scan.top.style c with
    | .finish => return (scan, c)
    | .newline =>
      if scan.top.style = .plain && scan.top.braces = 0 then
        return (scan, c)
      else
        countLine
        let scan := scan.add (.char '\n')
        scanWord commands pending fuel scan (← lineStart pending (← nextIn scan.top))
    | .ordinary => go (scan.add (.char letter))
    | .special =>
      go (scan.add (if !inText || scan.top.isQuoted then .escaped letter else .char letter))
    | .backslash => go (← backslash inText scan)
    | .singleQuote =>
      go (quotation inText (scan.modifyTop fun level => { level with style := .single }))
    | .doubleQuote =>
      go (doubleQuotation inText
        (scan.modifyTop fun level => { level with style := .double, isQuoted := true }))
    | .endQuote => go (endQuotation inText letter scan)
    | .dollar => go (← dollar commands scan)
    | .brace => go (closeBrace scan)
    | .opening =>
      go ((scan.modifyTop fun level => { level with parentheses := level.parentheses + 1 }).add
        (.char '('))
    | .closing => go (← closeParenthesis scan)
    | .backquote =>
      if (← get).checks.mark then
        go (scan.add (.char '\x60'))
      else
        let text ← backquoted scan.top.isQuoted endless []
        let tree ← within text (commands true)
        modify fun reading => { reading with isReturned := false }
        go (scan.add (.output tree))
    | .separator =>
      if scan.top.braces = 0 then return (scan, c) else go (scan.add (.char letter))

/-- Complains about a word that was not finished. -/
def checkFinished (inText : Bool) (scan : Scan) : Reader Unit := do
  if scan.top.style = .arithmetic then
    fail "Missing '))'"
  if scan.top.style ≠ .plain && !inText then
    fail "Unterminated quoted string"
  if scan.top.braces ≠ 0 then
    fail "Missing '\x7d'"

/-- Reads a text that follows a line. -/
def readText (commands : Bool → Reader (Option Tree)) (pending : Pending) : Reader Word := do
  let level : Level :=
    if pending.expands then { style := .double, isQuoted := true } else { style := .single }
  let c ← lineStart (some pending) (← nextIn level)
  let (scan, _) ← scanWord commands (some pending) endless { top := level } c
  checkFinished true scan
  return scan.parts.reverse

/-- Reads the texts that follow a line. -/
def readTexts (commands : Bool → Reader (Option Tree)) : Reader Unit := do
  let waiting := (← get).pending
  modify fun reading => { reading with pending := [] }
  for pending in waiting do
    let word ← readText commands pending
    modify fun reading =>
      { reading with documents := reading.documents.set! pending.number word }

/-- The kind of a redirection, given its first sign. -/
def arrow (sign : Char) : Reader Arrow := do
  let c ← nextJoined
  if sign == '>' then
    match c with
    | some '>' => return .append
    | some '|' => return .override
    | some '&' => return .copy
    | _ =>
      back c
      return .write
  else
    match c with
    | some '<' =>
      let c ← nextJoined
      if c == some '-' then
        return .document true
      else
        back c
        return .document false
    | some '&' => return .copy
    | some '>' => return .readWrite
    | _ =>
      back c
      return .read

/-- The descriptor that the parts of a word in front of a redirection give. -/
def redirected? (parts : List Part) (sign : Char) : Option Nat :=
  match parts with
  | [] => some (if sign == '>' then 1 else 0)
  | [.char c] => if c.isDigit then some (c.toNat - '0'.toNat) else none
  | _ => none

/-- Reads a word from its first character on. -/
def wordToken (commands : Bool → Reader (Option Tree)) (c : Option Char) : Reader Token := do
  let (scan, following) ← scanWord commands none endless { top := { style := .plain } } c
  checkFinished false scan
  let sign := following.getD ' '
  let isArrow := sign == '>' || sign == '<'
  match if isArrow && !scan.isQuoted then redirected? scan.parts sign else none with
  | some descriptor =>
    let found ← arrow sign
    modify fun reading => { reading with arrow := (descriptor, found) }
    return .redirection
  | none =>
    back following
    modify fun reading =>
      { reading with word := scan.parts.reverse, isQuoted := scan.isQuoted }
    return .word

/-! ## Tokens -/

/-- Skips the rest of a line. -/
def skipComment : Nat → Reader Unit
  | 0 => return ()
  | fuel + 1 => do
    let c ← next
    if c == none || c == some '\n' then back c else skipComment fuel

/-- One of two tokens, according to whether a sign follows. -/
def choose (sign : Char) (double single : Token) : Reader Token := do
  let c ← nextJoined
  if c == some sign then
    return double
  else
    back c
    return single

/-- Reads a token. The fuel bounds the number of blanks and comments in front of it. -/
def token (commands : Bool → Reader (Option Tree)) : Nat → Reader Token
  | 0 => return .endOfFile
  | fuel + 1 => do
    match ← nextJoined with
    | none => return .endOfFile
    | some ' ' | some '\t' => token commands fuel
    | some '#' =>
      skipComment endless
      token commands fuel
    | some '\n' =>
      countLine
      return .newline
    | some '&' => choose '&' .andAlso .ampersand
    | some '|' => choose '|' .orElse .bar
    | some ';' => choose ';' .caseEnd .semicolon
    | some '(' => return .opening
    | some ')' => return .closing
    | c => wordToken commands c

/-- Takes the token that was given back, or reads one. -/
def takeToken (commands : Bool → Reader (Option Tree)) : Reader Token := do
  let reading ← get
  if reading.isReturned then
    modify fun reading => { reading with isReturned := false }
    return reading.token
  else
    let found ← token commands endless
    modify fun reading => { reading with token := found }
    return found

/-- Takes a token that is no newline. The texts that follow a line are read on the way. -/
def takeBehindNewlines (commands : Bool → Reader (Option Tree)) : Nat → Reader Token
  | 0 => return .endOfFile
  | fuel + 1 => do
    let found ← takeToken commands
    if found = .newline then
      readTexts commands
      takeBehindNewlines commands fuel
    else
      return found

/-- Takes a token under the checks, where the fuel bounds the number of aliases in front of it. -/
def checkedToken (commands : Bool → Reader (Option Tree)) (checks : Checks) : Nat → Reader Token
  | 0 => return .endOfFile
  | fuel + 1 => do
    let found ←
      if checks.newlines then takeBehindNewlines commands endless else takeToken commands
    let reading ← get
    if found ≠ .word || reading.isQuoted then
      return found
    match plainText? reading.word with
    | none => return found
    | some text =>
      if checks.reserved then
        if let some (_, reserved) := reservedWords.find? fun entry => entry.1 == text then
          return reserved
      if !reading.checks.aliases then
        return found
      match ← meaning? text with
      | none => return found
      | some meaning =>
        if !meaning.isEmpty then
          insert
            { text := meaning.toList
              aliasName := some text
              endsInBlank := meaning.endsWith " " || meaning.endsWith "\t" }
        checkedToken commands checks fuel

/-- Takes a token under the checks that were asked for. -/
def readToken (commands : Bool → Reader (Option Tree)) : Reader Token := do
  let found ← checkedToken commands (← get).checks endless
  modify fun reading => { reading with token := found, checks := {} }
  return found

/-- Asks for checks of the next token. -/
def check (checks : Checks) : Reader Unit :=
  modify fun reading => { reading with checks := checks }

/-- Gives the last token back. -/
def giveBack : Reader Unit :=
  modify fun reading => { reading with isReturned := true }

end Runbook.Machine.Shell.Reader
