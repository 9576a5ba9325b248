import Runbook.Machine.Shell.Lexer

/-!
# Grammar of the shell language

How tokens form commands. A script is read command by command, because what a command does may
change how the next one is read.
-/

namespace Runbook.Machine.Shell

/-- The built-in commands that a function cannot replace. -/
def specialCommands : List String :=
  [".", ":", "break", "continue", "eval", "exec", "exit", "export", "local", "readonly", "return",
    "set", "shift", "times", "trap", "unset"]

namespace Reader

/-- A command that is not waited for. -/
def inBackground : Tree → Tree
  | .pipeline commands _ => .pipeline commands true
  | .redirected line tree redirections => .background line tree redirections
  | tree => .background 0 tree []

/-- The characters of a word without quotes. -/
def bareText (word : Word) : List Char :=
  word.filterMap fun part =>
    match part with
    | .char c | .escaped c => some c
    | _ => none

/-- The target of a redirection that copies the descriptor that a word gives. -/
def copyTarget (word : Word) : Target :=
  match word with
  | [.char '-'] => .close
  | [.char c] => if c.isDigit then .copy (c.toNat - '0'.toNat) else .copyOf word
  | _ => .copyOf word

/-- Reads the word that belongs to a redirection. -/
def redirection (commands : Bool → Reader (Option Tree)) : Reader Redirection := do
  let (descriptor, found) := (← get).arrow
  if let .document _ := found then
    check { mark := true }
  if (← readToken commands) ≠ .word then
    unexpected none
  let reading ← get
  let word := reading.word
  let target ← match found with
    | .read => pure (Target.read word)
    | .write => pure (Target.write word false)
    | .override => pure (Target.write word true)
    | .append => pure (Target.append word)
    | .readWrite => pure (Target.readWrite word)
    | .copy => pure (copyTarget word)
    | .document dropsTabs => do
      let number := reading.documents.size
      let pending : Pending :=
        { number := number
          mark := bareText word
          dropsTabs := dropsTabs
          expands := !reading.isQuoted }
      set { reading with
        documents := reading.documents.push [], pending := reading.pending ++ [pending] }
      pure (Target.document number pending.expands)
  return (descriptor, target)

/-- Reads redirections behind a command. -/
def redirections (commands : Bool → Reader (Option Tree)) : Nat → Reader (List Redirection)
  | 0 => return []
  | fuel + 1 => do
    if (← readToken commands) = .redirection then
      let first ← redirection commands
      return first :: (← redirections commands fuel)
    else
      giveBack
      return []

/-- Reads words up to another token. -/
def words (commands : Bool → Reader (Option Tree)) : Nat → Reader (List Word)
  | 0 => return []
  | fuel + 1 => do
    if (← readToken commands) = .word then
      let first := (← get).word
      return first :: (← words commands fuel)
    else
      return []

/-- Reads the patterns of a case up to the parenthesis. The first of them has been read. -/
def patterns (commands : Bool → Reader (Option Tree)) : Nat → Reader (List Word)
  | 0 => return []
  | fuel + 1 => do
    let first := (← get).word
    if (← readToken commands) = .bar then
      let _ ← readToken commands
      return first :: (← patterns commands fuel)
    else
      return [first]

/-- Reads a token that has to be the given one. -/
def demand (commands : Bool → Reader (Option Tree)) (wanted : Token) : Reader Unit := do
  if (← readToken commands) ≠ wanted then
    unexpected (some wanted)

/-- The parts of a simple command as far as they were read, in reverse. -/
structure Simple where
  assignments : List Word := []
  words : List Word := []
  redirections : List Redirection := []

/-- The list that goes through all parameters. -/
def allParameters : List Word :=
  [[.mark, .parameter "@" .value false [], .mark]]

mutual

/-- Reads commands up to a token that ends a list, or to the end of the line. The fuel bounds the
depth and the number of commands. The result tells whether the input ended in front of everything.
-/
def list : Nat → Bool → Bool → Option Tree → Reader (Bool × Option Tree)
  | 0, _, _, _ => fail "too long"
  | fuel + 1, isLine, mayEnd, sofar => do
    check { Checks.command with newlines := !isLine }
    match ← readToken (substituted fuel) with
    | .newline =>
      readTexts (substituted fuel)
      return (false, sofar)
    | .endOfFile =>
      readTexts (substituted fuel)
      giveBack
      return (isLine && sofar.isNone, sofar)
    | token =>
      giveBack
      if !isLine && mayEnd && token.endsList then
        return (false, sofar)
      let first ← andOr fuel
      let token ← readToken (substituted fuel)
      let first := if token = .ampersand then inBackground first else first
      let all := match sofar with
        | some before => Tree.sequence before first
        | none => first
      match token with
      | .endOfFile =>
        readTexts (substituted fuel)
        giveBack
        return (false, some all)
      | .newline =>
        giveBack
        list fuel isLine true (some all)
      | .ampersand | .semicolon => list fuel isLine true (some all)
      | _ =>
        if isLine then
          unexpected none
        giveBack
        return (false, some all)

/-- Reads the commands of a substitution, of the old kind or of the new one. -/
def substituted : Nat → Bool → Reader (Option Tree)
  | 0, _ => fail "too deep"
  | fuel + 1, isOld => do
    let saved := (← get).pending
    modify fun reading => { reading with pending := [] }
    let (_, tree) ← list fuel false true none
    if !isOld then
      demand (substituted fuel) .closing
      within [] (readTexts (substituted fuel))
    modify fun reading => { reading with pending := saved }
    return tree

/-- Reads commands that are joined by what becomes of them. -/
def andOr : Nat → Reader Tree
  | 0 => fail "too deep"
  | fuel + 1 => do
    let first ← pipeline fuel
    andOrBehind fuel first

/-- Reads what is joined to a command. -/
def andOrBehind : Nat → Tree → Reader Tree
  | 0, _ => fail "too long"
  | fuel + 1, first => do
    match ← readToken (substituted fuel) with
    | .andAlso =>
      check Checks.command
      let second ← pipeline fuel
      andOrBehind fuel (.both first second)
    | .orElse =>
      check Checks.command
      let second ← pipeline fuel
      andOrBehind fuel (.either first second)
    | _ =>
      giveBack
      return first

/-- Reads commands that are joined by pipes. -/
def pipeline : Nat → Reader Tree
  | 0 => fail "too deep"
  | fuel + 1 => do
    let negated := (← readToken (substituted fuel)) = .bang
    if negated then
      check { reserved := true, aliases := true }
    else
      giveBack
    let first ← command fuel
    let others ← piped fuel
    let tree := if others.isEmpty then first else .pipeline (first :: others) false
    return if negated then .opposite tree else tree

/-- Reads the commands behind pipes. -/
def piped : Nat → Reader (List Tree)
  | 0 => fail "too long"
  | fuel + 1 => do
    if (← readToken (substituted fuel)) = .bar then
      check Checks.command
      let first ← command fuel
      return first :: (← piped fuel)
    else
      giveBack
      return []

/-- Reads commands that must not be missing, up to a token that ends them. -/
def body : Nat → Reader Tree
  | 0 => fail "too deep"
  | fuel + 1 => do
    match (← list fuel false false none).2 with
    | some tree => return tree
    | none => unexpected none

/-- Reads the rest of a condition behind its first body: the other conditions and bodies. -/
def otherwise : Nat → Reader (Option Tree)
  | 0 => fail "too long"
  | fuel + 1 => do
    match ← readToken (substituted fuel) with
    | .elif =>
      let test ← body fuel
      demand (substituted fuel) .thenWord
      let yes ← body fuel
      return some (.conditional test yes (← otherwise fuel))
    | .elseWord => return some (← body fuel)
    | _ =>
      giveBack
      return none

/-- Reads the cases of a choice. -/
def cases : Nat → Reader (List (List Word × Option Tree))
  | 0 => fail "too long"
  | fuel + 1 => do
    check { newlines := true, reserved := true }
    let token ← readToken (substituted fuel)
    if token = .esac then
      return []
    if token = .opening then
      let _ ← readToken (substituted fuel)
    let choices ← patterns (substituted fuel) endless
    if (← get).token ≠ .closing then
      unexpected (some .closing)
    let (_, tree) ← list fuel false true none
    check { newlines := true, reserved := true }
    match ← readToken (substituted fuel) with
    | .esac => return [(choices, tree)]
    | .caseEnd => return (choices, tree) :: (← cases fuel)
    | _ => unexpected (some .caseEnd)

/-- Reads a loop over words behind its first word. -/
def forLoop : Nat → Nat → Reader Tree
  | 0, _ => fail "too deep"
  | fuel + 1, line => do
    let token ← readToken (substituted fuel)
    let reading ← get
    let name := (plainText? reading.word).getD ""
    if token ≠ .word || reading.isQuoted || !isName name then
      fail "Bad for loop variable"
    check Checks.command
    let listed ←
      if (← readToken (substituted fuel)) = .inWord then do
        let listed ← words (substituted fuel) endless
        let token := (← get).token
        if token ≠ .newline && token ≠ .semicolon then
          unexpected none
        pure listed
      else do
        if (← get).token ≠ .semicolon then
          giveBack
        pure allParameters
    check Checks.command
    demand (substituted fuel) .doWord
    let tree ← body fuel
    demand (substituted fuel) .done
    return .forEach line name listed tree

/-- Reads a command. -/
def command : Nat → Reader Tree
  | 0 => fail "too deep"
  | fuel + 1 => do
    let line := (← get).input.line
    let compound ← match ← readToken (substituted fuel) with
      | .ifWord => do
        let test ← body fuel
        demand (substituted fuel) .thenWord
        let yes ← body fuel
        let no ← otherwise fuel
        demand (substituted fuel) .fi
        pure (some (Tree.conditional test yes no))
      | .whileWord => do
        let test ← body fuel
        demand (substituted fuel) .doWord
        let tree ← body fuel
        demand (substituted fuel) .done
        pure (some (Tree.loop false test tree))
      | .untilWord => do
        let test ← body fuel
        demand (substituted fuel) .doWord
        let tree ← body fuel
        demand (substituted fuel) .done
        pure (some (Tree.loop true test tree))
      | .forWord => do pure (some (← forLoop fuel line))
      | .case => do
        demand (substituted fuel) .word
        let subject := (← get).word
        check Checks.command
        demand (substituted fuel) .inWord
        pure (some (Tree.choice line subject (← cases fuel)))
      | .opening => do
        let tree ← body fuel
        demand (substituted fuel) .closing
        pure (some (Tree.subshell line tree []))
      | .brace => do
        let tree ← body fuel
        demand (substituted fuel) .braceEnd
        pure (some tree)
      | .word | .redirection => do
        giveBack
        pure none
      | _ => unexpected none
    match compound with
    | none => simple fuel (← get).input.line true {}
    | some tree =>
      check { reserved := true, aliases := true }
      let found ← redirections (substituted fuel) endless
      return match tree, found with
        | tree, [] => tree
        | .subshell line tree _, found => .subshell line tree found
        | tree, found => .redirected line tree found

/-- Reads the rest of a simple command, or of the definition of a function. -/
def simple : Nat → Nat → Bool → Simple → Reader Tree
  | 0, _, _, _ => fail "too long"
  | fuel + 1, line, isStart, sofar => do
    check { aliases := isStart }
    match ← readToken (substituted fuel) with
    | .word =>
      let word := (← get).word
      if isStart && isAssignment word then
        simple fuel line true { sofar with assignments := word :: sofar.assignments }
      else
        simple fuel line false { sofar with words := word :: sofar.words }
    | .redirection =>
      let found ← redirection (substituted fuel)
      simple fuel line isStart { sofar with redirections := found :: sofar.redirections }
    | token =>
      match token, sofar.words, sofar.assignments, sofar.redirections with
      | .opening, [word], [], [] =>
        demand (substituted fuel) .closing
        let name := (plainText? word).getD ""
        if !isName name || specialCommands.contains name then
          fail "Bad function name"
        let start := (← get).input.line
        check Checks.command
        return .define name start (← command fuel)
      | _, _, _, _ =>
        giveBack
        return .simple line sofar.assignments.reverse sofar.words.reverse
          sofar.redirections.reverse

end

/-- Reads the next command of a script, which an empty line has not got. The result is nothing at
the end. -/
def nextCommand : Reader (Option (Option Tree)) := do
  modify fun reading => { reading with isReturned := false, checks := {}, pending := [] }
  let (isOver, tree) ← list endless true false none
  return if isOver then none else some tree

end Reader

end Runbook.Machine.Shell
