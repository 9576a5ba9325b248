import Runbook.Machine.Course
import Runbook.Machine.Shell.Grammar

/-!
# What a shell remembers

The state that a shell carries from command to command, and the ways in which it stops doing what it
does.
-/

namespace Runbook.Machine.Shell

/-- A variable. -/
structure Variable where
  value : Option String
  isExported : Bool := false
  isReadOnly : Bool := false
  deriving Repr, DecidableEq

/-- Options by their letters, where some have none, and their names. -/
def optionNames : List (Option Char × String) :=
  [(some 'e', "errexit"), (some 'f', "noglob"), (some 'I', "ignoreeof"), (some 'i', "interactive"),
    (some 'm', "monitor"), (some 'n', "noexec"), (some 's', "stdin"), (some 'x', "xtrace"),
    (some 'v', "verbose"), (some 'V', "vi"), (some 'E', "emacs"), (some 'C', "noclobber"),
    (some 'a', "allexport"), (some 'b', "notify"), (some 'u', "nounset"),
    (some 'p', "privileged"), (none, "nolog"), (none, "debug")]

/-- What the commands that follow are skipped for. -/
inductive Skip where
  | nothing
  | break
  | continue
  /-- The rest of a function or of a file. -/
  | function
  deriving Repr, DecidableEq

/-- Why a shell leaves what it does. -/
inductive Leave where
  /-- A command failed in a way that ends a shell. -/
  | error
  /-- The shell ends because it was asked to. -/
  | exit
  /-- The shell ends because there is nothing left to do. -/
  | finish
  deriving Repr, DecidableEq

/-- A process of a job, and how it ended. -/
structure Member where
  number : Nat
  outcome : Option Outcome := none
  deriving Repr, DecidableEq

/-- Processes that were started together. -/
structure Job where
  number : Nat
  members : List Member
  /-- Whether its end has been waited for. -/
  isWaitedFor : Bool := false
  deriving Repr, DecidableEq

/-- A function. -/
structure Function where
  name : String
  body : Tree

/-- What was in a place before something local took it. -/
inductive Saved where
  | named (name : String) (before : Option Variable)
  | options (before : List String)
  deriving Repr, DecidableEq

/-- Where a descriptor that was redirected led before. -/
inductive Former where
  | closed
  | kept (copy : Nat)
  deriving Repr, DecidableEq

/-- What a shell remembers. -/
structure Memory where
  name : String
  parameters : List String := []
  bindings : List (String × Variable) := []
  scopes : List (List Saved) := []
  functions : List Function := []
  aliases : List (String × String) := []
  documents : Array Word := #[]
  /-- The names of the options that are set. -/
  options : List String := []
  traps : List (Nat × String) := []
  /-- Signals that were ignored from the beginning. -/
  deaf : List Nat := []
  status : Nat := 0
  /-- The status from before a trap, which the end of the shell in the trap goes back to. -/
  statusBefore : Option Nat := none
  /-- The status of the last substitution of a command. -/
  substituted : Nat := 0
  skip : Skip := .nothing
  skipCount : Nat := 0
  loops : Nat := 0
  functionDepth : Nat := 0
  /-- The built-in command that is running. -/
  command : Option String := none
  line : Nat := 1
  /-- The line up to which the script has been read. -/
  readingLine : Nat := 1
  jobs : List Job := []
  lastBackground : Option Nat := none
  identity : Nat := 0
  /-- The path of the current directory by which it was reached. -/
  directory : String := "/"
  redirections : List (List (Nat × Former)) := []
  /-- Which parameter is looked at next for options. -/
  optionIndex : Nat := 1
  /-- How many characters of the parameter before have been looked at, if it is not used up. -/
  optionOffset : Option Nat := none
  /-- Where programs have been found. -/
  found : List (String × String) := []
  /-- Pieces of the output that have not been written yet, latest first. -/
  output : List String := []
  isTracing : Bool := false

/-- What a shell does. -/
abbrev Act := Acting Memory Leave

namespace Memory

/-- The variable with a name. -/
def named? (memory : Memory) (name : String) : Option Variable :=
  memory.bindings.lookup name

/-- The value of a variable. -/
def value? (memory : Memory) (name : String) : Option String :=
  (memory.named? name).bind Variable.value

/-- Whether an option is set. -/
def has (memory : Memory) (option : String) : Bool :=
  memory.options.contains option

/-- The memory with a variable in place of the one with its name. -/
def putVariable (memory : Memory) (name : String) (changed : Variable) : Memory :=
  if (memory.bindings.lookup name).isSome then
    { memory with
      bindings := memory.bindings.map fun entry =>
        if entry.1 == name then (name, changed) else entry }
  else
    { memory with bindings := memory.bindings ++ [(name, changed)] }

/-- The memory without a variable. -/
def dropVariable (memory : Memory) (name : String) : Memory :=
  { memory with bindings := memory.bindings.filter fun entry => entry.1 != name }

/-- How many rows names are sorted into when they are listed without an order of their own. -/
def rowCount : Nat := 39

/-- The row of a name: its first octet sixteen times and all its octets are added up. -/
def rowOf (name : String) : Nat :=
  let codes := name.toList.map Char.toNat
  (codes.headD 0 * 16 + codes.foldl (· + ·) 0) % rowCount

/-- Entries in the order of the rows of their names. -/
def inRows {α : Type} (entries : List (String × α)) : List (String × α) :=
  entries.mergeSort fun first second => rowOf first.1 ≤ rowOf second.1

/-- The variables that are handed to programs. -/
def environment (memory : Memory) : Environment :=
  (inRows memory.bindings).filterMap fun (name, found) =>
    if found.isExported then found.value.map fun value => (name, value) else none

/-- The function with a name. -/
def function? (memory : Memory) (name : String) : Option Function :=
  memory.functions.find? fun function => function.name == name

/-- The command of the trap for a signal, where number zero stands for the end of the shell. -/
def trap? (memory : Memory) (signal : Nat) : Option String :=
  memory.traps.lookup signal

/-- Whether there is a trap that does something. -/
def hasTraps (memory : Memory) : Bool :=
  memory.traps.any fun trap => !trap.2.isEmpty

end Memory

namespace Act

/-- Writes to a descriptor at once, and ignores whether that works. -/
def writeNow (descriptor : Nat) (text : String) : Act Unit := do
  let _ ← Acting.send descriptor text
  return ()

/-- The beginning of complaints: the name of the shell, the line, and the command. -/
def complaintStart : Act String := do
  let memory ← get
  let start := memory.name ++ ": " ++ toString memory.line ++ ": "
  return match memory.command with
    | some command => start ++ command ++ ": "
    | none => start

/-- Complains. -/
def warn (message : String) : Act Unit := do
  writeNow 2 ((← complaintStart) ++ message ++ "\n")

/-- Complains and gives up with a status. -/
def leaveWith {α : Type} (status : Nat) (reason : Leave) (message : String) : Act α := do
  modify fun memory => { memory with status := status }
  warn message
  throw reason

/-- Complains and gives up. -/
def fail {α : Type} (message : String) : Act α :=
  leaveWith 2 .error message

/-- The number that a text spells. -/
def number (text : String) : Act Nat := do
  if text.isEmpty || !text.all Char.isDigit then
    fail ("Illegal number: " ++ text)
  else
    return text.toList.foldl (fun value c => value * 10 + (c.toNat - '0'.toNat)) 0

/-- Puts a text into the output of the running command. -/
def print (text : String) : Act Unit :=
  modify fun memory => { memory with output := text :: memory.output }

/-- Writes the output of the running command, and tells whether that worked. -/
def flush : Act Bool := do
  let text := String.join (← get).output.reverse
  modify fun memory => { memory with output := [] }
  if text.isEmpty then
    return true
  match ← Acting.send 1 text with
  | .ok () => return true
  | .error _ => return false

/-- A text in quotes: single quotes around everything else, and double ones around those. The fuel
bounds the length. -/
def quotedPieces : Nat → List Char → List Char
  | 0, _ => []
  | fuel + 1, cs =>
    let plain := cs.takeWhile (· != '\'')
    let rest := cs.drop plain.length
    let quotes := rest.takeWhile (· == '\'')
    let behind := rest.drop quotes.length
    let start := '\'' :: plain ++ ['\'']
    if rest.isEmpty then start
    else if behind.isEmpty then start ++ '"' :: quotes ++ ['"']
    else start ++ '"' :: quotes ++ '"' :: quotedPieces fuel behind

/-- A text in quotes that a shell reads as the text itself. -/
def quoted (text : String) : String :=
  String.ofList (quotedPieces (text.length + 1) text.toList)

end Act

end Runbook.Machine.Shell
