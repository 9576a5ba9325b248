import Runbook.Log
import Runbook.Run

/-!
# Command-line arguments

Arguments are read from left to right up to the first problem. An option takes its value from behind
an equals sign or from the next argument, and a value from the next argument is judged only when
the next known name, or the end, shows that the option is complete. Names are never abbreviated.
-/

namespace Runbook

/-- What the arguments ask for when they ask for a run. -/
structure Arguments where
  options : Options := {}
  /-- The least urgent level to be shown. -/
  level : Option Level := none
  deriving Repr, DecidableEq

/-- Why arguments are refused. -/
inductive UsageFault where
  | unknownArgument (argument : String)
  | missingValue (option : String)
  | badLevel (value : String)
  | badNumber (value : String)
  | repeated (name : String)
  | unexpectedValue (name : String)
  deriving Repr, DecidableEq

/-- The wording of a usage fault. -/
def UsageFault.message : UsageFault → String
  | .unknownArgument argument => "unexpected argument '" ++ argument ++ "'"
  | .missingValue option => "a value is required for '--" ++ option ++ "'"
  | .badLevel value => "invalid level '" ++ value ++ "'"
  | .badNumber value => "invalid number '" ++ value ++ "'"
  | .repeated name => "'--" ++ name ++ "' cannot be used more than once"
  | .unexpectedValue name => "'--" ++ name ++ "' takes no value"

/-- What arguments ask for. -/
inductive Request where
  | run (arguments : Arguments)
  | help
  | version
  deriving Repr, DecidableEq

namespace Arguments

/-- The options, which take a value. -/
inductive Setting where
  | changelog
  | workers
  | level
  deriving Repr, DecidableEq

/-- The flags, which take none. -/
inductive Switch where
  | logOnly
  | checksums
  deriving Repr, DecidableEq

/-- What a name on the command line stands for. -/
inductive Meaning where
  | setting (setting : Setting)
  | switch (switch : Switch)
  | help
  | version
  deriving Repr, DecidableEq

/-- The name of an option. -/
def Setting.name : Setting → String
  | .changelog => "changelog"
  | .workers => "workers"
  | .level => "log-level"

/-- The name of a flag. -/
def Switch.name : Switch → String
  | .logOnly => "log-only"
  | .checksums => "checksums"

/-- The meaning of a long name. -/
def ofLongName? : String → Option Meaning
  | "changelog" => some (.setting .changelog)
  | "workers" => some (.setting .workers)
  | "log-level" => some (.setting .level)
  | "log-only" => some (.switch .logOnly)
  | "checksums" => some (.switch .checksums)
  | "help" => some .help
  | "version" => some .version
  | _ => none

/-- The meaning of a letter. -/
def ofLetter? : Char → Option Meaning
  | 'h' => some .help
  | 'V' => some .version
  | _ => none

/-- The level that a name stands for. -/
def level? : String → Option Level
  | "error" => some .error
  | "warn" => some .warn
  | "info" => some .info
  | "debug" => some .debug
  | "trace" => some .trace
  | _ => none

/-- What has been read so far. -/
structure Draft where
  changelog : Option String := none
  workers : Option Nat := none
  level : Option Level := none
  logOnly : Bool := false
  checksums : Bool := false
  /-- An option that is waiting for its value, or has it already and waits to be judged. -/
  pending : Option (Setting × Option String) := none
  deriving Repr, DecidableEq

/-- Why reading stops before the end. -/
inductive Stop where
  | fault (fault : UsageFault)
  | help
  | version
  deriving Repr, DecidableEq

/-- What reading a part of the arguments yields. -/
abbrev Reading (α : Type) := Except Stop α

/-- Stops for a fault. -/
def refuse {α : Type} (fault : UsageFault) : Reading α :=
  .error (.fault fault)

/-- Whether an option was given before. -/
def Draft.has (draft : Draft) : Setting → Bool
  | .changelog => draft.changelog.isSome
  | .workers => draft.workers.isSome
  | .level => draft.level.isSome

/-- The draft with the value of an option. -/
def Draft.store (draft : Draft) (setting : Setting) (value : String) : Reading Draft :=
  if draft.has setting then
    refuse (.repeated setting.name)
  else
    match setting with
    | .changelog => .ok { draft with changelog := some value }
    | .workers =>
      match Text.word? value with
      | some number => .ok { draft with workers := some number }
      | none => refuse (.badNumber value)
    | .level =>
      match level? value with
      | some level => .ok { draft with level := some level }
      | none => refuse (.badLevel value)

/-- The draft with its pending option judged. -/
def Draft.settle (draft : Draft) : Reading Draft :=
  match draft.pending with
  | none => .ok draft
  | some (setting, none) => refuse (.missingValue setting.name)
  | some (setting, some value) => { draft with pending := none }.store setting value

/-- The draft with a flag. -/
def Draft.turnOn (draft : Draft) : Switch → Reading Draft
  | .logOnly =>
    if draft.logOnly then refuse (.repeated Switch.logOnly.name)
    else .ok { draft with logOnly := true }
  | .checksums =>
    if draft.checksums then refuse (.repeated Switch.checksums.name)
    else .ok { draft with checksums := true }

/-- The draft after a long name, with the text behind an equals sign if there is one. -/
def Draft.meetLongName (draft : Draft) (name : String) (value : Option String) : Reading Draft :=
  match ofLongName? name, value with
  | none, _ => refuse (.unknownArgument ("--" ++ name))
  | some (.setting setting), none => do
    let draft ← draft.settle
    return { draft with pending := some (setting, none) }
  | some (.setting setting), some value => do
    let draft ← draft.settle
    draft.store setting value
  | some _, some _ => refuse (.unexpectedValue name)
  | some (.switch switch), none => do
    let draft ← draft.settle
    draft.turnOn switch
  | some .help, none => do
    let _ ← draft.settle
    .error .help
  | some .version, none => do
    let _ ← draft.settle
    .error .version

/-- The draft after a letter. Every known letter ends the reading. -/
def Draft.meetLetter (draft : Draft) (letter : Char) : Reading Draft :=
  match ofLetter? letter with
  | some .help => do
    let _ ← draft.settle
    .error .help
  | some .version => do
    let _ ← draft.settle
    .error .version
  | _ => refuse (.unknownArgument ("-" ++ letter.toString))

/-- The draft after an argument that is no name. -/
def Draft.meetValue (draft : Draft) (value : String) : Reading Draft :=
  match draft.pending with
  | some (setting, none) => .ok { draft with pending := some (setting, some value) }
  | _ => refuse (.unknownArgument value)

/-- The parts of a text before and behind its first equals sign. -/
def splitEquals (text : List Char) : String × Option String :=
  match text.dropWhile (· != '=') with
  | [] => (String.ofList text, none)
  | _ :: value => (String.ofList (text.takeWhile (· != '=')), some (String.ofList value))

/-- The draft after all arguments. -/
def Draft.readAll (draft : Draft) : List String → Reading Draft
  | [] => draft.settle
  | argument :: rest =>
    match argument.toList with
    | ['-', '-'] =>
      match rest with
      | [] => draft.settle
      | stray :: _ => refuse (.unknownArgument stray)
    | '-' :: '-' :: text => do
      let (name, value) := splitEquals text
      (← draft.meetLongName name value).readAll rest
    | '-' :: letter :: _ => do
      (← draft.meetLetter letter).readAll rest
    | _ => do
      (← draft.meetValue argument).readAll rest

/-- What a complete draft asks for. -/
def Draft.arguments (draft : Draft) : Arguments :=
  let standard : Options := {}
  { options :=
      { changelog := draft.changelog.getD standard.changelog
        logOnly := draft.logOnly
        checksums := draft.checksums
        workers := draft.workers }
    level := draft.level }

/-- What arguments ask for, or why they are refused. -/
def parse (arguments : List String) : Except UsageFault Request :=
  match ({} : Draft).readAll arguments with
  | .ok draft => .ok (.run draft.arguments)
  | .error .help => .ok .help
  | .error .version => .ok .version
  | .error (.fault fault) => .error fault

end Arguments

end Runbook
