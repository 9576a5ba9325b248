import Runbook.Machine.Program.Task

/-!
# Options of programs

The arguments of most programs begin with options, which are letters behind a hyphen or words behind
two of them. Options may stand among the other arguments as well, unless a program wants them in
front, and a word can be cut short as long as it is clear which one is meant.
-/

namespace Runbook.Machine

/-- Whether an option has a value. -/
inductive Arity where
  | none
  | required
  | optional
  deriving Repr, DecidableEq

/-- An option that is a word, and the key under which it is known. -/
structure LongOption where
  name : String
  arity : Arity := .none
  key : String
  deriving Repr, DecidableEq

/-- The options of a program. A letter is known under itself as a key. -/
structure OptionTable where
  letters : List (Char × Arity) := []
  long : List LongOption := []
  /-- Whether options may stand among the other arguments. -/
  mayFollow : Bool := true
  /-- Whether a negative number is no option, and the first of the other arguments. -/
  knowsNumbers : Bool := false

namespace OptionTable

/-- Reads letters, where one colon behind a letter tells that it has a value and two that it may have
one. -/
def lettersOf : List Char → List (Char × Arity)
  | c :: ':' :: ':' :: rest => (c, .optional) :: lettersOf rest
  | c :: ':' :: rest => (c, .required) :: lettersOf rest
  | c :: rest => (c, .none) :: lettersOf rest
  | [] => []

/-- Words without values, each with the key under which it is known. -/
def flags (words : List (String × String)) : List LongOption :=
  words.map fun (name, key) => { name := name, key := key }

/-- Words with values. -/
def valued (words : List (String × String)) : List LongOption :=
  words.map fun (name, key) => { name := name, arity := .required, key := key }

/-- The options that every program has. -/
def standard : List LongOption :=
  flags [("help", "help"), ("version", "version")]

/-- The table of letters and words. -/
def ofLists (letters : String) (long : List LongOption) : OptionTable :=
  { letters := lettersOf letters.toList, long := long ++ standard }

end OptionTable

/-- Arguments with the options taken out. -/
structure Given where
  /-- The keys of the options in their order, with their values. -/
  options : List (String × Option String) := []
  operands : List String := []
  deriving Repr, DecidableEq

namespace Given

/-- Whether an option was given. -/
def has (given : Given) (key : String) : Bool :=
  given.options.any fun option => option.1 == key

/-- The value of the last option with a key. -/
def value? (given : Given) (key : String) : Option String :=
  (given.options.reverse.find? fun option => option.1 == key).bind Prod.snd

/-- The last of some options that was given. -/
def last? (given : Given) (keys : List String) : Option String :=
  (given.options.reverse.find? fun option => keys.contains option.1).map Prod.fst

end Given

namespace Task

/-- Finds the words that a word may be cut from. -/
def longOptions (table : OptionTable) (name : String) : List LongOption :=
  match table.long.find? fun option => option.name == name with
  | some option => [option]
  | none => table.long.filter fun option => option.name.startsWith name

/-- Reads an option that is a word, given the arguments behind it. -/
def readLong (table : OptionTable) (text : String) (rest : List String) :
    Task ((String × Option String) × List String) := do
  let cs := text.toList
  let nameCs := cs.takeWhile (· != '=')
  let name := String.ofList nameCs
  let value : Option String :=
    match cs.drop nameCs.length with
    | _ :: value => some (String.ofList value)
    | [] => none
  match longOptions table name with
  | [] => failUsage ("unrecognized option '--" ++ text ++ "'")
  | option :: others =>
    if others.any fun other => other.key != option.key || other.arity != option.arity then
      let names := (option :: others).map fun option => " '--" ++ option.name ++ "'"
      failUsage ("option '--" ++ text ++ "' is ambiguous; possibilities:" ++ String.join names)
    match option.arity, value with
    | .none, some _ =>
      failUsage ("option '--" ++ option.name ++ "' doesn't allow an argument")
    | .required, none =>
      match rest with
      | value :: rest => return ((option.key, some value), rest)
      | [] => failUsage ("option '--" ++ option.name ++ "' requires an argument")
    | _, _ => return ((option.key, value), rest)

/-- Reads the letters of an argument, given the arguments behind it. -/
def readLetters (table : OptionTable) :
    List Char → List String → Task (List (String × Option String) × List String)
  | [], rest => return ([], rest)
  | c :: cs, rest => do
    match table.letters.lookup c with
    | none => failUsage ("invalid option -- '" ++ c.toString ++ "'")
    | some .none =>
      let (options, rest) ← readLetters table cs rest
      return ((c.toString, none) :: options, rest)
    | some .optional =>
      return ([(c.toString, if cs.isEmpty then none else some (String.ofList cs))], rest)
    | some .required =>
      if !cs.isEmpty then return ([(c.toString, some (String.ofList cs))], rest)
      match rest with
      | value :: rest => return ([(c.toString, some value)], rest)
      | [] => failUsage ("option requires an argument -- '" ++ c.toString ++ "'")

/-- Takes the options out of arguments. The fuel bounds the number of arguments. -/
def readOptions (table : OptionTable) : Nat → List String → Task Given
  | 0, arguments => return { operands := arguments }
  | _, [] => return {}
  | fuel + 1, argument :: rest => do
    match argument.toList with
    | ['-', '-'] => return { operands := rest }
    | '-' :: '-' :: text =>
      let (option, rest) ← readLong table (String.ofList text) rest
      let given ← readOptions table fuel rest
      return { given with options := option :: given.options }
    | '-' :: c :: cs =>
      if table.knowsNumbers && (c == '.' || c.isDigit) then
        return { operands := argument :: rest }
      let (options, rest) ← readLetters table (c :: cs) rest
      let given ← readOptions table fuel rest
      return { given with options := options ++ given.options }
    | _ =>
      if table.mayFollow then
        let given ← readOptions table fuel rest
        return { given with operands := argument :: given.operands }
      else
        return { operands := argument :: rest }

/-- Takes the options out of the arguments of a program. -/
def options (table : OptionTable) (arguments : List String) : Task Given :=
  readOptions table (arguments.length + 1) arguments

/-- The word that a value of an option stands for. Words come in groups that mean the same, and the
beginning of a word does too as long as it is clear. -/
def choose (option : String) (groups : List (List String)) (value : String) : Task String := do
  let meant := groups.filter fun group => group.any fun word => word.startsWith value
  match groups.find? fun group => group.contains value, meant with
  | some group, _ => return group.headD ""
  | none, [group] => return group.headD ""
  | none, _ =>
    let fault := if meant.isEmpty then "invalid" else "ambiguous"
    Task.warn (fault ++ " argument " ++ Quoted.plain value ++ " for " ++ Quoted.plain option)
    let shown (group : List String) : String :=
      "  - " ++ ", ".intercalate (group.map Quoted.plain) ++ "\n"
    let _ ← Acting.send 2 ("Valid arguments are:\n" ++ String.join (groups.map shown))
    Task.suggestHelp
    Task.leave (← get).failure

/-- Complains that there is nothing to do something with. -/
def failMissing {α : Type} : Task α :=
  failUsage "missing operand"

/-- Complains about one argument too many. -/
def failExtra {α : Type} (operand : String) : Task α :=
  failUsage ("extra operand " ++ Quoted.plain operand)

end Task

end Runbook.Machine
