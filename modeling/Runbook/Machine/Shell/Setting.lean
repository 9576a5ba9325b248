import Runbook.Machine.Shell.Print
import Runbook.Machine.Shell.Field
import Runbook.Machine.Shell.Variables

/-!
# Variables, parameters and options

The built-in commands that change what a shell remembers.
-/

namespace Runbook.Machine.Shell.Act

/-- The lines that list variables, in the order of their names. -/
def listVariables (start : String) (isListed : Variable → Bool) : Act Unit := do
  let listed := (← get).bindings.filter fun entry => isListed entry.2
  for (name, found) in listed.mergeSort fun first second => first.1 ≤ second.1 do
    let value := found.value.elim "" fun value => "=" ++ quoted value
    print (start ++ name ++ value ++ "\n")

/-! ## Options -/

/-- Turns an option on or off. -/
def setOption (isOn : Bool) (name : String) : Act Unit :=
  modify fun memory =>
    let others := memory.options.filter (· != name)
    let others :=
      if isOn && name == "vi" then others.filter (· != "emacs")
      else if isOn && name == "emacs" then others.filter (· != "vi")
      else others
    { memory with options := if isOn then others ++ [name] else others }

/-- Turns the option with a letter on or off. -/
def setLetter (isOn : Bool) (letter : Char) : Act Unit := do
  match optionNames.find? fun entry => entry.1 == some letter with
  | some (_, name) => setOption isOn name
  | none => fail ("Illegal option -" ++ letter.toString)

/-- Turns the option with a name on or off, or lists all of them. -/
def setNamed (isOn : Bool) (name : Option String) : Act Unit := do
  match name with
  | some name =>
    if optionNames.any fun entry => entry.2 == name then setOption isOn name
    else fail ("Illegal option -o " ++ name)
  | none =>
    let memory ← get
    if isOn then
      print "Current option settings\n"
    for (_, name) in optionNames do
      let isSet := memory.has name
      if isOn then
        print (name ++ "".pushn ' ' (16 - name.length) ++ (if isSet then "on" else "off") ++ "\n")
      else
        print ("set " ++ (if isSet then "-o " else "+o ") ++ name ++ "\n")

/-- Turns options on or off that letters stand for, and yields the arguments that are left. -/
def setLetters (isOn : Bool) : List Char → List String → Act (List String)
  | [], arguments => return arguments
  | 'o' :: letters, arguments => do
    setNamed isOn arguments.head?
    setLetters isOn letters (arguments.drop 1)
  | letter :: letters, arguments => do
    setLetter isOn letter
    setLetters isOn letters arguments

/-- Turns options on or off, and yields the parameters that follow them, if any do. The fuel bounds
the number of arguments. -/
def setOptions : Nat → List String → Act (Option (List String))
  | 0, _ => return none
  | _, [] => return none
  | fuel + 1, argument :: rest => do
    match argument.toList with
    | ['-'] =>
      setOption false "xtrace"
      setOption false "verbose"
      return if rest.isEmpty then none else some rest
    | ['-', '-'] => return some rest
    | '-' :: letters => setOptions fuel (← setLetters true letters rest)
    | '+' :: letters => setOptions fuel (← setLetters false letters rest)
    | _ => return some (argument :: rest)

/-- Replaces the parameters. -/
def setParameters (parameters : List String) : Act Unit :=
  modify fun memory =>
    { memory with parameters := parameters, optionIndex := 1, optionOffset := none }

/-- Sets options and parameters, or lists the variables. -/
def setCommand (arguments : List String) : Act Nat := do
  if arguments.isEmpty then
    listVariables "" fun found => found.value.isSome
  else if let some parameters := ← setOptions (arguments.length + 1) arguments then
    setParameters parameters
  return 0

/-- Drops parameters. -/
def shift (arguments : List String) : Act Nat := do
  let count ← match arguments with
    | [] => pure 1
    | first :: _ => number first
  let parameters := (← get).parameters
  if parameters.length < count then
    fail "can't shift that many"
  setParameters (parameters.drop count)
  return 0

/-! ## Variables -/

/-- Marks variables, or lists those that are marked. -/
def mark (command : String) (isExported isReadOnly : Bool) (arguments : List String) :
    Act Nat := do
  let (letters, names) ← options ['p'] arguments
  if !letters.isEmpty || names.isEmpty then
    listVariables (command ++ " ") fun found =>
      isExported && found.isExported || isReadOnly && found.isReadOnly
  else
    for text in names do
      match assignment? text with
      | some (name, value) => assignAs isExported isReadOnly name value
      | none => markVariable isExported isReadOnly text
  return 0

/-- Takes away variables or functions. -/
def unsetCommand (arguments : List String) : Act Nat := do
  let (letters, names) ← options ['v', 'f'] arguments
  for name in names do
    if (letters.getLast?.map Prod.fst) == some 'f' then
      modify fun memory =>
        { memory with functions := memory.functions.filter fun found => found.name != name }
    else
      unset name
  return 0

/-- Makes variables local. -/
def localCommand (arguments : List String) : Act Nat := do
  if (← get).scopes.isEmpty then
    fail "not in a function"
  for text in arguments do
    makeLocal false text
  return 0

/-- Reads a line up to its end, where a backslash takes away the meaning of the character behind it
unless it is to be kept. Yields the cells, the regions that may be divided, and whether the end of
the line was there. -/
def readLine (keepsBackslashes : Bool) : Act (Array Cell × List Region × Bool) := do
  let readMore : Act (Option (List Char)) := do
    match ← Acting.receiveUnlessAlerted 0 Acting.readLimit (some '\n') with
    | .ok text => return if text.isEmpty then none else some text.toList
    | .error _ => return none
  let absorb (state : Array Cell × List Region × Nat × Bool) (c : Char) :
      Array Cell × List Region × Nat × Bool :=
    let (cells, regions, start, escaped) := state
    if c == '\x00' then state
    else if escaped then
      let regions := { first := start, last := cells.size : Region } :: regions
      if c == '\n' then (cells, regions, cells.size, false)
      else (cells.push (.escaped c), regions, cells.size + 1, false)
    else if c == '\\' && !keepsBackslashes then (cells, regions, start, true)
    else (cells.push (.plain c), regions, start, false)
  let (cells, regions, start, found) ← Acting.iterate
    (fun (state : Array Cell × List Region × Nat × Bool) => do
      match ← readMore with
      | none =>
        let (cells, regions, start, _) := state
        return .inr (cells, regions, start, false)
      | some text =>
        let state := text.foldl absorb state
        let (cells, regions, start, escaped) := state
        if !escaped && cells.back? == some (.plain '\n') then
          return .inr (cells.pop, regions, start, true)
        else
          return .inl state)
    (#[], [], 0, false) Acting.endless (#[], [], 0, false)
  let regions := { first := start, last := cells.size : Region } :: regions
  return (cells, regions.reverse, found)

/-- Assigns fields to variables, and nothing to those that are left over. -/
def assignFields : List String → List (List Cell) → Act Unit
  | [], _ => return ()
  | name :: names, [] => do
    assign name ""
    assignFields names []
  | name :: names, field :: fields => do
    assign name (textOf field)
    assignFields names fields

/-- Reads a line and divides it among variables. -/
def readCommand (arguments : List String) : Act Nat := do
  let (letters, names) ← options ['p', ':', 'r'] arguments
  if names.isEmpty then
    fail "arg count"
  let (cells, regions, found) ← readLine (letters.any fun letter => letter.1 == 'r')
  let separators := ((← get).value? "IFS").getD " \t\n"
  assignFields names (fieldsOf separators.toList (some names.length) cells regions)
  return if found then 0 else 1

/-! ## Options of scripts -/

/-- What looking at the parameters for one more option has come to. -/
structure NextOption where
  letter : Char := '?'
  value : Option String := none
  /-- A complaint instead of a value. -/
  complaint : Option String := none
  index : Nat
  offset : Option Nat := none
  isOver : Bool := false

/-- The letters of the known options, with whether they have values. -/
def knownOptions : List Char → List (Char × Bool)
  | c :: ':' :: rest => (c, true) :: knownOptions rest
  | c :: rest => (c, false) :: knownOptions rest
  | [] => []

/-- The next option among parameters, given which of them is looked at next and how many characters
of the one before have been looked at. -/
def nextOption (known : String) (parameters : List String) (index : Nat) (offset : Option Nat) :
    NextOption :=
  let before : Option String := if index ≤ 1 then none else parameters[index - 2]?
  let current : Option (List Char) :=
    match before, offset with
    | some text, some count =>
      let rest := text.toList.drop count
      if text.length < count || rest.isEmpty then none else some rest
    | _, _ => none
  let start : Except Nat (List Char × Nat) :=
    match current with
    | some rest => .ok (rest, index)
    | none =>
      match (parameters[index - 1]?).map String.toList with
      | some ['-', '-'] => .error (index + 1)
      | some ('-' :: c :: rest) => .ok (c :: rest, index + 1)
      | _ => .error index
  match start with
  | .error index => { index := index, isOver := true }
  | .ok (cs, index) =>
    let c := cs.headD '?'
    let rest := cs.drop 1
    let silent := known.startsWith ":"
    let offset := some ((parameters[index - 2]?).elim 0 String.length - rest.length)
    match (knownOptions known.toList).lookup c with
    | none =>
      if silent then { value := some c.toString, index := index, offset := offset }
      else
        { complaint := some ("Illegal option -" ++ c.toString), index := index, offset := offset }
    | some false => { letter := c, value := some "", index := index, offset := offset }
    | some true =>
      if !rest.isEmpty then { letter := c, value := some (String.ofList rest), index := index }
      else
        match parameters[index - 1]? with
        | some value => { letter := c, value := some value, index := index + 1 }
        | none =>
          if silent then { letter := ':', value := some c.toString, index := index }
          else
            { complaint := some ("No arg for -" ++ c.toString ++ " option"), index := index }

/-- Finds the next option of a script. -/
def getOptions (arguments : List String) : Act Nat := do
  match arguments with
  | known :: name :: given =>
    let memory ← get
    let parameters := if given.isEmpty then memory.parameters else given
    let fresh := parameters.length + 1 < memory.optionIndex
    let index := if fresh then 1 else memory.optionIndex
    let offset := if fresh then none else memory.optionOffset
    let found := nextOption known parameters index offset
    if let some complaint := found.complaint then
      writeNow 2 (complaint ++ "\n")
      modify fun memory => memory.dropVariable "OPTARG"
    if let some value := found.value then
      assign "OPTARG" value
    assign "OPTIND" (toString found.index)
    assign name found.letter.toString
    modify fun memory => { memory with optionIndex := found.index, optionOffset := found.offset }
    return if found.isOver then 1 else 0
  | _ => fail "Usage: getopts optstring var [arg...]"

/-! ## Aliases -/

/-- The line that defines an alias. -/
def aliasLine (name meaning : String) : String :=
  name ++ "=" ++ quoted meaning ++ "\n"

/-- Defines aliases, or lists them. -/
def aliasCommand (arguments : List String) : Act Nat := do
  if arguments.isEmpty then
    for (name, meaning) in Memory.inRows (← get).aliases do
      print (aliasLine name meaning)
    return 0
  let mut status := 0
  for text in arguments do
    let cs := text.toList
    let name := cs.take 1 ++ (cs.drop 1).takeWhile (· != '=')
    match cs.drop name.length with
    | _ :: meaning =>
      let name := String.ofList name
      let meaning := String.ofList meaning
      modify fun memory =>
        let others := memory.aliases
        { memory with
          aliases :=
            if (others.lookup name).isSome then
              others.map fun entry => if entry.1 == name then (name, meaning) else entry
            else
              others ++ [(name, meaning)] }
    | [] =>
      match (← get).aliases.lookup text with
      | some meaning => print (aliasLine text meaning)
      | none =>
        writeNow 2 ("alias: " ++ text ++ " not found\n")
        status := 1
  return status

/-- Takes away aliases. -/
def unaliasCommand (arguments : List String) : Act Nat := do
  let (letters, names) ← options ['a'] arguments
  if !letters.isEmpty then
    modify fun memory => { memory with aliases := [] }
    return 0
  let mut status := 0
  for name in names do
    if ((← get).aliases.lookup name).isNone then
      writeNow 2 ("unalias: " ++ name ++ " not found\n")
      status := 1
    modify fun memory =>
      { memory with aliases := memory.aliases.filter fun entry => entry.1 != name }
  return status

/-! ## Skipping -/

/-- Leaves loops, or goes on with them. -/
def leaveLoops (skip : Skip) (arguments : List String) : Act Nat := do
  let count ← match arguments with
    | [] => pure 1
    | first :: _ => number first
  if count = 0 then
    fail ("Illegal number: " ++ arguments.headD "")
  let count := min count (← get).loops
  if 0 < count then
    modify fun memory => { memory with skip := skip, skipCount := count }
  return 0

/-- Leaves a function or a file. -/
def returnCommand (arguments : List String) : Act Nat := do
  let status ← match arguments with
    | [] => pure (← get).status
    | first :: _ => number first
  modify fun memory => { memory with skip := .function }
  return status

/-- Ends the shell. -/
def exitCommand (arguments : List String) : Act Nat := do
  if let first :: _ := arguments then
    let status ← number first
    modify fun memory => { memory with status := status, statusBefore := some status }
  throw .exit

end Runbook.Machine.Shell.Act
