import Runbook.Machine.Shell.Interpreter

/-!
# Shells as programs

What a shell does with its arguments, and how it goes from the beginning to its end.
-/

namespace Runbook.Machine.Shell

/-- What the arguments of a shell ask for besides options that are set. -/
structure Request where
  /-- Whether the first of the other arguments is a text that is run. -/
  runsText : Bool := false
  others : List String
  deriving Repr, DecidableEq

namespace Act

/-- Goes through the letters of an argument of a shell, and yields whether one of them asks for a
text to be run, with the arguments that are left. -/
def startLetters (isOn : Bool) : List Char → List String → Act (Bool × List String)
  | [], arguments => return (false, arguments)
  | 'c' :: letters, arguments => do
    let (_, arguments) ← startLetters isOn letters arguments
    return (true, arguments)
  | 'l' :: letters, arguments => startLetters isOn letters arguments
  | 'o' :: letters, arguments => do
    setNamed isOn arguments.head?
    startLetters isOn letters (arguments.drop 1)
  | letter :: letters, arguments => do
    setLetter isOn letter
    startLetters isOn letters arguments

/-- Goes through the arguments of a shell that are options. The fuel bounds their number. -/
def startOptions : Nat → Request → Act Request
  | 0, request => return request
  | fuel + 1, request => do
    match request.others with
    | [] => return request
    | argument :: rest =>
      let go (isOn : Bool) (letters : List Char) : Act Request := do
        let (runsText, others) ← startLetters isOn letters rest
        startOptions fuel { runsText := request.runsText || runsText, others := others }
      match argument.toList with
      | ['-'] | ['-', '-'] => return { request with others := rest }
      | '-' :: letters => go true letters
      | '+' :: letters => go false letters
      | _ => return request

/-- Notes the name by which the shell was called and its parameters. -/
def noteArguments (name : String) (parameters : List String) : Act Unit :=
  modify fun memory => { memory with name := name, parameters := parameters }

/-- Sets a variable without regard to what it was, except that it is handed on if it was before. -/
def setAtStart (name value : String) : Act Unit :=
  modify fun memory =>
    memory.putVariable name
      { value := some value
        isExported := (memory.named? name).any Variable.isExported }

/-- The variables that a shell begins with, unless they are handed to it. -/
def usualVariables : List (String × String) :=
  [("PATH", standardPath), ("PS1", "# "), ("PS2", "> "), ("PS4", "+ ")]

/-- Notes where a shell starts. -/
def settleIn : Act Unit := do
  let (self, process) ← Acting.observe fun self host => (self, host.process? self)
  modify fun memory =>
    { memory with identity := self, deaf := (process.map Process.ignored).getD [] }
  for (name, value) in usualVariables do
    if ((← get).value? name).isNone then
      setAtStart name value
  setAtStart "IFS" " \t\n"
  setAtStart "OPTIND" "1"
  setAtStart "PPID" (toString ((process.map Process.parent).getD 0))
  let given := ((← get).value? "PWD").getD ""
  let isHere ← Acting.observe fun self host =>
    match host.files.find (host.directoryOf self) given true with
    | .ok number => number == host.directoryOf self
    | .error _ => false
  let path ← if given.startsWith "/" && isHere then pure given else physicalDirectory
  noteDirectory path false

/-- What a shell does from its beginning to its end. -/
def live (arguments : List String) : Act Unit := do
  let run := interpreter Acting.endless
  try
    settleIn
    let request ← startOptions (arguments.length + 1) { others := arguments }
    if request.others.isEmpty then
      if request.runsText then
        fail "-c requires an argument"
      setOption true "stdin"
    let name := (← get).name
    if request.runsText then
      let text := request.others.headD ""
      let others := request.others.drop 1
      noteArguments (others.headD name) (others.drop 1)
      let _ ← runText run { isLast := !(← get).has "stdin" } text
      if (← get).has "stdin" then
        let _ ← runScript run 0
    else if (← get).has "stdin" then
      noteArguments name request.others
      let _ ← runScript run 0
    else
      let path := request.others.headD ""
      let source ← openScript path
      noteArguments path (request.others.drop 1)
      let _ ← runScript run source
    exitShell run .finish
  catch reason =>
    exitShell run reason

end Act

/-- The course of a shell with the arguments and the variables that it gets. -/
def course (argv : List String) (environment : Environment) : Course :=
  let named := environment.filter fun entry => isName entry.1
  let memory : Memory :=
    { name := argv.headD "sh"
      line := 0
      bindings := named.map fun (name, value) => (name, { value := some value, isExported := true }) }
  Act.live (argv.drop 1) memory (fun _ memory => .ended memory.status) fun _ memory =>
    .ended memory.status

end Runbook.Machine.Shell
