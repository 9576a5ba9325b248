import Runbook.Machine.Shell.Condition
import Runbook.Machine.Shell.Redirection
import Runbook.Machine.Shell.Surroundings

/-!
# Running commands

What commands do. Whatever runs a command is handed what runs the commands in it, so that each kind
of command is explained by itself, and the knot is tied at the end with a bound on the depth.
-/

namespace Runbook.Machine.Shell

/-- How a command stands among others. -/
structure Standing where
  /-- Whether the shell ends with it. -/
  isLast : Bool := false
  /-- Whether somebody looks at its status, so that a failure is no reason to end the shell. -/
  isTested : Bool := false
  deriving Repr, DecidableEq

/-- What runs a command and yields its status. An empty command has no tree. -/
abbrev Run := Standing → Option Tree → Act Nat

/-- What a name stands for as a command. -/
inductive Meant where
  | function (function : Function)
  | builtIn (name : String)
  | program

namespace Act

/-! ## Texts that are run -/

/-- A command that was read, with the input behind it. -/
structure Next where
  tree : Option Tree
  input : Input
  /-- Whether the command ended with the input rather than with a line. -/
  isFinal : Bool

/-- Reads the next command, unless there is none or more of the script has to be waited for. -/
def readNext (input : Input) : Act (Except Stop (Option Next)) := do
  let memory ← get
  let reading : Reading :=
    { input := input, aliases := memory.aliases, documents := memory.documents }
  match Reader.nextCommand.run reading with
  | .error stop => return .error stop
  | .ok (found, reading) =>
    modify fun memory =>
      { memory with documents := reading.documents, readingLine := reading.input.line }
    return .ok (found.map fun tree =>
      { tree := tree
        input := reading.input
        isFinal := reading.isReturned && reading.token = .endOfFile })

/-- Complains about a script and gives up. -/
def failReading {α : Type} (message : String) (line : Nat) : Act α := do
  modify fun memory => { memory with line := line }
  fail message

/-- Runs the commands of a text, and yields the status of the last of them. -/
def runText (run : Run) (standing : Standing) (text : String) : Act Nat := do
  let before := (← get).readingLine
  let status ← Acting.iterate
    (fun (input, status) => do
      match ← readNext input with
      | .error (.fault message line) => failReading message line
      | .error .unfinished | .ok none => return .inr status
      | .ok (some next) =>
        let result ← run { standing with isLast := standing.isLast && next.isFinal } next.tree
        let status := if next.tree.isSome then result else status
        if (← get).skip ≠ .nothing then return .inr status
        else return .inl (next.input, status))
    0 Acting.endless (({ text := text.toList } : Input), 0)
  modify fun memory => { memory with readingLine := before }
  return status

/-- How many octets of a script are read at once. -/
def scriptPiece : Nat := 8192

/-- Shows the part of a script that was read, if that is asked for. -/
def showRead (before after : Input) : Act Unit := do
  if (← get).has "verbose" then
    let count := before.text.length - after.text.length
    writeNow 2 (String.ofList (before.text.take count))

/-- Runs the commands of the script that is open under a number, and yields the status of the last of
them. The script may come in pieces. -/
def runScript (run : Run) (source : Nat) : Act Nat :=
  Acting.iterate
    (fun (input, status) => do
      match ← readNext input with
      | .error (.fault message line) =>
        showRead input { input with text := [] }
        failReading message line
      | .error .unfinished =>
        let piece := ((← Acting.receive source scriptPiece none).toOption).getD ""
        if piece.isEmpty then return .inl ({ input with isWhole := true }, status)
        else return .inl ({ input with text := input.text ++ piece.toList }, status)
      | .ok none => return .inr status
      | .ok (some next) =>
        showRead input next.input
        let result ← run {} next.tree
        let status := if next.tree.isSome then result else status
        match (← get).skip with
        | .nothing => return .inl (next.input, status)
        | .function =>
          modify fun memory => { memory with skip := .nothing }
          return .inr status
        | _ => return .inr status)
    0 Acting.endless (({ text := [], isWhole := false } : Input), 0)

/-! ## Signals and the end of the shell -/

/-- Runs the traps of the signals that have come. Those that come while commands are skipped have to
wait. -/
def runTraps (run : Run) : Act Unit := do
  let pending ← Acting.observe fun self host =>
    ((host.process? self).map Process.pending).getD []
  if pending.isEmpty then
    return ()
  let before := (← get).statusBefore
  let status := before.getD (← get).status
  modify fun memory => { memory with statusBefore := some status }
  for number in pending.mergeSort (fun first second => first ≤ second) do
    if (← get).skip = .nothing then
      Acting.perform fun self host =>
        (host.modifyProcess self fun process =>
          { process with pending := process.pending.filter (· != number) }, ())
      if let some text := (← get).trap? number then
        let _ ← runText run {} text
        if (← get).skip ≠ .function then
          modify fun memory => { memory with status := status }
  modify fun memory => { memory with statusBefore := before }

/-- Ends the shell: runs the trap for its end and writes what has not been written. -/
def exitShell (run : Run) (reason : Leave) : Act Unit := do
  modify fun memory =>
    let status := if reason = .exit then memory.statusBefore.getD memory.status else memory.status
    { memory with
      status := status, statusBefore := some status, skip := .nothing, loops := 0
      isTracing := false }
  if let some text := (← get).trap? 0 then
    setTrap 0 none
    let goesBack ←
      try
        let _ ← runText run {} text
        pure true
      catch reason =>
        pure (reason == .exit)
    if goesBack then
      modify fun memory =>
        { memory with status := memory.statusBefore.getD memory.status }
  let _ ← flush

/-! ## Expansion -/

/-- Runs the command of a substitution in a process of its own and yields its output. -/
def substitute (run : Run) : Substitute
  | none => return ""
  | some tree => do
    let (reading, writing) ← Acting.perform fun self host => host.openPipe self
    let job ← newJob
    let _ ← forkShell (exitShell run) (some job) false do
      Acting.close reading
      if writing ≠ 1 then
        let _ ← Acting.request fun self host =>
          (host.duplicate self writing 1).map fun host => (host, ())
        Acting.close writing
      let _ ← run { isLast := true } (some tree)
    Acting.close writing
    let text := ((← Acting.receiveAll reading).toOption).getD ""
    Acting.close reading
    let status ← waitForJob job
    modify fun memory => { memory with substituted := status }
    return text

/-- Expands a text in which quotes have no meaning. -/
def expandPrompt (run : Run) (text : String) : Act String := do
  let reading : Reading :=
    { input := { text := text.toList }, aliases := [], documents := (← get).documents }
  let pending : Pending := { number := 0, mark := ['\x00'], dropsTabs := false, expands := true }
  let read := Reader.readText (Reader.substituted Reader.endless) pending
  match read.run reading with
  | .error _ => return text
  | .ok (word, reading) =>
    modify fun memory => { memory with documents := reading.documents }
    expandText (substitute run) { isQuoted := true } word

/-- Shows a command before it is run, if that is asked for. A command whose error output leads
elsewhere is shown where it led before. -/
def trace (run : Run) (isRedirected : Bool) (texts : List String) : Act Unit := do
  let memory ← get
  if memory.has "xtrace" && !memory.isTracing then
    modify fun memory => { memory with isTracing := true }
    let start ← expandPrompt run ((memory.value? "PS4").getD "")
    modify fun memory => { memory with isTracing := false }
    let kept := if isRedirected then (memory.redirections.headD []).lookup 2 else none
    let descriptor :=
      match kept with
      | some (.kept copy) => copy
      | _ => 2
    writeNow descriptor (start ++ " ".intercalate texts ++ "\n")

/-! ## Programs -/

/-- Becomes the program at a path. A file that is no program is a script. -/
def becomeAt (path : String) (argv : List String) : Act OsError := do
  let environment := (← get).environment
  match ← Acting.become path argv environment with
  | .notExecutable => Acting.become "/bin/sh" ("/bin/sh" :: path :: argv.drop 1) environment
  | fault => return fault

/-- Becomes the first program among paths that can be run. -/
def becomeAny (argv : List String) (fault : OsError) : List String → Act OsError
  | [] => return fault
  | path :: rest => do
    match ← becomeAt path argv with
    | .notFound | .notADirectory => becomeAny argv fault rest
    | other => becomeAny argv other rest

/-- The wording of the refusal of a command. -/
def commandRefusal (fault : OsError) : String :=
  refusal "not found" fault

/-- The paths at which a program may be found among directories. -/
def pathsIn (name : String) (directories : List String) : List String :=
  if name.any (· == '/') then [name]
  else directories.map fun directory => if directory.isEmpty then name else directory ++ "/" ++ name

/-- Becomes the program that words call for, or ends the shell. -/
def become {α : Type} (argv : List String) (directories : List String) : Act α := do
  let name := argv.headD ""
  let fault ← becomeAny argv .notFound (pathsIn name directories)
  let status :=
    match fault with
    | .notFound | .notADirectory | .nameTooLong | .tooManyLinks => 127
    | _ => 126
  leaveWith status .finish (name ++ ": " ++ commandRefusal fault)

/-! ## Built-in commands -/

/-- The file that a name stands for as a script. -/
def findScript (name : String) : Act String := do
  if name.any (· == '/') then
    return name
  let isFile (path : String) : Act Bool :=
    Acting.observe fun self host =>
      match host.files.find (host.directoryOf self) path true with
      | .ok number =>
        match host.files.kind? number with
        | some (.regular _) | some (.program _) => true
        | _ => false
      | .error _ => false
  match ← (pathsIn name (← commandPath)).findM? isFile with
  | some path => return path
  | none => fail (name ++ ": not found")

/-- The number from which on the shell opens files for itself. -/
def privateFrom : Nat := 10

/-- Opens a script, and yields the number under which it is open. -/
def openScript (path : String) : Act Nat := do
  match ← Acting.openPath path { reads := true } with
  | .error fault => fail (readRefusal path fault)
  | .ok number =>
    if privateFrom ≤ number then
      return number
    let moved ← Acting.request fun self host =>
      host.duplicateAbove self number privateFrom true
    Acting.close number
    return (moved.toOption).getD number

/-- Runs a script in the shell itself. -/
def dot (run : Run) (arguments : List String) : Act Nat := do
  let (_, operands) ← options [] arguments
  match operands with
  | [] => return 0
  | name :: _ =>
    let path ← findScript name
    let source ← openScript path
    modify fun memory => { memory with command := some path }
    let status ← runScript run source
    Acting.close source
    return status

/-- Becomes another program. -/
def exec (arguments : List String) : Act Nat := do
  let (_, operands) ← options [] arguments
  if operands.isEmpty then return 0 else become operands (← commandPath)

/-- Does what a built-in command does. -/
def doBuiltIn (run : Run) (standing : Standing) (name : String) (arguments : List String) :
    Act Nat :=
  match name with
  | ":" | "true" => return 0
  | "false" => return 1
  | "." => dot run arguments
  | "eval" =>
    if arguments.isEmpty then return 0
    else runText run { isTested := standing.isTested } (" ".intercalate arguments)
  | "exec" => exec arguments
  | "exit" => exitCommand arguments
  | "return" => returnCommand arguments
  | "break" => leaveLoops .break arguments
  | "continue" => leaveLoops .continue arguments
  | "echo" => echo arguments
  | "printf" => printf arguments
  | "test" | "[" => test name arguments
  | "set" => setCommand arguments
  | "shift" => shift arguments
  | "unset" => unsetCommand arguments
  | "export" => mark name true false arguments
  | "readonly" => mark name false true arguments
  | "local" => localCommand arguments
  | "read" => readCommand arguments
  | "getopts" => getOptions arguments
  | "alias" => aliasCommand arguments
  | "unalias" => unaliasCommand arguments
  | "cd" | "chdir" => cd arguments
  | "pwd" => pwd arguments
  | "umask" => umask arguments
  | "ulimit" => ulimit arguments
  | "times" => times arguments
  | "trap" => trap arguments
  | "wait" => wait arguments
  | "kill" => kill arguments
  | "jobs" => jobsCommand arguments
  | "bg" | "fg" => resume arguments
  | "hash" => hash arguments
  | "type" => typeCommand arguments
  | "command" => commandCommand arguments
  | _ => return 127

/-- Runs a built-in command. A failure ends the shell if the command is a special one, and is no
more than a status otherwise. -/
def runBuiltIn (run : Run) (standing : Standing) (isSpecial : Bool) (name : String)
    (arguments : List String) : Act Unit := do
  let before := (← get).command
  modify fun memory => { memory with command := some name }
  try
    let status ← doBuiltIn run standing name arguments
    let written ← flush
    if !written then
      warn (((← get).command.getD name) ++ ": I/O error")
    modify fun memory =>
      { memory with status := if written then status else status ||| 1, command := before }
  catch reason =>
    let _ ← flush
    modify fun memory => { memory with command := before }
    if reason ≠ .error || isSpecial then
      throw reason

/-! ## Functions -/

/-- How deep functions may call each other. -/
def functionLimit : Nat := 1000

/-- Runs a function. -/
def runFunction (run : Run) (standing : Standing) (function : Function)
    (arguments : List String) : Act Unit := do
  let before ← get
  if functionLimit ≤ before.functionDepth then
    fail ("Maximum function recursion depth (" ++ toString functionLimit ++ ") reached")
  modify fun memory =>
    { memory with
      parameters := arguments
      loops := 0
      functionDepth := memory.functionDepth + 1
      optionIndex := 1
      optionOffset := none }
  let conclude : Act Unit :=
    modify fun memory =>
      { memory with
        parameters := before.parameters
        loops := before.loops
        functionDepth := before.functionDepth
        optionIndex := before.optionIndex
        optionOffset := before.optionOffset
        skip := if memory.skip = .function then .nothing else memory.skip }
  try
    let _ ← run { isTested := standing.isTested } (some function.body)
  catch reason =>
    conclude
    throw reason
  conclude

/-! ## Simple commands -/

/-- What a name stands for. -/
def meant (ignoresFunctions : Bool) (name : String) : Act Meant := do
  let memory ← get
  return match if ignoresFunctions then none else memory.function? name with
    | some function => .function function
    | none => if isBuiltIn name then .builtIn name else .program

/-- The words of a command as far as they have been expanded. -/
structure Expanded where
  fields : List String := []
  rest : List Word

/-- Expands words until there are more fields than a number, and tells whether there are. -/
def expandPast (run : Run) (count : Nat) (fields : List String) :
    List Word → Act (Bool × Expanded)
  | [] => return (count < fields.length, { fields := fields, rest := [] })
  | word :: rest => do
    if count < fields.length then
      return (true, { fields := fields, rest := word :: rest })
    else
      let more ← expandFields (substitute run) .argument word
      expandPast run count (fields ++ more) rest

/-- Which command words call for. -/
structure Chosen where
  meant : Meant := .builtIn ":"
  /-- How many of the fields stand in front of it. -/
  skipped : Nat := 0
  expanded : Expanded
  usesStandardPath : Bool := false
  ignoresFunctions : Bool := false
  /-- Whether the first of the words is a special built-in command. -/
  isSpecial : Bool := false
  /-- Whether assignments in front are undone afterwards. -/
  isScoped : Bool := true

/-- The place of the command behind a word that asks for a command without functions, and whether it
is looked for in the standard directories. There is none if the word has other options. The fuel
bounds the number of options. -/
def commandBehind (run : Run) :
    Nat → Bool → Nat → Expanded → Act (Option (Nat × Bool) × Expanded)
  | 0, _, _, expanded => return (none, expanded)
  | fuel + 1, usesStandardPath, place, expanded => do
    let (isThere, expanded) ← expandPast run (place + 1) expanded.fields expanded.rest
    match expanded.fields[place + 1]?.map String.toList with
    | none => return (none, expanded)
    | some ['-', '-'] =>
      let (isThere, expanded) ← expandPast run (place + 2) expanded.fields expanded.rest
      return (if isThere then some (place + 2, usesStandardPath) else none, expanded)
    | some ('-' :: letter :: letters) =>
      if isThere && (letter :: letters).all (· == 'p') then
        commandBehind run fuel true (place + 1) expanded
      else
        return (none, expanded)
    | some _ => return (some (place + 1, usesStandardPath), expanded)

/-- Finds which command words call for. The fuel bounds how often the words ask for a command without
functions. -/
def choose (run : Run) : Nat → Chosen → Act Chosen
  | 0, chosen => return chosen
  | fuel + 1, chosen => do
    let name := chosen.expanded.fields[chosen.skipped]?.getD ""
    let found ← meant chosen.ignoresFunctions name
    let chosen := { chosen with meant := found }
    match found with
    | .builtIn "command" =>
      let (behind, expanded) ←
        commandBehind run Acting.endless chosen.usesStandardPath chosen.skipped chosen.expanded
      let chosen := { chosen with expanded := expanded }
      match behind with
      | none => return chosen
      | some (place, usesStandardPath) =>
        choose run fuel
          { chosen with
            skipped := place
            usesStandardPath := usesStandardPath
            ignoresFunctions := true }
    | .builtIn name =>
      if chosen.ignoresFunctions then return chosen
      else
        let isSpecial := specialCommands.contains name
        return { chosen with isSpecial := isSpecial, isScoped := !isSpecial }
    | _ => return chosen

/-- The built-in commands whose arguments may be assignments, which are not divided. -/
def assigningCommands : List String :=
  ["alias", "export", "local", "readonly"]

/-- Expands all words of a command. -/
def expandCommand (run : Run) (words : List Word) : Act Chosen := do
  let (isThere, expanded) ← expandPast run 0 [] words
  if !isThere then
    return { expanded := expanded, isScoped := false }
  let chosen ← choose run Acting.endless { expanded := expanded }
  let assigns :=
    match chosen.meant with
    | .builtIn name => assigningCommands.contains name
    | _ => false
  let mut fields := chosen.expanded.fields.toArray
  for word in chosen.expanded.rest do
    if assigns && isAssignment word then
      fields := fields.push (← expandText (substitute run) .assignment word)
    else
      fields := fields ++ (← expandFields (substitute run) .argument word).toArray
  return { chosen with expanded := { fields := fields.toList, rest := [] } }

/-- The directories in which the program of a command is looked for. -/
def directoriesFor (chosen : Chosen) : Act (List String) := do
  if chosen.usesStandardPath then
    return (Text.splitAt ':' standardPath.toList).map String.ofList
  else
    commandPath

/-- Runs a program. The shell becomes the program if nothing is left for it to do. -/
def runProgram (run : Run) (standing : Standing) (chosen : Chosen) (argv : List String) :
    Act Unit := do
  let name := argv.headD ""
  let located ←
    if name.any (· == '/') then pure (.ok name)
    else if chosen.usesStandardPath then findProgram name (← directoriesFor chosen) .notFound
    else locateProgram name
  match located with
  | .error fault =>
    warn (name ++ ": " ++ commandRefusal fault)
    modify fun memory => { memory with status := 127 }
  | .ok path =>
    let directories ← directoriesFor chosen
    let rest := (pathsIn name directories).dropWhile (· != path)
    let start : Act Unit := do
      let fault ← becomeAny argv .notFound rest
      let status :=
        match fault with
        | .notFound | .notADirectory | .nameTooLong | .tooManyLinks => 127
        | _ => 126
      leaveWith status .finish (name ++ ": " ++ commandRefusal fault)
    if standing.isLast && !(← get).hasTraps then
      start
    else
      let job ← newJob
      let _ ← forkShell (exitShell run) (some job) false start
      let status ← waitForJob job
      modify fun memory => { memory with status := status }

/-- Makes the assignments in front of a command, and yields them as they were made. -/
def makeAssignments (run : Run) (isScoped isExported : Bool) :
    List Word → Act (List String)
  | [] => return []
  | word :: rest => do
    let text ← expandText (substitute run) .assignment word
    if isScoped then
      makeLocal true text
    else if let some (name, value) := assignment? text then
      assignAs isExported false name value
    return text :: (← makeAssignments run isScoped isExported rest)

/-- Runs a simple command. -/
def simple (run : Run) (standing : Standing) (line : Nat) (assignments words : List Word)
    (redirections : List Redirection) : Act Nat := do
  modify fun memory => { memory with line := line, substituted := 0 }
  let chosen ← expandCommand run words
  let fields := chosen.expanded.fields
  let argv := fields.drop chosen.skipped
  let isExec :=
    match chosen.meant with
    | .builtIn name => name == "exec" && !fields.isEmpty
    | _ => false
  let before ← get
  if chosen.isScoped then
    openScope
  let destinations ← expandTargets (substitute run) redirections
  if !redirections.isEmpty then
    openRedirections
  if ← redirectSafely (substitute run) destinations then
    let assigned ←
      makeAssignments run chosen.isScoped (isExec && 1 < argv.length) assignments
    trace run (!redirections.isEmpty) (assigned ++ fields)
    match chosen.meant, argv with
    | _, [] => modify fun memory => { memory with status := memory.substituted }
    | .builtIn name, _ :: arguments => runBuiltIn run standing chosen.isSpecial name arguments
    | .function function, _ :: arguments => runFunction run standing function arguments
    | .program, _ => runProgram run standing chosen argv
  else
    modify fun memory => { memory with status := 2 }
    if chosen.isSpecial then
      throw .error
  if !redirections.isEmpty then
    closeRedirectionsTo (before.redirections.length + 1) Acting.endless
    closeRedirections !isExec
  closeRedirectionsTo before.redirections.length Acting.endless
  closeScopes before.scopes.length
  return (← get).status

/-! ## Compound commands -/

/-- Runs commands in a process of their own. -/
def subshell (run : Run) (standing : Standing) (inBackground : Bool) (line : Nat) (tree : Tree)
    (redirections : List Redirection) : Act Nat := do
  modify fun memory => { memory with line := line }
  let destinations ← expandTargets (substitute run) redirections
  let task (standing : Standing) : Act Unit := do
    redirectAll (substitute run) false destinations
    let _ ← run { standing with isLast := true } (some tree)
  if !inBackground && standing.isLast && !(← get).hasTraps then
    task standing
    return (← get).status
  let job ← newJob
  let standing := { standing with isTested := standing.isTested && !inBackground }
  let _ ← forkShell (exitShell run) (some job) inBackground (task standing)
  if inBackground then return 0 else waitForJob job

/-- Remembers where the program of a command is found before the command is run by another process.
-/
def findAhead : Tree → Act Unit
  | .simple _ _ (word :: _) _ => do
    match plainText? word with
    | some name =>
      if isName name && !isBuiltIn name && ((← get).function? name).isNone then
        let _ ← locateProgram name
    | none => return ()
  | _ => return ()

/-- Starts the commands of a pipeline, where each reads what the one before writes. -/
def startPipeline (run : Run) (standing : Standing) (inBackground : Bool) (job : Nat) :
    Option Nat → List Tree → Act Unit
  | _, [] => return ()
  | source, tree :: rest => do
    findAhead tree
    let pipe ←
      if rest.isEmpty then pure none
      else some <$> Acting.perform fun self host => host.openPipe self
    let lead (number target : Nat) : Act Unit := do
      if number ≠ target then
        let _ ← Acting.request fun self host =>
          (host.duplicate self number target).map fun host => (host, ())
        Acting.close number
    let _ ← forkShell (exitShell run) (some job) inBackground do
      if let some (reading, _) := pipe then
        Acting.close reading
      if let some number := source then
        lead number 0
      if let some (_, writing) := pipe then
        lead writing 1
      let _ ← run { standing with isLast := true } (some tree)
    if let some number := source then
      Acting.close number
    if let some (_, writing) := pipe then
      Acting.close writing
    startPipeline run standing inBackground job (pipe.map Prod.fst) rest

/-- Runs a pipeline. -/
def pipeline (run : Run) (standing : Standing) (commands : List Tree) (inBackground : Bool) :
    Act Nat := do
  let job ← newJob
  startPipeline run standing inBackground job none commands
  if inBackground then return 0 else waitForJob job

/-- Takes note that a loop has come to the end of its body, and tells for what commands are skipped
there. -/
def skipLoop : Act Skip := do
  let memory ← get
  match memory.skip with
  | .break | .continue =>
    if memory.skipCount ≤ 1 then
      set { memory with skip := .nothing, skipCount := 0 }
      return memory.skip
    else
      set { memory with skipCount := memory.skipCount - 1 }
      return .break
  | skip => return skip

/-- Whether a loop goes on. -/
def goesOn (skip : Skip) : Bool :=
  skip = .nothing || skip = .continue

/-- Runs a command once for each of some words. -/
def forEach (run : Run) (standing : Standing) (name : String) (body : Tree) :
    Nat → List String → Act Nat
  | status, [] => return status
  | _, text :: rest => do
    assign name text
    let status ← run { isTested := standing.isTested } (some body)
    if goesOn (← skipLoop) then forEach run standing name body status rest
    else return status

/-- Runs a command as long as a test comes out as wanted. -/
def loop (run : Run) (standing : Standing) (goesOnUntil : Bool) (test body : Tree) : Act Nat :=
  Acting.iterate
    (fun status => do
      let result ← run { isTested := true } (some test)
      let skip ← skipLoop
      if skip ≠ .nothing then
        let status := if skip = .function then result else status
        return if goesOn skip then .inl status else .inr status
      if (result = 0) = goesOnUntil then
        return .inr status
      let status ← run { isTested := standing.isTested } (some body)
      return if goesOn (← skipLoop) then .inl status else .inr status)
    0 Acting.endless 0

/-- Does something within a loop. -/
def inLoop (act : Act Nat) : Act Nat := do
  modify fun memory => { memory with loops := memory.loops + 1 }
  let status ← act
  modify fun memory => { memory with loops := memory.loops - 1 }
  return status

/-- The command of the first case with a pattern that fits a text, if any does. -/
def findCase (run : Run) (text : List Char) :
    List (List Word × Option Tree) → Act (Option Tree)
  | [] => return none
  | (patterns, tree) :: rest => do
    let fits ← patterns.anyM fun pattern => do
      return Pattern.fits (← expandPattern (substitute run) pattern) text
    if fits then return tree else findCase run text rest

/-- Runs the command of the first case that fits. -/
def choice (run : Run) (standing : Standing) (subject : Word)
    (cases : List (List Word × Option Tree)) : Act Nat := do
  let text ← expandText (substitute run) { tilde := true } subject
  match ← findCase run text.toList cases with
  | some tree => run standing (some tree)
  | none => return 0

/-- Runs a command with redirections around it. -/
def redirected (run : Run) (standing : Standing) (line : Nat) (tree : Tree)
    (redirections : List Redirection) : Act Nat := do
  modify fun memory => { memory with line := line }
  let destinations ← expandTargets (substitute run) redirections
  openRedirections
  let status ←
    if ← redirectSafely (substitute run) destinations then
      run { isTested := standing.isTested } (some tree)
    else
      pure 2
  closeRedirections true
  return status

/-- Defines a function. -/
def define (name : String) (body : Tree) : Act Unit :=
  modify fun memory =>
    { memory with
      functions :=
        { name := name, body := body } ::
          memory.functions.filter fun function => function.name != name }

/-- Does what a command does. Yields its status, unless it is the status of a command in it that has
been noted already, and whether a failure is its own. -/
def perform (run : Run) (standing : Standing) : Tree → Act (Option Nat × Bool)
  | .simple line assignments words redirections => do
    return (some (← simple run standing line assignments words redirections), true)
  | .pipeline commands inBackground => do
    return (some (← pipeline run standing commands inBackground), true)
  | .subshell line tree redirections => do
    return (some (← subshell run standing false line tree redirections), true)
  | .background line tree redirections => do
    return (some (← subshell run standing true line tree redirections), true)
  | .redirected line tree redirections => do
    return (some (← redirected run standing line tree redirections), false)
  | .both first second => do
    let status ← run { isTested := true } (some first)
    if status ≠ 0 || (← get).skip ≠ .nothing then return (none, false)
    return (some (← run standing (some second)), false)
  | .either first second => do
    let status ← run { isTested := true } (some first)
    if status = 0 || (← get).skip ≠ .nothing then return (none, false)
    return (some (← run standing (some second)), false)
  | .sequence first second => do
    let _ ← run { isTested := standing.isTested } (some first)
    if (← get).skip ≠ .nothing then return (none, false)
    return (some (← run standing (some second)), false)
  | .opposite tree => do
    let status ← run { isTested := true } (some tree)
    return (some (if status = 0 then 1 else 0), false)
  | .conditional test yes no => do
    let status ← run { isTested := true } (some test)
    if (← get).skip ≠ .nothing then return (none, false)
    if status = 0 then return (some (← run standing (some yes)), false)
    match no with
    | some tree => return (some (← run standing (some tree)), false)
    | none => return (some 0, false)
  | .loop goesOnUntil test body => do
    return (some (← inLoop (loop run standing goesOnUntil test body)), false)
  | .forEach line name words body => do
    modify fun memory => { memory with line := line }
    let mut texts := #[]
    for word in words do
      texts := texts ++ (← expandFields (substitute run) .argument word).toArray
    return (some (← inLoop (forEach run standing name body 0 texts.toList)), false)
  | .choice line subject cases => do
    modify fun memory => { memory with line := line }
    return (some (← choice run standing subject cases), false)
  | .define name _ body => do
    define name body
    return (some 0, false)

/-- Runs a command: deals with signals before and after it, and ends the shell if it was the last
one, or if it failed and nobody looks. -/
def runTree (run : Run) (standing : Standing) (found : Option Tree) : Act Nat := do
  let isIdle := (← get).has "noexec"
  let isOwn ←
    match if isIdle then none else found with
    | none => do
      Acting.pause
      pure false
    | some tree => do
      runTraps run
      let (status, isOwn) ← perform run standing tree
      if let some number := status then
        modify fun memory => { memory with status := number }
      pure isOwn
  runTraps run
  let memory ← get
  if memory.has "errexit" && isOwn && !standing.isTested && memory.status ≠ 0 then
    throw .finish
  if standing.isLast then
    throw .finish
  return memory.status

/-- What runs commands, where the fuel bounds the depth. -/
def interpreter : Nat → Run
  | 0 => fun _ _ => throw .finish
  | fuel + 1 => runTree (interpreter fuel)

end Act

end Runbook.Machine.Shell
