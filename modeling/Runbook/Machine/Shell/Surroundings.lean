import Runbook.Machine.Executable
import Runbook.Machine.Shell.Job
import Runbook.Machine.Shell.Setting

/-!
# Directories, signals and jobs

The built-in commands that deal with what is around a shell: the current directory, the permissions
of new files, signals, jobs, and where commands are found.
-/

namespace Runbook.Machine.Shell

/-- The built-in commands besides those that functions cannot replace. -/
def plainCommands : List String :=
  ["[", "alias", "bg", "cd", "chdir", "command", "echo", "false", "fg", "getopts", "hash", "jobs",
    "kill", "printf", "pwd", "read", "test", "true", "type", "ulimit", "umask", "unalias", "wait"]

/-- Whether a command is built in. -/
def isBuiltIn (name : String) : Bool :=
  specialCommands.contains name || plainCommands.contains name

namespace Act

/-! ## The current directory -/

/-- The path of a directory as it is reached from a path by following names, where two points take
back the name before. -/
def joined (directory path : String) : String :=
  let start := if path.startsWith "/" then "" else directory
  let doubled := path.startsWith "//" && !path.startsWith "///" ||
    start.startsWith "//" && !start.startsWith "///"
  let names := (Text.splitAt '/' (start ++ "/" ++ path).toList).map String.ofList
  let walked := names.foldl
    (fun walked name =>
      if name.isEmpty || name == "." then walked
      else if name == ".." then walked.drop 1
      else name :: walked)
    []
  (if doubled then "//" else "/") ++ "/".intercalate walked.reverse

/-- Makes a directory the current one, if there is such a directory. -/
def enter (path : String) : Act Bool := do
  let entered ← Acting.request fun self host => do
    let number ← host.files.find (host.directoryOf self) path true
    if host.files.isDirectory number then
      .ok (host.modifyProcess self fun process => { process with directory := number }, ())
    else
      .error .notADirectory
  match entered with
  | .ok () => return true
  | .error _ => return false

/-- Takes note of the path of the current directory. -/
def noteDirectory (path : String) (keepsOld : Bool) : Act Unit := do
  if keepsOld then
    assignAs true false "OLDPWD" (← get).directory
  modify fun memory => { memory with directory := path }
  assignAs true false "PWD" path

/-- The path of the current directory without symbolic links. -/
def physicalDirectory : Act String :=
  Acting.observe fun self host => host.files.pathOf (host.directoryOf self)

/-- Goes to a directory. -/
def goTo (isPhysical : Bool) (path : String) : Act Bool := do
  let memory ← get
  let target := if isPhysical then path else joined memory.directory path
  if ← enter target then
    noteDirectory (← if isPhysical then physicalDirectory else pure target) true
    return true
  else
    return false

/-- Whether a path leads to a directory. -/
def isDirectory (path : String) : Act Bool :=
  Acting.observe fun self host =>
    match host.files.find (host.directoryOf self) path true with
    | .ok number => host.files.isDirectory number
    | .error _ => false

/-- The directory among those of a search path in which a directory is found, if any. -/
def findDirectory (name : String) : List String → Act (Option (String × Bool))
  | [] => return none
  | start :: rest => do
    let path := if start.isEmpty then name else start ++ "/" ++ name
    if ← isDirectory path then return some (path, !start.isEmpty)
    else findDirectory name rest

/-- Changes the current directory. -/
def cd (arguments : List String) : Act Nat := do
  let (letters, operands) ← options ['L', 'P'] arguments
  let memory ← get
  let isPhysical := (letters.getLast?.map Prod.fst) == some 'P'
  let goesBack := operands.head? == some "-"
  let target :=
    match operands with
    | [] => (memory.value? "HOME").getD ""
    | "-" :: _ => (memory.value? "OLDPWD").getD ""
    | path :: _ => path
  let isFixed := target.startsWith "/" || ["", ".", ".."].contains target ||
    target.startsWith "./" || target.startsWith "../"
  let starts := (Text.splitAt ':' ((memory.value? "CDPATH").getD "").toList).map String.ofList
  let found ← if isFixed then pure none else findDirectory target starts
  let (path, isShown) := found.getD (if target.isEmpty then "." else target, false)
  if !(← goTo isPhysical path) then
    fail ("can't cd to " ++ target)
  if goesBack || isShown then
    print ((← get).directory ++ "\n")
  return 0

/-- Prints the path of the current directory. -/
def pwd (arguments : List String) : Act Nat := do
  let (letters, _) ← options ['L', 'P'] arguments
  let path ←
    if (letters.getLast?.map Prod.fst) == some 'P' then physicalDirectory
    else pure (← get).directory
  print (path ++ "\n")
  return 0

/-! ## Permissions of new files -/

/-- Whose permissions a letter means, as bits that are repeated for each permission. -/
def ownerBits : Char → Option Nat
  | 'u' => some 0x1C0
  | 'g' => some 0x38
  | 'o' => some 0x7
  | 'a' => some 0x1FF
  | _ => none

/-- The permissions that a letter means, for everybody. -/
def permissionBits (mask : Nat) : Char → Option Nat
  | 'r' => some 0x124
  | 'w' => some 0x92
  | 'x' => some 0x49
  | 'X' => some 0x49
  | 's' => some 0
  | 'u' => some ((mask >>> 6 &&& 7) * 0x49)
  | 'g' => some ((mask >>> 3 &&& 7) * 0x49)
  | 'o' => some ((mask &&& 7) * 0x49)
  | _ => none

/-- Permissions after one change that signs describe: an operator and letters behind it. -/
def changePermissions (owners : Nat) (operator : Char) (bits permissions : Nat) : Nat :=
  let chosen := bits &&& owners
  match operator with
  | '+' => permissions ||| chosen
  | '-' => permissions &&& (0x1FF ^^^ chosen)
  | _ => (permissions &&& (0x1FF ^^^ owners)) ||| chosen

/-- Permissions after the changes that signs describe. The fuel bounds their number. -/
def symbolicPermissions : Nat → List Char → Nat → Option Nat
  | 0, _, _ => none
  | _, [], _ => none
  | fuel + 1, cs, permissions =>
    let letters := cs.takeWhile fun c => (ownerBits c).isSome
    let owners := (letters.filterMap ownerBits).foldl (· ||| ·) 0
    operations fuel (if letters.isEmpty then 0x1FF else owners) (cs.drop letters.length)
      permissions
where
  /-- Permissions after the operations on the same owners and everything behind. -/
  operations : Nat → Nat → List Char → Nat → Option Nat
  | 0, _, _, _ => none
  | fuel + 1, owners, cs, permissions =>
    match cs with
    | operator :: rest =>
      if operator == '+' || operator == '-' || operator == '=' then
        let letters := rest.takeWhile fun c => (permissionBits permissions c).isSome
        let bits := (letters.filterMap (permissionBits permissions)).foldl (· ||| ·) 0
        let permissions := changePermissions owners operator bits permissions
        match rest.drop letters.length with
        | [] => some permissions
        | ',' :: rest => symbolicPermissions fuel rest permissions
        | rest => operations fuel owners rest permissions
      else
        none
    | [] => none

/-- The permissions of three kinds of owners in letters. -/
def permissionLetters (permissions : Nat) : String :=
  let letters (bits : Nat) : String :=
    (if bits &&& 4 != 0 then "r" else "") ++ (if bits &&& 2 != 0 then "w" else "") ++
      (if bits &&& 1 != 0 then "x" else "")
  "u=" ++ letters (permissions >>> 6) ++ ",g=" ++ letters (permissions >>> 3) ++ ",o=" ++
    letters permissions

/-- Sets or shows which permissions new files do not get. -/
def umask (arguments : List String) : Act Nat := do
  let (letters, operands) ← options ['S'] arguments
  let mask ← Acting.observe fun self host => ((host.process? self).map Process.mask).getD 0
  let set (mask : Nat) : Act Nat := do
    Acting.perform fun self host =>
      (host.modifyProcess self fun process => { process with mask := mask &&& 0x1FF }, ())
    return 0
  match operands with
  | [] =>
    if letters.isEmpty then
      let digits := Nat.toDigits 8 mask
      print ("".pushn '0' (4 - digits.length) ++ String.ofList digits ++ "\n")
    else
      print (permissionLetters (0x1FF ^^^ mask) ++ "\n")
    return 0
  | text :: _ =>
    if (text.toList.headD ' ').isDigit then
      if text.all Text.isOctalDigit then set (Text.valueIn 8 text.toList)
      else fail ("Illegal number: " ++ text)
    else
      match symbolicPermissions (text.length + 1) text.toList (0x1FF ^^^ mask) with
      | some permissions => set (0x1FF ^^^ permissions)
      | none => fail ("Illegal mode: " ++ text)

/-- Shows a limit, of which there are none. -/
def ulimit (arguments : List String) : Act Nat := do
  let (_, operands) ← options "HSatfdscmlpnvwr".toList arguments
  if operands.isEmpty then
    print "unlimited\n"
  return 0

/-- Shows the time that has been used, which is nothing that could be measured. -/
def times (arguments : List String) : Act Nat := do
  let _ := arguments
  let line := "0m0.000000s 0m0.000000s\n"
  print (line ++ line)
  return 0

/-! ## Signals -/

/-- The number of the signal that a text names, from the least number that is allowed. -/
def signal? (least : Nat) (text : String) : Option Nat :=
  if !text.isEmpty && text.all Char.isDigit then
    let number := Text.decimalValue text.toList
    if number ≤ signalLast then some number else none
  else if least = 0 && text.toLower == "exit" then
    some 0
  else
    signalNamed? text

/-- The name of a signal for traps. -/
def trapName (number : Nat) : String :=
  if number = 0 then "EXIT" else signalName number

/-- Makes the arrangement for a signal that its trap asks for. -/
def arrange (number : Nat) : Act Unit := do
  let memory ← get
  if number != 0 && !memory.deaf.contains number then
    let trap := memory.trap? number
    Acting.perform fun self host =>
      (host.modifyProcess self fun process =>
        let ignored := process.ignored.filter (· != number)
        let caught := process.caught.filter (· != number)
        match trap with
        | none => { process with ignored := ignored, caught := caught }
        | some "" => { process with ignored := number :: ignored, caught := caught }
        | some _ => { process with ignored := ignored, caught := number :: caught }, ())

/-- Sets the trap of a signal, or takes it away. -/
def setTrap (number : Nat) (command : Option String) : Act Unit := do
  modify fun memory =>
    let others := memory.traps.filter fun trap => trap.1 != number
    { memory with
      traps :=
        match command with
        | some text => (number, text) :: others
        | none => others }
  arrange number

/-- Sets traps for signals by their names. -/
def setTraps (command : Option String) : List String → Act Nat
  | [] => return 0
  | name :: rest => do
    match signal? 0 name with
    | none =>
      writeNow 2 ("trap: " ++ name ++ ": bad trap\n")
      return 1
    | some number =>
      setTrap number command
      setTraps command rest

/-- Sets or shows what is done when signals come. -/
def trap (arguments : List String) : Act Nat := do
  let (_, operands) ← options [] arguments
  match operands with
  | [] =>
    let traps := (← get).traps.mergeSort fun first second => first.1 ≤ second.1
    for (number, command) in traps do
      print ("trap -- " ++ quoted command ++ " " ++ trapName number ++ "\n")
    return 0
  | [name] => setTraps none [name]
  | first :: rest =>
    let isNumber := !first.isEmpty && first.all Char.isDigit &&
      Text.decimalValue first.toList ≤ signalLast
    if isNumber then setTraps none operands
    else setTraps (if first == "-" then none else some first) rest

/-! ## Jobs -/

/-- The job that a text means. -/
def jobNamed (text : Option String) : Act Job := do
  let jobs := (← get).jobs
  let found (job : Option Job) (message : String) : Act Job := do
    match job with
    | some job => return job
    | none => fail message
  match text with
  | none => found jobs.head? "No current job"
  | some text =>
    let missing := "No such job: " ++ text
    match text.toList with
    | ['%'] | ['%', '+'] | ['%', '%'] => found jobs.head? "No current job"
    | ['%', '-'] => found jobs[1]? "No previous job"
    | '%' :: rest =>
      let number := Text.natural? rest
      found (jobs.find? fun job => some job.number == number) missing
    | _ => fail missing

/-- The state of a job in words. -/
def stateOf (job : Job) : String :=
  if !job.isDone then "Running"
  else
    match job.outcome? with
    | some (.exited 0) | none => "Done"
    | some (.exited status) => "Done(" ++ toString status ++ ")"
    | some (.signalled signal) => signalReport signal

/-- Shows a job. -/
def showJob (showsProcess showsOnlyProcess : Bool) (job : Job) : Act Unit := do
  let jobs := (← get).jobs
  let process := toString ((job.members.head?.map Member.number).getD 0)
  if showsOnlyProcess then
    print (process ++ "\n")
  else
    let place :=
      if (jobs.head?.map Job.number) == some job.number then "+ "
      else if (jobs[1]?.map Job.number) == some job.number then "- "
      else "  "
    let start := "[" ++ toString job.number ++ "] " ++ place ++
      (if showsProcess then process ++ " " else "") ++ stateOf job
    let others :=
      if showsProcess then
        String.join ((job.members.drop 1).map fun member =>
          " |\n" ++ "".pushn ' ' 6 ++ toString member.number ++ " " ++ "".pushn ' ' 20)
      else
        String.join ((job.members.drop 1).map fun _ => " | ")
    print (start ++ "".pushn ' ' (max 1 (33 - start.length)) ++ others ++ "\n")
    if job.isDone then
      dropJob job.number

/-- Shows jobs. -/
def jobsCommand (arguments : List String) : Act Nat := do
  let (letters, operands) ← options ['l', 'p'] arguments
  let shown := letters.getLast?.map Prod.fst
  noteEnds none
  let chosen ←
    if operands.isEmpty then pure (← get).jobs else operands.mapM fun text => jobNamed (some text)
  for job in chosen do
    showJob (shown == some 'l') (shown == some 'p') job
  return 0

/-- Refuses to go on with a job, since no terminal controls jobs. -/
def resume (arguments : List String) : Act Nat := do
  let (_, operands) ← options [] arguments
  let _ ← jobNamed operands.head?
  fail ("job " ++ operands.headD "(null)" ++ " not created under job control")

/-- The status of a wait that a signal ended. -/
def interruptedStatus : Act Nat := do
  let pending ← Acting.observe fun self host =>
    ((host.process? self).map Process.pending).getD []
  return signalStatus (pending.headD 0)

/-- Waits for jobs one after the other. -/
def waitForEach : Nat → List String → Act Nat
  | status, [] => return status
  | status, text :: rest => do
    let job ←
      if text.startsWith "%" then do
        pure (some (← jobNamed (some text)))
      else do
        let process ← number text
        let last (job : Job) : Option Nat := job.members.getLast?.map Member.number
        pure ((← get).jobs.find? fun job => last job == some process)
    match job with
    | none => waitForEach status rest
    | some job =>
      if ← waitUntilDone job.number true then
        modifyJob job.number fun job => { job with isWaitedFor := true }
        waitForEach (((← job? job.number).map Job.status).getD 0) rest
      else
        interruptedStatus

/-- Waits for jobs. -/
def wait (arguments : List String) : Act Nat := do
  let (_, operands) ← options [] arguments
  if operands.isEmpty then
    if ← waitForAll then return 0 else interruptedStatus
  else
    waitForEach 127 operands

/-- The usage of the command that sends signals. -/
def killUsage : String :=
  "Usage: kill [-s sigspec | -signum | -sigspec] [pid | job]... or\nkill -l [exitstatus]"

/-- Shows the names of signals. -/
def listSignals (operands : List String) : Act Nat := do
  match operands with
  | [] =>
    print "0\n"
    for number in List.range signalLast do
      print (signalName (number + 1) ++ "\n")
    return 0
  | text :: _ =>
    let value ← number text
    let signal := if 128 < value then value - 128 else value
    if 0 < signal && signal ≤ signalLast then
      print (signalName signal ++ "\n")
      return 0
    else
      fail ("invalid signal number or exit status: " ++ text)

/-- Sends a signal to processes. -/
def sendSignal (signal : Nat) : Nat → List String → Act Nat
  | status, [] => return status
  | status, text :: rest => do
    let target : Option Nat ←
      if text.startsWith "%" then do
        let _ ← jobNamed (some text)
        pure none
      else if text.startsWith "-" then do
        let _ ← number (text.drop 1).toString
        pure none
      else
        pure (some (← number text))
    let sent ← match target with
      | some process => Acting.signal process signal
      | none => pure (.error .noSuchProcess)
    match sent with
    | .ok () => sendSignal signal status rest
    | .error fault =>
      warn (fault.wording ++ "\n")
      sendSignal signal 1 rest

/-- Sends signals, or shows their names. -/
def kill (arguments : List String) : Act Nat := do
  match arguments with
  | [] => fail killUsage
  | first :: rest =>
    let named := if first.startsWith "-" then signal? 1 (first.drop 1).toString else none
    match named with
    | some signal =>
      if rest.isEmpty then fail killUsage else sendSignal signal 0 rest
    | none =>
      let (letters, operands) ←
        if first.startsWith "-" then options ['l', 's', ':'] arguments
        else pure ([], arguments)
      let lists := letters.any fun letter => letter.1 == 'l'
      let mut signal := none
      for (letter, value) in letters do
        if letter == 's' then
          match signal? 1 value with
          | some number => signal := some number
          | none => fail ("invalid signal number or name: " ++ value)
      if lists then
        if signal.isSome then fail killUsage else listSignals operands
      else if operands.isEmpty then
        fail killUsage
      else
        sendSignal (signal.getD signalTerminate) 0 operands

/-! ## Where commands are found -/

/-- The directories in which commands are looked for. -/
def commandPath : Act (List String) := do
  let path := ((← get).value? "PATH").getD ""
  return (Text.splitAt ':' path.toList).map String.ofList

/-- The path of the program that a name stands for among directories. A file of another kind with
that name makes the refusal one of permission. -/
def findProgram (name : String) : List String → OsError → Act (Except OsError String)
  | [], fault => return .error fault
  | directory :: rest, fault => do
    let path := if directory.isEmpty then name else directory ++ "/" ++ name
    let kind ← Acting.observe fun self host =>
      (host.files.find (host.directoryOf self) path true).map host.files.kind?
    match kind with
    | .error .notFound | .error .notADirectory => findProgram name rest fault
    | .error other => findProgram name rest other
    | .ok (some (.regular _)) | .ok (some (.program _)) => return .ok path
    | .ok _ => findProgram name rest .permissionDenied

/-- The path of the program that a name stands for. Where it was found is remembered. -/
def locateProgram (name : String) : Act (Except OsError String) := do
  match (← get).found.lookup name with
  | some path => return .ok path
  | none =>
    let located ← findProgram name (← commandPath) .notFound
    if let .ok path := located then
      modify fun memory => { memory with found := memory.found ++ [(name, path)] }
    return located

/-- Tells what a command is, and yields whether it is anything. -/
def describe (isVerbose : Bool) (searched : List String) (name : String) : Act Bool := do
  let memory ← get
  let say (what short : String) : Act Bool := do
    print ((if isVerbose then name ++ what else short) ++ "\n")
    return true
  if reservedWords.any fun word => word.1 == name then
    say " is a shell keyword" name
  else if let some meaning := memory.aliases.lookup name then
    if isVerbose then
      say (" is an alias for " ++ meaning) ""
    else
      print ("alias " ++ aliasLine name meaning)
      return true
  else if (memory.function? name).isSome then
    say " is a shell function" name
  else if specialCommands.contains name then
    say " is a special shell builtin" name
  else if isBuiltIn name then
    say " is a shell builtin" name
  else if name.any (· == '/') then
    let isThere ← Acting.observe fun self host =>
      (host.files.find (host.directoryOf self) name true).toOption.isSome
    if isThere then
      say (" is " ++ name) name
    else
      if isVerbose then
        print (name ++ ": not found\n")
      return false
  else
    match memory.found.lookup name with
    | some path => say (" is a tracked alias for " ++ path) path
    | none =>
      match ← findProgram name searched .notFound with
      | .ok path => say (" is " ++ path) path
      | .error _ =>
        if isVerbose then
          print (name ++ ": not found\n")
        return false

/-- Tells what commands are. -/
def typeCommand (arguments : List String) : Act Nat := do
  let searched ← commandPath
  let mut status := 0
  for name in arguments do
    if !(← describe true searched name) then
      status := 127
  return status

/-- Tells what a command is, if that is asked for. -/
def commandCommand (arguments : List String) : Act Nat := do
  let (letters, operands) ← options ['p', 'v', 'V'] arguments
  let asks (letter : Char) : Bool := letters.any fun found => found.1 == letter
  match operands with
  | [] => return 0
  | name :: _ =>
    if asks 'v' || asks 'V' then
      let searched ←
        if asks 'p' then pure ((Text.splitAt ':' standardPath.toList).map String.ofList)
        else commandPath
      return if ← describe (asks 'V') searched name then 0 else 127
    else
      return 0

/-- Shows, adds or forgets where programs were found. -/
def hash (arguments : List String) : Act Nat := do
  let (letters, operands) ← options ['r'] arguments
  if !letters.isEmpty then
    modify fun memory => { memory with found := [] }
    return 0
  if operands.isEmpty then
    for (_, path) in (← get).found do
      print (path ++ "\n")
    return 0
  let mut status := 0
  for name in operands do
    modify fun memory =>
      { memory with found := memory.found.filter fun entry => entry.1 != name }
    if !isBuiltIn name && !name.any (· == '/') then
      match ← locateProgram name with
      | .ok _ => pure ()
      | .error fault =>
        warn (name ++ ": " ++ (if fault == .permissionDenied then fault.wording else "not found"))
        status := 1
  return status

end Act

end Runbook.Machine.Shell
