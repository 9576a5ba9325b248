import Runbook.Machine.Program.Options
import Runbook.Machine.Program.Quantity
import Runbook.Machine.Real

/-!
# Starting other programs

The programs that start others in changed surroundings, and those that wait or tell about the
surroundings.
-/

namespace Runbook.Machine.Task

/-- Where programs are looked for if nothing says so. -/
def fallbackPath : String := "/bin:/usr/bin"

/-- Becomes the program at a path. A file that is no program is a script. -/
def becomeAt (path : String) (argv : List String) : Task OsError := do
  let environment := (← get).environment
  match ← Acting.become path argv environment with
  | .notExecutable => Acting.become "/bin/sh" ("/bin/sh" :: path :: argv.drop 1) environment
  | fault => return fault

/-- Becomes the first program among paths that can be run. A refusal of permission is remembered. -/
def becomeAny (argv : List String) (fault : OsError) : List String → Task OsError
  | [] => return fault
  | path :: rest => do
    match ← becomeAt path argv with
    | .permissionDenied => becomeAny argv .permissionDenied rest
    | .notFound | .notADirectory => becomeAny argv fault rest
    | other => return other

/-- Becomes the program that words call for, or tells why not. -/
def become (argv : List String) : Task OsError := do
  let name := argv.headD ""
  if name.isEmpty then
    return .notFound
  else if name.any (· == '/') then
    becomeAt name argv
  else
    let path := ((← get).environment.lookup "PATH").getD fallbackPath
    let directories := (Text.splitAt ':' path.toList).map String.ofList
    becomeAny argv .notFound
      (directories.map fun directory => if directory.isEmpty then name else directory ++ "/" ++ name)

/-- The status for a program that could not be started. -/
def refusalStatus (fault : OsError) : Nat :=
  if fault == .notFound then 127 else 126

/-- Starts a child that does a task. -/
def spawn (task : Task Unit) : Task Nat :=
  Acting.fork fun state =>
    let whole : Task Unit := do
      task
      flush
    whole state (fun status _ => .ended status) fun _ state => .ended state.status

/-- Waits for the end of a child. -/
def waitFor (child : Nat) : Task Outcome :=
  Acting.iterate
    (fun (_ : Unit) => do
      match ← Acting.waitForChild with
      | .ok (number, outcome) => return if number = child then .inr outcome else .inl ()
      | .error _ => return .inr (.exited 127))
    (.exited 127) Acting.endless ()

end Runbook.Machine.Task

namespace Runbook.Machine.Program

open OptionTable

/-! ## Environments -/

/-- A variable set in an environment. -/
def setVariable (environment : Environment) (name value : String) : Environment :=
  if (environment.lookup name).isSome then
    environment.map fun entry => if entry.1 == name then (name, value) else entry
  else
    environment ++ [(name, value)]

/-- The name and the value in an assignment. -/
def assigned? (text : String) : Option (String × String) :=
  let name := text.toList.takeWhile (· != '=')
  match text.toList.drop name.length with
  | _ :: value => some (String.ofList name, String.ofList value)
  | [] => none

/-- A text that is divided into arguments as far as it was read. -/
structure Dividing where
  arguments : List String := []
  /-- The characters of the current argument in reverse, if one has begun. -/
  current : Option (List Char) := none

namespace Dividing

/-- The text with another character in the current argument. -/
def add (dividing : Dividing) (c : Char) : Dividing :=
  { dividing with current := some (c :: dividing.current.getD []) }

/-- The text with the current argument at its end. -/
def cut (dividing : Dividing) : Dividing :=
  match dividing.current with
  | some cs =>
    { arguments := dividing.arguments ++ [String.ofList cs.reverse], current := none }
  | none => dividing

end Dividing

/-- What a backslash in front of a character stands for in a text that is divided. -/
def divisionEscape? : Char → Option Char
  | 'f' => some '\x0C'
  | 'n' => some '\n'
  | 'r' => some '\x0D'
  | 't' => some '\t'
  | 'v' => some '\x0B'
  | '#' => some '#'
  | '$' => some '$'
  | '_' => some ' '
  | '"' => some '"'
  | '\'' => some '\''
  | '\\' => some '\\'
  | _ => none

/-- Divides a text into arguments. The fuel bounds its length. -/
def divide (environment : Environment) : Nat → Option Char → Dividing → List Char →
    Except String (List String)
  | 0, _, dividing, _ => .ok dividing.cut.arguments
  | _, none, dividing, [] => .ok dividing.cut.arguments
  | _, some _, _, [] => .error "no terminating quote in -S string"
  | fuel + 1, quote, dividing, c :: rest =>
    if quote == some c then divide environment fuel none dividing rest
    else if quote == none && (c == '\'' || c == '"') then
      divide environment fuel (some c)
        { dividing with current := some (dividing.current.getD []) } rest
    else if quote == none && (c == ' ' || (9 ≤ c.toNat && c.toNat ≤ 13)) then
      divide environment fuel none dividing.cut rest
    else if quote == none && c == '#' && dividing.current.isNone then
      .ok dividing.arguments
    else if c == '\\' && quote != some '\'' then
      match rest with
      | 'c' :: _ =>
        if quote == some '"' then .error "'\\c' must not appear in double-quoted -S string"
        else .ok dividing.cut.arguments
      | '_' :: rest =>
        if quote == none then divide environment fuel none dividing.cut rest
        else divide environment fuel quote (dividing.add ' ') rest
      | letter :: rest =>
        match divisionEscape? letter with
        | some octet => divide environment fuel quote (dividing.add octet) rest
        | none => .error ("invalid sequence '\\" ++ letter.toString ++ "' in -S")
      | [] => .error "invalid backslash at end of string in -S"
    else if c == '\\' && (rest.head? == some '\'' || rest.head? == some '\\') then
      divide environment fuel quote (dividing.add (rest.headD ' ')) (rest.drop 1)
    else if c == '$' && quote != some '\'' then
      match rest with
      | '\x7b' :: name =>
        let name' := name.takeWhile (· != '\x7d')
        match environment.lookup (String.ofList name') with
        | some value =>
          let dividing := value.foldl Dividing.add
            { dividing with current := some (dividing.current.getD []) }
          divide environment fuel quote dividing (name.drop (name'.length + 1))
        | none => divide environment fuel quote dividing (name.drop (name'.length + 1))
      | _ => .error "only $\x7bVARNAME\x7d expansion is supported, error at: $"
    else
      divide environment fuel quote (dividing.add c) rest

/-- The arguments with the texts that are to be divided taken apart. The fuel bounds how often. -/
def divideArguments (environment : Environment) : Nat → List String → Task (List String)
  | 0, arguments => return arguments
  | fuel + 1, arguments => do
    let divided (text : String) (rest : List String) : Task (List String) := do
      match divide environment (text.length + 1) none {} text.toList with
      | .ok words => divideArguments environment fuel (words ++ rest)
      | .error message => Task.fail message
    match arguments with
    | "-S" :: text :: rest | "--split-string" :: text :: rest => divided text rest
    | first :: rest =>
      if first.startsWith "-S" then divided (first.drop 2).toString rest
      else if first.startsWith "-vS" then divided (first.drop 3).toString rest
      else if first.startsWith "--split-string=" then divided (first.drop 15).toString rest
      else return arguments
    | [] => return []

/-- Runs a program in a changed environment, or shows the environment. -/
def env (arguments : List String) : Task Unit := do
  modify fun state => { state with failure := 125 }
  let table :=
    { ofLists "C:iu:v0"
        (flags [("ignore-environment", "i"), ("null", "0"), ("debug", "v"),
          ("list-signal-handling", "list")] ++
          valued [("unset", "u"), ("chdir", "C")] ++
          [{ name := "block-signal", arity := .optional, key := "signal" },
            { name := "default-signal", arity := .optional, key := "signal" },
            { name := "ignore-signal", arity := .optional, key := "signal" }]) with
      mayFollow := false }
  let arguments ← divideArguments (← get).environment 100 arguments
  let given ← Task.options table arguments
  let (isBare, operands) :=
    match given.operands with
    | "-" :: rest => (true, rest)
    | operands => (false, operands)
  if isBare || given.has "i" then
    modify fun state => { state with environment := [] }
  for (key, value) in given.options do
    if key == "u" then
      let name := value.getD ""
      if name.isEmpty || name.any (· == '=') then
        Task.fail ("cannot unset " ++ Quoted.plain name ++ ": Invalid argument")
      modify fun state =>
        { state with environment := state.environment.filter fun entry => entry.1 != name }
  let assignments := operands.takeWhile fun operand => (assigned? operand).isSome
  for (name, value) in assignments.filterMap assigned? do
    modify fun state => { state with environment := setVariable state.environment name value }
  let argv := operands.drop assignments.length
  if given.has "0" && !argv.isEmpty then
    Task.failUsage "cannot specify --null (-0) with command"
  if let some directory := given.value? "C" then
    if argv.isEmpty then
      Task.failUsage "must specify command with --chdir (-C)"
    let entered ← Acting.request fun self host => do
      let number ← host.files.find (host.directoryOf self) directory true
      if !host.files.isDirectory number then
        throw .notADirectory
      .ok (host.modifyProcess self fun process => { process with directory := number }, ())
    if let .error fault := entered then
      Task.fail ("cannot change directory to " ++ Quoted.always directory ++ ": " ++ fault.wording)
  match argv with
  | [] =>
    let ending := if given.has "0" then "\x00" else "\n"
    for (name, value) in (← get).environment do
      Task.write (name ++ "=" ++ value ++ ending)
  | name :: _ =>
    if given.has "v" then
      let _ ← Acting.send 2 ("executing: " ++ name ++ "\n")
      for (index, word) in (List.range argv.length).zip argv do
        let _ ← Acting.send 2 ("   arg[" ++ toString index ++ "]= " ++ Quoted.plain word ++ "\n")
    let fault ← Task.become argv
    Task.complain (Quoted.plain name ++ ": " ++ fault.wording)
    if fault == .notFound && name.any (· == ' ') then
      Task.complain "use -[v]S to pass options in shebang lines"
    Task.leave (Task.refusalStatus fault)

/-- Shows the values of variables, or of all of them. -/
def printenv (arguments : List String) : Task Unit := do
  modify fun state => { state with failure := 2 }
  let table := { ofLists "0" (flags [("null", "0")]) with mayFollow := false }
  let given ← Task.options table arguments
  let ending := if given.has "0" then "\x00" else "\n"
  let environment := (← get).environment
  if given.operands.isEmpty then
    for (name, value) in environment do
      Task.write (name ++ "=" ++ value ++ ending)
  else
    for name in given.operands do
      match environment.lookup name with
      | some value => Task.write (value ++ ending)
      | none => Task.setStatus 1

/-! ## Urgency, signals and time -/

/-- Becomes a program, or complains and ends. -/
def launch {α : Type} (complaint : String) (argv : List String) : Task α := do
  let fault ← Task.become argv
  Task.complain (complaint ++ Quoted.always (argv.headD "") ++ ": " ++ fault.wording)
  Task.leave (Task.refusalStatus fault)

/-- The arguments with an adjustment that is given as an option of its own. The fuel bounds the
number of arguments. -/
def niceArguments : Nat → Option String → List String → Task (Option String × List String)
  | 0, adjustment, arguments => return (adjustment, arguments)
  | fuel + 1, adjustment, arguments => do
    match arguments with
    | first :: rest =>
      match first.toList with
      | '-' :: sign :: cs =>
        let digits := if sign == '-' || sign == '+' then cs else sign :: cs
        if (digits.head?.map Char.isDigit) == some true then
          niceArguments fuel (some (String.ofList (sign :: cs))) rest
        else
          let table :=
            { ofLists "n:" (valued [("adjustment", "n")]) with mayFollow := false }
          if first == "--" then return (adjustment, rest)
          else
            let takesNext := first == "-n" || (first.startsWith "--" && !first.any (· == '='))
            let given ← Task.options table (first :: (if takesNext then rest.take 1 else []))
            niceArguments fuel (given.value? "n" <|> adjustment)
              (if takesNext then rest.drop 1 else rest)
      | _ => return (adjustment, arguments)
    | [] => return (adjustment, [])

/-- Runs a program with another urgency, or shows the urgency. -/
def nice (arguments : List String) : Task Unit := do
  modify fun state => { state with failure := 125 }
  let (adjustment, argv) ← niceArguments (arguments.length + 1) none arguments
  let amount : Int ←
    match adjustment with
    | none => pure 10
    | some text => do
      let (isNegative, digits) :=
        match text.toList.dropWhile Numeral.isSpace with
        | '-' :: rest => (true, rest)
        | '+' :: rest => (false, rest)
        | cs => (false, cs)
      if digits.isEmpty || !digits.all Char.isDigit then
        Task.fail ("invalid adjustment " ++ Quoted.plain text)
      let value : Int := Text.decimalValue digits
      pure (if isNegative then -value else value)
  let current ← Acting.observe fun self host => ((host.process? self).map Process.niceness).getD 0
  if argv.isEmpty then
    if adjustment.isSome then
      Task.failUsage "a command must be given with an adjustment"
    Task.writeLine (toString current)
  else
    let changed := max (-20) (min 19 (current + amount))
    Acting.perform fun self host =>
      (host.modifyProcess self fun process => { process with niceness := changed }, ())
    launch "" argv

/-- Runs a program that does not end when its terminal goes away. -/
def nohup (arguments : List String) : Task Unit := do
  modify fun state => { state with failure := 125 }
  let given ← Task.options { ofLists "" [] with mayFollow := false } arguments
  if given.operands.isEmpty then
    Task.failMissing
  Acting.perform fun self host =>
    (host.modifyProcess self fun process => { process with ignored := 1 :: process.ignored }, ())
  launch "failed to run command " given.operands

/-- A span of time in microseconds, or none for one without an end. -/
inductive Span where
  | limited (micros : Nat)
  | endless
  deriving Repr, DecidableEq

/-- The span that a text gives: a number with a letter for its unit. -/
def span? (text : String) : Option Span := do
  let (value, rest) ← Real.read? Real.double text.toList
  let unit ← match rest with
    | [] | ['s'] => some 1
    | ['m'] => some 60
    | ['h'] => some 3600
    | ['d'] => some 86400
    | _ => none
  match value.magnitude with
  | .notANumber => none
  | .infinite => if value.isNegative then none else some .endless
  | .finite digits exponent =>
    if value.isNegative && digits != 0 then none
    else
      let (numerator, denominator) := Real.powerOfTwo exponent
      let micros := (digits * numerator * unit * 1000000 + denominator - 1) / denominator
      some (.limited micros)

/-- Lets time pass. -/
def sleep (arguments : List String) : Task Unit := do
  let given ← Task.options (ofLists "" []) arguments
  if given.operands.isEmpty then
    Task.failMissing
  let spans := given.operands.map span?
  let wrong := (given.operands.zip spans).filter fun entry => entry.2.isNone
  for (text, _) in wrong do
    Task.warn ("invalid time interval " ++ Quoted.plain text)
  if !wrong.isEmpty then
    Task.suggestHelp
    Task.leave 1
  let limited := spans.map fun span =>
    match span with
    | some (.limited micros) => some micros
    | _ => none
  match limited.mapM id with
  | some times => Acting.sleep (times.foldl (· + ·) 0)
  | none => Acting.sleepForever

/-- The number of the signal that a text names, with or without the letters in front. -/
def signalOf? (text : String) : Option Nat :=
  let upper := text.map Char.toUpper
  let name := if upper.startsWith "SIG" then (upper.drop 3).toString else upper
  if !text.isEmpty && text.all Char.isDigit then
    let number := Text.decimalValue text.toList
    let number := if 128 < number then number - 128 else number
    if number ≤ signalLast then some number else none
  else if name == "EXIT" then some 0
  else signalNamed? name

/-- How the wait for a program with a limit came out. -/
inductive Waited where
  | ended (outcome : Outcome)
  | overdue
  deriving Repr, DecidableEq

/-- Waits for a child up to a time. -/
def waitUntil (child : Nat) (time : Option Nat) : Task Waited := do
  Acting.perform fun self host =>
    (host.modifyProcess self fun process => { process with wakes := time }, ())
  let waited ← Acting.attempt fun self host =>
    match host.reap? self with
    | some (host, number, outcome) =>
      if number = child then some (host, Waited.ended outcome) else none
    | none =>
      match time with
      | some time => if time ≤ host.clock then some (host, .overdue) else none
      | none => none
  Acting.perform fun self host =>
    (host.modifyProcess self fun process => { process with wakes := none }, ())
  return waited

/-- Runs a program and ends it after some time. -/
def timeout (arguments : List String) : Task Unit := do
  modify fun state => { state with failure := 125 }
  let table :=
    { ofLists "fk:ps:v"
        (flags [("foreground", "f"), ("preserve-status", "p"), ("verbose", "v")] ++
          valued [("kill-after", "k"), ("signal", "s")]) with
      mayFollow := false }
  let given ← Task.options table arguments
  let interval (text : String) : Task (Option Nat) := do
    match span? text with
    | some (.limited 0) | some .endless => return none
    | some (.limited micros) => return some micros
    | none => Task.failUsage ("invalid time interval " ++ Quoted.plain text)
  let killAfter ←
    match given.value? "k" with
    | some text => interval text
    | none => pure none
  let signal ←
    match given.value? "s" with
    | none => pure signalTerminate
    | some text =>
      match signalOf? text with
      | some number => pure number
      | none => Task.failUsage (Quoted.plain text ++ ": invalid signal")
  match given.operands with
  | duration :: name :: rest =>
    let limit ← interval duration
    if !given.has "f" then
      Acting.perform fun self host =>
        (host.modifyProcess self fun process => { process with group := self }, ())
    let child ← Task.spawn (launch "failed to run command " (name :: rest))
    let send (number : Nat) : Task Unit := do
      if given.has "v" then
        Task.complain ("sending signal " ++ signalName number ++ " to command " ++
          Quoted.always name)
      Acting.perform fun self host =>
        let host := host.signal child number
        let host := host.modifyProcess self fun process =>
          { process with ignored := number :: process.ignored }
        (if given.has "f" then host else host.signalGroup self number, ())
    let start ← Acting.observe fun _ host => host.clock
    let first ← waitUntil child (limit.map (start + ·))
    let last ←
      match first with
      | .ended outcome => pure (some outcome)
      | .overdue => do
        send signal
        let now ← Acting.observe fun _ host => host.clock
        match ← waitUntil child (killAfter.map (now + ·)) with
        | .ended outcome => pure (some outcome)
        | .overdue => do
          send signalKill
          match ← waitUntil child none with
          | .ended outcome => pure (some outcome)
          | .overdue => pure none
    let isOverdue := first = .overdue
    match last with
    | some (.signalled number) =>
      if !isOverdue then
        Acting.perform fun self host =>
          (host.modifyProcess self fun process =>
            { process with ignored := process.ignored.filter (· != number) }, ())
        Acting.signalSelf number
        Task.leave (signalStatus number)
      else if number = signalKill || given.has "p" then
        Task.leave (signalStatus number)
      else
        Task.leave 124
    | some (.exited status) => Task.leave (if isOverdue && !given.has "p" then 124 else status)
    | none => Task.leave 124
  | _ =>
    Task.suggestHelp
    Task.leave 125

/-! ## Surroundings -/

/-- Prints a line for ever. -/
def yes (arguments : List String) : Task Unit := do
  let given ← Task.options { ofLists "" [] with mayFollow := false } arguments
  let line := " ".intercalate (if given.operands.isEmpty then ["y"] else given.operands) ++ "\n"
  let copies := 8192 / line.length
  let block := String.join (List.replicate (max 1 copies) line)
  Acting.repeatAct
    (do
      Task.write block
      return true)
    Acting.endless

/-- Prints the path of the current directory. -/
def pwd (arguments : List String) : Task Unit := do
  let table := ofLists "LP" (flags [("logical", "L"), ("physical", "P")])
  let given ← Task.options table arguments
  if !given.operands.isEmpty then
    Task.warn "ignoring non-option arguments"
  let told := ((← get).environment.lookup "PWD").getD ""
  let path ← Acting.observe fun self host =>
    let here := host.directoryOf self
    let isHere :=
      match host.files.find here told true with
      | .ok number => number == here
      | .error _ => false
    let isPlain := (Files.namesOf told).all fun name => name != "." && name != ".."
    if given.last? ["L", "P"] == some "L" && told.startsWith "/" && isPlain && isHere then told
    else host.files.pathOf here
  Task.writeLine path

/-- Prints the name of the user. -/
def whoami (arguments : List String) : Task Unit := do
  let given ← Task.options (ofLists "" []) arguments
  if let operand :: _ := given.operands then
    Task.failExtra operand
  Task.writeLine "root"

/-- Tells who the user is. -/
def identify (arguments : List String) : Task Unit := do
  let table := ofLists "aGgnruzZ"
    (flags [("groups", "G"), ("group", "g"), ("name", "n"), ("real", "r"), ("user", "u"),
      ("zero", "z")])
  let given ← Task.options table arguments
  let chosen := ["u", "g", "G"].filter given.has
  if 1 < chosen.length then
    Task.fail "cannot print \"only\" of more than one choice"
  if chosen.isEmpty && (given.has "n" || given.has "r") then
    Task.fail "cannot print only names or real IDs in default format"
  if chosen.isEmpty && given.has "z" then
    Task.fail "option --zero not permitted in default format"
  let ending := if given.has "z" then "\x00" else "\n"
  let tell (name : String) : Task Unit := do
    if name != "root" && name != "0" then
      Task.err (Quoted.plain name ++ ": no such user")
    else if chosen.isEmpty then
      Task.write "uid=0(root) gid=0(root) groups=0(root)\n"
    else
      Task.write ((if given.has "n" then "root" else "0") ++ ending)
  if given.operands.isEmpty then tell "root"
  else
    for name in given.operands do
      tell name

/-- Tells which system this is. -/
def uname (arguments : List String) : Task Unit := do
  let table := ofLists "asnrvmpio"
    (flags [("all", "a"), ("kernel-name", "s"), ("nodename", "n"), ("kernel-release", "r"),
      ("kernel-version", "v"), ("machine", "m"), ("processor", "p"), ("hardware-platform", "i"),
      ("operating-system", "o")])
  let given ← Task.options table arguments
  if let operand :: _ := given.operands then
    Task.failExtra operand
  let facts := [("s", "Linux"), ("n", "localhost"), ("r", "6.8.0"), ("v", "#1 SMP"),
    ("m", "x86_64"), ("p", "x86_64"), ("i", "x86_64"), ("o", "GNU/Linux")]
  let shown := facts.filter fun fact =>
    given.has "a" || given.has fact.1 || (given.options.isEmpty && fact.1 == "s")
  Task.writeLine (" ".intercalate (shown.map Prod.snd))

/-- Tells that there is no terminal. -/
def tty (arguments : List String) : Task Unit := do
  modify fun state => { state with failure := 2 }
  let table := ofLists "s" (flags [("silent", "s"), ("quiet", "s")])
  let given ← Task.options table arguments
  if !given.has "s" then
    Task.writeLine "not a tty"
  Task.setStatus 1

end Runbook.Machine.Program
