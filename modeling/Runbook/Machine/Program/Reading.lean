import Runbook.Machine.Program.Options
import Runbook.Machine.Program.Quantity

/-!
# Reading files

The programs that hand on files, or the beginnings and the ends of files, or count what is in them.
-/

namespace Runbook.Machine.Program

open OptionTable

/-- The files that are named, where nothing at all stands for what is open for reading. -/
def filesOf (operands : List String) : List String :=
  if operands.isEmpty then ["-"] else operands

/-- Whether something is open under a number. -/
def isOpen (number : Nat) : Task Bool :=
  Acting.observe fun self host => (host.openFile? self number).isSome

/-! ## Joining files -/

/-- How files are shown when they are joined. -/
structure Showing where
  numbers : Bool := false
  /-- Whether only lines that are not empty get numbers. -/
  skipsEmpty : Bool := false
  squeezes : Bool := false
  ends : Bool := false
  tabs : Bool := false
  others : Bool := false

/-- Whether every octet is shown as it is. -/
def Showing.isPlain (showing : Showing) : Bool :=
  !(showing.numbers || showing.squeezes || showing.ends || showing.tabs || showing.others)

/-- How far showing has come. -/
structure Shown where
  output : List Char := []
  /-- How many ends of lines came last, or nothing within a line. -/
  newlines : Option Nat := some 0
  line : Nat := 0
  /-- Whether a return has been read that may stand in front of the end of a line. -/
  pendingReturn : Bool := false

/-- Shows an octet that may be one that cannot be shown. -/
def visible (showing : Showing) (c : Char) : List Char :=
  let simple (c : Char) : List Char :=
    if c == '\x7F' then ['^', '?']
    else if c < ' ' then ['^', Char.ofNat (c.toNat + 64)]
    else [c]
  if c == '\t' then (if showing.tabs then ['^', 'I'] else [c])
  else if !showing.others then [c]
  else if 128 ≤ c.toNat then 'M' :: '-' :: simple (Char.ofNat (c.toNat - 128))
  else simple c

/-- The number in front of a line. -/
def lineNumber (width number : Nat) : List Char :=
  let digits := Nat.toDigits 10 number
  List.replicate (width - digits.length) ' ' ++ digits

/-- Shows one more octet. -/
def Shown.add (showing : Showing) (shown : Shown) (c : Char) : Shown :=
  let number (shown : Shown) : Shown :=
    { shown with
      line := shown.line + 1
      output := '\t' :: (lineNumber 6 (shown.line + 1)).reverse ++ shown.output }
  let put (shown : Shown) (cs : List Char) : Shown :=
    { shown with output := cs.reverse ++ shown.output }
  let shown :=
    if !shown.pendingReturn then shown
    else
      { put shown (if c == '\n' then ['^', 'M'] else ['\x0D']) with pendingReturn := false }
  if c == '\n' then
    let count := min 2 ((shown.newlines.map (· + 1)).getD 0)
    if showing.squeezes && count = 2 then { shown with newlines := some 2 }
    else
      let shown :=
        if 0 < count && showing.numbers && !showing.skipsEmpty then number shown else shown
      put { shown with newlines := some count } (if showing.ends then ['$', '\n'] else ['\n'])
  else
    let shown := if shown.newlines.isSome && showing.numbers then number shown else shown
    let shown := { shown with newlines := none }
    if c == '\x0D' && showing.ends && !showing.others then { shown with pendingReturn := true }
    else put shown (visible showing c)

/-- Whether reading on would only repeat what is being written: whether the file that is read is the
one that is written to, and there is something in it to come. -/
def wouldRepeat (number : Nat) : Task Bool :=
  Acting.observe fun self host =>
    match host.openFile? self number, host.openFile? self 1 with
    | some (_, source), some (_, target) =>
      match source.channel, target.channel with
      | .file source', .file target' =>
        let size := host.files.sizeOf source'
        source' == target' &&
          source.position < (if target.appends then size else target.position)
      | _, _ => false
    | _, _ => false

/-- Joins files. -/
def cat (arguments : List String) : Task Unit := do
  let table := ofLists "benstuvAET"
    (flags [("number-nonblank", "b"), ("number", "n"), ("squeeze-blank", "s"),
      ("show-nonprinting", "v"), ("show-ends", "E"), ("show-tabs", "T"), ("show-all", "A")])
  let given ← Task.options table arguments
  let any (keys : List String) : Bool := keys.any given.has
  let showing : Showing :=
    { numbers := any ["b", "n"]
      skipsEmpty := given.has "b"
      squeezes := given.has "s"
      ends := any ["A", "e", "E"]
      tabs := any ["A", "t", "T"]
      others := any ["A", "e", "t", "v"] }
  if !(← isOpen 1) then
    Task.fail "standard output: Bad file descriptor"
  let mut shown : Shown := {}
  for path in filesOf given.operands do
    match ← Task.openInput path with
    | .error fault => Task.errFile path fault
    | .ok number =>
      if ← wouldRepeat number then
        Task.err (Quoted.file path ++ ": input file is output file")
      else
        let read ← Task.eachPiece number shown fun shown piece => do
          if showing.isPlain then
            Task.write piece
            Task.flush
            return (shown, true)
          else
            let shown := piece.foldl (Shown.add showing) shown
            Task.write (String.ofList shown.output.reverse)
            Task.flush
            return ({ shown with output := [] }, true)
        match read with
        | .ok after =>
          shown := after
          if shown.pendingReturn then
            Task.write "\x0D"
            shown := { shown with pendingReturn := false }
        | .error fault => Task.errFile path fault
      Task.closeInput number

/-- Hands on what is read to several files at once. -/
def tee (arguments : List String) : Task Unit := do
  let table := ofLists "aip"
    (flags [("append", "a"), ("ignore-interrupts", "i")] ++
      [{ name := "output-error", arity := .optional, key := "p" }])
  let given ← Task.options table arguments
  let appends := given.has "a"
  let mut targets := #[(("standard output" : String), 1)]
  for path in given.operands do
    match ← Acting.openPath path
        { writes := true, creates := true, truncates := !appends, appends := appends } with
    | .ok number => targets := targets.push (path, number)
    | .error fault => Task.errFile path fault
  let read ← Task.eachPiece 0 targets.toList fun targets piece => do
    let targets ← targets.filterM fun (path, number) => do
      match ← Acting.send number piece with
      | .ok () => return true
      | .error fault =>
        Task.errFile path fault
        return false
    return (targets, !targets.isEmpty)
  if let .error fault := read then
    Task.err ("read error: " ++ fault.wording)

/-! ## Beginnings and ends -/

/-- What part of a file is wanted. -/
structure Portion where
  count : Nat := 10
  /-- Whether octets are counted rather than lines. -/
  ofOctets : Bool := false
  /-- Whether the count is of what is left out at the other side. -/
  isOthers : Bool := false

/-- When the names of files are shown. -/
inductive Headers where
  | ofSeveral
  | always
  | never
  deriving Repr, DecidableEq

/-- What the programs for beginnings and ends are asked for. -/
structure Extract where
  portion : Portion := {}
  headers : Headers := .ofSeveral
  mark : Char := '\n'
  follows : Bool := false
  files : List String := []

/-- The options that both programs have. -/
def extractTable : OptionTable :=
  ofLists "c:n:qvz"
    (valued [("bytes", "c"), ("lines", "n")] ++
      flags [("quiet", "q"), ("silent", "q"), ("verbose", "v"), ("zero-terminated", "z")])

/-- Reads the options of the two programs, where one character in front of a count tells that it is
of what is left out. -/
def extractOf (other : Char) (given : Given) (start : Extract) : Task Extract := do
  let mut extract := start
  for (key, value) in given.options do
    match key with
    | "c" | "n" =>
      let text := value.getD ""
      let cs := text.toList
      let ofOctets := key == "c"
      let isOthers := cs.head? == some other
      let number :=
        if isOthers || cs.head? == some '-' then String.ofList (cs.drop 1) else text
      let what := if ofOctets then "number of bytes" else "number of lines"
      let shown := if other == '+' && isOthers then text else number
      let complaint := "invalid " ++ what ++ ": " ++ Quoted.plain shown
      let count ←
        match Quantity.read Quantity.usual number with
        | .ok count => pure count
        | .error .invalid => Task.fail complaint
        | .error .tooLarge =>
          Task.fail (complaint ++ ": Value too large for defined data type")
      extract := { extract with portion := ⟨count, ofOctets, isOthers⟩ }
    | "q" => extract := { extract with headers := .never }
    | "v" => extract := { extract with headers := .always }
    | "z" => extract := { extract with mark := '\x00' }
    | "f" | "F" => extract := { extract with follows := true }
    | _ => pure ()
  return { extract with files := filesOf given.operands }

/-- Shows the name of a file, unless that is not wanted. -/
def showHeader (extract : Extract) (isFirst : Bool) (path : String) : Task Unit := do
  let isWanted :=
    match extract.headers with
    | .always => true
    | .never => false
    | .ofSeveral => 1 < extract.files.length
  if isWanted then
    let name := if path == "-" then "standard input" else path
    Task.write ((if isFirst then "" else "\n") ++ "==> " ++ name ++ " <==\n")

/-- How many octets are read at once from what may be read on by others. -/
def sharedPiece : Nat := 8192

/-- Gives back octets that were read too much, if the file allows it. -/
def giveBack (number count : Nat) : Task Unit := do
  if 0 < count then
    let _ ← Acting.request fun self host => host.seek self number fun position _ => position - count

/-- Writes the first lines of an open file. -/
def writeFirstLines (number count : Nat) (mark : Char) : Task (Except OsError Unit) :=
  Acting.iterate
    (fun (left : Nat) => do
      if left = 0 then
        return .inr (.ok ())
      match ← Acting.receive number sharedPiece none with
      | .error fault => return .inr (.error fault)
      | .ok piece =>
        if piece.isEmpty then
          return .inr (.ok ())
        let rec taken (left : Nat) : List Char → Nat × List Char
          | [] => (left, [])
          | c :: rest =>
            if left = 0 then (0, [])
            else
              let (left, cs) := taken (if c == mark then left - 1 else left) rest
              (left, c :: cs)
        let (left, cs) := taken left piece.toList
        Task.write (String.ofList cs)
        if left = 0 then
          giveBack number (piece.length - cs.length)
        return .inl left)
    (.ok ()) Acting.endless count

/-- Writes the first octets of an open file. -/
def writeFirstOctets (number count : Nat) : Task (Except OsError Unit) :=
  Acting.iterate
    (fun (left : Nat) => do
      if left = 0 then
        return .inr (.ok ())
      match ← Acting.receive number (min left sharedPiece) none with
      | .error fault => return .inr (.error fault)
      | .ok piece =>
        if piece.isEmpty then
          return .inr (.ok ())
        Task.write piece
        return .inl (left - piece.length))
    (.ok ()) Acting.endless count

/-- The lines of a text with their ends. -/
def linesWithEnds (mark : Char) (text : List Char) : List (List Char) :=
  let (lines, rest) := Task.splitLines mark text
  lines.map (· ++ [mark]) ++ (if rest.isEmpty then [] else [rest])

/-- Writes the beginning of an open file. -/
def writeHead (extract : Extract) (number : Nat) : Task (Except OsError Unit) := do
  let portion := extract.portion
  if !portion.isOthers then
    if portion.ofOctets then writeFirstOctets number portion.count
    else writeFirstLines number portion.count extract.mark
  else
    match ← Acting.receiveAll number with
    | .error fault => return .error fault
    | .ok text =>
      let kept :=
        if portion.ofOctets then text.toList.take (text.length - portion.count)
        else
          let lines := linesWithEnds extract.mark text.toList
          (lines.take (lines.length - portion.count)).flatten
      Task.write (String.ofList kept)
      giveBack number (text.length - kept.length)
      return .ok ()

/-- The arguments with a count behind a hyphen put into the form of an option, with the letters that
may stand behind it. -/
def modernArguments (arguments : List String) : Task (List String) := do
  match arguments with
  | first :: rest =>
    match first.toList with
    | '-' :: c :: cs =>
      if !c.isDigit then
        return arguments
      let digits := (c :: cs).takeWhile Char.isDigit
      let letters := (c :: cs).drop digits.length
      let known := "bckmlqvz".toList
      match letters.find? fun letter => !known.contains letter with
      | some letter =>
        Task.failUsage ("invalid trailing option -- " ++ letter.toString)
      | none =>
        let multiple := letters.filter fun c => "bkm".toList.contains c
        let ofOctets := letters.any fun c => "bckm".toList.contains c
        let count := String.ofList (digits ++ multiple.take 1)
        let others := letters.filterMap fun c =>
          if "qvz".toList.contains c then some ("-" ++ c.toString) else none
        return others ++ (if ofOctets then "-c" else "-n") :: count :: rest
    | _ => return arguments
  | [] => return []

/-- Writes the beginnings of files. -/
def head (arguments : List String) : Task Unit := do
  let given ← Task.options extractTable (← modernArguments arguments)
  let extract ← extractOf '-' given {}
  let mut isFirst := true
  for path in extract.files do
    match ← Task.openInput path with
    | .error fault =>
      Task.err ("cannot open " ++ Quoted.always path ++ " for reading: " ++ fault.wording)
    | .ok number =>
      showHeader extract isFirst path
      isFirst := false
      if let .error fault ← writeHead extract number then
        let name := if path == "-" then "standard input" else path
        Task.err ("error reading " ++ Quoted.always name ++ ": " ++ fault.wording)
      Task.closeInput number

/-- The end of a text that is wanted. -/
def tailOf (extract : Extract) (text : List Char) : List Char :=
  let portion := extract.portion
  if portion.ofOctets then
    if portion.isOthers then text.drop (portion.count - 1)
    else text.drop (text.length - portion.count)
  else
    let lines := linesWithEnds extract.mark text
    if portion.isOthers then (lines.drop (portion.count - 1)).flatten
    else (lines.drop (lines.length - portion.count)).flatten

/-- Writes what is added to an open file, for ever. -/
def followFile (number : Nat) : Task Unit := do
  Task.flush
  Acting.repeatAct
    (do
      let piece ← Acting.attempt fun self host =>
        match host.receive self number Acting.readLimit none with
        | some (host, .ok piece) => if piece.isEmpty then none else some (host, piece)
        | some (host, .error _) => some (host, "")
        | none => none
      Task.write piece
      Task.flush
      return true)
    Acting.endless

/-- What an argument in the old form asks for: a count behind a sign, and letters. -/
def oldTail? (argument : String) : Option Extract :=
  match argument.toList with
  | sign :: cs =>
    let digits := cs.takeWhile Char.isDigit
    let letters := cs.drop digits.length
    let (unit, rest) :=
      match letters with
      | 'b' :: rest => (some 'b', rest)
      | 'c' :: rest => (some 'c', rest)
      | 'l' :: rest => (some 'l', rest)
      | rest => (none, rest)
    let isMeant := sign == '+' || (sign == '-' && cs.any Char.isDigit && !cs.isEmpty)
    if !isMeant || (rest != [] && rest != ['f']) || cs.isEmpty then none
    else
      let count := if digits.isEmpty then 10 else Text.decimalValue digits
      some
        { portion :=
            { count := if unit == some 'b' then count * 512 else count
              ofOctets := unit == some 'b' || unit == some 'c'
              isOthers := sign == '+' }
          follows := rest == ['f'] }
  | [] => none

/-- Writes the ends of files. -/
def tail (arguments : List String) : Task Unit := do
  let table :=
    { extractTable with
      letters := extractTable.letters ++ lettersOf "fFs:".toList
      long := extractTable.long ++ flags [("retry", "retry")] ++
        valued [("sleep-interval", "s"), ("pid", "pid")] ++
        [{ name := "follow", arity := .optional, key := "f" }] }
  let isOldForm :=
    match arguments with
    | [_] => true
    | [_, file] => !(file.startsWith "-" && 1 < file.length)
    | [_, second, _] => second == "--"
    | _ => false
  let (start, arguments) :=
    match arguments.head?.bind oldTail? with
    | some extract => if isOldForm then (extract, arguments.drop 1) else ({}, arguments)
    | none => ({}, arguments)
  if let some first := arguments.head? then
    if let '-' :: c :: _ := first.toList then
      if c.isDigit then
        Task.fail ("option used in invalid context -- " ++ c.toString)
  let given ← Task.options table arguments
  let extract ← extractOf '+' given start
  let mut isFirst := true
  let mut followed := none
  for path in extract.files do
    match ← Task.openInput path with
    | .error fault =>
      Task.err ("cannot open " ++ Quoted.always path ++ " for reading: " ++ fault.wording)
    | .ok number =>
      showHeader extract isFirst path
      isFirst := false
      match ← Acting.receiveAll number with
      | .error fault =>
        let name := if path == "-" then "standard input" else path
        Task.err ("error reading " ++ Quoted.always name ++ ": " ++ fault.wording)
        Task.closeInput number
      | .ok text =>
        Task.write (String.ofList (tailOf extract text.toList))
        if extract.follows && path != "-" then
          followed := some number
        else
          Task.closeInput number
  if let some number := followed then
    followFile number

/-- Writes the lines of files from the last one to the first one. -/
def tac (arguments : List String) : Task Unit := do
  let table := ofLists "brs:"
    (flags [("before", "b"), ("regex", "r")] ++ valued [("separator", "s")])
  let given ← Task.options table arguments
  let mark := ((given.value? "s").getD "\n").toList.headD '\x00'
  for path in filesOf given.operands do
    match ← Task.openInput path with
    | .error fault =>
      Task.err ("failed to open " ++ Quoted.always path ++ " for reading: " ++ fault.wording)
    | .ok number =>
      match ← Acting.receiveAll number with
      | .error fault => Task.err (Quoted.file path ++ ": read error: " ++ fault.wording)
      | .ok text =>
        let cs := text.toList
        let parts :=
          if given.has "b" then
            match Text.splitAt mark cs with
            | first :: rest =>
              (if first.isEmpty then [] else [first]) ++ rest.map (mark :: ·)
            | [] => []
          else
            linesWithEnds mark cs
        Task.write (String.ofList parts.reverse.flatten)
      Task.closeInput number

/-! ## Counting -/

/-- What is counted in a file. -/
structure Counts where
  lines : Nat := 0
  words : Nat := 0
  octets : Nat := 0
  /-- The length of the longest line. -/
  longest : Nat := 0
  /-- The length of the current line so far. -/
  column : Nat := 0
  inWord : Bool := false

namespace Counts

/-- The counts with those of another file. -/
def join (first second : Counts) : Counts :=
  { lines := first.lines + second.lines
    words := first.words + second.words
    octets := first.octets + second.octets
    longest := max first.longest second.longest }

/-- The counts with one more octet. -/
def add (counts : Counts) (c : Char) : Counts :=
  let counts := { counts with octets := counts.octets + 1 }
  let endLine (counts : Counts) : Counts :=
    { counts with longest := max counts.longest counts.column, column := 0, inWord := false }
  if c == '\n' then endLine { counts with lines := counts.lines + 1 }
  else if c == '\x0D' || c == '\x0C' then endLine counts
  else if c == '\t' then
    { counts with column := counts.column + 8 - counts.column % 8, inWord := false }
  else if c == ' ' then { counts with column := counts.column + 1, inWord := false }
  else if c == '\x0B' then { counts with inWord := false }
  else if Quoted.isShown c then
    { counts with
      column := counts.column + 1
      words := if counts.inWord then counts.words else counts.words + 1
      inWord := true }
  else counts

end Counts

/-- The columns in which counts are shown, by the letters that ask for them. -/
def countColumns : List (String × (Counts → Nat)) :=
  [("l", Counts.lines), ("w", Counts.words), ("m", Counts.octets), ("c", Counts.octets),
    ("L", Counts.longest)]

/-- How wide the columns are for files. -/
def countWidth (files : List String) (columns : Nat) : Task Nat := do
  if files.length = 1 && columns = 1 then
    return 1
  let sizes ← files.mapM fun path =>
    Acting.observe fun self host =>
      if path == "-" then
        match host.openFile? self 0 with
        | some (_, { channel := .file number, .. }) => some (host.files.kind? number, number, host)
        | some _ => some (none, 0, host)
        | none => none
      else
        match host.files.find (host.directoryOf self) path true with
        | .ok number => some (host.files.kind? number, number, host)
        | .error _ => none
  if (sizes.head?.bind id).isNone then
    return 1
  let found := sizes.filterMap id
  let total := (found.map fun (kind, number, host) =>
    match kind with
    | some (.regular _) | some (.program _) => host.files.sizeOf number
    | _ => 0).foldl (· + ·) 0
  let isOther := found.any fun (kind, _) =>
    match kind with
    | some (.regular _) | some (.program _) => false
    | _ => true
  return max (Nat.toDigits 10 total).length (if isOther then 7 else 1)

/-- Counts what is in files. -/
def wc (arguments : List String) : Task Unit := do
  let table := ofLists "clmwL"
    (flags [("bytes", "c"), ("chars", "m"), ("lines", "l"), ("words", "w"),
      ("max-line-length", "L")] ++ valued [("total", "total"), ("files0-from", "from")])
  let given ← Task.options table arguments
  let asked := countColumns.filter fun column => given.has column.1
  let columns :=
    if asked.isEmpty then countColumns.filter fun column => ["l", "w", "c"].contains column.1
    else asked
  let totals := (given.value? "total").getD "auto"
  let totals ←
    match ["auto", "always", "only", "never"].filter fun word => word.startsWith totals with
    | [word] => pure word
    | _ =>
      Task.warn ("invalid argument " ++ Quoted.plain totals ++ " for " ++ Quoted.plain "--total")
      let _ ← Acting.send 2
        "Valid arguments are:\n  - 'auto'\n  - 'always'\n  - 'only'\n  - 'never'\n"
      Task.suggestHelp
      Task.leave 1
  let files := filesOf given.operands
  let width ← if totals == "only" then pure 1 else countWidth files columns.length
  let isAlone := given.operands.isEmpty
  let line (counts : Counts) (name : String) : String :=
    let numbers := columns.map fun column => String.ofList (lineNumber width (column.2 counts))
    " ".intercalate numbers ++ (if name.isEmpty then "" else " " ++ name) ++ "\n"
  let mut all : Counts := {}
  for path in files do
    if path.isEmpty then
      Task.err "invalid zero-length file name"
    else
      match ← Task.openInput path with
      | .error fault => Task.errFile path fault
      | .ok number =>
        let read ← Task.eachPiece number ({} : Counts) fun counts piece =>
          return (piece.foldl Counts.add counts, true)
        let counts ←
          match read with
          | .ok counts => pure { counts with longest := max counts.longest counts.column }
          | .error fault => do
            Task.errFile path fault
            pure {}
        all := all.join counts
        if totals != "only" then
          Task.write (line counts (if isAlone then "" else path))
        Task.closeInput number
  let showsTotal :=
    match totals with
    | "always" | "only" => true
    | "never" => false
    | _ => 1 < files.length
  if showsTotal then
    Task.write (line all (if totals == "only" then "" else "total"))

end Runbook.Machine.Program
