import Runbook.Machine.Program.Entries
import Runbook.Machine.Program.Reading
import Runbook.Machine.Program.Script

/-!
# Editing streams

The program that carries out the commands of a script for each line of its input.
-/

namespace Runbook.Machine.Program.Editing

open OptionTable

/-- Whether the lines of a range are under way. -/
inductive Phase where
  | idle
  /-- The range goes on up to a line, if that is known. -/
  | active (last : Option Nat)
  deriving Repr, DecidableEq

/-- What is printed behind a line. -/
inductive Appended where
  | text (cs : List Char)
  | file (path : String)

/-- How the editor works. -/
structure Settings where
  quiet : Bool := false
  separate : Bool := false
  mark : Char := '\n'
  /-- The ending under which files are kept that are edited in place, if they are. -/
  inPlace : Option String := none
  width : Nat := 70

/-- The state of the editor. -/
structure Editor where
  settings : Settings
  script : Script
  /-- The line that is worked on, and whether it had an end. -/
  line : List Char := []
  hasEnd : Bool := true
  hold : List Char := []
  number : Nat := 0
  hasSubstituted : Bool := false
  phases : Array Phase := #[]
  appended : List Appended := []
  /-- The expression that was used last. -/
  lastRegex : Option (Regex × Bool) := none
  /-- Files that have not been opened yet. -/
  files : List String := []
  current : String := "-"
  opened : Option Nat := none
  /-- Lines that have been read, and the beginning of one more. -/
  ready : List (List Char × Bool) := []
  begun : List Char := []
  /-- Whether the lines that were read come from a file that is not the current one. -/
  changesFile : Bool := false
  /-- What is going to be written to the file that is edited in place. -/
  edited : List String := []
  /-- Where the end of the last line is missing. -/
  unfinished : List Sink := []
  /-- The files that are written to, and those from which single lines are read. -/
  sinks : List (String × Nat) := []
  sources : List (String × List (List Char)) := []

/-- An act of the editor. -/
abbrev Edit := StateT Editor Task

/-! ## Output -/

/-- Writes a text as it is. -/
def put (sink : Sink) (text : String) : Edit Unit := do
  let editor ← get
  match sink with
  | .output =>
    if editor.settings.inPlace.isSome then
      set { editor with edited := text :: editor.edited }
    else
      Task.write text
  | .errors => let _ ← (Acting.send 2 text : Task (Except OsError Unit))
  | .file path =>
    match editor.sinks.lookup path with
    | some number => let _ ← (Acting.send number text : Task (Except OsError Unit))
    | none => pure ()

/-- Writes the end of the last line if it is missing. -/
def finishLine (sink : Sink) : Edit Unit := do
  if (← get).unfinished.contains sink then
    modify fun editor => { editor with unfinished := editor.unfinished.filter (· != sink) }
    put sink "\n"

/-- Writes a text behind complete lines. -/
def emit (sink : Sink) (text : String) : Edit Unit := do
  finishLine sink
  put sink text

/-- Writes a line. -/
def emitLine (sink : Sink) (cs : List Char) : Edit Unit := do
  let editor ← get
  if editor.hasEnd then
    emit sink (String.ofList cs ++ editor.settings.mark.toString)
  else
    emit sink (String.ofList cs)
    modify fun editor => { editor with unfinished := sink :: editor.unfinished }

/-- Writes what has to stand behind the line. -/
def flushAppended : Edit Unit := do
  let appended := (← get).appended
  modify fun editor => { editor with appended := [] }
  for part in appended do
    match part with
    | .text cs => emit .output (String.ofList cs)
    | .file path =>
      finishLine .output
      match ← (Task.readFile path : Task (Except OsError String)) with
      | .ok text => put .output text
      | .error _ => pure ()

/-! ## Input -/

/-- Writes the file that has been edited in place. -/
def saveEdited : Edit Unit := do
  let editor ← get
  match editor.settings.inPlace with
  | none => return ()
  | some suffix =>
    let path := editor.current
    if !suffix.isEmpty then
      let _ ← (Acting.changeFiles fun host here => do
        let number ← host.files.find here path true
        let content := match host.files.kind? number with
          | some (.regular content) => content
          | _ => .empty
        let permissions := ((host.files.file? number).map File.permissions).getD 0x1A4
        let kept := path ++ suffix
        match host.files.find here kept true with
        | .ok number => return host.files.setContent number content host.clock
        | .error _ => host.files.make here kept (.regular content) permissions host.clock
          : Task (Except OsError Unit))
    let text := String.join editor.edited.reverse
    let _ ← (Acting.changeFiles fun host here => do
      let number ← host.files.find here path true
      return host.files.setContent number (Octets.append .empty text) host.clock
        : Task (Except OsError Unit))
    set { editor with edited := [], unfinished := editor.unfinished.filter (· != Sink.output) }

/-- Opens the next file. Yields whether there is one. The fuel bounds their number. -/
def openNext : Nat → Edit Bool
  | 0 => return false
  | fuel + 1 => do
    match (← get).files with
    | [] => return false
    | path :: rest =>
      modify fun editor => { editor with files := rest }
      let isDirectory ← (isDirectoryAt path true : Task Bool)
      if isDirectory && path != "-" then
        if (← get).settings.inPlace.isSome then
          Task.warn ("couldn't edit " ++ path ++ ": not a regular file")
        else
          Task.warn ("read error on " ++ path ++ ": Is a directory")
        Task.leave 4
      else
        match ← (Task.openInput path : Task (Except OsError Nat)) with
        | .error fault =>
          Task.warn ("can't read " ++ path ++ ": " ++ fault.wording)
          Task.setStatus 2
          openNext fuel
        | .ok number =>
          modify fun editor =>
            { editor with opened := some number, current := path, changesFile := true }
          return true

/-- Reads on until there is a line, or until the current file has come to its end. Yields whether
there is a line. The fuel bounds the number of pieces. -/
def fill : Nat → Edit Bool
  | 0 => return false
  | fuel + 1 => do
    let editor ← get
    if !editor.ready.isEmpty then return true
    match editor.opened with
    | none => return false
    | some number =>
      let piece ← (Acting.receive number Acting.readLimit none : Task (Except OsError String))
      match piece with
      | .error _ =>
        Task.closeInput number
        set { editor with opened := none }
        return false
      | .ok text =>
        if text.isEmpty then
          Task.closeInput number
          let last := if editor.begun.isEmpty then [] else [(editor.begun, false)]
          set { editor with opened := none, begun := [], ready := last }
          return !last.isEmpty
        else
          let (lines, rest) :=
            Task.splitLines editor.settings.mark (editor.begun ++ text.toList)
          set { editor with begun := rest, ready := lines.map fun line => (line, true) }
          fill fuel

/-- Whether there is another line in the files to come, which are opened as far as is needed. The
fuel bounds the number of files. -/
def hasMore : Nat → Edit Bool
  | 0 => return false
  | fuel + 1 => do
    if ← fill Acting.endless then return true
    let editor ← get
    if editor.files.isEmpty then return false
    if ← openNext (editor.files.length + 1) then hasMore fuel else return false

/-- Whether the line is the last one. -/
def isLast : Edit Bool := do
  let editor ← get
  if editor.settings.separate then
    return !(← fill Acting.endless)
  else
    return !(← hasMore (editor.files.length + 2))

/-- Takes the next line from the input, if there is one. -/
def nextLine : Edit (Option (List Char × Bool)) := do
  let editor ← get
  if editor.settings.separate && !(← fill Acting.endless) && editor.current != "-" then
    saveEdited
  if ← hasMore (editor.files.length + 2) then
    let editor ← get
    match editor.ready with
    | line :: rest =>
      let starts := editor.changesFile && editor.settings.separate
      set { editor with
        ready := rest
        changesFile := false
        number := if starts then 0 else editor.number
        phases := if starts then editor.phases.map fun _ => .idle else editor.phases }
      return some line
    | [] => return none
  else
    return none

/-- Begins with the next line. Yields whether there is one. -/
def beginLine : Edit Bool := do
  match ← nextLine with
  | none => return false
  | some (line, hasEnd) =>
    modify fun editor =>
      { editor with
        line := line, hasEnd := hasEnd, number := editor.number + 1, hasSubstituted := false }
    return true

/-! ## Lines that count -/

/-- The expression that is meant, where none stands for the one that was used last. -/
def meant (regex : Option (Regex × Bool)) : Edit (Regex × Bool) := do
  match regex <|> (← get).lastRegex with
  | some regex =>
    modify fun editor => { editor with lastRegex := some regex }
    return regex
  | none => Task.fail "-e expression #1, char 0: no previous regular expression"

/-- Whether the line is at an address. -/
def isAt (address : Address) : Edit Bool := do
  let editor ← get
  match address with
  | .line number => return editor.number = number
  | .every first step =>
    return if step = 0 then editor.number = first
      else first ≤ editor.number && (editor.number - first) % step = 0
  | .last => isLast
  | .pattern regex =>
    let (regex, ignoresCase) ← meant regex
    let subject : Regex.Subject :=
      { text := editor.line.toArray, ignoresCase := ignoresCase, remembers := true }
    return (regex.find? subject 0).isSome

/-- Whether a command with a number counts for the line. -/
def counts (index : Nat) (scope : Scope) : Edit Bool := do
  let found ←
    match scope.first, scope.ending with
    | none, _ => pure true
    | some first, none => isAt first
    | some first, some ending => do
      let number := (← get).number
      let setPhase (phase : Phase) : Edit Unit :=
        modify fun editor => { editor with phases := editor.phases.setIfInBounds index phase }
      let phase := ((← get).phases[index]?).getD .idle
      let phase := if first matches .line 0 && number = 1 then Phase.active none else phase
      let start : Edit Bool := do
        if ← isAt first then
          let last : Option Nat :=
            match ending with
            | .after count => some (number + count)
            | .multiple unit => some (if unit = 0 then number else (number + unit - 1) / unit * unit)
            | .address (.line last) => some last
            | _ => none
          if last.any (· ≤ number) then setPhase .idle
          else setPhase (.active last)
          return true
        else
          return false
      match phase with
      | .idle => start
      | .active (some last) =>
        if last ≤ number then
          setPhase .idle
        if number ≤ last then pure true else start
      | .active none =>
        match ending with
        | .address address =>
          if ← isAt address then
            setPhase .idle
          else
            setPhase (.active none)
          pure true
        | _ => pure true
  return found != scope.inverted

/-! ## Commands -/

/-- How letters are changed in a replacement: all of them, and the next one. -/
structure Casing where
  all : Option Char := none
  next : Option Char := none

/-- Letters changed by a casing. -/
def Casing.apply (casing : Casing) (cs : List Char) : List Char :=
  let change (mode : Option Char) (c : Char) : Char :=
    match mode with
    | some 'U' | some 'u' => c.toUpper
    | some 'L' | some 'l' => c.toLower
    | _ => c
  match cs with
  | [] => []
  | c :: rest =>
    (if casing.next.isSome then change casing.next c else change casing.all c) ::
      rest.map (change casing.all)

/-- The text that stands for what was fitted. -/
def replacement (pieces : List Piece) (text : Array Char) (first : Nat) (reach : Regex.Reach) :
    List Char :=
  let group (number : Nat) : List Char :=
    if number = 0 then (text.extract first reach.position).toList
    else
      match reach.groups.lookup number with
      | some (start, finish) => (text.extract start finish).toList
      | none => []
  let add (state : List Char × Casing) (cs : List Char) : List Char × Casing :=
    let (output, casing) := state
    (output ++ casing.apply cs, if cs.isEmpty then casing else { casing with next := none })
  (pieces.foldl
    (fun state piece =>
      match piece with
      | .text cs => add state cs
      | .group number => add state (group number)
      | .case letter =>
        let (output, casing) := state
        if letter == 'E' then (output, {})
        else if letter == 'U' || letter == 'L' then
          (output, { casing with all := some letter })
        else (output, { casing with next := some letter }))
    (([], {}) : List Char × Casing)).1

/-- Replaces what fits from a place on, and yields the text and whether anything was replaced. The
number of fitting places so far is given, and the end of the last one. The fuel bounds the number of
places. -/
def replaceFrom (substitution : Substitution) (regex : Regex) (subject : Regex.Subject) :
    Nat → Nat → Nat → Option Nat → List Char × Bool
  | 0, position, _, _ => ((subject.text.extract position subject.text.size).toList, false)
  | fuel + 1, position, count, previous =>
    let text := subject.text
    let rest := (text.extract position text.size).toList
    match if text.size < position then none else regex.find? subject position with
    | none => (rest, false)
    | some (first, reach) =>
      let before := (text.extract position first).toList
      let isVacant := reach.position = first
      let behind := if isVacant then (text.extract first (first + 1)).toList else []
      let next := if isVacant then first + 1 else reach.position
      if isVacant && previous == some first then
        let (others, replaced) := replaceFrom substitution regex subject fuel next count none
        (before ++ behind ++ others, replaced)
      else if count + 1 < substitution.count then
        let kept := (text.extract first reach.position).toList
        let (others, replaced) :=
          replaceFrom substitution regex subject fuel next (count + 1) (some reach.position)
        (before ++ kept ++ behind ++ others, replaced)
      else
        let new := replacement substitution.pieces text first reach
        if substitution.isGlobal then
          let (others, _) :=
            replaceFrom substitution regex subject fuel next (count + 1) (some reach.position)
          (before ++ new ++ behind ++ others, true)
        else
          (before ++ new ++ (text.extract reach.position text.size).toList, true)

/-- Carries out a substitution. -/
def substitute (substitution : Substitution) : Edit Unit := do
  let (regex, ignoresCase) ← meant substitution.regex
  let editor ← get
  let subject : Regex.Subject :=
    { text := editor.line.toArray, ignoresCase := ignoresCase, remembers := true }
  let (line, replaced) :=
    replaceFrom substitution regex subject (2 * editor.line.length + 3) 0 0 none
  if replaced then
    set { editor with line := line, hasSubstituted := true }
    if 0 < substitution.prints then
      emitLine .output line
    if let some sink := substitution.sink then
      emitLine sink line

/-- A line in which everything can be seen. -/
def visibleLine (width : Nat) (line : List Char) : String :=
  let shown (c : Char) : List Char :=
    if c == '\\' then ['\\', '\\'] else if Quoted.isShown c then [c] else Quoted.escaped c
  let step (state : List Char × Nat) (c : Char) : List Char × Nat :=
    let (output, column) := state
    let cs := shown c
    if 1 < width && width - 1 < column + cs.length then
      (cs.reverse ++ '\n' :: '\\' :: output, cs.length)
    else
      (cs.reverse ++ output, column + cs.length)
  String.ofList ('$' :: (line.foldl step ([], 0)).1).reverse ++ "\n"

/-- How a line goes on behind a command. -/
inductive Flow where
  | jump (index : Nat)
  /-- The line is done, and is printed unless it has been deleted. -/
  | done (prints : Bool)
  /-- The script begins again with what is left of the line. -/
  | again
  | quit (prints : Bool) (status : Nat)

/-- The part of a line in front of the first end of a line within it, and the part behind that. -/
def firstPart (line : List Char) : List Char × Option (List Char) :=
  let first := line.takeWhile (· != '\n')
  match line.drop first.length with
  | _ :: rest => (first, some rest)
  | [] => (first, none)

/-- Carries out a command that is a single letter. -/
def obey (index : Nat) (letter : Char) : Edit Flow := do
  let editor ← get
  let goOn := Flow.jump (index + 1)
  match letter with
  | 'd' => return .done false
  | 'D' =>
    match firstPart editor.line with
    | (_, none) => return .done false
    | (_, some rest) =>
      set { editor with line := rest }
      return .again
  | 'g' =>
    set { editor with line := editor.hold }
    return goOn
  | 'G' =>
    set { editor with line := editor.line ++ '\n' :: editor.hold }
    return goOn
  | 'h' =>
    set { editor with hold := editor.line }
    return goOn
  | 'H' =>
    set { editor with hold := editor.hold ++ '\n' :: editor.line }
    return goOn
  | 'x' =>
    set { editor with line := editor.hold, hold := editor.line }
    return goOn
  | 'n' =>
    if ← isLast then
      return .quit true 0
    if !editor.settings.quiet then
      emitLine .output editor.line
    flushAppended
    if ← beginLine then
      modify fun later => { later with hasSubstituted := editor.hasSubstituted }
      return goOn
    else
      return .quit false 0
  | 'N' =>
    if ← isLast then
      return .quit true 0
    flushAppended
    match ← nextLine with
    | some (line, hasEnd) =>
      modify fun later =>
        { later with
          line := editor.line ++ '\n' :: line, hasEnd := hasEnd, number := later.number + 1 }
      return goOn
    | none => return .quit true 0
  | 'p' =>
    emitLine .output editor.line
    return goOn
  | 'P' =>
    emit .output (String.ofList (firstPart editor.line).1 ++ "\n")
    return goOn
  | 'z' =>
    set { editor with line := [] }
    return goOn
  | '=' =>
    emit .output (toString editor.number ++ "\n")
    return goOn
  | 'F' =>
    emit .output (editor.current ++ "\n")
    return goOn
  | _ => return goOn

/-- Carries out a command for a line for which it counts. -/
def perform (index : Nat) (command : Command) : Edit Flow := do
  let editor ← get
  let goOn := Flow.jump (index + 1)
  match command.action with
  | .block _ | .nothing => return goOn
  | .letter c => obey index c
  | .branch branching name =>
    let isTaken :=
      match branching with
      | .always => true
      | .substituted => editor.hasSubstituted
      | .notSubstituted => !editor.hasSubstituted
    if branching ≠ .always then
      set { editor with hasSubstituted := false }
    if !isTaken then return goOn
    else if name.isEmpty then return .done true
    else return .jump ((editor.script.labels.lookup name).getD 0)
  | .substitute substitution =>
    substitute substitution
    return goOn
  | .transliterate table =>
    set { editor with line := editor.line.map fun c => (table.lookup c).getD c }
    return goOn
  | .append text =>
    set { editor with appended := editor.appended ++ [Appended.text text] }
    return goOn
  | .insert text =>
    emit .output (String.ofList text)
    return goOn
  | .change text =>
    let isOver :=
      command.scope.ending.isNone || command.scope.inverted ||
        editor.phases[index]? == some .idle
    if isOver then
      emit .output (String.ofList text)
    return .done false
  | .readFile path =>
    set { editor with appended := editor.appended ++ [Appended.file path] }
    return goOn
  | .readLine path =>
    let lines ←
      match editor.sources.lookup path with
      | some lines => pure lines
      | none => do
        match ← (Task.readFile path : Task (Except OsError String)) with
        | .ok text =>
          let (lines, rest) := Task.splitLines '\n' text.toList
          pure (lines ++ if rest.isEmpty then [] else [rest])
        | .error _ => pure []
    let sources := (path, lines.drop 1) :: editor.sources.filter fun entry => entry.1 != path
    let added := (lines.take 1).map fun line => Appended.text (line ++ ['\n'])
    set { editor with sources := sources, appended := editor.appended ++ added }
    return goOn
  | .write sink =>
    emitLine sink editor.line
    return goOn
  | .writeFirst sink =>
    emit sink (String.ofList (firstPart editor.line).1 ++ "\n")
    return goOn
  | .list width =>
    emit .output (visibleLine (width.getD editor.settings.width) editor.line)
    return goOn
  | .quit isSilent status => return .quit (!isSilent) status

/-- Carries out commands from one on. The fuel bounds their number. -/
def runFrom : Nat → Nat → Edit Flow
  | 0, _ => return .quit true 0
  | fuel + 1, index => do
    match (← get).script.commands[index]? with
    | none => return .done true
    | some command =>
      if ← counts index command.scope then
        match ← perform index command with
        | .jump next => runFrom fuel next
        | flow => return flow
      else
        match command.action with
        | .block behind => runFrom fuel behind
        | _ => runFrom fuel (index + 1)

/-- Carries out the script for line after line. The fuel bounds the number of lines. -/
def runLines : Nat → Bool → Edit Unit
  | 0, _ => return ()
  | fuel + 1, isBegun => do
    let isThere ← if isBegun then pure true else beginLine
    if !isThere then
      return ()
    let flow ← runFrom Acting.endless 0
    let conclude (prints : Bool) : Edit Unit := do
      let editor ← get
      if prints && !editor.settings.quiet then
        emitLine .output editor.line
      flushAppended
    match flow with
    | .quit prints status =>
      conclude prints
      let editor ← get
      if editor.settings.inPlace.isSome then
        let rest := editor.ready.map fun (line, hasEnd) =>
          String.ofList line ++ (if hasEnd then "\n" else "")
        set { editor with edited := rest.reverse ++ editor.edited }
        let text ←
          match editor.opened with
          | some number => do
            match ← (Acting.receiveAll number : Task (Except OsError String)) with
            | .ok text => pure text
            | .error _ => pure ""
          | none => pure ""
        modify fun editor =>
          { editor with edited := text :: String.ofList editor.begun :: editor.edited }
        saveEdited
      if 0 < status then
        Task.setStatus status
    | .again =>
      flushAppended
      runLines fuel true
    | .done prints =>
      conclude prints
      runLines fuel false
    | .jump _ => return ()

/-! ## The program -/

/-- The files that commands write to. -/
def sinksOf (script : Script) : List String :=
  let named (sink : Sink) : Option String :=
    match sink with
    | .file path => some path
    | _ => none
  (script.commands.toList.filterMap fun command =>
    match command.action with
    | .write sink | .writeFirst sink => named sink
    | .substitute substitution => substitution.sink.bind named
    | _ => none).eraseDups

/-- A part of a script, with the file that it comes from if it does not come from an argument. -/
structure Passage where
  file : Option String
  text : List Char

/-- Where a fault in a script is told to be, given the number of characters in front of it. A block
that is not closed is told without a place within an argument. -/
def placeOf (isUnclosed : Bool) (passages : List Passage) (position : Nat) : String :=
  let rec find (number start : Nat) : List Passage → Nat × Nat × Option Passage
    | [] => (number, start, none)
    | passage :: rest =>
      let number := if passage.file.isNone then number + 1 else number
      if position ≤ start + passage.text.length || rest.isEmpty then (number, start, some passage)
      else find number (start + passage.text.length + 1) rest
  match find 0 0 passages with
  | (number, start, passage) =>
    let place := position - start
    match passage with
    | some ⟨some file, text⟩ =>
      let line := (text.take (place - 1)).count '\n' + 1
      "file " ++ file ++ " line " ++ toString line
    | _ =>
      "-e expression #" ++ toString number ++ ", char " ++
        toString (if isUnclosed then 0 else place)

/-- Edits a stream of lines. -/
def edit (arguments : List String) : Task Unit := do
  let table := ofLists "nrzuEe:f:l:i::s"
    (flags [("quiet", "n"), ("silent", "n"), ("regexp-extended", "r"), ("null-data", "z"),
      ("zero-terminated", "z"), ("unbuffered", "u"), ("separate", "s"), ("posix", "posix"),
      ("debug", "debug"), ("sandbox", "sandbox"), ("follow-symlinks", "follow")] ++
      valued [("expression", "e"), ("file", "f"), ("line-length", "l")] ++
      [{ name := "in-place", arity := .optional, key := "i" }])
  let given ← Task.options table arguments
  let mut parts : List Passage := []
  for (key, value) in given.options do
    let text := value.getD ""
    if key == "e" then
      parts := parts ++ [⟨none, text.toList⟩]
    else if key == "f" then
      match ← Task.readFile text with
      | .ok content =>
        let cs := content.toList
        parts :=
          parts ++ [⟨some text, if cs.getLast? == some '\n' then cs.dropLast else cs⟩]
      | .error fault =>
        if fault = .isADirectory then
          parts := parts ++ [⟨some text, []⟩]
        else
          Task.warn ("couldn't open file " ++ text ++ ": " ++ fault.wording)
          Task.leave 4
  let (scripts, operands) ←
    if parts.isEmpty then
      match given.operands with
      | script :: rest => pure ([⟨none, script.toList⟩], rest)
      | [] => do
        Task.suggestHelp
        Task.leave 1
    else pure (parts, given.operands)
  let whole := ['\n'].intercalate (scripts.map Passage.text)
  let isQuiet :=
    match scripts with
    | ⟨_, '#' :: 'n' :: rest⟩ :: _ => rest.isEmpty || rest.head? == some '\n'
    | _ => false
  match scriptOf (given.has "r" || given.has "E") whole with
  | .error (.whole complaint) =>
    Task.warn complaint
    Task.leave 4
  | .error (.at position complaint) =>
    Task.fail (placeOf false scripts position ++ ": " ++ complaint)
  | .error (.unclosed position complaint) =>
    Task.fail (placeOf true scripts position ++ ": " ++ complaint)
  | .ok script =>
    let mut sinks : List (String × Nat) := []
    for path in sinksOf script do
      match ← Acting.openPath path { writes := true, creates := true, truncates := true } with
      | .ok number => sinks := (path, number) :: sinks
      | .error fault =>
        Task.warn ("couldn't open file " ++ path ++ ": " ++ fault.wording)
        Task.leave 4
    let inPlace := if given.has "i" then some ((given.value? "i").getD "") else none
    if inPlace.isSome && operands.isEmpty then
      Task.warn "no input files"
      Task.leave 4
    let width := ((given.value? "l").map fun text =>
      Text.decimalValue (text.toList.takeWhile Char.isDigit)).getD 70
    let settings : Settings :=
      { quiet := given.has "n" || isQuiet
        separate := given.has "s" || inPlace.isSome
        mark := if given.has "z" then '\x00' else '\n'
        inPlace := inPlace
        width := width }
    let editor : Editor :=
      { settings := settings
        script := script
        phases := Array.replicate script.commands.size .idle
        files := filesOf operands
        sinks := sinks }
    let _ ← (runLines Acting.endless false).run editor

end Runbook.Machine.Program.Editing
