import Runbook.Machine.Calendar
import Runbook.Machine.Program.Options
import Runbook.Machine.Program.Permission
import Runbook.Machine.Program.Quantity

/-!
# Entries of directories

The programs that make, change, remove and name files and directories.
-/

namespace Runbook.Machine.Program

open OptionTable

/-! ## Looking at files -/

/-- The file that a path leads to, with its number. -/
def fileAt (path : String) (follows : Bool) : Task (Except OsError (Nat × File)) :=
  Acting.observe fun self host => do
    let number ← host.files.find (host.directoryOf self) path follows
    match host.files.file? number with
    | some file => .ok (number, file)
    | none => .error .notFound

/-- Whether a file is a directory. -/
def isDirectoryKind : FileKind → Bool
  | .directory _ _ => true
  | _ => false

/-- Whether a path leads to a directory. -/
def isDirectoryAt (path : String) (follows : Bool) : Task Bool := do
  match ← fileAt path follows with
  | .ok (_, file) => return isDirectoryKind file.kind
  | .error _ => return false

/-- The permissions that new files of the process do not get. -/
def mask : Task Nat :=
  Acting.observe fun self host => ((host.process? self).map Process.mask).getD 0

/-- A path without slashes at its end, unless it is the root. -/
def withoutSlashes (path : String) : String :=
  let cs := path.toList
  let kept := (cs.reverse.dropWhile (· == '/')).reverse
  if kept.isEmpty then (if cs.isEmpty then "" else "/") else String.ofList kept

/-- The last name on a path. -/
def lastName (path : String) : String :=
  let whole := withoutSlashes path
  if whole == "/" then "/" else ((Files.namesOf whole).getLast?).getD ""

/-- The path of the directory in which the last name on a path is. -/
def directoryPath (path : String) : String :=
  let cs := (withoutSlashes path).toList
  let before := (cs.reverse.dropWhile (· != '/')).reverse
  if before.isEmpty then (if path.startsWith "/" then "/" else ".")
  else withoutSlashes (String.ofList before)

/-- A name in a directory. -/
def inside (directory name : String) : String :=
  if directory.endsWith "/" then directory ++ name else directory ++ "/" ++ name

/-! ## Names -/

/-- Prints the last names on paths. -/
def basename (arguments : List String) : Task Unit := do
  let table :=
    { ofLists "as:z"
        (flags [("multiple", "a"), ("zero", "z")] ++ valued [("suffix", "s")]) with
      mayFollow := false }
  let given ← Task.options table arguments
  let ending := if given.has "z" then "\x00" else "\n"
  let print (ending' path : String) : Task Unit := do
    let name := lastName path
    let kept :=
      if name.endsWith ending' && name != ending' && name != "/" then
        (name.take (name.length - ending'.length)).toString
      else name
    Task.write (kept ++ ending)
  if given.operands.isEmpty then
    Task.failMissing
  if given.has "a" || given.has "s" then
    for path in given.operands do
      print ((given.value? "s").getD "") path
  else
    match given.operands with
    | [path] => print "" path
    | [path, ending'] => print ending' path
    | _ :: _ :: extra :: _ => Task.failExtra extra
    | [] => return ()

/-- Prints the paths of the directories in which the last names are. -/
def dirname (arguments : List String) : Task Unit := do
  let given ← Task.options (ofLists "z" (flags [("zero", "z")])) arguments
  if given.operands.isEmpty then
    Task.failMissing
  for path in given.operands do
    Task.write (directoryPath path ++ (if given.has "z" then "\x00" else "\n"))

/-! ## Directories -/

/-- Reads permissions that are given for new files. -/
def modeFor (directory : Bool) (text : Option String) : Task (Option Nat) := do
  match text with
  | none => return none
  | some text =>
    match PermissionChange.read? text with
    | none => Task.fail ("invalid mode " ++ Quoted.plain text)
    | some changes =>
      let start := if directory then 0x1FF else 0x1B6
      return some (PermissionChange.applyAll directory (← mask) changes start)

/-- Makes a directory with permissions. -/
def makeDirectory (path : String) (permissions : Nat) : Task (Except OsError Unit) :=
  Acting.changeFiles fun host here =>
    host.files.makeDirectory here path permissions host.clock

/-- Makes the directories on the way to a directory, and then the directory itself. The names are
those that are left behind the start of the path. -/
def makeAll (verbose : Bool) (permissions : Nat) (start : String) :
    List String → Task (Except (String × OsError) Unit)
  | [] => return .ok ()
  | name :: rest => do
    let path := start ++ name
    if name.isEmpty then makeAll verbose permissions (start ++ "/") rest
    else
      let isLast := rest.all (·.isEmpty)
      let masked ← mask
      let bits := if isLast then permissions else (0x1FF &&& (0xFFF ^^^ masked)) ||| 0xC0
      match ← makeDirectory path bits with
      | .ok () =>
        if verbose then
          Task.writeLine ((← get).name ++ ": created directory " ++ Quoted.always path)
        makeAll verbose permissions (path ++ "/") rest
      | .error fault =>
        if fault == .alreadyExists && (← isDirectoryAt path true) then
          makeAll verbose permissions (path ++ "/") rest
        else
          let fault := if fault == .alreadyExists && !isLast then .notADirectory else fault
          return .error (path, fault)

/-- Makes directories. -/
def mkdir (arguments : List String) : Task Unit := do
  let table := ofLists "m:pvZ"
    (flags [("parents", "p"), ("verbose", "v")] ++ valued [("mode", "m")] ++
      [{ name := "context", arity := .optional, key := "Z" }])
  let given ← Task.options table arguments
  if given.operands.isEmpty then
    Task.failMissing
  let permissions := (← modeFor true (given.value? "m")).getD (0x1FF &&& (0xFFF ^^^ (← mask)))
  for path in given.operands do
    let complain (path : String) (fault : OsError) : Task Unit :=
      Task.err ("cannot create directory " ++ Quoted.plain path ++ ": " ++ fault.wording)
    if given.has "p" then
      let names := Files.namesOf path
      let made ←
        if path.isEmpty then pure (.error (path, .notFound))
        else makeAll (given.has "v") permissions "" names
      if let .error (path, fault) := made then
        complain path fault
    else
      match ← makeDirectory path permissions with
      | .ok () =>
        if given.has "v" then
          Task.writeLine ((← get).name ++ ": created directory " ++ Quoted.always path)
      | .error fault => complain path fault

/-- Removes an empty directory. -/
def removeDirectory (path : String) : Task (Except OsError Unit) :=
  Acting.changeFiles fun host here => host.files.removeDirectory here path host.clock

/-- The paths of the directories above a path, from the nearest one on. The fuel bounds their number.
-/
def parentsOf : Nat → String → List String
  | 0, _ => []
  | fuel + 1, path =>
    let cs := (withoutSlashes path).toList
    if !cs.contains '/' then []
    else
      let parent := directoryPath path
      if parent == "/" then [] else parent :: parentsOf fuel parent

/-- Removes empty directories. -/
def rmdir (arguments : List String) : Task Unit := do
  let table := ofLists "pv"
    (flags [("parents", "p"), ("verbose", "v"), ("ignore-fail-on-non-empty", "ignore")])
  let given ← Task.options table arguments
  if given.operands.isEmpty then
    Task.failMissing
  let removeOne (isParent : Bool) (path : String) : Task Bool := do
    if given.has "v" then
      Task.writeLine ((← get).name ++ ": removing directory, " ++ Quoted.always path)
    match ← removeDirectory path with
    | .ok () => return true
    | .error fault =>
      if !(fault == .notEmpty && given.has "ignore") then
        let isLink ←
          if !path.endsWith "/" || fault != .notADirectory then pure false
          else do
            match ← fileAt (withoutSlashes path) false with
            | .ok (_, { kind := .link _, .. }) => pure true
            | _ => pure false
        let wording := if isLink then "Symbolic link not followed" else fault.wording
        Task.err ("failed to remove " ++ (if isParent then "directory " else "") ++
          Quoted.always path ++ ": " ++ wording)
      return false
  for path in given.operands do
    if ← removeOne false path then
      if given.has "p" then
        let _ ← (parentsOf (path.length + 1) path).allM (removeOne true)

/-! ## Removal -/

/-- Whether the user agrees. -/
def isAgreed (question : String) : Task Bool := do
  Task.flush
  let _ ← Acting.send 2 ((← get).name ++ ": " ++ question ++ "? ")
  match ← Acting.receive 0 Acting.readLimit (some '\n') with
  | .ok answer => return answer.startsWith "y" || answer.startsWith "Y"
  | .error _ => return false

/-- What a file is in words. -/
def kindWords (size : Nat) : FileKind → String
  | .directory _ _ => "directory"
  | .link _ => "symbolic link"
  | .queue _ => "fifo"
  | .device _ => "character special file"
  | _ => if size = 0 then "regular empty file" else "regular file"

/-- How removal goes about. -/
structure Removal where
  recursive : Bool := false
  emptyDirectories : Bool := false
  forces : Bool := false
  asks : Bool := false
  verbose : Bool := false

/-- Complains about something that cannot be removed. -/
def errRemoval (path : String) (fault : OsError) : Task Unit :=
  Task.err ("cannot remove " ++ Quoted.always path ++ ": " ++ fault.wording)

/-- Removes what a path leads to, and yields whether it is gone. The fuel bounds the depth. -/
def removePath (removal : Removal) : Nat → String → Task Bool
  | 0, _ => return false
  | fuel + 1, path => do
    match ← fileAt path false with
    | .error fault =>
      if !(removal.forces && (fault == .notFound || fault == .notADirectory)) then
        errRemoval path fault
      return false
    | .ok (number, file) =>
      if isDirectoryKind file.kind then
        let names ← Acting.observe fun _ host => (host.files.entries number).map Prod.fst
        if !removal.recursive && !(removal.emptyDirectories && names.isEmpty) then
          errRemoval path (if removal.emptyDirectories then .notEmpty else .isADirectory)
          return false
        if removal.asks && !names.isEmpty then
          if !(← isAgreed ("descend into directory " ++ Quoted.always path)) then
            return false
        let mut isEmpty := true
        for name in names.mergeSort fun first second => first ≤ second do
          let isGone ← removePath removal fuel (inside path name)
          isEmpty := isEmpty && isGone
        if removal.asks then
          if !(← isAgreed ("remove directory " ++ Quoted.always path)) then
            return false
        if !isEmpty then
          return false
        match ← removeDirectory path with
        | .ok () =>
          if removal.verbose then
            Task.writeLine ("removed directory " ++ Quoted.always path)
          return true
        | .error fault =>
          errRemoval path fault
          return false
      else
        if removal.asks then
          let size ← Acting.observe fun _ host => host.files.sizeOf number
          if !(← isAgreed ("remove " ++ kindWords size file.kind ++ " " ++ Quoted.always path)) then
            return false
        match ← Acting.changeFiles fun host here => host.files.remove here path host.clock with
        | .ok () =>
          if removal.verbose then
            Task.writeLine ("removed " ++ Quoted.always path)
          return true
        | .error fault =>
          errRemoval path fault
          return false

/-- How deep directories lie within each other at most. -/
def depthLimit : Nat := 100000

/-- Removes files and directories. -/
def rm (arguments : List String) : Task Unit := do
  let table := ofLists "dfirvIR"
    (flags [("dir", "d"), ("force", "f"), ("recursive", "r"), ("verbose", "v"),
      ("one-file-system", "one"), ("no-preserve-root", "noroot")] ++
      [{ name := "interactive", arity := .optional, key := "i" },
        { name := "preserve-root", arity := .optional, key := "root" }])
  let wrong := arguments.find? fun argument =>
    match argument.toList with
    | '-' :: c :: _ => c != '-' && (table.letters.lookup c).isNone
    | _ => false
  if let some argument := wrong then
    if !(arguments.takeWhile (· != argument)).contains "--" then
      if (← fileAt argument false).toOption.isSome then
        Task.warn ("invalid option -- '" ++ (argument.toList.getD 1 ' ').toString ++ "'")
        let name := (← get).name
        let _ ← Acting.send 2 ("Try '" ++ name ++ " ./" ++ argument ++ "' to remove the file " ++
          Quoted.plain argument ++ ".\n")
        Task.suggestHelp
        Task.leave 1
  let given ← Task.options table arguments
  let urgency := given.last? ["f", "i", "I"]
  let recursive := given.has "r" || given.has "R"
  let removal : Removal :=
    { recursive := recursive
      emptyDirectories := given.has "d"
      forces := urgency == some "f"
      asks := urgency == some "i" &&
        !(["never", "no", "none", "once"].contains ((given.value? "i").getD "always"))
      verbose := given.has "v" }
  if given.operands.isEmpty then
    if removal.forces then
      return ()
    Task.failMissing
  let count := given.operands.length
  if urgency == some "I" && (recursive || 3 < count) then
    let what := toString count ++ (if count = 1 then " argument" else " arguments")
    if !(← isAgreed ("remove " ++ what ++ (if recursive then " recursively" else ""))) then
      return ()
  for path in given.operands do
    let name := lastName path
    if recursive && (name == "." || name == "..") then
      Task.err ("refusing to remove '.' or '..' directory: skipping " ++ Quoted.always path)
    else if recursive && name == "/" && !given.has "noroot" then
      Task.err ("it is dangerous to operate recursively on " ++ Quoted.always path)
      Task.err "use --no-preserve-root to override this failsafe"
    else
      let _ ← removePath removal depthLimit path

/-! ## Links -/

/-- How links are made. -/
structure Linking where
  isSymbolic : Bool := false
  forces : Bool := false
  asks : Bool := false
  verbose : Bool := false
  isRelative : Bool := false
  follows : Bool := false

/-- The path that leads from one directory to a file, given the absolute paths of both. -/
def relativePath (source target : String) : String :=
  let names (path : String) : List String := (Files.namesOf path).filter (!·.isEmpty)
  let rec common : List String → List String → Nat
    | first :: rest, second :: others => if first == second then common rest others + 1 else 0
    | _, _ => 0
  let from' := names source
  let goal := names target
  let count := common from' goal
  let steps := List.replicate (from'.length - count) ".." ++ goal.drop count
  if steps.isEmpty then "." else "/".intercalate steps

/-- How a path is made free of symbolic links. -/
inductive Resolving where
  /-- Everything has to be there. -/
  | existing
  /-- Everything but the last name has to be there. -/
  | lastMissing
  /-- Nothing has to be there. -/
  | missing
  deriving Repr, DecidableEq

/-- The path without symbolic links that names lead to from a directory. The names that were passed
are given latest first, with the number of the directory unless it is missing. The fuel bounds the
number of names. -/
def resolveNames (files : Files) (how : Resolving) (follows : Bool) :
    Nat → Nat → List String → Option Nat → List String → Except OsError (List String)
  | 0, _, _, _, _ => .error .tooManyLinks
  | _, _, passed, _, [] => .ok passed
  | fuel + 1, links, passed, here, name :: rest => do
    if name.isEmpty || name == "." then
      match here with
      | some number =>
        if !files.isDirectory number && how ≠ .missing then
          throw .notADirectory
      | none => pure ()
      resolveNames files how follows fuel links passed here rest
    else if name == ".." then
      resolveNames files how follows fuel links (passed.drop 1) (here.map files.parentOf) rest
    else
      match here with
      | none => resolveNames files how follows fuel links (name :: passed) none rest
      | some number =>
        if !files.isDirectory number then
          if how = .missing then
            resolveNames files how follows fuel links (name :: passed) none rest
          else
            throw .notADirectory
        else
          match (files.entries number).lookup name with
          | none =>
            let isLast := rest.all (·.isEmpty)
            if how = .missing || (how = .lastMissing && isLast) then
              resolveNames files how follows fuel links (name :: passed) none rest
            else
              throw .notFound
          | some found =>
            match files.kind? found with
            | some (.link target) =>
              if !follows then
                resolveNames files how follows fuel links (name :: passed) (some found) rest
              else if links = 0 then throw .tooManyLinks
              else if target.startsWith "/" then
                resolveNames files how follows fuel (links - 1) [] (some Files.root)
                  (Files.namesOf target ++ rest)
              else
                resolveNames files how follows fuel (links - 1) passed here
                  (Files.namesOf target ++ rest)
            | _ => resolveNames files how follows fuel links (name :: passed) (some found) rest

/-- The absolute path without symbolic links of what a path leads to. -/
def resolvedPath (how : Resolving) (follows : Bool) (path : String) :
    Task (Except OsError String) :=
  Acting.observe fun self host => do
    if path.isEmpty then
      throw .notFound
    let here := host.directoryOf self
    let isAbsolute := path.startsWith "/"
    let passed := if isAbsolute then [] else host.files.namesAbove host.files.table.size here
    let start := if isAbsolute then Files.root else here
    let names ← resolveNames host.files how follows Files.walkLimit Files.linkLimit passed
      (some start) (Files.namesOf path)
    return "/" ++ "/".intercalate names.reverse

/-- Makes a link. -/
def makeLink (linking : Linking) (source target : String) : Task Unit := do
  let quotedTarget := Quoted.always target
  let quotedSource := Quoted.always source
  if !linking.isSymbolic then
    match ← fileAt source linking.follows with
    | .error fault =>
      Task.err ("failed to access " ++ quotedSource ++ ": " ++ fault.wording)
      return ()
    | .ok (_, file) =>
      if isDirectoryKind file.kind then
        Task.err (Quoted.file source ++ ": hard link not allowed for directory")
        return ()
  let old ← fileAt target false
  if let .ok (number, file) := old then
    if linking.forces || linking.asks then
      let isSame ← Acting.observe fun self host =>
        match host.files.find (host.directoryOf self) source true with
        | .ok found => found == number
        | .error _ => false
      if isSame && (!linking.isSymbolic || source == target) then
        Task.err (quotedSource ++ " and " ++ quotedTarget ++ " are the same file")
        return ()
      if isDirectoryKind file.kind then
        Task.err (Quoted.file target ++ ": cannot overwrite directory")
        return ()
      if linking.asks then
        if !(← isAgreed ("replace " ++ quotedTarget)) then
          return ()
      let _ ← Acting.changeFiles fun host here => host.files.remove here target host.clock
  let text ←
    if !(linking.isSymbolic && linking.isRelative) then pure source
    else do
      let from' ← resolvedPath .missing true (directoryPath target)
      let goal ← resolvedPath .missing true source
      match from', goal with
      | .ok from', .ok goal => pure (relativePath from' goal)
      | _, _ => pure source
  let made ← Acting.changeFiles fun host here =>
    if linking.isSymbolic then
      if text.isEmpty then .error .notFound
      else host.files.make here target (.link text) 0x1FF host.clock
    else do
      let path ←
        if linking.follows then
          (host.files.find here source true).map fun _ => source
        else .ok source
      host.files.link here path target host.clock
  match made with
  | .ok () =>
    if linking.verbose then
      let arrow := if linking.isSymbolic then " -> " else " => "
      Task.writeLine (quotedTarget ++ arrow ++ Quoted.always text)
  | .error fault =>
    let what :=
      if linking.isSymbolic then
        "symbolic link " ++ quotedTarget ++ (if text.isEmpty then " -> ''" else "")
      else if fault == .alreadyExists then "hard link " ++ quotedTarget
      else "hard link " ++ quotedTarget ++ " => " ++ quotedSource
    Task.err ("failed to create " ++ what ++ ": " ++ fault.wording)

/-- Makes links. -/
def ln (arguments : List String) : Task Unit := do
  let table := ofLists "bdfinrst:vFLPS:T"
    (flags [("force", "f"), ("interactive", "i"), ("no-dereference", "n"), ("symbolic", "s"),
      ("no-target-directory", "T"), ("verbose", "v"), ("relative", "r"), ("logical", "L"),
      ("physical", "P"), ("directory", "d")] ++
      valued [("target-directory", "t"), ("suffix", "S")] ++
      [{ name := "backup", arity := .optional, key := "b" }])
  let given ← Task.options table arguments
  let linking : Linking :=
    { isSymbolic := given.has "s"
      forces := given.last? ["f", "i"] == some "f"
      asks := given.last? ["f", "i"] == some "i"
      verbose := given.has "v"
      isRelative := given.has "r"
      follows := given.last? ["L", "P"] == some "L" }
  if given.has "r" && !given.has "s" then
    Task.fail "cannot do --relative without --symbolic"
  let into (directory : String) (sources : List String) : Task Unit := do
    for source in sources do
      makeLink linking source (inside directory (lastName source))
  match given.value? "t", given.operands with
  | _, [] => Task.failUsage "missing file operand"
  | some directory, sources =>
    if !(← isDirectoryAt directory true) then
      let fault := match ← fileAt directory true with
        | .ok _ => OsError.notADirectory
        | .error fault => fault
      Task.fail ("target directory " ++ Quoted.always directory ++ ": " ++ fault.wording)
    into directory sources
  | none, [source] =>
    if given.has "T" then
      Task.failUsage ("missing destination file operand after " ++ Quoted.always source)
    into "." [source]
  | none, operands =>
    let target := operands.getLastD ""
    let sources := operands.dropLast
    if given.has "T" then
      if let extra :: _ := operands.drop 2 then
        Task.failExtra extra
      makeLink linking (operands.headD "") target
    else
      let isLink :=
        match ← fileAt target false with
        | .ok (_, { kind := .link _, .. }) => true
        | _ => false
      if (← isDirectoryAt target true) && !(given.has "n" && isLink) then
        into target sources
      else if sources.length = 1 then
        makeLink linking (sources.headD "") target
      else
        let fault := match ← fileAt target true with
          | .ok _ => OsError.notADirectory
          | .error fault => fault
        Task.fail ("target " ++ Quoted.always target ++ ": " ++ fault.wording)

/-- Prints where symbolic links lead. -/
def readlink (arguments : List String) : Task Unit := do
  let table := ofLists "efmnqsvz"
    (flags [("canonicalize", "f"), ("canonicalize-existing", "e"), ("canonicalize-missing", "m"),
      ("no-newline", "n"), ("quiet", "q"), ("silent", "s"), ("verbose", "v"), ("zero", "z")])
  let given ← Task.options table arguments
  if given.operands.isEmpty then
    Task.failMissing
  let isAlone := given.operands.length = 1
  if given.has "n" && !isAlone then
    Task.warn "ignoring --no-newline with multiple arguments"
  let ending := if given.has "n" && isAlone then "" else if given.has "z" then "\x00" else "\n"
  for path in given.operands do
    let found : Except OsError String ←
      match given.last? ["e", "f", "m"] with
      | some "e" => resolvedPath .existing true path
      | some "f" => resolvedPath .lastMissing true path
      | some _ => resolvedPath .missing true path
      | none => do
        match ← fileAt path false with
        | .ok (_, { kind := .link target, .. }) => pure (.ok target)
        | .ok _ => pure (.error .invalidArgument)
        | .error fault => pure (.error fault)
    match found with
    | .ok text => Task.write (text ++ ending)
    | .error fault =>
      Task.setStatus 1
      if given.last? ["q", "s", "v"] == some "v" then
        Task.errFile path fault

/-- Prints absolute paths without symbolic links. -/
def realpath (arguments : List String) : Task Unit := do
  let table := ofLists "eELmPqsz"
    (flags [("canonicalize-existing", "e"), ("canonicalize", "E"), ("canonicalize-missing", "m"),
      ("logical", "L"), ("physical", "P"), ("quiet", "q"), ("strip", "s"), ("no-symlinks", "s"),
      ("zero", "z")] ++ valued [("relative-to", "to"), ("relative-base", "base")])
  let given ← Task.options table arguments
  if given.operands.isEmpty then
    Task.failMissing
  let how : Resolving :=
    match given.last? ["e", "E", "m"] with
    | some "e" => .existing
    | some "m" => .missing
    | _ => .lastMissing
  let follows := !(given.has "s")
  let resolve (path : String) : Task (Except OsError String) := resolvedPath how follows path
  let base (key : String) : Task (Option String) := do
    match given.value? key with
    | none => return none
    | some path =>
      match ← resolve path with
      | .ok path => return some path
      | .error fault => Task.fail (Quoted.file path ++ ": " ++ fault.wording)
  let start ← base "to"
  let within ← base "base"
  for path in given.operands do
    match ← resolve path with
    | .error fault =>
      if given.has "q" then Task.setStatus 1
      else Task.errFile path fault
    | .ok path =>
      let isWithin (path : String) : Bool :=
        match within with
        | none => true
        | some base => path == base || path.startsWith (if base == "/" then "/" else base ++ "/")
      let shown :=
        match start <|> within with
        | some start => if isWithin path && isWithin start then relativePath start path else path
        | none => path
      Task.write (shown ++ (if given.has "z" then "\x00" else "\n"))

/-! ## Times, permissions and sizes -/

/-- How many microseconds a second has. -/
def secondMicros : Nat := 1000000

/-- Makes files that are missing, and changes the times of the others. -/
def touch (arguments : List String) : Task Unit := do
  let table := ofLists "acd:fhmr:t:"
    (flags [("no-create", "c"), ("no-dereference", "h")] ++
      valued [("date", "d"), ("reference", "r"), ("time", "time")])
  let given ← Task.options table arguments
  if let some word := given.value? "time" then
    let _ ← Task.choose "--time" [["atime", "access", "use"], ["mtime", "modify"]] word
  let now ← Acting.observe fun _ host => host.clock
  let year := (Calendar.dayOf (now / secondMicros / Calendar.daySeconds)).1
  let time ←
    match given.value? "r", given.value? "t", given.value? "d" with
    | some path, _, _ => do
      match ← fileAt path true with
      | .ok (_, file) => pure file.modified
      | .error fault =>
        Task.fail ("failed to get attributes of " ++ Quoted.always path ++ ": " ++ fault.wording)
    | none, some stamp, _ => do
      match Calendar.readStamp? year stamp with
      | some seconds => pure (seconds * secondMicros)
      | none => Task.fail ("invalid date format " ++ Quoted.plain stamp)
    | none, none, some text => do
      if text == "now" || text.isEmpty then pure now
      else
        match Calendar.read? text with
        | some seconds => pure (seconds * secondMicros)
        | none => Task.fail ("invalid date format " ++ Quoted.plain text)
    | none, none, none => pure now
  if given.operands.isEmpty then
    Task.failUsage "missing file operand"
  let changesTime := !given.has "a" || given.has "m"
  for path in given.operands do
    if path == "-" then
      continue
    let touched ←
      match ← fileAt path true with
      | .ok (number, _) => pure (Except.ok number)
      | .error .notFound =>
        if given.has "c" || given.has "h" then pure (.error .notFound)
        else if path.endsWith "/" then
          Task.err ("setting times of " ++ Quoted.always path ++ ": No such file or directory")
          continue
        else do
          match ← Acting.openPath path { writes := true, creates := true } with
          | .error fault => pure (.error fault)
          | .ok opened =>
            Acting.close opened
            pure ((← fileAt path true).map Prod.fst)
      | .error fault => pure (.error fault)
    match touched with
    | .ok number =>
      if changesTime then
        Acting.perform fun _ host =>
          ({ host with
              files := host.files.modify number fun file => { file with modified := time } }, ())
    | .error fault =>
      if !(fault == .notFound && (given.has "c" || given.has "h")) then
        Task.err ("cannot touch " ++ Quoted.always path ++ ": " ++ fault.wording)

/-- Permission bits in four octal digits, and in letters. -/
def shownPermissions (bits : Nat) : String :=
  let digits := Nat.toDigits 8 bits
  String.ofList (List.replicate (4 - digits.length) '0' ++ digits) ++ " (" ++
    permissionText bits ++ ")"

/-- How permissions are changed. -/
structure Chmod where
  changes : List PermissionChange
  recursive : Bool := false
  verbose : Bool := false
  /-- Whether only changes are told about. -/
  tellsChanges : Bool := false
  silent : Bool := false
  /-- Whether the changes stood where options stand. -/
  surprises : Bool := false

/-- Changes the permissions of what a path leads to. The fuel bounds the depth. -/
def chmodPath (chmod : Chmod) : Nat → Bool → String → Task Unit
  | 0, _, _ => return ()
  | fuel + 1, isNamed, path => do
    match ← fileAt path isNamed with
    | .error fault =>
      let isDangling := (← fileAt path false).toOption.isSome
      if !chmod.silent then
        if isDangling then Task.err ("cannot operate on dangling symlink " ++ Quoted.always path)
        else Task.err ("cannot access " ++ Quoted.always path ++ ": " ++ fault.wording)
      else
        Task.setStatus 1
    | .ok (_, { kind := .link _, .. }) => return ()
    | .ok (number, file) =>
      let isDirectory := isDirectoryKind file.kind
      let masked ← mask
      let bits := PermissionChange.applyAll isDirectory masked chmod.changes file.permissions
      let old := file.permissions
      Acting.perform fun _ host =>
        ({ host with files := host.files.setPermissions number bits }, ())
      if chmod.verbose || (chmod.tellsChanges && bits != old) then
        Task.writeLine ("mode of " ++ Quoted.always path ++
          (if bits = old then " retained as " ++ shownPermissions bits
            else " changed from " ++ shownPermissions old ++ " to " ++ shownPermissions bits))
      if chmod.surprises then
        let naive := PermissionChange.applyAll isDirectory 0 chmod.changes old
        if bits &&& (0xFFF ^^^ naive) != 0 then
          Task.err (Quoted.file path ++ ": new permissions are " ++ permissionText bits ++
            ", not " ++ permissionText naive)
      if chmod.recursive && isDirectory then
        let names ← Acting.observe fun _ host => host.files.namesIn number
        for name in names do
          chmodPath chmod fuel false (inside path name)

/-- Changes permissions. -/
def chmod (arguments : List String) : Task Unit := do
  let isChange (argument : String) : Bool :=
    match argument.toList with
    | '-' :: c :: _ => "rwxXstugoa,+=-01234567".toList.contains c && argument != "--" &&
        !argument.startsWith "--"
    | _ => false
  let front := arguments.takeWhile (· != "--")
  let signed := front.find? isChange
  let others := (front.filter fun argument => !isChange argument) ++ arguments.drop front.length
  let table := ofLists "Rcfv"
    (flags [("recursive", "R"), ("changes", "c"), ("quiet", "f"), ("silent", "f"),
      ("verbose", "v"), ("preserve-root", "root"), ("no-preserve-root", "noroot")] ++
      valued [("reference", "reference")])
  let given ← Task.options table others
  let chmod (changes : List PermissionChange) (surprises : Bool) : Chmod :=
    { changes := changes
      recursive := given.has "R"
      verbose := given.has "v"
      tellsChanges := given.has "c"
      silent := given.has "f"
      surprises := surprises }
  match given.value? "reference" with
  | some path =>
    match ← fileAt path true with
    | .error fault =>
      Task.fail ("failed to get attributes of " ++ Quoted.always path ++ ": " ++ fault.wording)
    | .ok (_, file) =>
      let change : PermissionChange :=
        { operator := '='
          affected := PermissionChange.all
          permitted := .bits file.permissions
          mentioned := PermissionChange.all }
      if given.operands.isEmpty then
        Task.failMissing
      for path in given.operands do
        chmodPath (chmod [change] false) depthLimit true path
  | none =>
    let (text, files) :=
      match signed with
      | some text => (some text, given.operands)
      | none => (given.operands.head?, given.operands.drop 1)
    match text with
    | none => Task.failMissing
    | some text =>
      if files.isEmpty then
        if signed.isSome then
          Task.failMissing
        Task.failUsage ("missing operand after " ++ Quoted.plain text)
      match PermissionChange.read? text with
      | none => Task.failUsage ("invalid mode: " ++ Quoted.plain text)
      | some changes =>
        for path in files do
          chmodPath (chmod changes signed.isSome) depthLimit true path

/-- Does nothing to files that belong to the only user anyway, except that they have to exist. -/
def chown (arguments : List String) : Task Unit := do
  let table := ofLists "HLPRcfhv"
    (flags [("recursive", "R"), ("changes", "c"), ("dereference", "deref"),
      ("no-dereference", "h"), ("quiet", "f"), ("silent", "f"), ("verbose", "v")] ++
      valued [("from", "from"), ("reference", "reference")])
  let given ← Task.options table arguments
  let files := if given.has "reference" then given.operands else given.operands.drop 1
  if given.operands.isEmpty then
    Task.failMissing
  if files.isEmpty then
    Task.failUsage ("missing operand after " ++ Quoted.plain (given.operands.headD ""))
  for path in files do
    if let .error fault ← fileAt path true then
      if given.has "f" then Task.setStatus 1
      else Task.err ("cannot access " ++ Quoted.always path ++ ": " ++ fault.wording)

/-- The size that a text asks for, given the size so far. -/
def sizeAfter? (size : Nat) (text : String) : Option Nat :=
  let letters := "EgGkKmMPQRtTYZ0"
  let read (cs : List Char) : Option Nat := (Quantity.read letters (String.ofList cs)).toOption
  match text.toList.dropWhile Numeral.isSpace with
  | '+' :: rest => (read rest).map (size + ·)
  | '-' :: rest => (read rest).map (size - ·)
  | '<' :: rest => (read rest).map (min size)
  | '>' :: rest => (read rest).map (max size)
  | '/' :: rest => (read rest).bind fun unit => if unit = 0 then none else some (size / unit * unit)
  | '%' :: rest => (read rest).bind fun unit =>
      if unit = 0 then none else some ((size + unit - 1) / unit * unit)
  | cs => read cs

/-- Shortens or lengthens files. -/
def truncate (arguments : List String) : Task Unit := do
  let table := ofLists "cor:s:"
    (flags [("no-create", "c"), ("io-blocks", "o")] ++ valued [("reference", "r"), ("size", "s")])
  let given ← Task.options table arguments
  if !given.has "s" && !given.has "r" then
    Task.failUsage "you must specify either '--size' or '--reference'"
  if let some text := given.value? "s" then
    if (sizeAfter? 0 text).isNone then
      Task.fail ("Invalid number: " ++ Quoted.plain text)
  if given.operands.isEmpty then
    Task.failUsage "missing file operand"
  let sizeAt (path : String) : Task Nat :=
    Acting.observe fun self host =>
      match host.files.find (host.directoryOf self) path true with
      | .ok number => host.files.sizeOf number
      | .error _ => 0
  for path in given.operands do
    match ← Acting.openPath path { writes := true, creates := !given.has "c" } with
    | .error fault =>
      if !(given.has "c" && fault == .notFound) then
        Task.err ("cannot open " ++ Quoted.always path ++ " for writing: " ++ fault.wording)
    | .ok opened =>
      Acting.close opened
      let before ← match given.value? "r" with
        | some path => sizeAt path
        | none => sizeAt path
      let size := match given.value? "s" with
        | some text => (sizeAfter? before text).getD before
        | none => before
      if let .ok (number, file) ← fileAt path true then
        if let .regular content := file.kind then
          let zeros := ⟨Array.replicate (size - content.size) 0⟩
          Acting.perform fun _ host =>
            ({ host with
                files := host.files.setContent number (content.extract 0 size ++ zeros)
                  host.clock }, ())

end Runbook.Machine.Program
