import Runbook.Machine.Program.Entries

/-!
# Copying and moving

The programs that copy and move files and directories. Both deal with one argument after the other
and take care not to lose what they have just written.
-/

namespace Runbook.Machine.Program.Transfer

open OptionTable

/-- Which symbolic links are followed. -/
inductive Following where
  | never
  | arguments
  | always
  deriving Repr, DecidableEq

/-- What is done to a target that exists. -/
inductive Clash where
  | replace
  | ask
  | keep
  /-- The target is kept unless it is older. -/
  | replaceOlder
  deriving Repr, DecidableEq

/-- Under which names targets are kept that would be lost. -/
inductive Backup where
  | none
  | simple
  | existing
  | numbered
  deriving Repr, DecidableEq

/-- How files are transferred. -/
structure Style where
  moves : Bool := false
  recursive : Bool := false
  following : Following := .always
  makesLinks : Bool := false
  makesSymbolicLinks : Bool := false
  keepsPermissions : Bool := false
  keepsTimes : Bool := false
  keepsLinks : Bool := false
  clash : Clash := .replace
  /-- Whether it is said that a target is kept. -/
  tellsKept : Bool := false
  forces : Bool := false
  removesTargets : Bool := false
  attributesOnly : Bool := false
  backup : Backup := .none
  suffix : String := "~"
  verbose : Bool := false

/-- What has been transferred so far. -/
structure Progress where
  /-- The arguments, with the numbers of their files. -/
  sources : List (String × Nat) := []
  /-- The targets of arguments, with the numbers of their files. -/
  targets : List (String × Nat) := []
  /-- The numbers of files that have been copied, with the paths of the copies. -/
  copies : List (Nat × String) := []
  /-- The directory that was made first for the current argument. -/
  made : Option Nat := none
  /-- Whether the current argument turned out to hold its own target. -/
  holdsItself : Bool := false
  /-- The current argument and its target. -/
  argument : String × String := ("", "")

/-- An act in the course of a transfer. -/
abbrev Act := StateT Progress Task

/-- Complains. -/
def err (message : String) : Act Bool := do
  Task.err message
  return false

/-- Changes the files of the machine. -/
def change (change : Host → Nat → Except OsError Files) : Task (Except OsError Unit) :=
  Acting.changeFiles change

/-- Opens a file. -/
def openFile (path : String) (how : Opening) : Task (Except OsError Nat) :=
  Acting.openPath path how

/-- Looks at the host. -/
def observe {α : Type} (look : Nat → Host → α) : Task α :=
  Acting.observe look

/-- Two names in quotes. -/
def quotedPair (first between second : String) : String :=
  Quoted.always first ++ between ++ Quoted.always second

/-- The wording for a target that cannot be opened, where a slash asks for a directory. -/
def targetWording (target : String) (fault : OsError) : String :=
  (if fault == .isADirectory && target.endsWith "/" then OsError.notADirectory else fault).wording

/-! ## Targets that exist -/

/-- The greatest number of a backup of a file. -/
def greatestBackup (target : String) : Task Nat := do
  let start := lastName target ++ ".~"
  let names ← observe fun self host =>
    match host.files.find (host.directoryOf self) (directoryPath target) true with
    | .ok number => host.files.namesIn number
    | .error _ => []
  let numbers := names.filterMap fun name =>
    if name.startsWith start && name.endsWith "~" && start.length < name.length then
      Text.natural? ((name.toList.drop start.length).dropLast)
    else
      none
  return numbers.foldl max 0

/-- The path under which a target is kept, if it is. -/
def backupPath (style : Style) (target : String) : Task (Option String) := do
  let greatest ← greatestBackup target
  let numbered := target ++ ".~" ++ toString (greatest + 1) ++ "~"
  return match style.backup with
    | .none => none
    | .simple => some (target ++ style.suffix)
    | .existing => some (if 0 < greatest then numbered else target ++ style.suffix)
    | .numbered => some numbered

/-- Tells which file goes where. -/
def tell (style : Style) (before source target : String) (backup : Option String) : Act Unit := do
  if style.verbose then
    let behind :=
      match backup with
      | some path => " (backup: " ++ Quoted.always path ++ ")"
      | none => ""
    Task.writeLine (before ++ quotedPair source " -> " target ++ behind)

/-- What is to be done about a target that exists. -/
inductive Verdict where
  /-- The source goes on in place of the target, which has another path from now on, or in spite of
  it. -/
  | goOn (backup : Option String) (isGone : Bool)
  /-- Nothing is done, and whether that is all right. -/
  | stop (isFine : Bool)

/-- Judges a target that exists. -/
def judge (style : Style) (source : String) (sourceFile : Nat × File) (target : String)
    (targetFile : Nat × File) (isSame : Bool) : Act Verdict := do
  let sourceIsDirectory := isDirectoryKind sourceFile.2.kind
  let targetIsDirectory := isDirectoryKind targetFile.2.kind
  let refuse (message : String) : Act Verdict := do
    Task.err message
    return .stop false
  if isSame && style.makesLinks then
    return .stop true
  if isSame && style.clash ≠ .keep && style.backup == .none &&
      !(style.removesTargets && targetFile.1 ≠ sourceFile.1) then
    return ← refuse (quotedPair source " and " target ++ " are the same file")
  if !sourceIsDirectory || style.moves then
    match style.clash with
    | .replaceOlder =>
      if !sourceIsDirectory && sourceFile.2.modified ≤ targetFile.2.modified then
        return .stop true
    | .keep =>
      if style.tellsKept then
        return ← refuse ("not replacing " ++ Quoted.always target)
      return .stop true
    | .ask =>
      if !(← isAgreed ("overwrite " ++ Quoted.always target)) then
        Task.setStatus 1
        return .stop false
    | .replace => pure ()
  if sourceIsDirectory && !targetIsDirectory && !(style.moves && style.backup ≠ .none) then
    return ← refuse ("cannot overwrite non-directory " ++
      quotedPair target " with directory " source)
  if !targetIsDirectory && style.backup ≠ .numbered &&
      (← get).targets.contains (target, targetFile.1) then
    return ← refuse ("will not overwrite just-created " ++ quotedPair target " with " source)
  if !sourceIsDirectory && targetIsDirectory && !(style.moves && style.backup ≠ .none) then
    return ← refuse ("cannot overwrite directory " ++ Quoted.always target ++
      " with non-directory")
  let backup ←
    if targetIsDirectory && !style.moves then pure none else backupPath style target
  match backup with
  | some path =>
    match ← change fun host here => host.files.rename here target path host.clock with
    | .ok () => return .goOn backup true
    | .error fault =>
      return ← refuse ("cannot backup " ++ Quoted.always target ++ ": " ++ fault.wording)
  | none =>
    let isLink (file : File) : Bool :=
      match file.kind with
      | .link _ => true
      | _ => false
    let removes := !targetIsDirectory && !style.moves &&
      (style.removesTargets || (isLink sourceFile.2 && style.following ≠ .always) ||
        (style.forces && (style.makesLinks || style.makesSymbolicLinks)))
    if removes then
      let _ ← change fun host here => host.files.remove here target host.clock
      if style.verbose && style.removesTargets then
        Task.writeLine ("removed " ++ Quoted.always target)
    return .goOn none removes

/-! ## Copying -/

/-- Hands what is open under one number on to another one. -/
def pour (source target : Nat) (sourcePath targetPath : String) : Act Bool := do
  let failed ← (Task.eachPiece source (none : Option OsError) fun _ piece => do
    match ← Acting.send target piece with
    | .ok () => return (none, true)
    | .error fault => return (some fault, false) : Task (Except OsError (Option OsError)))
  match failed with
  | .ok none => return true
  | .ok (some fault) => err ("error writing " ++ Quoted.always targetPath ++ ": " ++ fault.wording)
  | .error fault => err ("error reading " ++ Quoted.always sourcePath ++ ": " ++ fault.wording)

/-- Gives a copy the permissions and the time of its source if that is asked for. -/
def keepAttributes (style : Style) (file : File) (target : String) : Act Unit := do
  let _ ← change fun host here => do
    let number ← host.files.find here target true
    return host.files.modify number fun copy =>
      { copy with
        permissions := if style.keepsPermissions then file.permissions else copy.permissions
        modified := if style.keepsTimes then file.modified else copy.modified }

/-- Copies the content of a file. -/
def copyContent (style : Style) (source : String) (file : File) (target : String) (isNew : Bool) :
    Act Bool := do
  match ← openFile source { reads := true } with
  | .error fault =>
    err ("cannot open " ++ Quoted.always source ++ " for reading: " ++ fault.wording)
  | .ok input =>
    let how : Opening :=
      if isNew then
        { writes := true, creates := true, exclusive := true, permissions := file.permissions }
      else
        { writes := true, truncates := !style.attributesOnly }
    let result ←
      match ← openFile target how with
      | .error fault =>
        let isLink ← isNewLink target
        if isNew && fault == .alreadyExists && isLink then
          err ("not writing through dangling symlink " ++ Quoted.always target)
        else
          err ("cannot create regular file " ++ Quoted.always target ++ ": " ++
            targetWording target fault)
      | .ok output =>
        let isFine ←
          match file.kind with
          | .program name => do
            let _ ← change fun host here => do
              let number ← host.files.find here target true
              return host.files.modify number fun copy => { copy with kind := .program name }
            pure true
          | _ => if style.attributesOnly then pure true else pour input output source target
        (Acting.close output : Task Unit)
        keepAttributes style file target
        pure isFine
    (Acting.close input : Task Unit)
    return result
where
  /-- Whether a path leads to a symbolic link. -/
  isNewLink (target : String) : Task Bool := do
    match ← fileAt target false with
    | .ok (_, { kind := .link _, .. }) => return true
    | _ => return false

/-- Makes something else than a regular file or a directory. -/
def makeOther (target : String) (file : File) : Act Bool := do
  match file.kind with
  | .link text =>
    match ← change fun host here =>
        host.files.make here target (.link text) 0x1FF host.clock with
    | .ok () => return true
    | .error fault =>
      err ("cannot create symbolic link " ++ quotedPair target " to " text ++ ": " ++ fault.wording)
  | kind =>
    match ← change fun host here =>
        host.files.make here target kind file.permissions host.clock with
    | .ok () => return true
    | .error fault =>
      err ("cannot create special file " ++ Quoted.always target ++ ": " ++ fault.wording)

/-- Makes a link in place of a copy. -/
def makeLink (style : Style) (source target : String) : Act Bool := do
  if style.makesSymbolicLinks then
    if !source.startsWith "/" && target.contains '/' && directoryPath target != "." then
      return ← err (Quoted.file target ++
        ": can make relative symbolic links only in current directory")
    match ← change fun host here =>
        host.files.make here target (.link source) 0x1FF host.clock with
    | .ok () => return true
    | .error fault =>
      err ("cannot create symbolic link " ++ quotedPair target " to " source ++ ": " ++
        fault.wording)
  else
    match ← change fun host here =>
        host.files.link here source target host.clock with
    | .ok () => return true
    | .error fault =>
      err ("cannot create hard link " ++ quotedPair target " to " source ++ ": " ++ fault.wording)

/-- Copies what a path leads to, and yields whether all went well. The fuel bounds the depth. -/
def copyPath (style : Style) : Nat → Bool → String → String → Act Bool
  | 0, _, _, _ => return false
  | fuel + 1, isArgument, source, target => do
    let follows := style.following == .always || (isArgument && style.following == .arguments)
    let found ← fileAt source follows
    match found with
    | .error fault => err ("cannot stat " ++ Quoted.always source ++ ": " ++ fault.wording)
    | .ok (number, file) =>
      let isDirectory := isDirectoryKind file.kind
      if isDirectory && !style.recursive then
        return ← err ("-r not specified; omitting directory " ++ Quoted.always source)
      if isArgument then
        let progress ← get
        let isSeen := progress.sources.any fun (path, seen) =>
          seen == number && (isDirectory || path == source)
        if isSeen && style.backup == .none then
          Task.warn ("warning: source " ++ (if isDirectory then "directory " else "file ") ++
            Quoted.always source ++ " specified more than once")
          return true
        set { progress with sources := (source, number) :: progress.sources }
      let isRegular :=
        match file.kind with
        | .regular _ | .program _ => true
        | .link _ => false
        | _ => !style.recursive && !isDirectory
      let looksAtLink := !isRegular || style.makesLinks || style.makesSymbolicLinks ||
        style.backup ≠ .none || style.removesTargets
      let old ← fileAt target (!looksAtLink)
      let verdict ←
        match old with
        | .ok (targetNumber, targetFile) => do
          let same ← observe fun self host =>
            let find (path : String) : Option Nat :=
              (host.files.find (host.directoryOf self) path true).toOption
            number == targetNumber ||
              (style.following == .always && (find source).isSome && find source == find target &&
                !style.removesTargets && !(style.makesLinks || style.makesSymbolicLinks))
          judge style source (number, file) target (targetNumber, targetFile) same
        | .error fault =>
          if fault == .notFound then pure (Verdict.goOn none true)
          else if fault == .notADirectory && !isDirectory then pure (Verdict.goOn none true)
          else do
            Task.err ("cannot stat " ++ Quoted.always target ++ ": " ++ fault.wording)
            pure (Verdict.stop false)
      match verdict with
      | .stop isFine => return isFine
      | .goOn backup isGone =>
        let isNew := isGone
        if !isDirectory then
          tell style "" source target backup
        let isFine ←
          if isDirectory then copyDirectory style fuel source (number, file) target isNew
          else if style.makesLinks || style.makesSymbolicLinks then makeLink style source target
          else do
            let copies := (← get).copies
            match if style.keepsLinks then copies.lookup number else none with
            | some path => makeLink { style with makesLinks := true } path target
            | none => do
              modify fun progress =>
                { progress with copies := (number, target) :: progress.copies }
              if isRegular then copyContent style source file target isNew
              else makeOther target file
        if isFine && isArgument && !isDirectory then
          if let .ok (copy, _) ← fileAt target false then
            modify fun progress => { progress with targets := (target, copy) :: progress.targets }
        return isFine
where
  /-- Copies the files in a directory. -/
  copyEntries (style : Style) (fuel : Nat) (source target : String) : List String → Act Bool
    | [] => return true
    | name :: rest => do
      let path := inside source name
      let isOwn ←
        match ← fileAt path false with
        | .ok (number, _) => do pure ((← get).made == some number)
        | .error _ => pure false
      if isOwn then
        let (source, target) := (← get).argument
        modify fun progress => { progress with holdsItself := true }
        err ("cannot copy a directory, " ++ quotedPair source ", into itself, " target)
      else
        let isFine ← copyPath style fuel false path (inside target name)
        if (← get).holdsItself then
          return false
        let others ← copyEntries style fuel source target rest
        return isFine && others
  /-- Copies a directory. -/
  copyDirectory (style : Style) (fuel : Nat) (source : String) (directory : Nat × File)
      (target : String) (isNew : Bool) : Act Bool := do
    let masked ← mask
    let ready ←
      if !isNew then pure true
      else do
        match ← makeDirectory target ((directory.2.permissions &&& (0xFFF ^^^ masked)) ||| 0x1C0) with
        | .error fault =>
          err ("cannot create directory " ++ Quoted.always target ++ ": " ++ fault.wording)
        | .ok () => do
          if let .ok (number, _) ← fileAt target false then
            modify fun progress =>
              { progress with made := progress.made <|> some number }
          tell style "" source target none
          pure true
    if !ready then
      return false
    let names ← observe fun _ host =>
      ((host.files.entries directory.1).mergeSort fun first second =>
        first.2 ≤ second.2).map Prod.fst
    let isFine ← copyEntries style fuel source target names
    if isNew then
      let _ ← change fun host here => do
        let number ← host.files.find here target true
        return host.files.setPermissions number
          (if style.keepsPermissions then directory.2.permissions
            else directory.2.permissions &&& (0xFFF ^^^ masked))
      if style.keepsTimes then
        keepAttributes { style with keepsPermissions := false } directory.2 target
    return isFine

/-! ## Moving -/

/-- Moves what a path leads to. -/
def movePath (style : Style) (source target : String) : Act Bool := do
  match ← fileAt source false with
  | .error fault => err ("cannot stat " ++ Quoted.always source ++ ": " ++ fault.wording)
  | .ok (number, file) =>
    let verdict ←
      match ← fileAt target false with
      | .ok (targetNumber, targetFile) =>
        judge style source (number, file) target (targetNumber, targetFile) (number == targetNumber)
      | .error _ => pure (Verdict.goOn none true)
    match verdict with
    | .stop isFine => return isFine
    | .goOn backup _ =>
      match ← change fun host here => host.files.rename here source target host.clock with
      | .ok () =>
        tell style "renamed " source target backup
        modify fun progress => { progress with targets := (target, number) :: progress.targets }
        return true
      | .error .invalidArgument =>
        err ("cannot move " ++ quotedPair source " to a subdirectory of itself, " target)
      | .error fault =>
        if [.alreadyExists, .isADirectory, .noSpace, .notEmpty].contains fault then
          err ("cannot overwrite " ++ Quoted.always target ++ ": " ++ fault.wording)
        else
          err ("cannot move " ++ quotedPair source " to " target ++ ": " ++ fault.wording)

/-! ## Arguments -/

/-- Deals with one argument. -/
def transfer (style : Style) (source target : String) : Act Unit := do
  modify fun progress =>
    { progress with made := none, holdsItself := false, argument := (source, target) }
  let _ ←
    if style.moves then movePath style source target
    else copyPath style depthLimit true source target

/-- The kind of backups that is asked for. -/
def backupOf (given : Given) : Task Backup := do
  if !given.has "b" && !given.has "S" then return .none
  match given.value? "b" with
  | none => return .existing
  | some word =>
    match ← Task.choose "backup type"
        [["none", "off"], ["simple", "never"], ["existing", "nil"], ["numbered", "t"]] word with
    | "none" => return .none
    | "simple" => return .simple
    | "numbered" => return .numbered
    | _ => return .existing

/-- What is done to a target that exists, and whether it is said that it is kept, by the options. -/
def clashOf (given : Given) : Task Clash := do
  match given.last? ["f", "i", "n", "u"] with
  | some "i" => return .ask
  | some "n" => return .keep
  | some "u" =>
    match given.value? "u" with
    | none => return .replaceOlder
    | some word =>
      match ← Task.choose "--update" [["all"], ["none"], ["older"]] word with
      | "none" => return .keep
      | "older" => return .replaceOlder
      | _ => return .replace
  | _ => return .replace

/-- Makes the directories of a path below a directory like those above the source, and tells whether
they are there. -/
def makeParents (style : Style) (start : String) : String → List String → Act Bool
  | _, [] => return true
  | passed, name :: rest => do
    if name.isEmpty then
      makeParents style start (passed ++ "/") rest
    else
      let source := passed ++ name
      let target := inside start source
      let ready ←
        if ← isDirectoryAt target true then pure true
        else do
          let bits :=
            match ← fileAt source true with
            | .ok (_, file) => file.permissions
            | .error _ => 0x1ED
          match ← makeDirectory target bits with
          | .ok () => do
            if style.verbose then
              Task.writeLine (source ++ " -> " ++ target)
            pure true
          | .error fault =>
            err ("cannot make directory " ++ Quoted.always target ++ ": " ++ fault.wording)
      if ready then makeParents style start (source ++ "/") rest else return false

/-- Complains about a target that is no directory. -/
def failTarget {α : Type} (what target : String) : Task α := do
  let fault :=
    match ← fileAt target true with
    | .ok _ => OsError.notADirectory
    | .error fault => fault
  Task.fail (what ++ Quoted.always target ++ ": " ++ fault.wording)

/-- Deals with the arguments of a program. -/
def run (style : Style) (given : Given) : Task Unit := do
  let trim (path : String) : String :=
    if given.has "strip-trailing-slashes" then withoutSlashes path else path
  let operands := given.operands
  let directory := given.value? "t"
  let least := if directory.isSome then 1 else 2
  if operands.isEmpty then
    Task.failUsage "missing file operand"
  if operands.length < least then
    Task.failUsage ("missing destination file operand after " ++ Quoted.always (operands.headD ""))
  if given.has "T" then
    if directory.isSome then
      Task.fail "cannot combine --target-directory (-t) and --no-target-directory (-T)"
    if let some extra := operands[2]? then
      Task.failUsage ("extra operand " ++ Quoted.always extra)
  let last := operands.getLastD ""
  let into : Option String ←
    match directory with
    | some directory => do
      if !(← isDirectoryAt directory true) then
        failTarget "target directory " directory
      pure (some directory)
    | none => do
      if given.has "T" then pure none
      else if ← isDirectoryAt last true then pure (some last)
      else do
        if 2 < operands.length then
          failTarget "target " last
        pure none
  let sources := if directory.isSome then operands else operands.dropLast
  let isParental := given.has "parents"
  let act : Act Unit := do
    match into with
    | some directory =>
      for source in sources do
        let source := trim source
        if isParental then
          let path := withoutSlashes source
          if ← makeParents style directory "" ((Files.namesOf path).dropLast) then
            transfer style source (inside directory path)
        else
          let name := lastName source
          let name := if name == ".." then "." else name
          transfer style source (inside directory name)
    | none =>
      if isParental then
        (Task.failUsage "with --parents, the destination must be a directory" : Task Unit)
      transfer style (trim (operands.headD "")) last
  let _ ← act.run {}

/-- Copies files. -/
def copy (arguments : List String) : Task Unit := do
  let table := ofLists "abdfHilLnprst:uvxPRS:TZ"
    (flags [("archive", "a"), ("attributes-only", "attributes-only"),
      ("copy-contents", "copy-contents"), ("debug", "v"), ("dereference", "L"), ("force", "f"),
      ("interactive", "i"), ("link", "l"), ("no-clobber", "n"), ("no-dereference", "P"),
      ("no-target-directory", "T"), ("one-file-system", "x"), ("parents", "parents"),
      ("path", "parents"), ("recursive", "R"), ("remove-destination", "remove-destination"),
      ("strip-trailing-slashes", "strip-trailing-slashes"), ("symbolic-link", "s"),
      ("verbose", "v"), ("context", "Z")] ++
      valued [("no-preserve", "no-preserve"), ("sparse", "sparse"), ("suffix", "S"),
        ("target-directory", "t")] ++
      [{ name := "backup", arity := .optional, key := "b" },
        { name := "preserve", arity := .optional, key := "preserve" },
        { name := "reflink", arity := .optional, key := "reflink" },
        { name := "update", arity := .optional, key := "u" }])
  let given ← Task.options table arguments
  let any (keys : List String) : Bool := keys.any given.has
  if given.has "n" then
    Task.warn ("warning: behavior of -n is non-portable and may change in future; " ++
      "use --update=none instead")
  let mut kept : List String := []
  for (key, value) in given.options do
    if key == "preserve" then
      for word in (Text.splitAt ',' (value.getD "mode,ownership,timestamps").toList) do
        let word ← Task.choose "--preserve"
          [["mode"], ["timestamps"], ["ownership"], ["links"], ["context"], ["xattr"], ["all"]]
          (String.ofList word)
        kept := word :: kept
  let keeps (words : List String) : Bool := words.any kept.contains
  let recursive := any ["a", "r", "R"]
  let following : Following :=
    match given.last? ["a", "d", "H", "L", "P"] with
    | some "H" => .arguments
    | some "L" => .always
    | some _ => .never
    | none => if recursive && !given.has "l" then .never else .always
  let clash ← clashOf given
  let backup ← backupOf given
  run
    { recursive := recursive
      following := following
      makesLinks := given.has "l"
      makesSymbolicLinks := given.has "s"
      keepsPermissions := any ["a", "p"] || keeps ["mode", "all"]
      keepsTimes := any ["a", "p"] || keeps ["timestamps", "all"]
      keepsLinks := any ["a", "d"] || keeps ["links", "all"]
      clash := clash
      forces := given.has "f"
      removesTargets := given.has "remove-destination"
      attributesOnly := given.has "attributes-only"
      backup := backup
      suffix := (given.value? "S").getD "~"
      verbose := given.has "v" } given

/-- Moves files. -/
def move (arguments : List String) : Task Unit := do
  let table := ofLists "bfint:uvS:TZ"
    (flags [("context", "Z"), ("debug", "v"), ("force", "f"), ("interactive", "i"),
      ("no-clobber", "n"), ("no-copy", "no-copy"), ("no-target-directory", "T"),
      ("strip-trailing-slashes", "strip-trailing-slashes"), ("verbose", "v")] ++
      valued [("suffix", "S"), ("target-directory", "t")] ++
      [{ name := "backup", arity := .optional, key := "b" },
        { name := "update", arity := .optional, key := "u" }])
  let given ← Task.options table arguments
  let clash ← clashOf given
  let backup ← backupOf given
  run
    { moves := true
      following := .never
      clash := clash
      tellsKept := given.has "n"
      backup := backup
      suffix := (given.value? "S").getD "~"
      verbose := given.has "v" } given

end Runbook.Machine.Program.Transfer
