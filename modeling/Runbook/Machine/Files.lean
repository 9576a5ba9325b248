import Runbook.Machine.Octets
import Runbook.OsError
import Runbook.Text.Split

/-!
# File trees

The files of a machine are numbered, and a directory gives names to some of them, so that a file can
have several names, or none while it is still open. A path is followed name by name: everything on
the way has to be a directory, and a symbolic link stands for the path that it holds.
-/

namespace Runbook.Machine

/-- A file that is not kept on a disk. -/
inductive Device where
  /-- It is always empty and forgets what is written to it. -/
  | nothing
  /-- It never ends and holds zeros. -/
  | zeros
  /-- It holds zeros too and has no room for anything. -/
  | full
  /-- The terminal of a process, which has none. -/
  | terminal
  /-- Whatever a process has open under a number. -/
  | descriptor (number : Nat)
  deriving Repr, DecidableEq

/-- What a file is. -/
inductive FileKind where
  | directory (parent : Nat) (entries : List (String × Nat))
  | regular (content : ByteArray)
  | link (target : String)
  /-- One of the programs that belong to the machine. -/
  | program (name : String)
  | device (device : Device)
  /-- A pipe that has a name. -/
  | queue (pipe : Nat)

/-- A file, with its permission bits and the time at which it was changed last. -/
structure File where
  kind : FileKind
  permissions : Nat
  modified : Nat := 0

/-- The files of a machine by their numbers. -/
structure Files where
  table : Array File

/-- Where a path leads: a directory, the name there, and the file with that name, if there is one.
-/
structure Place where
  parent : Nat
  name : String
  file : Option Nat
  /-- Whether a slash at the end of the path asks for a directory. -/
  slashed : Bool := false

namespace Files

/-- The number of the directory at the root. -/
def root : Nat := 0

/-- The file with a number. -/
def file? (files : Files) (number : Nat) : Option File :=
  files.table[number]?

/-- What the file with a number is. -/
def kind? (files : Files) (number : Nat) : Option FileKind :=
  (files.file? number).map File.kind

/-- Whether the file with a number is a directory. -/
def isDirectory (files : Files) (number : Nat) : Bool :=
  match files.kind? number with
  | some (.directory _ _) => true
  | _ => false

/-- The entries of a directory, and none of anything else. -/
def entries (files : Files) (number : Nat) : List (String × Nat) :=
  match files.kind? number with
  | some (.directory _ entries) => entries
  | _ => []

/-- The directory above a directory. -/
def parentOf (files : Files) (number : Nat) : Nat :=
  match files.kind? number with
  | some (.directory parent _) => parent
  | _ => root

/-- The files with one of them changed. -/
def modify (files : Files) (number : Nat) (change : File → File) : Files :=
  ⟨files.table.modify number change⟩

/-- The files with the entries of a directory changed at a time. -/
def modifyEntries (files : Files) (number time : Nat)
    (change : List (String × Nat) → List (String × Nat)) : Files :=
  files.modify number fun file =>
    match file.kind with
    | .directory parent entries =>
      { file with kind := .directory parent (change entries), modified := time }
    | _ => file

/-- The files with a new one, and its number. -/
def create (files : Files) (file : File) : Files × Nat :=
  (⟨files.table.push file⟩, files.table.size)

/-- The files with a name for one of them in a directory. -/
def enter (files : Files) (directory : Nat) (name : String) (number time : Nat) : Files :=
  files.modifyEntries directory time fun entries =>
    entries.filter (·.1 != name) ++ [(name, number)]

/-- The files without a name in a directory. -/
def leave (files : Files) (directory : Nat) (name : String) (time : Nat) : Files :=
  files.modifyEntries directory time fun entries => entries.filter (·.1 != name)

/-- The files with a new one that has a name in a directory, and its number. -/
def add (files : Files) (directory : Nat) (name : String) (file : File) : Files × Nat :=
  let (files, number) := files.create file
  (files.enter directory name number file.modified, number)

/-- The most octets of one name on a path. -/
def nameLimit : Nat := 255

/-- The most octets of a path. -/
def pathLimit : Nat := 4095

/-- How many symbolic links are followed on one path. -/
def linkLimit : Nat := 40

/-- More names than a path and the links on it can have together. -/
def walkLimit : Nat := 200000

/-- The names on a path. A path that begins or ends with a slash begins or ends with an empty name.
-/
def namesOf (path : String) : List String :=
  (Text.splitAt '/' path.toList).map String.ofList

/-- Where the names on a path start. -/
def startOf (directory : Nat) (path : String) : Nat :=
  if path.startsWith "/" then root else directory

/-- Follows names from a directory. The last one is followed too if it belongs to a symbolic link
and that is asked for, and in front of a slash at any rate. The fuel bounds the number of names. -/
def walk (files : Files) (follows : Bool) : Nat → Nat → Nat → List String → Except OsError Place
  | 0, _, _, _ => .error .tooManyLinks
  | fuel + 1, links, here, names =>
    match files.kind? here with
    | some (.directory parent entries) =>
      match names with
      | [] => .ok ⟨parent, ".", some here, false⟩
      | name :: rest =>
        if name == "" || name == "." then walk files follows fuel links here rest
        else if name == ".." then walk files follows fuel links parent rest
        else if nameLimit < name.length then .error .nameTooLong
        else
          match entries.lookup name with
          | none =>
            if rest.all (· == "") then .ok ⟨here, name, none, !rest.isEmpty⟩
            else .error .notFound
          | some number =>
            match files.kind? number with
            | some (.link target) =>
              if rest.isEmpty && !follows then .ok ⟨here, name, some number, false⟩
              else if links = 0 then .error .tooManyLinks
              else walk files follows fuel (links - 1) (startOf here target) (namesOf target ++ rest)
            | _ =>
              if rest.isEmpty then .ok ⟨here, name, some number, false⟩
              else walk files follows fuel links number rest
    | some _ => .error .notADirectory
    | none => .error .notFound

/-- Where a path leads from a directory. -/
def locate (files : Files) (directory : Nat) (path : String) (follows : Bool) :
    Except OsError Place :=
  if path.any (· == '\x00') then .error .nulInPath
  else if path.isEmpty then .error .notFound
  else if pathLimit < path.length then .error .nameTooLong
  else files.walk follows walkLimit linkLimit (startOf directory path) (namesOf path)

/-- The number of the existing file that a path leads to. -/
def find (files : Files) (directory : Nat) (path : String) (follows : Bool) :
    Except OsError Nat := do
  match (← files.locate directory path follows).file with
  | some number => .ok number
  | none => .error .notFound

/-- The names from the root to a directory, latest first. The fuel bounds the depth. -/
def namesAbove (files : Files) : Nat → Nat → List String
  | 0, _ => []
  | fuel + 1, number =>
    let parent := files.parentOf number
    match (files.entries parent).find? fun entry => entry.2 == number && number != parent with
    | some (name, _) => name :: files.namesAbove fuel parent
    | none => []

/-- The path of a directory. -/
def pathOf (files : Files) (number : Nat) : String :=
  "/" ++ "/".intercalate (files.namesAbove files.table.size number).reverse

/-- The names in a directory in ascending order. -/
def namesIn (files : Files) (number : Nat) : List String :=
  ((files.entries number).map Prod.fst).mergeSort fun first second => first ≤ second

/-- How many names a file has. A directory has one more for itself and one for each directory in it.
-/
def linkCount (files : Files) (number : Nat) : Nat :=
  match files.kind? number with
  | some (.directory _ entries) =>
    2 + (entries.filter fun entry => files.isDirectory entry.2).length
  | _ =>
    files.table.foldl
      (fun count file =>
        match file.kind with
        | .directory _ entries => count + (entries.filter fun entry => entry.2 == number).length
        | _ => count)
      0

/-- Makes a directory. -/
def makeDirectory (files : Files) (directory : Nat) (path : String) (permissions time : Nat) :
    Except OsError Files := do
  let place ← files.locate directory path false
  match place.file with
  | some _ => .error .alreadyExists
  | none =>
    .ok (files.add place.parent place.name ⟨.directory place.parent [], permissions, time⟩).1

/-- Removes an empty directory. -/
def removeDirectory (files : Files) (directory : Nat) (path : String) (time : Nat) :
    Except OsError Files := do
  let place ← files.locate directory path false
  match place.file with
  | none => .error .notFound
  | some number =>
    if !files.isDirectory number then .error .notADirectory
    else if number = root then .error .busy
    else if place.name == "." then
      .error (if (namesOf path).getLast? == some ".." then .notEmpty else .invalidArgument)
    else if !(files.entries number).isEmpty then .error .notEmpty
    else .ok (files.leave place.parent place.name time)

/-- Removes the name of a file that is no directory. -/
def remove (files : Files) (directory : Nat) (path : String) (time : Nat) :
    Except OsError Files := do
  let place ← files.locate directory path false
  match place.file with
  | none => .error .notFound
  | some number =>
    if files.isDirectory number then .error .isADirectory
    else .ok (files.leave place.parent place.name time)

/-- Whether a directory is another one or lies below it. The fuel bounds the depth. -/
def isBelow (files : Files) (other : Nat) : Nat → Nat → Bool
  | 0, _ => false
  | fuel + 1, number =>
    number == other || (number != root && files.isBelow other fuel (files.parentOf number))

/-- A path without the slashes at its end, unless there is nothing else. -/
def unslashed (path : String) : String :=
  let kept := (path.toList.reverse.dropWhile (· == '/')).reverse
  if kept.isEmpty then path else String.ofList kept

/-- Gives a file another name in place of the one that it has. A file that has the other name so far
loses it, and directories give way to directories only. -/
def rename (files : Files) (directory : Nat) (source target : String) (time : Nat) :
    Except OsError Files := do
  let old ← files.locate directory (unslashed source) false
  let new ← files.locate directory (unslashed target) false
  let number ← old.file.elim (.error .notFound) .ok
  let movesDirectory := files.isDirectory number
  if (source.endsWith "/" || target.endsWith "/") && !movesDirectory then
    throw .notADirectory
  if old.name == "." || new.name == "." then
    throw .busy
  if movesDirectory && files.isBelow number files.table.size new.parent then
    throw .invalidArgument
  match new.file with
  | some replaced =>
    if replaced = number then
      return files
    if movesDirectory && !files.isDirectory replaced then
      throw .notADirectory
    if !movesDirectory && files.isDirectory replaced then
      throw .isADirectory
    if !(files.entries replaced).isEmpty then
      throw .notEmpty
  | none => pure ()
  let files := (files.leave old.parent old.name time).enter new.parent new.name number time
  .ok (files.modify number fun file =>
    match file.kind with
    | .directory _ entries => { file with kind := .directory new.parent entries }
    | _ => file)

/-- Gives a file one more name. -/
def link (files : Files) (directory : Nat) (source target : String) (time : Nat) :
    Except OsError Files := do
  let number ← files.find directory source false
  let place ← files.locate directory target false
  if place.file.isSome then .error .alreadyExists
  else if place.slashed then .error .notFound
  else if files.isDirectory number then .error .notPermitted
  else .ok (files.enter place.parent place.name number time)

/-- Makes a file of a kind where there is none. -/
def make (files : Files) (directory : Nat) (path : String) (kind : FileKind)
    (permissions time : Nat) : Except OsError Files := do
  let place ← files.locate directory path false
  if place.file.isSome then .error .alreadyExists
  else if place.slashed then .error .notFound
  else .ok (files.add place.parent place.name ⟨kind, permissions, time⟩).1

/-- Changes the permission bits of a file. -/
def setPermissions (files : Files) (number permissions : Nat) : Files :=
  files.modify number fun file => { file with permissions := permissions }

/-- Changes the content of a regular file. -/
def setContent (files : Files) (number : Nat) (content : ByteArray) (time : Nat) : Files :=
  files.modify number fun file =>
    match file.kind with
    | .regular _ => { file with kind := .regular content, modified := time }
    | _ => file

/-- How many octets a file takes, where each entry of a directory counts as a whole block. -/
def sizeOf (files : Files) (number : Nat) : Nat :=
  match files.kind? number with
  | some (.regular content) => content.size
  | some (.program _) => 100000
  | some (.directory _ _) => 4096
  | some (.link target) => target.length
  | _ => 0

/-- Whether a file may be executed. -/
def isExecutable (files : Files) (number : Nat) : Bool :=
  match files.file? number with
  | some file => file.permissions &&& 0x49 != 0
  | none => false

end Files

end Runbook.Machine
