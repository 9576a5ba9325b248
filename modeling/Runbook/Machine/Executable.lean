import Runbook.Machine.Host

/-!
# Executables

What starting a program comes to: the search along the directories of the environment, the kinds of
executable files, the interpreters that they name, and the refusals.
-/

namespace Runbook.Machine

/-- Where programs are looked for unless the environment says otherwise. -/
def standardPath : String := "/usr/local/sbin:/usr/local/bin:/usr/sbin:/usr/bin:/sbin:/bin"

/-- The most octets of an argument, with the one that ends it. -/
def argumentLimit : Nat := 131072

/-- The most octets of all arguments together, where each takes some for its place as well. -/
def argumentsLimit : Nat := 2097152

/-- Whether arguments are too long to be handed to a program. -/
def areTooLong (argv : List String) : Bool :=
  argv.any (fun arg => argumentLimit ≤ arg.length) ||
    argumentsLimit < (argv.map fun arg => arg.length + 9).foldl (· + ·) 0

/-- How often the interpreter of a file may be a file with an interpreter. -/
def interpreterDepth : Nat := 5

/-- How many octets of a file are looked at for an interpreter. -/
def interpreterLimit : Nat := 255

/-- A program of the machine with the arguments that it gets. -/
structure Invoked where
  program : String
  argv : List String

/-- Whether a character is a blank within a line. -/
def isLineBlank (c : Char) : Bool := c == ' ' || c == '\t'

/-- The interpreter that the first line of a file names, and its argument, given the octets behind
the mark and whether there is more of the file. -/
def interpreter? (text : List Char) (goesOn : Bool) : Option (List String) :=
  let line := text.takeWhile (· != '\n')
  let unended := line.length = text.length && goesOn
  let line := line.dropWhile isLineBlank
  let name := line.takeWhile fun c => !isLineBlank c && c != '\x00'
  let rest := line.drop name.length
  if name.isEmpty || (unended && rest.isEmpty) then
    none
  else
    let argument := (rest.dropWhile isLineBlank).takeWhile (· != '\x00')
    let argument := (argument.reverse.dropWhile isLineBlank).reverse
    some (String.ofList name :: (if argument.isEmpty then [] else [String.ofList argument]))

namespace Host

/-- The program that the file at a path runs, with its arguments. A file that names an interpreter
is handed to it behind the argument of the interpreter. The depth bounds how often that happens. -/
def invoked (host : Host) (self : Nat) : Nat → String → List String → Except OsError Invoked
  | depth, path, argv => do
    let number ← host.files.find (host.directoryOf self) path true
    if !host.files.isExecutable number then
      throw .permissionDenied
    match host.files.kind? number with
    | some (.program name) =>
      if areTooLong argv then .error .argumentListTooLong else .ok ⟨name, argv⟩
    | some (.regular content) =>
      if areTooLong argv then
        throw .argumentListTooLong
      if Octets.ofPart content 0 2 != "#!" then
        throw .notExecutable
      let text := (Octets.ofPart content 2 interpreterLimit).toList
      match interpreter? text (interpreterLimit < content.size), depth with
      | none, _ => .error .notExecutable
      | some _, 0 => .error .tooManyLinks
      | some (name :: argument), depth + 1 =>
        host.invoked self depth name (name :: argument ++ path :: argv.drop 1)
      | some [], _ => .error .notExecutable
    | _ => .error .permissionDenied

/-- Tries directories one after the other. A refusal of permission is remembered and passed over,
and so are missing files, while anything else settles the matter. -/
def search {α : Type} (attempt : String → Except OsError α) (name : String) :
    Option OsError → List String → Except OsError α
  | refusal, [] => .error (refusal.getD .notFound)
  | refusal, directory :: rest =>
    match attempt (if directory.isEmpty then name else directory ++ "/" ++ name) with
    | .ok found => .ok found
    | .error .permissionDenied => search attempt name (some .permissionDenied) rest
    | .error .notFound | .error .notADirectory => search attempt name refusal rest
    | .error fault => .error fault

/-- The directories in which an environment looks for programs. -/
def searchPath (environment : List (String × String)) : List String :=
  let path := (environment.lookup "PATH").getD standardPath
  (Text.splitAt ':' path.toList).map String.ofList

/-- The path of the program that a name stands for, together with what it runs. A name with a slash
is a path. -/
def resolve (host : Host) (self : Nat) (environment : List (String × String))
    (argv : List String) : Except OsError (String × Invoked) :=
  match argv with
  | [] => .error .notFound
  | name :: _ =>
    if argv.any fun arg => arg.any (· == '\x00') then .error .nulInArgument
    else if name.isEmpty then .error .notFound
    else
      let attempt (path : String) : Except OsError (String × Invoked) :=
        (host.invoked self interpreterDepth path argv).map fun invoked => (path, invoked)
      if name.any (· == '/') then attempt name
      else search attempt name none (searchPath environment)

end Host

end Runbook.Machine
