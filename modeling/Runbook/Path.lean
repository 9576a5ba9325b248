import Runbook.Text.Split

/-!
# Paths

Paths are texts with slashes. Joining and taking the parent work on the spelling alone and never
look at a file system.
-/

namespace Runbook.Path

/-- A path below a base. An absolute path stands for itself, and a slash is put in between unless
the base is empty or ends in one. -/
def join (base path : String) : String :=
  if path.startsWith "/" then
    path
  else if base.isEmpty || base.endsWith "/" then
    base ++ path
  else
    base ++ "/" ++ path

/-- The start of a path that belongs to no component before a slash, and the rest: the root, or a
dot in front of everything else. -/
def splitStart : List Char → List Char × List Char
  | '/' :: rest => (['/'], rest)
  | ['.'] => (['.'], [])
  | '.' :: '/' :: rest => (['.'], '/' :: rest)
  | path => ([], path)

/-- Whether a component leads nowhere else. -/
def isSilent (component : List Char) : Bool :=
  component.isEmpty || component == ['.']

/-- The directory of a path without its last component, unless that is no directory at all. Empty
components and single dots in front of what is removed are removed too. -/
def parent? (path : String) : Option String :=
  let (start, body) := splitStart path.toList
  match (Text.splitAt '/' body).reverse.dropWhile isSilent with
  | [] => none
  | _ :: above =>
    let kept := (above.dropWhile isSilent).reverse
    let directory := start ++ ['/'].intercalate kept
    if directory.isEmpty then none else some (String.ofList directory)

end Runbook.Path
