import Runbook.Machine.Shell.Expansion
import Runbook.Machine.Shell.Job

/-!
# Redirections

Where descriptors are made to lead. The names of files are expanded before anything is opened.
What a descriptor led to before is kept under a great number until the command has ended.
-/

namespace Runbook.Machine.Shell

/-- A target with its name expanded. -/
inductive Destination where
  | read (path : String)
  | write (path : String) (overrides : Bool)
  | append (path : String)
  | readWrite (path : String)
  | copy (number : Nat)
  | close
  | document (number : Nat) (expands : Bool)
  deriving Repr, DecidableEq

namespace Act

/-- The wording of the refusal of a file, with other words for one that is missing. -/
def refusal (missing : String) (fault : OsError) : String :=
  match fault with
  | .notFound | .notADirectory => missing
  | _ => fault.wording

/-- The wording of the refusal to open a file for reading. -/
def readRefusal (path : String) (fault : OsError) : String :=
  "cannot open " ++ path ++ ": " ++ refusal "No such file" fault

/-- The wording of the refusal to make a file. -/
def writeRefusal (path : String) (fault : OsError) : String :=
  "cannot create " ++ path ++ ": " ++ refusal "Directory nonexistent" fault

/-- Expands the name of a target. -/
def expandTarget (substitute : Substitute) (target : Target) : Act Destination := do
  let expand (word : Word) : Act String := expandText substitute { tilde := true } word
  match target with
  | .read name => return .read (← expand name)
  | .write name overrides => return .write (← expand name) overrides
  | .append name => return .append (← expand name)
  | .readWrite name => return .readWrite (← expand name)
  | .copy number => return .copy number
  | .close => return .close
  | .document number expands => return .document number expands
  | .copyOf word =>
    let text ← expand word
    match Reader.copyTarget (text.toList.map Part.char) with
    | .copy number => return .copy number
    | .close => return .close
    | _ =>
      modify fun memory => { memory with line := memory.readingLine }
      fail "Syntax error: Bad fd number"

/-- Expands the names of redirections. -/
def expandTargets (substitute : Substitute) (redirections : List Redirection) :
    Act (List (Nat × Destination)) :=
  redirections.mapM fun (descriptor, target) => do
    return (descriptor, ← expandTarget substitute target)

/-- Opens a file for writing without harming one that exists. -/
def openCarefully (path : String) : Act (Except OsError Nat) := do
  let kind ← Acting.observe fun self host =>
    match host.files.find (host.directoryOf self) path true with
    | .ok number => host.files.kind? number
    | .error _ => none
  match kind with
  | none => Acting.openPath path { writes := true, creates := true, exclusive := true }
  | some (.regular _) | some (.program _) => return .error .alreadyExists
  | some _ => Acting.openPath path { writes := true }

/-- How many octets of a document are put into a pipe before anybody reads them. -/
def documentLimit : Nat := 4096

/-- Opens a pipe that holds a text. -/
def openText (text : String) : Act Nat := do
  let (reading, writing) ← Acting.perform fun self host => host.openPipe self
  if text.length ≤ documentLimit then
    writeNow writing text
  else
    let _ ← forkShell (fun _ => Acting.finish 0) none false do
      Acting.close reading
      writeNow writing text
      Acting.finish 0
  Acting.close writing
  return reading

/-- Opens a destination, and yields the number under which it is open, if there is anything to open.
-/
def openDestination (substitute : Substitute) (destination : Destination) : Act (Option Nat) := do
  let settle (wording : OsError → String) (opened : Except OsError Nat) : Act (Option Nat) := do
    match opened with
    | .ok number => return some number
    | .error fault => fail (wording fault)
  match destination with
  | .read path => settle (readRefusal path) (← Acting.openPath path { reads := true })
  | .readWrite path =>
    settle (writeRefusal path)
      (← Acting.openPath path { reads := true, writes := true, creates := true })
  | .write path overrides =>
    if (← get).has "noclobber" && !overrides then
      settle (writeRefusal path) (← openCarefully path)
    else
      settle (writeRefusal path)
        (← Acting.openPath path { writes := true, creates := true, truncates := true })
  | .append path =>
    settle (writeRefusal path)
      (← Acting.openPath path { writes := true, creates := true, appends := true })
  | .document number expands =>
    let word := ((← get).documents[number]?).getD []
    let text ←
      if expands then expandText substitute { isQuoted := true } word
      else pure (textOf (word.filterMap fun part =>
        match part with
        | .char c | .escaped c => some (.plain c)
        | _ => none))
    return some (← openText text)
  | .copy _ | .close => return none

/-- The least number under which the former meaning of a descriptor is kept. -/
def keptFrom : Nat := 10

/-- Keeps what a descriptor leads to. -/
def keep (descriptor : Nat) : Act Unit := do
  let memory ← get
  match memory.redirections with
  | [] => return ()
  | kept :: rest =>
    if (kept.lookup descriptor).isSome then
      return ()
    let former ← Acting.request fun self host =>
      host.duplicateAbove self descriptor keptFrom true
    let entry : Nat × Former :=
      match former with
      | .ok copy => (descriptor, .kept copy)
      | .error _ => (descriptor, .closed)
    modify fun memory => { memory with redirections := (entry :: kept) :: rest }

/-- Makes a descriptor lead elsewhere. -/
def redirectOne (substitute : Substitute) (keeps : Bool) (descriptor : Nat)
    (destination : Destination) : Act Unit := do
  if destination == .copy descriptor then
    return ()
  let opened ← openDestination substitute destination
  if opened == some descriptor then
    if keeps then
      modify fun memory =>
        match memory.redirections with
        | kept :: rest =>
          if (kept.lookup descriptor).isSome then memory
          else { memory with redirections := ((descriptor, .closed) :: kept) :: rest }
        | [] => memory
    return ()
  if keeps then
    keep descriptor
  match destination, opened with
  | .copy number, _ =>
    match ← Acting.request fun self host =>
        (host.duplicate self number descriptor).map fun host => (host, ()) with
    | .ok () => return ()
    | .error fault => fail (toString number ++ ": " ++ fault.wording)
  | _, some number =>
    let _ ← Acting.request fun self host =>
      (host.duplicate self number descriptor).map fun host => (host, ())
    Acting.close number
  | _, none => Acting.close descriptor

/-- Makes descriptors lead elsewhere, one after the other. -/
def redirectAll (substitute : Substitute) (keeps : Bool)
    (destinations : List (Nat × Destination)) : Act Unit := do
  for (descriptor, destination) in destinations do
    redirectOne substitute keeps descriptor destination

/-- Begins redirections that are going to be undone. -/
def openRedirections : Act Unit :=
  modify fun memory => { memory with redirections := [] :: memory.redirections }

/-- Ends the latest redirections, either undoing them or leaving them as they are. -/
def closeRedirections (undoes : Bool) : Act Unit := do
  match (← get).redirections with
  | [] => return ()
  | kept :: rest =>
    modify fun memory => { memory with redirections := rest }
    for (descriptor, former) in kept do
      match former with
      | .closed => if undoes then Acting.close descriptor
      | .kept copy =>
        if undoes then
          let _ ← Acting.request fun self host =>
            (host.duplicate self copy descriptor).map fun host => (host, ())
        Acting.close copy

/-- Undoes redirections until only those of so many commands are left. The fuel bounds how many
there are. -/
def closeRedirectionsTo (count : Nat) : Nat → Act Unit
  | 0 => return ()
  | fuel + 1 => do
    if count < (← get).redirections.length then
      closeRedirections true
      closeRedirectionsTo count fuel

/-- Makes descriptors lead elsewhere, and yields whether that worked. -/
def redirectSafely (substitute : Substitute) (destinations : List (Nat × Destination)) :
    Act Bool := do
  try
    redirectAll substitute true destinations
    return true
  catch reason =>
    if reason == .error then
      return false
    else
      throw reason

end Act

end Runbook.Machine.Shell
