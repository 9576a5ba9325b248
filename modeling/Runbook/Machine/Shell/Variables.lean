import Runbook.Machine.Shell.Memory

/-!
# Variables

Setting, unsetting and handing on variables. A variable can be local to a function or to one
command, which means that what it was before comes back afterwards.
-/

namespace Runbook.Machine.Shell.Act

/-- Complains unless a text can be the name of a variable. -/
def checkName (name : String) : Act Unit := do
  if !isName name then
    fail (name ++ ": bad variable name")

/-- Complains if a variable cannot be changed. -/
def checkChangeable (name : String) : Act Unit := do
  if ((← get).named? name).any Variable.isReadOnly then
    fail (name ++ ": is read only")

/-- Takes note of a new value of a variable that has a meaning for the shell. -/
def noteValue (name value : String) : Act Unit := do
  if name == "OPTIND" then
    let index ← number value
    modify fun memory => { memory with optionIndex := max index 1, optionOffset := none }
  if name == "PATH" then
    modify fun memory => { memory with found := [] }

/-- Gives a variable a value. It is handed on to programs if that is asked for, or if it was before.
-/
def assignAs (isExported isReadOnly : Bool) (name value : String) : Act Unit := do
  checkName name
  checkChangeable name
  noteValue name value
  modify fun memory =>
    let before := memory.named? name
    memory.putVariable name
      { value := some value
        isExported := isExported || memory.has "allexport" || before.any Variable.isExported
        isReadOnly := isReadOnly }

/-- Gives a variable a value. -/
def assign (name value : String) : Act Unit :=
  assignAs false false name value

/-- Takes away a variable. -/
def unset (name : String) : Act Unit := do
  checkName name
  checkChangeable name
  modify fun memory => memory.dropVariable name

/-- Marks a variable to be handed on or not to be changed, whether it has a value or not. -/
def markVariable (isExported isReadOnly : Bool) (name : String) : Act Unit := do
  checkName name
  modify fun memory =>
    let before := (memory.named? name).getD { value := none }
    memory.putVariable name
      { before with
        isExported := before.isExported || isExported
        isReadOnly := before.isReadOnly || isReadOnly }

/-- The name and the value that a text assigns. -/
def assignment? (text : String) : Option (String × String) :=
  let name := text.toList.takeWhile (· != '=')
  match text.toList.drop name.length with
  | _ :: value => some (String.ofList name, String.ofList value)
  | [] => none

/-- Remembers something that is going to come back. -/
def save (saved : Saved) : Act Unit :=
  modify fun memory =>
    match memory.scopes with
    | scope :: rest => { memory with scopes := (saved :: scope) :: rest }
    | [] => memory

/-- Makes a variable local, and gives it a value if the text assigns one. -/
def makeLocal (isExported : Bool) (text : String) : Act Unit := do
  if text == "-" then
    save (.options (← get).options)
  else
    let name := (assignment? text).elim text Prod.fst
    checkName name
    let before := (← get).named? name
    if before.isNone then
      markVariable isExported false name
    match assignment? text with
    | some (_, value) =>
      checkChangeable name
      save (.named name before)
      assignAs isExported false name value
    | none => save (.named name before)

/-- Begins a scope for what is local. -/
def openScope : Act Unit :=
  modify fun memory => { memory with scopes := [] :: memory.scopes }

/-- Puts back what was before something local. -/
def restore (saved : Saved) : Act Unit :=
  match saved with
  | .options before => modify fun memory => { memory with options := before }
  | .named name before => do
    match before.bind Variable.value with
    | some value => noteValue name value
    | none => if name == "PATH" then noteValue name ""
    modify fun memory =>
      match before with
      | some found => memory.putVariable name found
      | none => memory.dropVariable name

/-- Ends scopes until only so many are left. -/
def closeScopes (count : Nat) : Act Unit := do
  let scopes := (← get).scopes
  let given := scopes.take (scopes.length - count)
  modify fun memory => { memory with scopes := scopes.drop given.length }
  for saved in given.flatten do
    restore saved

end Runbook.Machine.Shell.Act
