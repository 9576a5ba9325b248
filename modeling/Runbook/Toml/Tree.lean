import Runbook.Toml.Statement

/-!
# The tree of a document

Statements are merged into one tree. Each table remembers how it came about, because that decides
what may still be added to it: a table that was opened cannot be opened again or extended by dotted
keys, a table that only lies on the way to another one can still be opened, and values are closed.
-/

namespace Runbook.Toml

/-- How a table came about. -/
inductive Origin where
  /-- It was opened by its own line, or is an element of an array of tables. -/
  | opened
  /-- It lies on the way to a table that was opened. -/
  | onTheWay
  /-- It lies on the way to a key with dots. -/
  | dotted
  deriving Repr, DecidableEq

/-- A place in a tree that is still being built. -/
inductive Node where
  | value (value : Value)
  | table (origin : Origin) (entries : List (String × Node))
  /-- An array of tables that can still grow, with its last element apart. -/
  | elements (earlier : List (List (String × Node))) (last : List (String × Node))

mutual

/-- The value that a finished node stands for. -/
def Node.toValue : Node → Value
  | .value value => value
  | .table _ entries => .table (valuesOfEntries entries)
  | .elements earlier last =>
    .array (valuesOfElements earlier ++ [.table (valuesOfEntries last)])

/-- The values of the entries of a table. -/
def valuesOfEntries : List (String × Node) → List (String × Value)
  | [] => []
  | (key, node) :: rest => (key, node.toValue) :: valuesOfEntries rest

/-- The values of the elements of an array of tables. -/
def valuesOfElements : List (List (String × Node)) → List Value
  | [] => []
  | entries :: rest => .table (valuesOfEntries entries) :: valuesOfElements rest

end

/-- The entries of a table that is still being built. Their keys ascend. -/
abbrev Entries := List (String × Node)

/-- The entries with the node of a key replaced, or put where its key belongs. -/
def put (entries : Entries) (key : String) (node : Node) : Entries :=
  match entries with
  | [] => [(key, node)]
  | entry :: rest =>
    if entry.1 = key then (key, node) :: rest
    else if key < entry.1 then (key, node) :: entry :: rest
    else entry :: put rest key node

/-- Changes the table at the end of a path, where `way` says what the path belongs to. Tables that
are missing on the way come about, dotted keys do not pass through a table that was opened, and
nothing passes through a value. The last element of an array of tables stands for the array. -/
def changeAt (way : Origin) (change : Origin → Entries → Option Entries) :
    List String → Origin → Entries → Option Entries
  | [], origin, entries => change origin entries
  | key :: path, _, entries =>
    match entries.lookup key with
    | none => (changeAt way change path way []).map fun child => put entries key (.table way child)
    | some (.table origin child) =>
      if way = .dotted ∧ origin = .opened then
        none
      else
        (changeAt way change path origin child).map fun child =>
          put entries key (.table origin child)
    | some (.elements earlier last) =>
      (changeAt way change path .opened last).map fun last =>
        put entries key (.elements earlier last)
    | some (.value _) => none

/-- Gives a key its value. A key occurs once, and a key with dots adds only to a table that came
about in the same way. -/
def assign (path : KeyPath) (value : Value) (origin : Origin) (entries : Entries) :
    Option Entries :=
  changeAt .dotted
    (fun parent entries =>
      if (path.1.isEmpty || parent == .dotted) && (entries.lookup path.2).isNone then
        some (put entries path.2 (.value value))
      else
        none)
    path.1 origin entries

/-- Opens a table: a missing one, or one that so far only lay on the way to another. -/
def openTable (path : KeyPath) (entries : Entries) : Option Entries :=
  changeAt .onTheWay
    (fun _ entries =>
      match entries.lookup path.2 with
      | none => some (put entries path.2 (.table .opened []))
      | some (.table .onTheWay child) => some (put entries path.2 (.table .opened child))
      | some _ => none)
    path.1 .opened entries

/-- Opens another element of an array of tables. -/
def openElement (path : KeyPath) (entries : Entries) : Option Entries :=
  changeAt .onTheWay
    (fun _ entries =>
      match entries.lookup path.2 with
      | none => some (put entries path.2 (.elements [] []))
      | some (.elements earlier last) =>
        some (put entries path.2 (.elements (earlier ++ [last]) []))
      | some _ => none)
    path.1 .opened entries

mutual

/-- The value of what is written. -/
def Written.value? : Written → Option Value
  | .value value => some value
  | .array items => (valuesOfItems? items).map .array
  | .table entries =>
    (inlineEntries? entries []).map fun entries => .table (valuesOfEntries entries)

/-- The values of the items of an array. -/
def valuesOfItems? : List Written → Option (List Value)
  | [] => some []
  | item :: rest => do
    let value ← item.value?
    let values ← valuesOfItems? rest
    some (value :: values)

/-- Merges the entries of a table between braces into those that came before. -/
def inlineEntries? : List (KeyPath × Written) → Entries → Option Entries
  | [], entries => some entries
  | (path, written) :: rest, entries => do
    let value ← written.value?
    let entries ← assign path value .opened entries
    inlineEntries? rest entries

end

/-- A tree that is being built, and the path of the table that was opened last. -/
structure Builder where
  root : Entries := []
  current : List String := []

namespace Builder

/-- Adds a value below the table that was opened last. -/
def assignCurrent (builder : Builder) (path : KeyPath) (value : Value) : Option Builder :=
  (changeAt .onTheWay (assign path value) builder.current .opened builder.root).map fun root =>
    { builder with root := root }

/-- Adds a statement. -/
def add (builder : Builder) : Statement → Option Builder
  | .openTable path =>
    (openTable path builder.root).map fun root => ⟨root, path.1 ++ [path.2]⟩
  | .openElement path =>
    (openElement path builder.root).map fun root => ⟨root, path.1 ++ [path.2]⟩
  | .assign path written =>
    written.value?.bind (builder.assignCurrent path)

end Builder

/-- The entries of the tree that a document describes. -/
def parse? (document : String) : Option (List (String × Value)) := do
  let statements ← statements? document
  let builder ← statements.foldlM Builder.add {}
  some (valuesOfEntries builder.root)

end Runbook.Toml
