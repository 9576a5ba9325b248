import Runbook.Changelog.Basic
import Runbook.Failure
import Runbook.Toml.Tree

/-!
# Reading changelogs

A changelog is a TOML document. Declared keys have to hold values of their types, absent ones take
their defaults, and all other keys mean nothing, though their values have to fit. A record may also
be written as an array of its fields in the order of declaration, where missing fields are absent
and surplus items mean nothing. The entries of a table are visited in the order of their keys, and
the first fault counts.
-/

namespace Runbook

namespace Document

open Toml (Value)

/-- What reading a part of a document yields. -/
abbrev Reading (α : Type) := Except DocumentFault α

/-- A text. -/
def text : Value → Reading String
  | .text value => .ok value
  | _ => .error .mistyped

/-- The items of an array, each read in the same way. -/
def items {α : Type} (read : Value → Reading α) : Value → Reading (List α)
  | .array values => values.mapM read
  | _ => .error .mistyped

/-- A text that has to name something. -/
def named {α : Type} (parse : String → Except String α) (value : Value) : Reading α := do
  let name ← text value
  (parse name).mapError .rejected

/-- The fields of a record in the order in which they are visited, given the names of all fields in
the order of declaration. A moment is a record in which none of them occurs. -/
def fields (names : List String) : Value → Reading (List (String × Value))
  | .table entries => .ok entries
  | .array values => .ok (names.zip values)
  | .moment _ => .ok []
  | _ => .error .mistyped

/-- A record that is unchanged by a key that means nothing. -/
def ignoring {α : Type} (record : α) (value : Value) : Reading α :=
  if value.fits then .ok record else .error .mistyped

/-- A field of the settings. -/
def settingsField (settings : Settings) : String × Value → Reading Settings
  | ("output_encoding", value) => do
    let encoding ← named OutputEncoding.parse value
    return { settings with encoding := encoding }
  | ("execution_mode", value) => do
    let mode ← named ExecutionMode.parse value
    return { settings with mode := mode }
  | (_, value) => ignoring settings value

/-- The settings. -/
def settings (value : Value) : Reading Settings := do
  (← fields ["output_encoding", "execution_mode"] value).foldlM settingsField {}

/-- A field of a command. -/
def commandField (command : CommandEntry) : String × Value → Reading CommandEntry
  | ("executable", value) => do
    let executable ← text value
    return { command with executable := some executable }
  | ("args", value) => do
    let args ← items text value
    return { command with args := args }
  | ("os", value) => do
    let os ← text value
    return { command with os := some os }
  | ("timeout", value) => do
    let timeout ← text value
    return { command with timeout := some timeout }
  | (_, value) => ignoring command value

/-- A command. -/
def command (value : Value) : Reading CommandEntry := do
  (← fields ["executable", "args", "os", "timeout"] value).foldlM commandField {}

/-- A field of a change set. -/
def changeSetField (entry : ChangeSetEntry) : String × Value → Reading ChangeSetEntry
  | ("id", value) => do
    let id ← text value
    return { entry with id := id }
  | ("author", value) => do
    let author ← text value
    return { entry with author := author }
  | ("comment", value) => do
    let comment ← text value
    return { entry with comment := some comment }
  | ("files", value) => do
    let files ← items text value
    return { entry with files := files }
  | ("execute_command", value) => do
    let command ← command value
    return { entry with command := some command }
  | (_, value) => ignoring entry value

/-- A change set. -/
def changeSet (value : Value) : Reading ChangeSetEntry := do
  (← fields ["id", "author", "comment", "files", "execute_command"] value).foldlM changeSetField {}

/-- A field of a changelog. -/
def changelogField (changelog : Changelog) : String × Value → Reading Changelog
  | ("changeset", value) => do
    let entries ← items changeSet value
    return { changelog with entries := entries }
  | ("config", value) => do
    let settings ← settings value
    return { changelog with settings := settings }
  | (_, value) => ignoring changelog value

/-- The changelog in a document. -/
def changelog (entries : List (String × Value)) : Reading Changelog :=
  entries.foldlM changelogField {}

end Document

namespace Changelog

/-- The changelog that a text describes. -/
def ofText (text : String) : Except DocumentFault Changelog :=
  match Toml.parse? text with
  | none => .error .malformed
  | some entries => Document.changelog entries

/-- The changelog in the content of a file. -/
def ofOctets (octets : List UInt8) : Except Failure Changelog :=
  match Text.Utf8.decode? octets with
  | none => .error (.io .notUtf8)
  | some text => (ofText text).mapError .document

end Changelog

end Runbook
