import Mathlib
import Runbook.Proofs.Changelog.Records
import Runbook.Run

/-!
# What reading a changelog depends on

Documents in which all records are written as tables are read by their declared keys. The types of
those keys decide whether reading succeeds, what they hold decides what is read, and nothing else
makes a difference as long as the document is accepted (`read_by_declared_keys`).
-/

namespace Runbook

namespace Document

open Toml (Value entriesFit)

/-- The declared keys of the settings. -/
def settingsTypes : Types :=
  [("output_encoding", Reads (NameOf OutputEncoding.parse)),
    ("execution_mode", Reads (NameOf ExecutionMode.parse))]

/-- The declared keys of a command. -/
def commandTypes : Types :=
  [("executable", Reads TextOf), ("args", Reads TextsOf), ("os", Reads TextOf),
    ("timeout", Reads TextOf)]

/-- The declared keys of a change set. -/
def changeSetTypes : Types :=
  [("id", Reads TextOf), ("author", Reads TextOf), ("comment", Reads TextOf),
    ("files", Reads TextsOf), ("execute_command", IsRecord commandTypes)]

/-- The declared keys of a changelog. -/
def changelogTypes : Types :=
  [("changeset", fun value =>
      ∃ items, value = .array items ∧ ∀ item ∈ items, IsRecord changeSetTypes item),
    ("config", IsRecord settingsTypes)]

/-- The settings that the entries of a table tell. -/
structure SettingsTold (entries : List (String × Value)) (settings : Settings) : Prop where
  encoding : Told entries "output_encoding" (NameOf OutputEncoding.parse) .utf8 settings.encoding
  mode : Told entries "execution_mode" (NameOf ExecutionMode.parse) .live settings.mode

/-- The command that the entries of a table tell. -/
structure CommandTold (entries : List (String × Value)) (command : CommandEntry) : Prop where
  executable : Told entries "executable" (Given TextOf) none command.executable
  args : Told entries "args" TextsOf [] command.args
  os : Told entries "os" (Given TextOf) none command.os
  timeout : Told entries "timeout" (Given TextOf) none command.timeout

/-- The change set that the entries of a table tell. -/
structure ChangeSetTold (entries : List (String × Value)) (entry : ChangeSetEntry) : Prop where
  id : Told entries "id" TextOf "" entry.id
  author : Told entries "author" TextOf "" entry.author
  comment : Told entries "comment" (Given TextOf) none entry.comment
  files : Told entries "files" TextsOf [] entry.files
  command : Told entries "execute_command" (Given (RecordOf CommandTold)) none entry.command

/-- The changelog that a document tells. Its change sets are in the order of the document. -/
structure ChangelogTold (document : List (String × Value)) (changelog : Changelog) : Prop where
  settings : Told document "config" (RecordOf SettingsTold) {} changelog.settings
  entries : Told document "changeset" (fun value entries =>
    ∃ items, value = .array items ∧ List.Forall₂ (RecordOf ChangeSetTold) items entries)
    [] changelog.entries

/-- A change set that does not pass for one, and neither does its command for a command. -/
def ChangeSetInTables (value : Value) : Prop :=
  ¬ PassesForRecord value ∧
    ∀ entries, value = .table entries → ∀ command, ("execute_command", command) ∈ entries →
      ¬ PassesForRecord command

/-- The records of a document are written as tables if they are records at all. -/
structure InTables (document : List (String × Value)) : Prop where
  settings : ∀ value, ("config", value) ∈ document → ¬ PassesForRecord value
  changeSets : ∀ items, ("changeset", .array items) ∈ document → ∀ item ∈ items,
    ChangeSetInTables item

/-- What counts in the settings. -/
def settingsPart : Value → Value :=
  settingsTypes.tablePart fun _ value => value

/-- What counts in a command. -/
def commandPart : Value → Value :=
  commandTypes.tablePart fun _ value => value

/-- What counts in a change set. -/
def changeSetPart : Value → Value :=
  changeSetTypes.tablePart fun key value =>
    if key = "execute_command" then commandPart value else value

/-- What counts in the change sets of a document. -/
def changeSetsPart : Value → Value
  | .array items => .array (items.map changeSetPart)
  | value => value

/-- What counts in a document. -/
def changelogPart (document : List (String × Value)) : List (String × Value) :=
  changelogTypes.part (fun key value =>
    if key = "config" then settingsPart value
    else if key = "changeset" then changeSetsPart value
    else value) document

variable {α : Type} {key : String} {value : Value} {entry : String × Value}
  {entries document : List (String × Value)}

/-! ### Settings -/

theorem mem_settings_keys : key ∈ settingsTypes.keys ↔
    key = "output_encoding" ∨ key = "execution_mode" := by
  simp [settingsTypes, Types.keys]

theorem settingsField_undeclared (h : key ∉ settingsTypes.keys) (settings : Settings) :
    settingsField settings (key, value) = ignoring settings value := by
  simp only [mem_settings_keys, not_or] at h
  rw [settingsField.eq_def]
  split <;> simp_all

/-- A field of the settings is judged by its key. -/
theorem settingsField_reads_iff (settings : Settings) :
    (∃ next, settingsField settings entry = .ok next) ↔
      entry.2.fits = true ∧ settingsTypes.Admit entry := by
  obtain ⟨key, value⟩ := entry
  by_cases hkey : key ∈ settingsTypes.keys
  · rcases mem_settings_keys.1 hkey with rfl | rfl
    · exact declared_reads_iff rfl named_reads_iff
    · exact declared_reads_iff rfl named_reads_iff
  · rw [settingsField_undeclared hkey]
    exact undeclared_reads_iff hkey

/-- A field of the settings leaves the others unchanged. -/
theorem settingsField_frame {settings next : Settings}
    (h : settingsField settings entry = .ok next) :
    (entry.1 ≠ "output_encoding" → next.encoding = settings.encoding) ∧
      (entry.1 ≠ "execution_mode" → next.mode = settings.mode) := by
  obtain ⟨key, value⟩ := entry
  by_cases hkey : key ∈ settingsTypes.keys
  · rcases mem_settings_keys.1 hkey with rfl | rfl <;>
      obtain ⟨_, -, rfl⟩ := pass_eq_ok_iff.1 h <;> simp
  · rw [settingsField_undeclared hkey] at h
    obtain ⟨-, rfl⟩ := ignoring_eq_ok_iff.1 h
    exact ⟨fun _ => rfl, fun _ => rfl⟩

/-- The settings can be read exactly if their declared keys have values of their types. -/
theorem settings_reads_iff (hform : ¬ PassesForRecord value) :
    (∃ found, settings value = .ok found) ↔
      value.fits = true ∧ IsRecord settingsTypes value :=
  value_reads_iff hform fun _ _ _ _ => settingsField_reads_iff

/-- The settings that are read are those that the entries tell. -/
theorem settings_told {found : Settings} (hform : ¬ PassesForRecord value) (hkeys : value.Ascends)
    (h : settings value = .ok found) : RecordOf SettingsTold value found := by
  obtain ⟨entries, rfl, hentries⟩ := record_of_table hform h
  have hkeys := hkeys.1
  exact ⟨entries, rfl,
    { encoding := told_of_record (fun _ _ => rfl) (fun _ _ _ _ h => named_eq_ok_iff.1 h)
        (fun _ _ _ h => (settingsField_frame h).1) hkeys hentries
      mode := told_of_record (fun _ _ => rfl) (fun _ _ _ _ h => named_eq_ok_iff.1 h)
        (fun _ _ _ h => (settingsField_frame h).2) hkeys hentries }⟩

/-- The settings are read from their declared keys. -/
theorem settings_of_part (hfits : value.fits = true) :
    settings (settingsPart value) = settings value :=
  value_of_part settingsField_undeclared (fun _ _ _ _ => rfl) hfits

/-! ### Commands -/

theorem mem_command_keys : key ∈ commandTypes.keys ↔
    key = "executable" ∨ key = "args" ∨ key = "os" ∨ key = "timeout" := by
  simp [commandTypes, Types.keys]

theorem commandField_undeclared (h : key ∉ commandTypes.keys) (command : CommandEntry) :
    commandField command (key, value) = ignoring command value := by
  simp only [mem_command_keys, not_or] at h
  rw [commandField.eq_def]
  split <;> simp_all

/-- A field of a command is judged by its key. -/
theorem commandField_reads_iff (command : CommandEntry) :
    (∃ next, commandField command entry = .ok next) ↔
      entry.2.fits = true ∧ commandTypes.Admit entry := by
  obtain ⟨key, value⟩ := entry
  by_cases hkey : key ∈ commandTypes.keys
  · rcases mem_command_keys.1 hkey with rfl | rfl | rfl | rfl
    · exact declared_reads_iff rfl text_reads_iff
    · exact declared_reads_iff rfl texts_reads_iff
    · exact declared_reads_iff rfl text_reads_iff
    · exact declared_reads_iff rfl text_reads_iff
  · rw [commandField_undeclared hkey]
    exact undeclared_reads_iff hkey

/-- A field of a command leaves the others unchanged. -/
theorem commandField_frame {command next : CommandEntry}
    (h : commandField command entry = .ok next) :
    (entry.1 ≠ "executable" → next.executable = command.executable) ∧
      (entry.1 ≠ "args" → next.args = command.args) ∧
      (entry.1 ≠ "os" → next.os = command.os) ∧
      (entry.1 ≠ "timeout" → next.timeout = command.timeout) := by
  obtain ⟨key, value⟩ := entry
  by_cases hkey : key ∈ commandTypes.keys
  · rcases mem_command_keys.1 hkey with rfl | rfl | rfl | rfl <;>
      obtain ⟨_, -, rfl⟩ := pass_eq_ok_iff.1 h <;> simp
  · rw [commandField_undeclared hkey] at h
    obtain ⟨-, rfl⟩ := ignoring_eq_ok_iff.1 h
    exact ⟨fun _ => rfl, fun _ => rfl, fun _ => rfl, fun _ => rfl⟩

/-- A command can be read exactly if its declared keys have values of their types. -/
theorem command_reads_iff (hform : ¬ PassesForRecord value) :
    (∃ found, command value = .ok found) ↔ value.fits = true ∧ IsRecord commandTypes value :=
  value_reads_iff hform fun _ _ _ _ => commandField_reads_iff

/-- The command that is read is the one that the entries tell. -/
theorem command_told {found : CommandEntry} (hform : ¬ PassesForRecord value)
    (hkeys : value.Ascends) (h : command value = .ok found) : RecordOf CommandTold value found := by
  obtain ⟨entries, rfl, hentries⟩ := record_of_table hform h
  have hkeys := hkeys.1
  exact ⟨entries, rfl,
    { executable := told_of_record (fun _ _ => rfl)
        (fun _ _ _ _ h => ⟨_, rfl, text_eq_ok_iff.1 h⟩)
        (fun _ _ _ h => (commandField_frame h).1) hkeys hentries
      args := told_of_record (fun _ _ => rfl) (fun _ _ _ _ h => texts_eq_ok_iff.1 h)
        (fun _ _ _ h => (commandField_frame h).2.1) hkeys hentries
      os := told_of_record (fun _ _ => rfl) (fun _ _ _ _ h => ⟨_, rfl, text_eq_ok_iff.1 h⟩)
        (fun _ _ _ h => (commandField_frame h).2.2.1) hkeys hentries
      timeout := told_of_record (fun _ _ => rfl) (fun _ _ _ _ h => ⟨_, rfl, text_eq_ok_iff.1 h⟩)
        (fun _ _ _ h => (commandField_frame h).2.2.2) hkeys hentries }⟩

/-- A command is read from its declared keys. -/
theorem command_of_part (hfits : value.fits = true) :
    command (commandPart value) = command value :=
  value_of_part commandField_undeclared (fun _ _ _ _ => rfl) hfits

/-! ### Change sets -/

theorem mem_changeSet_keys : key ∈ changeSetTypes.keys ↔
    key = "id" ∨ key = "author" ∨ key = "comment" ∨ key = "files" ∨ key = "execute_command" := by
  simp [changeSetTypes, Types.keys]

theorem changeSetField_undeclared (h : key ∉ changeSetTypes.keys) (record : ChangeSetEntry) :
    changeSetField record (key, value) = ignoring record value := by
  simp only [mem_changeSet_keys, not_or] at h
  rw [changeSetField.eq_def]
  split <;> simp_all

/-- A field of a change set is judged by its key. -/
theorem changeSetField_reads_iff (hform : entry.1 = "execute_command" → ¬ PassesForRecord entry.2)
    (record : ChangeSetEntry) :
    (∃ next, changeSetField record entry = .ok next) ↔
      entry.2.fits = true ∧ changeSetTypes.Admit entry := by
  obtain ⟨key, value⟩ := entry
  by_cases hkey : key ∈ changeSetTypes.keys
  · rcases mem_changeSet_keys.1 hkey with rfl | rfl | rfl | rfl | rfl
    · exact declared_reads_iff rfl text_reads_iff
    · exact declared_reads_iff rfl text_reads_iff
    · exact declared_reads_iff rfl text_reads_iff
    · exact declared_reads_iff rfl texts_reads_iff
    · exact declared_reads_iff rfl (command_reads_iff (hform rfl))
  · rw [changeSetField_undeclared hkey]
    exact undeclared_reads_iff hkey

/-- A field of a change set leaves the others unchanged. -/
theorem changeSetField_frame {record next : ChangeSetEntry}
    (h : changeSetField record entry = .ok next) :
    (entry.1 ≠ "id" → next.id = record.id) ∧
      (entry.1 ≠ "author" → next.author = record.author) ∧
      (entry.1 ≠ "comment" → next.comment = record.comment) ∧
      (entry.1 ≠ "files" → next.files = record.files) ∧
      (entry.1 ≠ "execute_command" → next.command = record.command) := by
  obtain ⟨key, value⟩ := entry
  by_cases hkey : key ∈ changeSetTypes.keys
  · rcases mem_changeSet_keys.1 hkey with rfl | rfl | rfl | rfl | rfl <;>
      obtain ⟨_, -, rfl⟩ := pass_eq_ok_iff.1 h <;> simp
  · rw [changeSetField_undeclared hkey] at h
    obtain ⟨-, rfl⟩ := ignoring_eq_ok_iff.1 h
    exact ⟨fun _ => rfl, fun _ => rfl, fun _ => rfl, fun _ => rfl, fun _ => rfl⟩

/-- A change set can be read exactly if its declared keys have values of their types. -/
theorem changeSet_reads_iff (hform : ChangeSetInTables value) :
    (∃ found, changeSet value = .ok found) ↔ value.fits = true ∧ IsRecord changeSetTypes value :=
  value_reads_iff hform.1 fun entries htable entry hmem =>
    changeSetField_reads_iff fun hkey => hform.2 entries htable entry.2 (hkey ▸ hmem)

/-- The change set that is read is the one that the entries tell. -/
theorem changeSet_told {found : ChangeSetEntry} (hform : ChangeSetInTables value)
    (hkeys : value.Ascends) (h : changeSet value = .ok found) :
    RecordOf ChangeSetTold value found := by
  obtain ⟨entries, rfl, hentries⟩ := record_of_table hform.1 h
  -- The command is a record within this one, and its keys ascend as well.
  have hcommand : ∀ value, ("execute_command", value) ∈ entries → ∀ found,
      command value = .ok found → RecordOf CommandTold value found := fun value hmem found =>
    command_told (hform.2 entries rfl value hmem) (Toml.entriesAscend_iff.1 hkeys.2 _ hmem)
  have hkeys := hkeys.1
  exact ⟨entries, rfl,
    { id := told_of_record (fun _ _ => rfl) (fun _ _ _ _ h => text_eq_ok_iff.1 h)
        (fun _ _ _ h => (changeSetField_frame h).1) hkeys hentries
      author := told_of_record (fun _ _ => rfl) (fun _ _ _ _ h => text_eq_ok_iff.1 h)
        (fun _ _ _ h => (changeSetField_frame h).2.1) hkeys hentries
      comment := told_of_record (fun _ _ => rfl)
        (fun _ _ _ _ h => ⟨_, rfl, text_eq_ok_iff.1 h⟩)
        (fun _ _ _ h => (changeSetField_frame h).2.2.1) hkeys hentries
      files := told_of_record (fun _ _ => rfl) (fun _ _ _ _ h => texts_eq_ok_iff.1 h)
        (fun _ _ _ h => (changeSetField_frame h).2.2.2.1) hkeys hentries
      command := told_of_record (fun _ _ => rfl)
        (fun value hmem _ _ h => ⟨_, rfl, hcommand value hmem _ h⟩)
        (fun _ _ _ h => (changeSetField_frame h).2.2.2.2) hkeys hentries }⟩

/-- A change set is read from its declared keys. -/
theorem changeSet_of_part (hfits : value.fits = true) :
    changeSet (changeSetPart value) = changeSet value := by
  refine value_of_part changeSetField_undeclared (fun key value record hvalue => ?_) hfits
  -- Only the command has a part of its own, and all other values count as a whole.
  by_cases hcommand : key = "execute_command"
  · subst hcommand
    simp only [if_true, changeSetField, command_of_part hvalue]
  · simp only [if_neg hcommand]

/-! ### Changelogs -/

theorem mem_changelog_keys : key ∈ changelogTypes.keys ↔ key = "changeset" ∨ key = "config" := by
  simp [changelogTypes, Types.keys]

theorem changelogField_undeclared (h : key ∉ changelogTypes.keys) (changelog : Changelog) :
    changelogField changelog (key, value) = ignoring changelog value := by
  simp only [mem_changelog_keys, not_or] at h
  rw [changelogField.eq_def]
  split <;> simp_all

/-- The change sets of a document can be read exactly if the declared keys of each have values of
their types. -/
theorem changeSets_reads_iff
    (hform : ∀ items, value = .array items → ∀ item ∈ items, ChangeSetInTables item) :
    (∃ found, items changeSet value = .ok found) ↔ value.fits = true ∧
      ∃ items, value = .array items ∧ ∀ item ∈ items, IsRecord changeSetTypes item := by
  rw [items_read_iff]
  constructor
  · rintro ⟨values, rfl, hread⟩
    have hvalues := fun item hmem =>
      (changeSet_reads_iff (hform values rfl item hmem)).1 (hread item hmem)
    exact ⟨itemsFit_iff.2 fun item hmem => (hvalues item hmem).1, values, rfl,
      fun item hmem => (hvalues item hmem).2⟩
  · rintro ⟨hfits, values, rfl, hrecords⟩
    exact ⟨values, rfl, fun item hmem => (changeSet_reads_iff (hform values rfl item hmem)).2
      ⟨itemsFit_iff.1 hfits item hmem, hrecords item hmem⟩⟩

/-- The change sets that are read are those that their entries tell, one by one. -/
theorem changeSets_told {found : List ChangeSetEntry}
    (hform : ∀ items, value = .array items → ∀ item ∈ items, ChangeSetInTables item)
    (hkeys : value.Ascends) (h : items changeSet value = .ok found) :
    ∃ items, value = .array items ∧ List.Forall₂ (RecordOf ChangeSetTold) items found := by
  obtain ⟨values, rfl, hread⟩ := items_eq_ok_iff.1 h
  have hvalues : ∀ item ∈ values, ChangeSetInTables item ∧ item.Ascends := fun item hmem =>
    ⟨hform values rfl item hmem, Toml.itemsAscend_iff.1 hkeys item hmem⟩
  exact ⟨values, rfl, ((List.forall₂_and_left _ _).2 ⟨hvalues, hread⟩).imp
    fun item entry ⟨⟨htables, hitem⟩, hentry⟩ => changeSet_told htables hitem hentry⟩

/-- The change sets of a document are read from their declared keys. -/
theorem changeSets_of_part (hfits : value.fits = true) :
    items changeSet (changeSetsPart value) = items changeSet value := by
  cases value with
  | array values =>
      rw [Value.fits, itemsFit_iff] at hfits
      simp only [changeSetsPart, items]
      induction values with
      | nil => rfl
      | cons first rest ih =>
          rw [List.forall_mem_cons] at hfits
          rw [List.map_cons, List.mapM_cons, List.mapM_cons, changeSet_of_part hfits.1, ih hfits.2]
  | _ => rfl

/-- A field of a changelog is judged by its key. -/
theorem changelogField_reads_iff (hform : InTables document) (hmem : entry ∈ document)
    (changelog : Changelog) :
    (∃ next, changelogField changelog entry = .ok next) ↔
      entry.2.fits = true ∧ changelogTypes.Admit entry := by
  obtain ⟨key, value⟩ := entry
  by_cases hkey : key ∈ changelogTypes.keys
  · rcases mem_changelog_keys.1 hkey with rfl | rfl
    · exact declared_reads_iff rfl
        (changeSets_reads_iff fun items hitems => hform.changeSets items (hitems ▸ hmem))
    · exact declared_reads_iff rfl (settings_reads_iff (hform.settings value hmem))
  · rw [changelogField_undeclared hkey]
    exact undeclared_reads_iff hkey

/-- A field of a changelog leaves the other unchanged. -/
theorem changelogField_frame {record next : Changelog}
    (h : changelogField record entry = .ok next) :
    (entry.1 ≠ "changeset" → next.entries = record.entries) ∧
      (entry.1 ≠ "config" → next.settings = record.settings) := by
  obtain ⟨key, value⟩ := entry
  by_cases hkey : key ∈ changelogTypes.keys
  · rcases mem_changelog_keys.1 hkey with rfl | rfl <;>
      obtain ⟨_, -, rfl⟩ := pass_eq_ok_iff.1 h <;> simp
  · rw [changelogField_undeclared hkey] at h
    obtain ⟨-, rfl⟩ := ignoring_eq_ok_iff.1 h
    exact ⟨fun _ => rfl, fun _ => rfl⟩

/-- The changelog that is read is the one that the document tells. -/
theorem changelog_told {found : Changelog} (hform : InTables document)
    (hkeys : (Value.table document).Ascends) (h : changelog document = .ok found) :
    ChangelogTold document found := by
  have hvalue : ∀ entry ∈ document, entry.2.Ascends := Toml.entriesAscend_iff.1 hkeys.2
  have hkeys := hkeys.1
  exact
    { settings := told_of_record (fun _ _ => rfl)
        (fun value hmem _ _ h => settings_told (hform.settings value hmem) (hvalue _ hmem) h)
        (fun _ _ _ h => (changelogField_frame h).2) hkeys h
      entries := told_of_record (fun _ _ => rfl)
        (fun value hmem _ _ h => changeSets_told
          (fun items hitems => hform.changeSets items (hitems ▸ hmem)) (hvalue _ hmem) h)
        (fun _ _ _ h => (changelogField_frame h).1) hkeys h }

/-- A changelog is read from its declared keys. -/
theorem changelog_of_part (hfit : entriesFit document = true) :
    changelog (changelogPart document) = changelog document := by
  refine record_of_part changelogField_undeclared (fun key value record hvalue => ?_) hfit
  by_cases hconfig : key = "config"
  · subst hconfig
    simp only [if_true, changelogField, settings_of_part hvalue]
  · by_cases hchangeSets : key = "changeset"
    · subst hchangeSets
      simp only [if_neg hconfig, if_true, changelogField, changeSets_of_part hvalue]
    · simp only [if_neg hconfig, if_neg hchangeSets]

/-- A document can be read exactly if its declared keys have values of their types. -/
theorem changelog_reads_iff (hform : InTables document) :
    (∃ found, changelog document = .ok found) ↔
      entriesFit document = true ∧ changelogTypes.Hold document :=
  record_reads_iff fun _ hmem => changelogField_reads_iff hform hmem

end Document

namespace Changelog

open Document

/-- A file contains a document: it is read to its end, and its text is well formed. -/
def Contains (reading : FileReading) (document : List (String × Toml.Value)) : Prop :=
  ∃ pieces text, reading = .opened pieces none ∧
    Text.Utf8.decode? pieces.flatten = some text ∧ Toml.parse? text = some document

variable {reading other : FileReading} {document otherDocument : List (String × Toml.Value)}
  {changelog : Changelog}

/-- The changelog in a file is read from the document that the file contains. -/
theorem Contains.ofReading (h : Contains reading document) :
    ofReading reading = (Document.changelog document).mapError .document := by
  obtain ⟨pieces, text, rfl, hdecode, hparse⟩ := h
  simp only [Changelog.ofReading, ofOctets, hdecode, ofText, hparse]

theorem Contains.ofReading_eq_ok_iff (h : Contains reading document) :
    Changelog.ofReading reading = .ok changelog ↔ Document.changelog document = .ok changelog := by
  rw [h.ofReading]
  cases Document.changelog document <;> simp [Except.mapError]

/-- The keys of a document ascend. -/
theorem Contains.ascends (h : Contains reading document) : (Toml.Value.table document).Ascends := by
  obtain ⟨_, _, -, -, hparse⟩ := h
  exact Toml.parse?_ascends hparse

/-- A document with a number that cannot be held is refused, wherever the number stands. -/
theorem Contains.fits (h : Contains reading document) (hform : InTables document)
    (hread : Changelog.ofReading reading = .ok changelog) : Toml.entriesFit document = true :=
  ((Document.changelog_reads_iff hform).1 ⟨_, h.ofReading_eq_ok_iff.1 hread⟩).1

/-- Take a file whose document is accepted, whatever its keys mean: every number in it can be held.
If the records of the document are written as tables, reading the changelog succeeds exactly if
every declared key that is present has a value of its type, and yields what the declared keys tell.
Accepted documents that differ in nothing that counts yield the same. -/
theorem read_by_declared_keys (h : Contains reading document)
    (hfits : Toml.entriesFit document = true) :
    (InTables document →
      ((∃ changelog, ofReading reading = .ok changelog) ↔ changelogTypes.Hold document) ∧
      ∀ changelog, ofReading reading = .ok changelog → ChangelogTold document changelog) ∧
    ∀ other otherDocument, Contains other otherDocument → Toml.entriesFit otherDocument = true →
      changelogPart otherDocument = changelogPart document →
        ofReading other = ofReading reading := by
  refine ⟨fun hform => ⟨?_, fun changelog hread => ?_⟩,
    fun other otherDocument hother hothers hpart => ?_⟩
  · simp only [h.ofReading_eq_ok_iff, Document.changelog_reads_iff hform, hfits, true_and]
  · exact Document.changelog_told hform h.ascends (h.ofReading_eq_ok_iff.1 hread)
  · rw [h.ofReading, hother.ofReading, ← Document.changelog_of_part hfits,
      ← Document.changelog_of_part hothers, hpart]

/-- A document with a key that means nothing in every record. -/
def annotatedLines : List String :=
  ["n=[]", "config.n=''", "config.execution_mode='log-only'", "[[changeset]]", "id='1'", "n=''",
    "execute_command.n=''", "execute_command.os='Linux'"]

/-- The tree of that document. -/
def annotatedDocument : List (String × Toml.Value) :=
  [("changeset", .array [.table [
      ("execute_command", .table [("n", .text ""), ("os", .text "Linux")]),
      ("id", .text "1"), ("n", .text "")]]),
    ("config", .table [("execution_mode", .text "log-only"), ("n", .text "")]),
    ("n", .array [])]

/-- The same document without that key. -/
def plainLines : List String :=
  ["config.execution_mode='log-only'", "[[changeset]]", "id='1'", "execute_command.os='Linux'"]

/-- The tree of that document. -/
def plainDocument : List (String × Toml.Value) :=
  [("changeset", .array [.table [("execute_command", .table [("os", .text "Linux")]),
      ("id", .text "1")]]),
    ("config", .table [("execution_mode", .text "log-only")])]

/-- A file of lines. -/
def fileOfLines (lines : List String) : FileReading :=
  .opened (lines.map fun line => Text.Utf8.encode line ++ [0x0A]) none

/-- The characters of lines. -/
def charactersOfLines (lines : List String) : List Char :=
  lines.flatMap fun line => line.toList ++ ['\n']

/-- The file with that key contains its document. -/
theorem annotated_contained : Contains (fileOfLines annotatedLines) annotatedDocument := by
  have htokens : Toml.tokens? (String.ofList (charactersOfLines annotatedLines)) = some
      [.atom ['n'], .equals, .openBracket, .closeBracket, .newline,
        .atom "config".toList, .dot, .atom ['n'], .equals, .text "", .newline,
        .atom "config".toList, .dot, .atom "execution_mode".toList, .equals, .text "log-only",
        .newline,
        .openBracket, .openBracket, .atom "changeset".toList, .closeBracket, .closeBracket, .newline,
        .atom ['i', 'd'], .equals, .text "1", .newline,
        .atom ['n'], .equals, .text "", .newline,
        .atom "execute_command".toList, .dot, .atom ['n'], .equals, .text "", .newline,
        .atom "execute_command".toList, .dot, .atom ['o', 's'], .equals, .text "Linux", .newline] := by
    rw [Toml.tokens_ofList]
    decide +kernel
  refine ⟨_, String.ofList (charactersOfLines annotatedLines), rfl, ?_, ?_⟩
  · exact Text.Utf8.decode_of_parts (by decide +kernel)
  · rw [Toml.parse?, Toml.statements?, htokens]
    cbv

/-- So does the file without it. -/
theorem plain_contained : Contains (fileOfLines plainLines) plainDocument := by
  have htokens : Toml.tokens? (String.ofList (charactersOfLines plainLines)) = some
      [.atom "config".toList, .dot, .atom "execution_mode".toList, .equals, .text "log-only",
        .newline,
        .openBracket, .openBracket, .atom "changeset".toList, .closeBracket, .closeBracket, .newline,
        .atom ['i', 'd'], .equals, .text "1", .newline,
        .atom "execute_command".toList, .dot, .atom ['o', 's'], .equals, .text "Linux", .newline] := by
    rw [Toml.tokens_ofList]
    decide +kernel
  refine ⟨_, String.ofList (charactersOfLines plainLines), rfl, ?_, ?_⟩
  · exact Text.Utf8.decode_of_parts (by decide +kernel)
  · rw [Toml.parse?, Toml.statements?, htokens]
    cbv

/-- The declared keys of the document with that key have values of their types. -/
theorem annotated_holds : changelogTypes.Hold annotatedDocument := by
  have hcommand : IsRecord commandTypes (.table [("n", .text ""), ("os", .text "Linux")]) :=
    ⟨_, rfl, List.forall_mem_cons.2 ⟨Types.admit_of_undeclared rfl, List.forall_mem_singleton.2
      ((Types.admit_of_lookup rfl).2 ⟨_, rfl⟩)⟩⟩
  have hchangeSet : IsRecord changeSetTypes (.table [
      ("execute_command", .table [("n", .text ""), ("os", .text "Linux")]), ("id", .text "1"),
      ("n", .text "")]) :=
    ⟨_, rfl, List.forall_mem_cons.2 ⟨(Types.admit_of_lookup rfl).2 hcommand,
      List.forall_mem_cons.2 ⟨(Types.admit_of_lookup rfl).2 ⟨_, rfl⟩,
        List.forall_mem_singleton.2 (Types.admit_of_undeclared rfl)⟩⟩⟩
  have hsettings : IsRecord settingsTypes
      (.table [("execution_mode", .text "log-only"), ("n", .text "")]) :=
    ⟨_, rfl, List.forall_mem_cons.2 ⟨(Types.admit_of_lookup rfl).2
      ⟨.logOnly, _, rfl, by decide +kernel⟩,
        List.forall_mem_singleton.2 (Types.admit_of_undeclared rfl)⟩⟩
  exact List.forall_mem_cons.2 ⟨(Types.admit_of_lookup rfl).2
      ⟨_, rfl, List.forall_mem_singleton.2 hchangeSet⟩,
    List.forall_mem_cons.2 ⟨(Types.admit_of_lookup rfl).2 hsettings,
      List.forall_mem_singleton.2 (Types.admit_of_undeclared rfl)⟩⟩

/-- A key that means nothing in any record does not change what is read. -/
theorem annotated_read_as_plain :
    Toml.entriesFit annotatedDocument = true ∧ Toml.entriesFit plainDocument = true ∧
    (∃ changelog, ofReading (fileOfLines annotatedLines) = .ok changelog ∧
      ChangelogTold annotatedDocument changelog) ∧
    ofReading (fileOfLines plainLines) = ofReading (fileOfLines annotatedLines) := by
  have hform : InTables annotatedDocument := by
    constructor <;> simp [annotatedDocument, ChangeSetInTables, PassesForRecord]
  have hfits : Toml.entriesFit annotatedDocument = true := by decide
  have hplain : Toml.entriesFit plainDocument = true := by decide
  obtain ⟨hread, hsame⟩ := read_by_declared_keys annotated_contained hfits
  obtain ⟨hsuccess, htold⟩ := hread hform
  obtain ⟨changelog, hchangelog⟩ := hsuccess.2 annotated_holds
  exact ⟨hfits, hplain, ⟨changelog, hchangelog, htold changelog hchangelog⟩,
    hsame _ _ plain_contained hplain rfl⟩

end Changelog

end Runbook
