import Mathlib.Data.List.Basic
import Runbook.Proofs.Checksum.ChangeSets
import Runbook.Proofs.Checksum.Transcript
import Runbook.Proofs.Command.Filter

/-!
# What a checksum covers

The octets that the checksum of a change set is the digest of tell its identity, the line, filter
and timeout of its command, and the hashes of its files apart from everything else, and they tell
nothing more. `ChangeSet.AgreesWith` says that two change sets are the same in all of this, and the
main theorem is `covered_exactly`.
-/

namespace Runbook

namespace Text

/-- The digits of a half octet are told apart. -/
theorem hexDigit_inj {m n : Nat} (hm : m < 16) (hn : n < 16) (h : hexDigit m = hexDigit n) :
    m = n := by
  have hall : ∀ i < 16, ∀ j < 16, hexDigit i = hexDigit j → i = j := by decide
  exact hall m hm n hn h

/-- The hexadecimal form tells octets apart. -/
theorem hexOctets_injective : Function.Injective hexOctets := by
  intro first second h
  rw [hexOctets, hexOctets, String.ofList_inj] at h
  induction first generalizing second with
  | nil =>
      cases second with
      | nil => rfl
      | cons octet rest => cases h
  | cons octet rest ih =>
      cases second with
      | nil => cases h
      | cons other others =>
          obtain ⟨hhigh, htail⟩ := List.cons.inj h
          obtain ⟨hlow, hrest⟩ := List.cons.inj htail
          have hoctet := octet.toNat_lt
          have hother := other.toNat_lt
          have hquotient := hexDigit_inj (by omega) (by omega) hhigh
          have hremainder := hexDigit_inj (by omega) (by omega) hlow
          rw [ih hrest, UInt8.toNat_inj.1 (by omega : octet.toNat = other.toNat)]

end Text

/-- Two commands are the same in everything that a checksum covers. -/
structure Command.AgreesWith (first second : Command) : Prop where
  line : first.line = second.line
  os : first.os = second.os
  timeout : first.timeout.map Text.trim = second.timeout.map Text.trim

namespace ChangeSet

variable {read others : String → FileReading} {first second : ChangeSet}

/-- What the digest of a change set takes in, up to the first file that has no digest. -/
def intake (changeSet : ChangeSet) (read : String → FileReading) : Sink :=
  (changeSet.declaredEntries ++
    (hashFiles read changeSet.files).1.map fun file => Checksum.fileEntry file.2).foldl
      Checksum.addEntry Sink.empty

/-- The hashes of files in order, where a file that cannot be read has none. -/
def fileHashes (read : String → FileReading) (paths : List String) : List (Option (List UInt8)) :=
  paths.map fun path => (read path).content?.map Blake3.hash

/-- Two change sets are the same in everything that a checksum covers. -/
structure AgreesWith (first : ChangeSet) (read : String → FileReading) (second : ChangeSet)
    (others : String → FileReading) : Prop where
  id : first.id = second.id
  author : first.author = second.author
  command : Option.Rel Command.AgreesWith first.command second.command
  files : fileHashes read first.files = fileHashes others second.files

/-- The digests of the files that a change set takes in. -/
def digests (read : String → FileReading) (paths : List String) : List String :=
  (hashFiles read paths).1.map Prod.snd

/-- A digest takes in the framed entries. -/
theorem octets_intake (changeSet : ChangeSet) :
    (changeSet.intake read).octets =
      Checksum.transcript (changeSet.declaredEntries ++
        (digests read changeSet.files).map Checksum.fileEntry) := by
  rw [intake, Checksum.octets_foldl_addEntry, digests, List.map_map]
  rfl

/-- The checksum of a change set is the digest of what has been taken in. -/
theorem generated_of_readable {changeSet : ChangeSet}
    (hreadable : ∀ path ∈ changeSet.files, (read path).content?.isSome = true) :
    changeSet.generateChecksum read =
      .ok { changeSet with checksum := some (changeSet.intake read).digest } := by
  simp [generateChecksum, entries, hash_files_ok_iff.2 hreadable, Except.map, Checksum.ofEntries,
    intake]

/-- The digest of a file that can be read is its hash in hexadecimal form. -/
theorem file_digest_of_content {path : String} {reading : FileReading} {content : List UInt8}
    (h : reading.content? = some content) :
    fileDigest path reading = .ok (Text.hexOctets (Blake3.hash content)) := by
  cases reading with
  | refused fault => cases h
  | opened pieces fault =>
      cases fault with
      | some fault => cases h
      | none =>
          obtain rfl : pieces.flatten = content := Option.some.inj h
          rw [fileDigest, Sink.digest, Sink.octets_foldl_push, Sink.octets_empty, List.nil_append]

/-- The digests of files that can all be read are their hashes in hexadecimal form. -/
theorem digests_of_readable {paths : List String}
    (hreadable : ∀ path ∈ paths, (read path).content?.isSome = true) :
    (digests read paths).map some = (fileHashes read paths).map (Option.map Text.hexOctets) := by
  induction paths with
  | nil => rfl
  | cons path rest ih =>
      rw [List.forall_mem_cons] at hreadable
      obtain ⟨content, hcontent⟩ := Option.isSome_iff_exists.1 hreadable.1
      have hrest := ih hreadable.2
      simp only [digests, fileHashes, hashFiles, file_digest_of_content hcontent, List.map_cons,
        hcontent, Option.map_some] at hrest ⊢
      rw [hrest]

/-- Files that can be read have the same digests exactly if they have the same hashes. -/
theorem digests_eq_iff {paths : List String} {elsewhere : List String}
    (hreadable : ∀ path ∈ paths, (read path).content?.isSome = true)
    (hothers : ∀ path ∈ elsewhere, (others path).content?.isSome = true) :
    digests read paths = digests others elsewhere ↔
      fileHashes read paths = fileHashes others elsewhere := by
  rw [← List.map_inj_right (fun _ _ => Option.some.inj), digests_of_readable hreadable,
    digests_of_readable hothers]
  exact List.map_inj_right fun _ _ => (Option.map_injective Text.hexOctets_injective ·)

/-- The part of the entries that a command contributes. -/
def commandPart (command : Option Command) : List Checksum.Entry :=
  (command.map commandEntries).getD []

/-- The entries of a command are told apart from those of files by their labels. -/
theorem label_of_commandPart {command : Option Command} {entry : Checksum.Entry}
    (h : entry ∈ commandPart command) :
    entry.label = "command" ∨ entry.label = "os" ∨ entry.label = "timeout" := by
  cases command with
  | none => cases h
  | some command =>
      simp only [commandPart, Option.map_some, Option.getD_some, commandEntries, List.mem_cons,
        List.mem_append, Option.mem_toList, Option.map_eq_some_iff] at h
      rcases h with rfl | ⟨_, _, rfl⟩ | ⟨_, _, rfl⟩
      · exact .inl rfl
      · exact .inr (.inl rfl)
      · exact .inr (.inr rfl)

/-- No label contains an equals sign. -/
theorem label_of_entries {changeSet : ChangeSet} {digests : List String} {entry : Checksum.Entry}
    (h : entry ∈ changeSet.declaredEntries ++ digests.map Checksum.fileEntry) :
    '=' ∉ entry.label.toList := by
  have hlabel : entry.label ∈ ["id", "author", "command", "os", "timeout", "file"] := by
    rcases List.mem_append.1 h with hdeclared | hfile
    · rcases List.mem_cons.1 hdeclared with rfl | hdeclared
      · simp
      · rcases List.mem_cons.1 hdeclared with rfl | hcommand
        · simp
        · rcases label_of_commandPart hcommand with hlabel | hlabel | hlabel <;> simp [hlabel]
    · obtain ⟨digest, _, rfl⟩ := List.mem_map.1 hfile
      simp [Checksum.fileEntry]
  have hall : ∀ label ∈ ["id", "author", "command", "os", "timeout", "file"],
      '=' ∉ label.toList := by decide
  exact hall entry.label hlabel

/-- The entries of a command and those of files behind them are told apart. -/
theorem parts_eq_iff {command other : Option Command} {digests elsewhere : List String} :
    commandPart command ++ digests.map Checksum.fileEntry =
        commandPart other ++ elsewhere.map Checksum.fileEntry ↔
      commandPart command = commandPart other ∧ digests = elsewhere := by
  let isDeclared : Checksum.Entry → Bool := fun entry => entry.label != "file"
  have hdeclared : ∀ (command : Option Command) (digests : List String),
      (commandPart command ++ digests.map Checksum.fileEntry).filter isDeclared =
        commandPart command := by
    intro command digests
    have hkept : (commandPart command).filter isDeclared = commandPart command := by
      refine List.filter_eq_self.2 fun entry hmem => ?_
      rcases label_of_commandPart hmem with hlabel | hlabel | hlabel <;>
        simp [isDeclared, hlabel]
    have hdropped : (digests.map Checksum.fileEntry).filter isDeclared = [] := by
      simp [isDeclared, Checksum.fileEntry]
    rw [List.filter_append, hkept, hdropped, List.append_nil]
  constructor
  · intro h
    have hcommand : commandPart command = commandPart other := by
      rw [← hdeclared command digests, h, hdeclared]
    rw [hcommand, List.append_cancel_left_eq] at h
    refine ⟨hcommand, (List.map_inj_right fun _ _ hentry => ?_).1 h⟩
    exact congrArg Checksum.Entry.value hentry
  · rintro ⟨hcommand, rfl⟩
    rw [hcommand]

/-- Entries that may be missing are told apart by their labels. -/
theorem optional_entries_eq_iff {os timeout osOther timeoutOther : Option String} :
    (os.map (Checksum.Entry.mk "os")).toList ++
          (timeout.map (Checksum.Entry.mk "timeout")).toList =
        (osOther.map (Checksum.Entry.mk "os")).toList ++
          (timeoutOther.map (Checksum.Entry.mk "timeout")).toList ↔
      os = osOther ∧ timeout = timeoutOther := by
  cases os <;> cases timeout <;> cases osOther <;> cases timeoutOther <;> simp

/-- Configured commands contribute the same entries exactly if they agree. -/
theorem commandEntries_eq_iff {command other : Command} (hcommand : command.Configured)
    (hother : other.Configured) :
    commandEntries command = commandEntries other ↔ command.AgreesWith other := by
  have hoptional : ∀ command : Command, commandEntries command =
      ⟨"command", command.line⟩ ::
        (((command.os.map (",".intercalate ·)).map (Checksum.Entry.mk "os")).toList ++
          ((command.timeout.map Text.trim).map (Checksum.Entry.mk "timeout")).toList) := by
    intro command
    rw [commandEntries, Option.map_map, Option.map_map]
    rfl
  rw [hoptional, hoptional, List.cons.injEq, optional_entries_eq_iff, Checksum.Entry.mk.injEq]
  constructor
  · rintro ⟨⟨_, hline⟩, hos, htimeout⟩
    refine ⟨hline, ?_, htimeout⟩
    cases hfirst : command.os with
    | none =>
        rw [hfirst, Option.map_none, eq_comm, Option.map_eq_none_iff] at hos
        rw [hos]
    | some names =>
        rw [hfirst, Option.map_some, eq_comm, Option.map_eq_some_iff] at hos
        obtain ⟨others, hsecond, hjoined⟩ := hos
        rw [hsecond, hcommand.os_eq hother hfirst hsecond hjoined.symm]
  · rintro ⟨hline, hos, htimeout⟩
    exact ⟨⟨rfl, hline⟩, by rw [hos], htimeout⟩

/-- The command, if there is one, contributes the same entries exactly if it agrees. -/
theorem commandPart_eq_iff {command other : Option Command}
    (hcommand : ∀ c, command = some c → c.Configured)
    (hother : ∀ c, other = some c → c.Configured) :
    commandPart command = commandPart other ↔ Option.Rel Command.AgreesWith command other := by
  cases command with
  | none =>
      cases other with
      | none => exact ⟨fun _ => .none, fun _ => rfl⟩
      | some other => exact ⟨fun h => (List.cons_ne_nil _ _ h.symm).elim, fun h => nomatch h⟩
  | some command =>
      cases other with
      | none => exact ⟨fun h => (List.cons_ne_nil _ _ h).elim, fun h => nomatch h⟩
      | some other =>
          have hentries := commandEntries_eq_iff (hcommand _ rfl) (hother _ rfl)
          constructor
          · intro h
            exact .some (hentries.1 h)
          · rintro (h | _)
            exact hentries.2 h

/-- The digests of two change sets take in the same octets exactly if the change sets agree. -/
theorem octets_intake_eq_iff (hfirst : ∀ command, first.command = some command → command.Configured)
    (hsecond : ∀ command, second.command = some command → command.Configured)
    (hreadable : ∀ path ∈ first.files, (read path).content?.isSome = true)
    (hothers : ∀ path ∈ second.files, (others path).content?.isSome = true) :
    (first.intake read).octets = (second.intake others).octets ↔
      first.AgreesWith read second others := by
  rw [octets_intake, octets_intake]
  have hentries : ∀ (changeSet : ChangeSet) (digests : List String),
      changeSet.declaredEntries ++ digests.map Checksum.fileEntry =
        ⟨"id", changeSet.id⟩ :: ⟨"author", changeSet.author⟩ ::
          (commandPart changeSet.command ++ digests.map Checksum.fileEntry) := fun _ _ => rfl
  constructor
  · intro h
    have hsame := Checksum.entries_of_transcript (fun _ => label_of_entries)
      (fun _ => label_of_entries) h
    rw [hentries, hentries, List.cons.injEq, List.cons.injEq, parts_eq_iff,
      commandPart_eq_iff hfirst hsecond, digests_eq_iff hreadable hothers] at hsame
    obtain ⟨hid, hauthor, hcommand, hfiles⟩ := hsame
    exact ⟨congrArg Checksum.Entry.value hid, congrArg Checksum.Entry.value hauthor, hcommand,
      hfiles⟩
  · rintro ⟨hid, hauthor, hcommand, hfiles⟩
    rw [hentries, hentries, hid, hauthor, (commandPart_eq_iff hfirst hsecond).2 hcommand,
      (digests_eq_iff hreadable hothers).2 hfiles]

/-- A change set with all the parts that a checksum does not cover exchanged for others. -/
def varied (changeSet : ChangeSet) (comment checksum : Option String) (hooks : Hooks)
    (policy : Policy) (paths : List String) : ChangeSet :=
  { changeSet with
    comment := comment
    checksum := checksum
    files := paths
    command := changeSet.command.map fun command =>
      { command with hooks := hooks, policy := policy } }

/-- Nothing but the content of the files matters in the parts that a checksum does not cover. -/
theorem octets_intake_varied (comment checksum : Option String) (hooks : Hooks) (policy : Policy)
    {paths : List String} (hreadable : ∀ path ∈ first.files, (read path).content?.isSome = true)
    (hcontent : (paths.map fun path => (others path).content?) =
      first.files.map fun path => (read path).content?) :
    ((first.varied comment checksum hooks policy paths).intake others).octets =
      (first.intake read).octets := by
  have hdeclared : (first.varied comment checksum hooks policy paths).declaredEntries =
      first.declaredEntries := by
    cases hcommand : first.command <;> simp [varied, declaredEntries, hcommand, commandEntries,
      Command.line]
  have hothers : ∀ path ∈ paths, (others path).content?.isSome = true := by
    intro path hpath
    have hmem := List.mem_map_of_mem (f := fun path => (others path).content?) hpath
    rw [hcontent] at hmem
    obtain ⟨original, horiginal, hsame⟩ := List.mem_map.1 hmem
    rw [← hsame]
    exact hreadable original horiginal
  have hhashes : fileHashes others paths = fileHashes read first.files := by
    have hmapped := congrArg (List.map (Option.map Blake3.hash)) hcontent
    rwa [List.map_map, List.map_map] at hmapped
  rw [octets_intake, octets_intake, hdeclared]
  exact congrArg (fun digests => Checksum.transcript (_ ++ digests.map Checksum.fileEntry))
    ((digests_eq_iff hothers hreadable).2 hhashes)

/-- A checksum covers exactly this: the identity of a change set, whether it has a command, the
line, the filter and the trimmed timeout of that command, and the hashes of the files in their
order. Two change sets that agree in all of it have the same octets taken in, whatever their
comments, paths, hooks, policies, earlier checksums and the white space in their lists of names. Two
that do not agree have the same checksum only if the hashes of different octets collide. -/
theorem covered_exactly
    (hfirst : ∀ command, first.command = some command → command.Configured)
    (hsecond : ∀ command, second.command = some command → command.Configured)
    (hreadable : ∀ path ∈ first.files, (read path).content?.isSome = true)
    (hothers : ∀ path ∈ second.files, (others path).content?.isSome = true) :
    (∃ checksum other : String,
      first.generateChecksum read = .ok { first with checksum := some checksum } ∧
      second.generateChecksum others = .ok { second with checksum := some other } ∧
      checksum = Text.hexOctets (Blake3.hash (first.intake read).octets) ∧
      other = Text.hexOctets (Blake3.hash (second.intake others).octets) ∧
      (checksum = other →
        first.AgreesWith read second others ∨
        (first.intake read).octets ≠ (second.intake others).octets ∧
          Blake3.hash (first.intake read).octets = Blake3.hash (second.intake others).octets)) ∧
    ((first.intake read).octets = (second.intake others).octets ↔
      first.AgreesWith read second others) ∧
    (∀ (comment checksum : Option String) (hooks : Hooks) (policy : Policy) (paths : List String)
      (elsewhere : String → FileReading),
      ((paths.map fun path => (elsewhere path).content?) =
        first.files.map fun path => (read path).content?) →
      ((first.varied comment checksum hooks policy paths).intake elsewhere).octets =
        (first.intake read).octets) ∧
    (∀ (command : Command) (names respaced : String), OsFilter.Respaced names respaced →
      ({ first with command := some (command.setOs names) }.intake read).octets =
        ({ first with command := some (command.setOs respaced) }.intake read).octets) := by
  have hagree := octets_intake_eq_iff hfirst hsecond hreadable hothers
  refine ⟨⟨_, _, generated_of_readable hreadable, generated_of_readable hothers, rfl, rfl, ?_⟩,
    hagree, ?_, ?_⟩
  · intro hsame
    by_cases hoctets : (first.intake read).octets = (second.intake others).octets
    · exact .inl (hagree.1 hoctets)
    · exact .inr ⟨hoctets, Text.hexOctets_injective hsame⟩
  · intro comment checksum hooks policy paths elsewhere hcontent
    exact octets_intake_varied comment checksum hooks policy hreadable hcontent
  · intro command names respaced hrespaced
    rw [Command.setOs, Command.setOs, hrespaced.ofText_eq]

/-- A change set whose author contains the whole entry of a command. -/
def forgedChangeSet : ChangeSet where
  id := "1"
  author := "ops\n15:command=psql -q"
  files := ["seed.sql"]

/-- A change set with that command. -/
def honestChangeSet : ChangeSet where
  id := "1"
  author := "ops"
  files := ["copy.sql"]
  command := some ((({ executable := "psql" } : Command).addArgs ["-q"]).setOs "Linux, Mac OS X")

/-- The files that both change sets read have the same content. -/
def sameContent : String → FileReading :=
  fun _ => .opened [[0x76], [0x31]] none

/-- An author cannot pose as a command, although the files have the same content. -/
theorem covered_exactly_for_forged_author :
    (∀ command, forgedChangeSet.command = some command → command.Configured) ∧
    (∀ command, honestChangeSet.command = some command → command.Configured) ∧
    (∀ path ∈ forgedChangeSet.files, (sameContent path).content?.isSome = true) ∧
    (∀ path ∈ honestChangeSet.files, (sameContent path).content?.isSome = true) ∧
    (forgedChangeSet.intake sameContent).octets ≠ (honestChangeSet.intake sameContent).octets := by
  have hforged : ∀ command, forgedChangeSet.command = some command → command.Configured := by
    intro command hcommand
    cases hcommand
  have hhonest : ∀ command, honestChangeSet.command = some command → command.Configured := by
    intro command hcommand
    cases hcommand
    exact .setOs _ (.addArgs _ (.new "psql"))
  have hseed : ∀ path ∈ forgedChangeSet.files, (sameContent path).content?.isSome = true :=
    fun _ _ => rfl
  have hcopy : ∀ path ∈ honestChangeSet.files, (sameContent path).content?.isSome = true :=
    fun _ _ => rfl
  refine ⟨hforged, hhonest, hseed, hcopy, fun hsame => ?_⟩
  have hagree := (covered_exactly hforged hhonest hseed hcopy).2.1.1 hsame
  exact absurd hagree.author (by decide)

end ChangeSet

end Runbook
