import Runbook.Proofs.Pipeline.Stages

/-!
# Checks before anything happens

A run prints nothing and starts nothing before the changelog has been read and found sound, the
number of workers has been accepted, and every change set has its checksum. A check that fails ends
the run with its own fault. The main theorem is `checks_come_first`.
-/

namespace Runbook

variable {σ : Type} {world : World σ} {options : Options} {state : σ}

/-- Every check of a run passes. -/
structure Cleared (world : World σ) (options : Options) (state : σ) (changelog : Changelog) :
    Prop where
  read : Changelog.ofReading (world.read state options.changelog) = .ok changelog
  sound : changelog.problems.messages = []
  workers : options.workers ≠ some 0
  checksums : ∀ changeSet ∈ declaredChangeSets world options state changelog,
    ∃ finished, changeSet.generateChecksum (world.read state) = .ok finished

/-- A run that has ended with a fault, has attempted and printed nothing, and has left the world as
it was. -/
structure Halted (result : RunResult σ) (state : σ) (fault : Fault) : Prop where
  ending : result.ending = .failed fault
  attempts : result.trace.attempts = []
  lines : result.trace.lines = []
  state : result.state = state

/-- Either every change set gets its checksum, or one does not. -/
theorem generated_or_unreadable (read : String → FileReading) (changeSets : List ChangeSet) :
    (∀ changeSet ∈ changeSets, ∃ finished, changeSet.generateChecksum read = .ok finished) ∨
      ∃ changeSet ∈ changeSets, ∃ fault, changeSet.generateChecksum read = .error fault := by
  induction changeSets with
  | nil => exact .inl (by simp)
  | cons changeSet rest ih =>
      cases h : changeSet.generateChecksum read with
      | error fault => exact .inr ⟨changeSet, List.mem_cons_self, fault, h⟩
      | ok finished =>
          rcases ih with hall | ⟨other, hmem, hother⟩
          · exact .inl (List.forall_mem_cons.2 ⟨⟨finished, h⟩, hall⟩)
          · exact .inr ⟨other, List.mem_cons_of_mem _ hmem, hother⟩

/-- What reading a changelog can fail with. -/
theorem reading_failure {reading : FileReading} {failure : Failure}
    (h : Changelog.ofReading reading = .error failure) :
    (∃ source, failure = .io source) ∨ ∃ fault, failure = .document fault := by
  cases reading with
  | refused fault =>
      cases h
      exact .inl ⟨fault, rfl⟩
  | opened pieces fault =>
      cases fault with
      | some fault =>
          cases h
          exact .inl ⟨fault, rfl⟩
      | none =>
          simp only [Changelog.ofReading, Changelog.ofOctets] at h
          split at h
          · cases h
            exact .inl ⟨.notUtf8, rfl⟩
          · rename_i text _
            cases htext : Changelog.ofText text with
            | ok changelog =>
                rw [htext] at h
                cases h
            | error fault =>
                rw [htext] at h
                cases h
                exact .inr ⟨fault, rfl⟩

/-- A line lists a change set with the checksum that it has on its own, and never with the
placeholder. -/
def ChangeSet.ListedAs (read : String → FileReading) (changeSet : ChangeSet) (line : String) :
    Prop :=
  ∃ checksum,
    changeSet.generateChecksum read = .ok { changeSet with checksum := some checksum } ∧
    checksum ≠ "-" ∧
    line = changeSet.id ++ "::" ++ changeSet.author ++ " " ++ checksum

/-- The listing shows one line for each change set. -/
theorem lines_of_listing {read : String → FileReading} {changeSets finished : List ChangeSet}
    (h : List.Forall₂ (fun changeSet done => changeSet.generateChecksum read = .ok done)
      changeSets finished) :
    List.Forall₂ (ChangeSet.ListedAs read) changeSets (finished.map checksumLine) := by
  refine List.forall₂_map_right_iff.2 (h.imp fun changeSet done hdone => ?_)
  obtain ⟨checksum, rfl, hproper⟩ := ChangeSet.generated_eq hdone
  exact ⟨checksum, hdone, hproper, rfl⟩

/-- Printed lines are the lines of their trace, and nothing is attempted in it. -/
theorem listing_trace (lines : List String) :
    Trace.lines (lines.map .printed) = lines ∧ Trace.attempts (lines.map .printed) = [] := by
  induction lines with
  | nil => exact ⟨rfl, rfl⟩
  | cons line rest ih =>
      rw [List.map_cons, Trace.lines_printed, Trace.attempts_printed, ih.1]
      exact ⟨rfl, ih.2⟩

/-- A run with the listing asked for, whose checks all pass, prints the listing and does nothing
else. -/
theorem Cleared.listing {changelog : Changelog} (h : Cleared world options state changelog)
    (hlimit : options.workers.getD (world.parallelism state) ≤ Checksum.workerLimit)
    (hlisting : options.checksums = true) :
    (run world options state).ending = .finished ∧
    (run world options state).trace.attempts = [] ∧
    (run world options state).state = state ∧
    List.Forall₂ (ChangeSet.ListedAs (world.read state))
      (declaredChangeSets world options state changelog)
      (run world options state).trace.lines := by
  have hload : Changelog.load world state options.changelog = .ok ⟨changelog, h.sound⟩ :=
    load_eq_ok_iff.2 h.read
  obtain ⟨steps, finished, hfinished, hrun⟩ :=
    run_of_checked hload h.workers hlimit h.checksums
  have htrace := listing_trace (finished.map checksumLine)
  rw [List.map_map] at htrace
  rw [hrun]
  simp only [proceed, hlisting, if_true, Trace.attempts_append, Trace.lines_append,
    Trace.attempts_ofEvents, Trace.lines_ofEvents, List.nil_append]
  refine ⟨trivial, htrace.2, trivial, ?_⟩
  rw [show (finished.map fun changeSet => Occurrence.printed (checksumLine changeSet)) =
    finished.map (.printed ∘ checksumLine) from rfl, htrace.1]
  exact lines_of_listing hfinished

/-- A run that ends with nothing but events has halted. -/
theorem halted_of_events (events : List Event) (fault : Fault) (state : σ) :
    Halted ⟨Trace.ofEvents events, .failed fault, state⟩ state fault where
  ending := rfl
  attempts := Trace.attempts_ofEvents events
  lines := Trace.lines_ofEvents events
  state := rfl

/-- Whatever a run prints or attempts comes after all its checks, the last of which has announced
that every checksum is there. -/
theorem cleared_of_act
    (hlimit : options.workers.getD (world.parallelism state) ≤ Checksum.workerLimit)
    {before after : Trace} {act : Occurrence}
    (htrace : (run world options state).trace = before ++ act :: after)
    (hact : ∀ event, act ≠ .logged event) :
    ∃ changelog, Cleared world options state changelog ∧
      .logged (Checksum.generatedEvent changelog.entries.length) ∈ before := by
  -- A run that stops at a check has a trace of events alone, which does not contain the act.
  cases hread : Changelog.ofReading (world.read state options.changelog) with
  | error failure =>
      rw [run_of_unread hread] at htrace
      exact absurd htrace (Trace.not_split_events [] hact)
  | ok changelog =>
      by_cases hsound : changelog.problems.messages = []
      · have hload : Changelog.load world state options.changelog = .ok ⟨changelog, hsound⟩ :=
          load_eq_ok_iff.2 hread
        by_cases hworkers : options.workers = some 0
        · rw [run_of_no_workers hload hworkers] at htrace
          exact absurd htrace (Trace.not_split_events [] hact)
        · rcases generated_or_unreadable (world.read state)
            (declaredChangeSets world options state changelog) with hall | hsome
          · obtain ⟨steps, finished, hfinished, hrun⟩ :=
              run_of_checked hload hworkers hlimit hall
            rw [hrun] at htrace
            obtain ⟨between, rfl, _⟩ := Trace.split_after_events htrace hact
            refine ⟨changelog, ⟨hread, hsound, hworkers, hall⟩, ?_⟩
            rw [← hfinished.length_eq, declaredChangeSets, Changelog.changeSets, List.length_map]
            simp [Trace.ofEvents]
          · obtain ⟨steps, hrun⟩ := run_of_unchecked hload hworkers hlimit hsome
            rw [hrun] at htrace
            exact absurd htrace (Trace.not_split_events steps hact)
      · rw [run_of_problems hread hsound] at htrace
        exact absurd htrace (Trace.not_split_events [] hact)

/-- Nothing happens before every check has passed. A changelog that cannot be read, one with
problems, a pool without workers, and a change set without a checksum, in this order, each end the
run with a fault of its own before anything is printed or attempted. When all checks pass and the
listing is asked for, the run prints the checksum that each change set has on its own, in whatever
mode, and attempts nothing. -/
theorem checks_come_first (world : World σ) (options : Options) (state : σ)
    (hlimit : options.workers.getD (world.parallelism state) ≤ Checksum.workerLimit) :
    (∀ (before : Trace) (act : Occurrence) (after : Trace),
      (run world options state).trace = before ++ act :: after →
      (∀ event, act ≠ .logged event) →
        ∃ changelog, Cleared world options state changelog ∧
          .logged (Checksum.generatedEvent changelog.entries.length) ∈ before) ∧
    (∀ failure, Changelog.ofReading (world.read state options.changelog) = .error failure →
      ((∃ source, failure = .io source) ∨ ∃ fault, failure = .document fault) ∧
      Halted (run world options state) state
        ⟨["loading changelog " ++ Text.quote options.changelog], failure⟩) ∧
    (∀ changelog, Changelog.ofReading (world.read state options.changelog) = .ok changelog →
      (changelog.problems.messages ≠ [] →
        Halted (run world options state) state
          ⟨["loading changelog " ++ Text.quote options.changelog],
            .validation changelog.problems.messages⟩) ∧
      (changelog.problems.messages = [] → options.workers = some 0 →
        Halted (run world options state) state
          ⟨[], .config "--workers must be at least 1"⟩) ∧
      (changelog.problems.messages = [] → options.workers ≠ some 0 →
        (∃ changeSet ∈ declaredChangeSets world options state changelog,
          ∃ fault, changeSet.generateChecksum (world.read state) = .error fault) →
        Halted (run world options state) state
          ⟨[], .checksum (ChangeSet.checksumFailures (world.read state)
            (declaredChangeSets world options state changelog))⟩) ∧
      (Cleared world options state changelog → options.checksums = true →
        (run world options state).ending = .finished ∧
        (run world options state).trace.attempts = [] ∧
        (run world options state).state = state ∧
        List.Forall₂ (ChangeSet.ListedAs (world.read state))
          (declaredChangeSets world options state changelog)
          (run world options state).trace.lines)) := by
  refine ⟨fun before act after htrace hact => cleared_of_act hlimit htrace hact, ?_, ?_⟩
  · intro failure hread
    refine ⟨reading_failure hread, ?_⟩
    rw [run_of_unread hread]
    exact halted_of_events [] _ state
  · intro changelog hread
    refine ⟨fun hproblems => ?_, fun hsound hnone => ?_, fun hsound hpositive hsome => ?_,
      fun hcleared hlisting => hcleared.listing hlimit hlisting⟩
    · rw [run_of_problems hread hproblems]
      exact halted_of_events [] _ state
    · have hload : Changelog.load world state options.changelog = .ok ⟨changelog, hsound⟩ :=
        load_eq_ok_iff.2 hread
      rw [run_of_no_workers hload hnone]
      exact halted_of_events [] _ state
    · have hload : Changelog.load world state options.changelog = .ok ⟨changelog, hsound⟩ :=
        load_eq_ok_iff.2 hread
      obtain ⟨steps, hrun⟩ := run_of_unchecked hload hpositive hlimit hsome
      rw [hrun]
      exact halted_of_events steps _ state

/-- The lines of a changelog with a command, in which the last change set needs a file. -/
def linesWithFile : List String :=
  ["[[changeset]]", "id = \"a\"", "author = \"x\"", "execute_command.executable = \"ls\"",
    "[[changeset]]", "id = \"b\"", "author = \"x\"", "files = [\"f\"]"]

/-- The changelog with these lines. -/
def changelogWithFile : Changelog where
  entries := [
    { id := "a", author := "x", command := some { executable := some "ls" } },
    { id := "b", author := "x", files := ["f"] }]

/-- The pieces in which the changelog is read. -/
def piecesWithFile : List (List UInt8) :=
  linesWithFile.map fun line => Text.Utf8.encode line ++ [0x0A]

/-- The pieces are read as the changelog. -/
theorem reading_with_file :
    Changelog.ofReading (.opened piecesWithFile none) = .ok changelogWithFile := by
  let characters := linesWithFile.flatMap fun line => line.toList ++ ['\n']
  have hparts : (Text.Utf8.parts piecesWithFile.flatten).mapM id = some characters := by
    decide +kernel
  refine reading_of_characters hparts ?_
  rw [Changelog.ofText, Toml.parse?, Toml.statements?, Toml.tokens_ofList]
  decide +kernel

/-- A world with that changelog and without the file. -/
def worldWithMissingFile : World Unit where
  read _ path :=
    if path = "Changelog.toml" then .opened piecesWithFile none else .refused .notFound
  directory _ := "/work"
  parallelism _ := 2
  launch _ _ _ := (.refused .notFound, ())

/-- A file that is missing in the end keeps the first command from being started. A changelog that
is missing is reported with its path, even if there are no workers either. -/
theorem checks_come_first_with_missing_file :
    ({} : Options).workers.getD (worldWithMissingFile.parallelism ()) ≤ Checksum.workerLimit ∧
    Halted (run worldWithMissingFile {} ()) ()
      ⟨[], .checksum [⟨"b::x",
        "opening file for checksum: \"/work/f\": No such file or directory (os error 2)"⟩]⟩ ∧
    Halted (run worldWithMissingFile { changelog := "Other.toml", workers := some 0 } ()) ()
      ⟨["loading changelog \"Other.toml\""], .io .notFound⟩ := by
  have hfailures : ChangeSet.checksumFailures (worldWithMissingFile.read ())
      (declaredChangeSets worldWithMissingFile {} () changelogWithFile) =
        [⟨"b::x",
          "opening file for checksum: \"/work/f\": No such file or directory (os error 2)"⟩] := by
    decide +kernel
  have hsome := (generated_or_unreadable (worldWithMissingFile.read ())
    (declaredChangeSets worldWithMissingFile {} () changelogWithFile)).resolve_left fun hall => by
      rw [ChangeSet.failures_of_generated hall] at hfailures
      cases hfailures
  have hlimit : ({} : Options).workers.getD (worldWithMissingFile.parallelism ()) ≤
      Checksum.workerLimit := by decide
  obtain ⟨_, _, hchecks⟩ := checks_come_first worldWithMissingFile {} () hlimit
  have hhalted := (hchecks changelogWithFile reading_with_file).2.2.1 (by decide +kernel)
    (by decide) hsome
  rw [hfailures] at hhalted
  obtain ⟨_, hreading, _⟩ := checks_come_first worldWithMissingFile
    { changelog := "Other.toml", workers := some 0 } () (by decide)
  have hquoted : "loading changelog " ++ Text.quote "Other.toml" =
      "loading changelog \"Other.toml\"" := by
    decide
  have hunread := (hreading (.io .notFound) rfl).2
  simp only [hquoted] at hunread
  exact ⟨hlimit, hhalted, hunread⟩

end Runbook
