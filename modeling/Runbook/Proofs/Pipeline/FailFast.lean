import Runbook.Proofs.Pipeline.Applying
import Runbook.Proofs.Pipeline.Stages

/-!
# Failing fast

A live run attempts its due commands in turn and stops at the first one that fails, whose failure it
reports under the identity of the change set. The main theorem is `live_run_fails_fast`.
-/

namespace Runbook

variable {σ : Type} {world : World σ} {options : Options} {state : σ}

/-- A checksum makes no difference to what is due. -/
theorem due_commands_of_generated {read : String → FileReading}
    {changeSets finished : List ChangeSet}
    (h : List.Forall₂ (fun changeSet done => changeSet.generateChecksum read = .ok done)
      changeSets finished) (osName : String) :
    dueCommands osName finished = dueCommands osName changeSets := by
  induction h with
  | nil => rfl
  | cons hdone _ ih =>
      obtain ⟨checksum, rfl, _⟩ := ChangeSet.generated_eq hdone
      rw [dueCommands, dueCommands, List.filterMap_cons, List.filterMap_cons]
      rw [dueCommands, dueCommands] at ih
      rw [ih]
      rfl

/-- The due commands of a changelog are declared by its entries. -/
theorem declared_of_due {changelog : Changelog} {osName : String} {due : Due}
    (hdue : due ∈ dueCommands osName (declaredChangeSets world options state changelog)) :
    ∃ entry : CommandEntry, due.command = entry.toCommand := by
  obtain ⟨changeSet, hchangeSet, hdue⟩ := List.mem_filterMap.1 hdue
  obtain ⟨entry, _, rfl⟩ := List.mem_map.1 hchangeSet
  obtain ⟨command, _, hsame⟩ := Option.map_eq_some_iff.1 (ChangeSet.command_of_due hdue).1
  exact ⟨command, hsame.symm⟩

/-- Every command of a changelog names a program. -/
theorem named_of_declared {changelog : Changelog} {osName : String} :
    ∀ due ∈ dueCommands osName (declaredChangeSets world options state changelog),
      due.command.argv ≠ [] := by
  intro due hmem
  obtain ⟨entry, hentry⟩ := declared_of_due hmem
  rw [hentry]
  exact List.cons_ne_nil _ _

/-- A live run whose checks all pass attempts the due commands in turn, and ends as they do. -/
theorem live_run_in_turn {accepted : Changelog.Accepted}
    (hload : Changelog.load world state options.changelog = .ok accepted)
    (hpositive : options.workers ≠ some 0)
    (hlimit : options.workers.getD (world.parallelism state) ≤ Checksum.workerLimit)
    (hall : ∀ changeSet ∈ declaredChangeSets world options state accepted.changelog,
      ∃ finished, changeSet.generateChecksum (world.read state) = .ok finished)
    (hlisting : options.checksums = false)
    (hlive : options.mode accepted.changelog.settings = .live)
    (osName : String := currentOsName) :
    ∃ applied : AppliedAll σ,
      AppliedAll.InTurn world accepted.changelog.settings.encoding
        (dueCommands osName
          (declaredChangeSets world options state accepted.changelog)) state applied ∧
      run world options state osName =
        { trace := applied.trace
          ending :=
            match applied.failure with
            | none => .finished
            | some (changeSet, failure) => .failed ⟨[changeSet.failureContext], failure⟩
          state := applied.state } := by
  obtain ⟨steps, finished, hfinished, hrun⟩ := run_of_checked hload hpositive hlimit hall
  let context : Context :=
    ⟨options.mode accepted.changelog.settings, accepted.changelog.settings.encoding, osName⟩
  let announced :=
    steps ++ [Checksum.generatedEvent finished.length] ++ [applyingEvent context finished.length]
  have hlive : context.mode = .live := hlive
  have hnamed : ∀ due ∈ dueCommands context.osName finished, due.command.argv ≠ [] := by
    rw [due_commands_of_generated hfinished]
    exact named_of_declared
  have hturn := (apply_all_in_turn world hlive finished hnamed state).after_events announced
  rw [due_commands_of_generated hfinished] at hturn
  refine ⟨_, hturn, ?_⟩
  rw [hrun, proceed, if_neg (by simp [hlisting])]
  simp only [announced, Trace.ofEvents, List.map_append, List.append_assoc]
  rfl

/-- A live run fails fast, on every operating system. Let all checksums be there, and consider the
commands that are due, in the order of declaration, with the verdicts that the world gives on them
one after the other. The run finishes exactly if all verdicts are favourable, and then it has
attempted every due command once and in order. Otherwise it has attempted exactly those up to the
first failure, and it ends with that failure under the identity of its change set. No command is
attempted before the verdicts on all earlier ones have been favourable and confirmed. -/
theorem live_run_fails_fast (world : World σ) (options : Options) (state : σ)
    {accepted : Changelog.Accepted}
    (hload : Changelog.load world state options.changelog = .ok accepted)
    (hreadable : ∀ changeSet ∈ declaredChangeSets world options state accepted.changelog,
      ∀ path ∈ changeSet.files, (world.read state path).content?.isSome = true)
    (hpositive : options.workers ≠ some 0)
    (hlimit : options.workers.getD (world.parallelism state) ≤ Checksum.workerLimit)
    (hlisting : options.checksums = false)
    (hlive : options.mode accepted.changelog.settings = .live) (osName : String) :
    let dues := dueCommands osName (declaredChangeSets world options state accepted.changelog)
    let found := verdicts world accepted.changelog.settings.encoding dues state
    let result := run world options state osName
    (result.ending = .finished ↔ ∀ verdict ∈ found, ∃ message, verdict = .ok message) ∧
    ((∀ verdict ∈ found, ∃ message, verdict = .ok message) →
      result.trace.attempts = (dues.map fun due => due.command.argv) ∧
      result.state = worldAfter world dues state) ∧
    (∀ position failure, FirstFailure found position failure →
      (∃ due, dues[position]? = some due ∧
        result.ending = .failed ⟨["changeset '" ++ due.key ++ "'"], failure⟩) ∧
      result.trace.attempts = ((dues.take (position + 1)).map fun due => due.command.argv) ∧
      result.state = worldAfter world (dues.take (position + 1)) state) ∧
    (∀ (before : Trace) (argv : List String) (after : Trace),
      result.trace = before ++ .attempted argv :: after →
      (∃ due, dues[before.attempts.length]? = some due ∧ due.command.argv = argv) ∧
      ∀ earlier < before.attempts.length, ∃ due message, dues[earlier]? = some due ∧
        found[earlier]? = some (.ok message) ∧ .logged (due.confirmed message) ∈ before) ∧
    result.trace.lines = [] := by
  intro dues found result
  obtain ⟨applied, hturn, hrun⟩ := live_run_in_turn hload hpositive hlimit
    (fun changeSet hmem => ChangeSet.generate_checksum_ok_iff.2 (hreadable changeSet hmem))
    hlisting hlive osName
  have hresult : result = _ := hrun
  have hfailed : ∀ position failure, FirstFailure found position failure →
      ∃ due, dues[position]? = some due ∧
        result.ending = .failed ⟨["changeset '" ++ due.key ++ "'"], failure⟩ := by
    intro position failure hfirst
    obtain ⟨⟨due, changeSet, hdue, hkey, hfailure⟩, _⟩ := hturn.failed position failure hfirst
    refine ⟨due, hdue, ?_⟩
    rw [hresult, hfailure, ← hkey]
    rfl
  refine ⟨⟨fun hfinished => ?_, fun hall => ?_⟩, fun hall => ?_, fun position failure hfirst => ?_,
    ?_, ?_⟩
  · rcases favourable_or_first_failure found with hall | ⟨position, failure, hfirst⟩
    · exact hall
    · obtain ⟨due, _, hending⟩ := hfailed position failure hfirst
      rw [hfinished] at hending
      cases hending
  · rw [hresult, (hturn.favourable hall).1]
  · rw [hresult]
    exact (hturn.favourable hall).2
  · refine ⟨hfailed position failure hfirst, ?_⟩
    rw [hresult]
    exact (hturn.failed position failure hfirst).2
  · rw [hresult]
    exact hturn.attempted
  · rw [hresult]
    exact hturn.silent

/-- The lines of a changelog with a change set without a command, one whose command is going to
succeed, one for another system, one whose command is going to fail, and one that is not reached. -/
def linesWithFailure : List String :=
  ["[[changeset]]", "id = \"a\"", "author = \"x\"",
    "[[changeset]]", "id = \"b\"", "author = \"x\"", "execute_command.executable = \"true\"",
    "execute_command.args = [\"-n\", \"a b\"]",
    "[[changeset]]", "id = \"c\"", "author = \"x\"", "execute_command.executable = \"dir\"",
    "execute_command.os = \"Windows\"",
    "[[changeset]]", "id = \"d\"", "author = \"x\"", "execute_command.executable = \"false\"",
    "[[changeset]]", "id = \"e\"", "author = \"x\"", "execute_command.executable = \"true\""]

/-- The changelog with these lines. -/
def changelogWithFailure : Changelog.Accepted where
  changelog :=
    { entries := [
        { id := "a", author := "x" },
        { id := "b", author := "x",
          command := some { executable := some "true", args := ["-n", "a b"] } },
        { id := "c", author := "x",
          command := some { executable := some "dir", os := some "Windows" } },
        { id := "d", author := "x", command := some { executable := some "false" } },
        { id := "e", author := "x", command := some { executable := some "true" } }] }
  sound := by decide +kernel

/-- The pieces in which the changelog is read. -/
def piecesWithFailure : List (List UInt8) :=
  linesWithFailure.map fun line => Text.Utf8.encode line ++ [0x0A]

/-- The pieces are read as the changelog. -/
theorem reading_with_failure :
    Changelog.ofReading (.opened piecesWithFailure none) = .ok changelogWithFailure.changelog := by
  let characters := linesWithFailure.flatMap fun line => line.toList ++ ['\n']
  have hparts : (Text.Utf8.parts piecesWithFailure.flatten).mapM id = some characters := by
    decide +kernel
  refine reading_of_characters hparts ?_
  rw [Changelog.ofText, Toml.parse?, Toml.statements?, Toml.tokens_ofList]
  decide +kernel

/-- A world with that changelog. It counts the attempts, and the second one fails with exit code 3.
-/
def worldWithFailure : World Nat where
  read _ path :=
    if path = "Changelog.toml" then .opened piecesWithFailure none else .refused .notFound
  directory _ := "/work"
  parallelism _ := 2
  launch started _ _ :=
    (.started
      { lifetime := 5
        ending := .exited (if started = 1 then 3 else 0)
        stdout := some [⟨1, .endOfFile⟩]
        stderr := some [⟨1, .endOfFile⟩] }, started + 1)

/-- The command that fails is the last one that is attempted. -/
theorem live_run_fails_fast_with_exit_code :
    (run worldWithFailure {} 0).ending =
      .failed ⟨["changeset 'd::x'"], .nonZeroExit "false" 3 ""⟩ ∧
    (run worldWithFailure {} 0).trace.attempts = [["true", "-n", "a b"], ["false"]] ∧
    (run worldWithFailure {} 0).state = 2 := by
  have hload : Changelog.load worldWithFailure 0 "Changelog.toml" = .ok changelogWithFailure :=
    load_eq_ok_iff.2 reading_with_failure
  have hreadable : ∀ changeSet ∈
      declaredChangeSets worldWithFailure {} 0 changelogWithFailure.changelog,
      ∀ path ∈ changeSet.files, (worldWithFailure.read 0 path).content?.isSome = true := by
    decide +kernel
  let dues := dueCommands currentOsName
    (declaredChangeSets worldWithFailure {} 0 changelogWithFailure.changelog)
  have hfirst : FirstFailure (verdicts worldWithFailure .utf8 dues 0) 1
      (.nonZeroExit "false" 3 "") := by
    refine ⟨by decide +kernel, fun earlier hlt => ⟨confirmation "true -n a b", ?_⟩⟩
    obtain rfl : earlier = 0 := by omega
    decide +kernel
  have hattempted : ((dues.take 2).map fun due => due.command.argv) =
      [["true", "-n", "a b"], ["false"]] := by
    decide +kernel
  obtain ⟨_, _, hfailed, _⟩ := live_run_fails_fast worldWithFailure {} 0 hload hreadable
    (by decide) (by decide) rfl rfl currentOsName
  obtain ⟨⟨due, hdue, hending⟩, hattempts, hstate⟩ := hfailed 1 (.nonZeroExit "false" 3 "") hfirst
  have hkey : due.key = "d::x" := by
    have hkeys : (dues[1]?.map Due.key) = some "d::x" := by decide +kernel
    rw [hdue] at hkeys
    exact Option.some.inj hkeys
  refine ⟨?_, ?_, ?_⟩
  · rw [hending, hkey]
    decide
  · rw [hattempts]
    exact hattempted
  · rw [hstate]
    decide +kernel

end Runbook
