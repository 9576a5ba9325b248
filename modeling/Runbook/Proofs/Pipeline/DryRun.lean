import Runbook.Proofs.Pipeline.Checks
import Runbook.Proofs.Pipeline.FailFast

/-!
# Dry runs

A run in log-only mode prints the lines of the commands that are due, and attempts nothing. A live
run of the same entries attempts these commands in the same order, up to the first failure. The main
theorem is `dry_run_is_faithful`.
-/

namespace Runbook

/-- A run is a dry one if its options or its changelog say so. -/
theorem Options.mode_eq_log_only_iff {options : Options} {settings : Settings} :
    options.mode settings = .logOnly ↔ options.logOnly = true ∨ settings.mode = .logOnly := by
  unfold mode
  split <;> simp_all

/-- A run is a live one if neither its options nor its changelog object. -/
theorem Options.mode_eq_live_iff {options : Options} {settings : Settings} :
    options.mode settings = .live ↔ options.logOnly = false ∧ settings.mode = .live := by
  unfold mode
  split <;> simp_all

section applying

variable {σ : Type} (world : World σ) {context : Context} (state : σ)

/-- In log-only mode the line of a due command is printed, and nothing else happens. -/
theorem ChangeSet.apply_of_recorded (hmode : context.mode = .logOnly) {changeSet : ChangeSet}
    {due : Due} (hdue : changeSet.due? context.osName = some due) :
    changeSet.apply world context state =
      ⟨[.printed ("-- " ++ due.command.line)], .ok (), state⟩ := by
  obtain ⟨hcommand, _, hadmits⟩ := command_of_due hdue
  simp [apply, hcommand, Command.plan_of_log_only hadmits hmode,
    Command.planEvents_of_admitted hadmits, recordLine, Trace.ofEvents]

/-- An application that prints lines, attempts nothing, meets no failure and leaves the world as it
was. -/
structure AppliedAll.Recorded (lines : List String) (state : σ) (applied : AppliedAll σ) : Prop
    where
  lines : applied.trace.lines = lines
  attempts : applied.trace.attempts = []
  failure : applied.failure = none
  state : applied.state = state

/-- In log-only mode the lines of the due commands are printed in order. -/
theorem apply_all_recorded (hmode : context.mode = .logOnly) (changeSets : List ChangeSet) :
    AppliedAll.Recorded
      ((dueCommands context.osName changeSets).map fun due => "-- " ++ due.command.line) state
      (applyAll world context changeSets state) := by
  induction changeSets with
  | nil => exact ⟨rfl, rfl, rfl, rfl⟩
  | cons changeSet rest ih =>
      obtain ⟨hlines, hattempts, hfailure, hstate⟩ := ih
      rw [applyAll, dueCommands]
      rw [dueCommands] at hlines
      cases hdue : changeSet.due? context.osName with
      | none =>
          obtain ⟨events, happly⟩ := ChangeSet.apply_of_not_due world state hdue
          rw [List.filterMap_cons_none hdue]
          simp only [happly]
          exact ⟨by simpa using hlines, by simpa using hattempts, hfailure, hstate⟩
      | some due =>
          rw [List.filterMap_cons_some hdue]
          simp only [ChangeSet.apply_of_recorded world state hmode hdue]
          exact ⟨by simpa using hlines, by simpa using hattempts, hfailure, hstate⟩

end applying

section runs

variable {σ : Type} {world : World σ} {options : Options} {state : σ} {changelog : Changelog}

/-- A dry run whose checks all pass prints the lines of the due commands and does nothing else. -/
theorem Cleared.dry_run (h : Cleared world options state changelog)
    (hlimit : options.workers.getD (world.parallelism state) ≤ Checksum.workerLimit)
    (hlisting : options.checksums = false)
    (hmode : options.mode changelog.settings = .logOnly) (osName : String) :
    (run world options state osName).ending = .finished ∧
    (run world options state osName).trace.attempts = [] ∧
    (run world options state osName).state = state ∧
    (run world options state osName).trace.lines =
      (dueCommands osName (declaredChangeSets world options state changelog)).map
        fun due => "-- " ++ due.command.line := by
  have hload : Changelog.load world state options.changelog = .ok ⟨changelog, h.sound⟩ :=
    load_eq_ok_iff.2 h.read
  obtain ⟨steps, finished, hfinished, hrun⟩ := run_of_checked hload h.workers hlimit h.checksums
  let context : Context := ⟨options.mode changelog.settings, changelog.settings.encoding, osName⟩
  have hcontext : context.mode = .logOnly := hmode
  obtain ⟨hlines, hattempts, hfailure, hstate⟩ := apply_all_recorded world state hcontext finished
  rw [due_commands_of_generated hfinished] at hlines
  rw [hrun, proceed, if_neg (by simp [hlisting])]
  simp only [Trace.attempts_append, Trace.lines_append, Trace.attempts_ofEvents,
    Trace.lines_ofEvents, Trace.attempts_logged, Trace.lines_logged, List.nil_append]
  refine ⟨?_, hattempts, hstate, hlines⟩
  simp only [context] at hfailure
  rw [hfailure]

/-- A declared command is shown as its argument vector joined by spaces. -/
theorem line_of_declared {osName : String} {due : Due}
    (hdue : due ∈ dueCommands osName (declaredChangeSets world options state changelog)) :
    due.command.line = " ".intercalate due.command.argv := by
  obtain ⟨entry, hentry⟩ := declared_of_due hdue
  rw [hentry]
  rfl

/-- What is due depends on the entries of a changelog alone. -/
theorem due_commands_of_same_entries {τ : Type} {other : World τ} {otherOptions : Options}
    {otherState : τ} {otherLog : Changelog} (hsame : changelog.entries = otherLog.entries)
    (osName : String) :
    dueCommands osName (declaredChangeSets world options state changelog) =
      dueCommands osName (declaredChangeSets other otherOptions otherState otherLog) := by
  simp only [dueCommands, declaredChangeSets, Changelog.changeSets, List.filterMap_map, hsame]
  rfl

end runs

/-- A dry run is faithful. Take two runs of the same entries on the same operating system, whose
checks all pass and which are not asked for the listing. Let one be dry, by its options or by its
changelog, and the other one live. The dry run finishes without any attempt, and prints a list of
records, each behind its marker. If all verdicts of the live run are favourable, it attempts one
argument vector for each record, and the record is that vector joined by spaces. If a verdict is the
first one that is not favourable, the same holds of the records up to that attempt, which is the
last one. -/
theorem dry_run_is_faithful {σ τ : Type} (dryWorld : World σ) (liveWorld : World τ)
    (dryOptions liveOptions : Options) (dryState : σ) (liveState : τ) (osName : String)
    {dryLog liveLog : Changelog} (hsame : dryLog.entries = liveLog.entries)
    (hdry : Cleared dryWorld dryOptions dryState dryLog)
    (hlive : Cleared liveWorld liveOptions liveState liveLog)
    (hdryLimit : dryOptions.workers.getD (dryWorld.parallelism dryState) ≤ Checksum.workerLimit)
    (hliveLimit :
      liveOptions.workers.getD (liveWorld.parallelism liveState) ≤ Checksum.workerLimit)
    (hdryListing : dryOptions.checksums = false) (hliveListing : liveOptions.checksums = false)
    (hdryMode : dryOptions.logOnly = true ∨ dryLog.settings.mode = .logOnly)
    (hliveMode : liveOptions.logOnly = false ∧ liveLog.settings.mode = .live) :
    let dry := run dryWorld dryOptions dryState osName
    let live := run liveWorld liveOptions liveState osName
    let found := verdicts liveWorld liveLog.settings.encoding
      (dueCommands osName (declaredChangeSets liveWorld liveOptions liveState liveLog)) liveState
    dry.ending = .finished ∧ dry.trace.attempts = [] ∧
    ∃ records : List String,
      dry.trace.lines = records.map ("-- " ++ ·) ∧
      ((∀ verdict ∈ found, ∃ message, verdict = .ok message) →
        live.trace.attempts.map (fun argv => " ".intercalate argv) = records) ∧
      (∀ position failure, FirstFailure found position failure →
        live.trace.attempts.map (fun argv => " ".intercalate argv) =
          records.take (position + 1) ∧
        live.trace.attempts.length = position + 1) := by
  intro dry live found
  obtain ⟨hending, hattempts, _, hlines⟩ :=
    hdry.dry_run hdryLimit hdryListing (Options.mode_eq_log_only_iff.2 hdryMode) osName
  have hload : Changelog.load liveWorld liveState liveOptions.changelog =
      .ok ⟨liveLog, hlive.sound⟩ := load_eq_ok_iff.2 hlive.read
  obtain ⟨applied, hturn, hrun⟩ := live_run_in_turn hload hlive.workers hliveLimit hlive.checksums
    hliveListing (Options.mode_eq_live_iff.2 hliveMode) osName
  let dues := dueCommands osName (declaredChangeSets liveWorld liveOptions liveState liveLog)
  -- Records show what is declared, attempts what is handed over, and no hook sets them apart.
  have hjoined : (dues.map fun due => due.command.argv).map (fun argv => " ".intercalate argv) =
      dues.map fun due => due.command.line := by
    rw [List.map_map]
    exact List.map_congr_left fun due hdue => (line_of_declared hdue).symm
  have htrace : live.trace = applied.trace := congrArg RunResult.trace hrun
  refine ⟨hending, hattempts, dues.map fun due => due.command.line, ?_, fun hall => ?_,
    fun position failure hfirst => ⟨?_, ?_⟩⟩
  · rw [hlines, due_commands_of_same_entries hsame, List.map_map]
    rfl
  · rw [htrace, (hturn.favourable hall).2.1, hjoined]
  · rw [htrace, (hturn.failed position failure hfirst).2.1, List.map_take, List.map_take, hjoined]
  · obtain ⟨⟨due, _, hdue, _⟩, hpart, _⟩ := hturn.failed position failure hfirst
    have hposition : position < dues.length := (List.getElem?_eq_some_iff.1 hdue).1
    rw [htrace, hpart, List.length_map]
    exact List.length_take_of_le hposition

/-- All checks of a run of the changelog whose fourth command fails pass, whatever its mode. -/
theorem cleared_with_failure (logOnly : Bool) :
    Cleared worldWithFailure { logOnly := logOnly } 0 changelogWithFailure.changelog where
  read := reading_with_failure
  sound := changelogWithFailure.sound
  workers := by simp
  checksums := by
    have hreadable : ∀ changeSet ∈
        declaredChangeSets worldWithFailure {} 0 changelogWithFailure.changelog,
        ∀ path ∈ changeSet.files, (worldWithFailure.read 0 path).content?.isSome = true := by
      decide +kernel
    exact fun changeSet hmem =>
      ChangeSet.generate_checksum_ok_iff.2 (hreadable changeSet hmem)

/-- The flag makes a run of a live changelog dry. Its first record joins three tokens, one of them
with a space in it, and its records go beyond the failure that stops the live run. -/
theorem dry_run_is_faithful_beyond_failure :
    changelogWithFailure.changelog.settings.mode = .live ∧
    (run worldWithFailure { logOnly := true } 0).trace.attempts = [] ∧
    (run worldWithFailure {} 0).trace.attempts = [["true", "-n", "a b"], ["false"]] ∧
    ∃ records : List String,
      (run worldWithFailure { logOnly := true } 0).trace.lines = records.map ("-- " ++ ·) ∧
      records.take 2 = ["true -n a b", "false"] := by
  let dues := dueCommands currentOsName
    (declaredChangeSets worldWithFailure {} 0 changelogWithFailure.changelog)
  have hfirst : FirstFailure (verdicts worldWithFailure .utf8 dues 0) 1
      (.nonZeroExit "false" 3 "") := by
    refine ⟨by decide +kernel, fun earlier hlt => ⟨confirmation "true -n a b", ?_⟩⟩
    obtain rfl : earlier = 0 := by omega
    decide +kernel
  obtain ⟨_, hattempts, records, hlines, _, hfailed⟩ :=
    dry_run_is_faithful worldWithFailure worldWithFailure { logOnly := true } {} 0 0 currentOsName
      rfl (cleared_with_failure true) (cleared_with_failure false) (by decide) (by decide) rfl rfl
      (.inl rfl) ⟨rfl, rfl⟩
  have hjoined := (hfailed 1 _ hfirst).1
  have hattempted : (run worldWithFailure {} 0).trace.attempts =
      [["true", "-n", "a b"], ["false"]] := by
    obtain ⟨applied, hturn, hrun⟩ := live_run_in_turn (load_eq_ok_iff.2 reading_with_failure)
      (by decide) (by decide) (cleared_with_failure false).checksums rfl rfl currentOsName
    rw [hrun, (hturn.failed 1 _ hfirst).2.1]
    decide
  rw [hattempted] at hjoined
  exact ⟨rfl, hattempts, hattempted, records, hlines, hjoined.symm⟩

end Runbook
