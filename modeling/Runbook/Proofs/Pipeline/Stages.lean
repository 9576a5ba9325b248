import Runbook.Proofs.Checksum.ChangeSets
import Runbook.Run

/-!
# The stages of a run

Each theorem says what a run comes to, given how far its checks get: the changelog is read, it has
no problems, there are workers, and every change set gets its checksum.
-/

namespace Runbook

variable {σ : Type} {world : World σ} {options : Options} {state : σ} {osName : String}

/-- The declared change sets of a changelog. Their files are relative to its own directory. -/
def declaredChangeSets (world : World σ) (options : Options) (state : σ) (changelog : Changelog) :
    List ChangeSet :=
  changelog.changeSets (rootDirectory world state options.changelog)

/-- A changelog is read from pieces that decode to the characters which describe it. -/
theorem reading_of_characters {pieces : List (List UInt8)} {characters : List Char}
    {changelog : Changelog}
    (hparts : (Text.Utf8.parts pieces.flatten).mapM id = some characters)
    (htext : Changelog.ofText (String.ofList characters) = .ok changelog) :
    Changelog.ofReading (.opened pieces none) = .ok changelog := by
  simp only [Changelog.ofReading, Changelog.ofOctets, Text.Utf8.decode_of_parts hparts, htext]
  rfl

/-- A changelog is loaded exactly if it can be read and has no problems. -/
theorem load_eq_ok_iff {path : String} {accepted : Changelog.Accepted} :
    Changelog.load world state path = .ok accepted ↔
      Changelog.ofReading (world.read state path) = .ok accepted.changelog := by
  unfold Changelog.load
  cases hread : Changelog.ofReading (world.read state path) with
  | error failure => simp [Except.bind]
  | ok changelog =>
      constructor
      · intro haccept
        simp only [Except.bind, Changelog.accept] at haccept
        split at haccept
        · cases haccept
          rfl
        · cases haccept
      · intro hsame
        cases hsame
        simp only [Except.bind, Changelog.accept, dif_pos accepted.sound]

/-- A changelog that cannot be read ends the run. -/
theorem run_of_unread {failure : Failure}
    (hread : Changelog.ofReading (world.read state options.changelog) = .error failure) :
    run world options state osName =
      ⟨[], .failed ⟨[loadContext options.changelog], failure⟩, state⟩ := by
  simp [run, Changelog.load, hread, Except.bind]

/-- A changelog with problems ends the run. -/
theorem run_of_problems {changelog : Changelog}
    (hread : Changelog.ofReading (world.read state options.changelog) = .ok changelog)
    (hproblems : changelog.problems.messages ≠ []) :
    run world options state osName =
      ⟨[], .failed ⟨[loadContext options.changelog],
        .validation changelog.problems.messages⟩, state⟩ := by
  simp [run, Changelog.load, hread, Except.bind, Changelog.accept, hproblems]

section accepted

variable {accepted : Changelog.Accepted}

/-- A pool without workers ends the run. -/
theorem run_of_no_workers
    (hload : Changelog.load world state options.changelog = .ok accepted)
    (hnone : options.workers = some 0) :
    run world options state osName =
      ⟨[], .failed ⟨[], .config "--workers must be at least 1"⟩, state⟩ := by
  simp [run, hload, checkAndProceed, hnone, poolSize]

/-- The size of a pool with workers is within the limit, if the requested number is. -/
theorem pool_size_of_positive (hpositive : options.workers ≠ some 0)
    (hlimit : options.workers.getD (world.parallelism state) ≤ Checksum.workerLimit) :
    ∃ workers, poolSize world state options.workers = .ok workers ∧
      workers ≤ Checksum.workerLimit := by
  cases hworkers : options.workers with
  | none =>
      rw [hworkers] at hlimit
      exact ⟨_, rfl, Nat.max_le.2 ⟨hlimit, by decide⟩⟩
  | some requested =>
      rw [hworkers] at hlimit hpositive
      cases requested with
      | zero => exact absurd rfl hpositive
      | succ workers => exact ⟨_, rfl, hlimit⟩

/-- A change set without a checksum ends the run. -/
theorem run_of_unchecked
    (hload : Changelog.load world state options.changelog = .ok accepted)
    (hpositive : options.workers ≠ some 0)
    (hlimit : options.workers.getD (world.parallelism state) ≤ Checksum.workerLimit)
    (hsome : ∃ changeSet ∈ declaredChangeSets world options state accepted.changelog,
      ∃ fault, changeSet.generateChecksum (world.read state) = .error fault) :
    ∃ steps : List Event,
      run world options state osName =
        ⟨Trace.ofEvents steps,
          .failed ⟨[], .checksum (ChangeSet.checksumFailures (world.read state)
            (declaredChangeSets world options state accepted.changelog))⟩, state⟩ := by
  obtain ⟨workers, hsize, hworkers⟩ := pool_size_of_positive hpositive hlimit
  obtain ⟨steps, hbatch⟩ := ChangeSet.generate_of_unreadable hworkers hsome
  unfold declaredChangeSets at hbatch
  refine ⟨steps, ?_⟩
  simp only [run, hload, checkAndProceed, hsize, hbatch]
  rfl

/-- A run whose checks all pass goes on with change sets that differ from the declared ones only in
their checksums. -/
theorem run_of_checked
    (hload : Changelog.load world state options.changelog = .ok accepted)
    (hpositive : options.workers ≠ some 0)
    (hlimit : options.workers.getD (world.parallelism state) ≤ Checksum.workerLimit)
    (hall : ∀ changeSet ∈ declaredChangeSets world options state accepted.changelog,
      ∃ finished, changeSet.generateChecksum (world.read state) = .ok finished) :
    ∃ (steps : List Event) (finished : List ChangeSet),
      List.Forall₂ (fun changeSet done => changeSet.generateChecksum (world.read state) = .ok done)
        (declaredChangeSets world options state accepted.changelog) finished ∧
      run world options state osName =
        { proceed world options accepted.changelog.settings finished state osName with
          trace := Trace.ofEvents (steps ++ [Checksum.generatedEvent finished.length]) ++
            (proceed world options accepted.changelog.settings finished state osName).trace } := by
  obtain ⟨workers, hsize, hworkers⟩ := pool_size_of_positive hpositive hlimit
  obtain ⟨steps, finished, hbatch, hfinished⟩ := ChangeSet.generate_of_generated hworkers hall
  rw [hfinished.length_eq] at hbatch
  unfold declaredChangeSets at hbatch
  refine ⟨steps, finished, hfinished, ?_⟩
  simp only [run, hload, checkAndProceed, hsize, hbatch]

end accepted

end Runbook
