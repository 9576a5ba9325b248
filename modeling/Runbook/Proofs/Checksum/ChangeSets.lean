import Mathlib.Data.List.Forall2
import Runbook.ChangeSet
import Runbook.Proofs.Checksum.Batch

/-!
# Checksums of change sets

A change set gets a checksum exactly if all its files can be read, and the checksum is a digest of
fixed length. A batch of change sets gives each of them the checksum that it has on its own, or
reports all those that have none.
-/

namespace Runbook

/-- A hash has 32 octets. -/
theorem Blake3.length_hash (octets : List UInt8) : (Blake3.hash octets).length = 32 := by
  simp [Blake3.hash, Blake3.Quad.toList, Blake3.octetsOf]

/-- The hexadecimal form has two digits for each octet. -/
theorem Text.length_hexOctets (octets : List UInt8) :
    (Text.hexOctets octets).length = 2 * octets.length := by
  simp [Text.hexOctets, List.length_flatMap, Nat.mul_comm]

/-- A checksum has 64 digits. -/
theorem Checksum.length_ofEntries (entries : List Checksum.Entry) :
    (Checksum.ofEntries entries).length = 64 := by
  rw [Checksum.ofEntries, Sink.digest, Text.length_hexOctets, Blake3.length_hash]

/-- A file has a digest exactly if all of it can be read. -/
theorem file_digest_ok_iff (path : String) {reading : FileReading} :
    (∃ digest, fileDigest path reading = .ok digest) ↔ reading.content?.isSome = true := by
  cases reading with
  | refused fault => simp [fileDigest, FileReading.content?]
  | opened pieces fault => cases fault <;> simp [fileDigest, FileReading.content?]

namespace ChangeSet

variable {read : String → FileReading} {workers : Nat} {changeSets : List ChangeSet}

/-- Files can all be hashed exactly if all of each can be read. -/
theorem hash_files_ok_iff {paths : List String} :
    (hashFiles read paths).2 = none ↔ ∀ path ∈ paths, (read path).content?.isSome = true := by
  induction paths with
  | nil => simp [hashFiles]
  | cons path rest ih =>
      rw [List.forall_mem_cons, ← ih, ← file_digest_ok_iff path]
      cases hdigest : fileDigest path (read path) with
      | error fault => simp [hashFiles, hdigest]
      | ok digest => simp [hashFiles, hdigest]

/-- A change set gets a checksum exactly if all its files can be read. -/
theorem generate_checksum_ok_iff {changeSet : ChangeSet} :
    (∃ finished, changeSet.generateChecksum read = .ok finished) ↔
      ∀ path ∈ changeSet.files, (read path).content?.isSome = true := by
  rw [← hash_files_ok_iff]
  cases hfault : (hashFiles read changeSet.files).2 with
  | none => simp [generateChecksum, entries, hfault, Except.map]
  | some fault => simp [generateChecksum, entries, hfault, Except.map]

/-- A change set that gets a checksum has entries, and the checksum is their digest. -/
theorem entries_of_generated {changeSet finished : ChangeSet}
    (h : changeSet.generateChecksum read = .ok finished) :
    ∃ entries, (changeSet.entries read).result = .ok entries ∧
      finished = { changeSet with checksum := some (Checksum.ofEntries entries) } := by
  rw [generateChecksum] at h
  cases hentries : (changeSet.entries read).result with
  | error fault =>
      rw [hentries] at h
      cases h
  | ok entries =>
      rw [hentries] at h
      cases h
      exact ⟨entries, rfl, rfl⟩

/-- A change set that gets no checksum has no entries, for the same reason. -/
theorem entries_of_unreadable {changeSet : ChangeSet} {fault : FileFault}
    (h : changeSet.generateChecksum read = .error fault) :
    (changeSet.entries read).result = .error fault := by
  rw [generateChecksum] at h
  cases hentries : (changeSet.entries read).result with
  | error other =>
      rw [hentries] at h
      cases h
      rfl
  | ok entries =>
      rw [hentries] at h
      cases h

/-- A change set differs from before only in its checksum, which is never the placeholder. -/
theorem generated_eq {changeSet finished : ChangeSet}
    (h : changeSet.generateChecksum read = .ok finished) :
    ∃ checksum, finished = { changeSet with checksum := some checksum } ∧ checksum ≠ "-" := by
  obtain ⟨entries, _, hfinished⟩ := entries_of_generated h
  refine ⟨_, hfinished, fun heq => ?_⟩
  have hlength := Checksum.length_ofEntries entries
  rw [heq] at hlength
  exact absurd hlength (by decide)

/-- The work on a change set that gets a checksum. -/
theorem compute_of_generated {changeSet finished : ChangeSet}
    (h : changeSet.generateChecksum read = .ok finished) :
    ((checksumWork read).compute changeSet).outcome = .computed ∧
      ((checksumWork read).compute changeSet).item = finished := by
  obtain ⟨entries, hentries, hfinished⟩ := entries_of_generated h
  simp [checksumWork, hentries, hfinished]

/-- The work on a change set that gets no checksum. -/
theorem compute_of_unreadable {changeSet : ChangeSet} {fault : FileFault}
    (h : changeSet.generateChecksum read = .error fault) :
    ((checksumWork read).compute changeSet).outcome = .failed fault.chain := by
  simp [checksumWork, entries_of_unreadable h]

/-- The change sets without a checksum, each with the reason. -/
def checksumFailures (read : String → FileReading) (changeSets : List ChangeSet) :
    List ItemFailure :=
  changeSets.filterMap fun changeSet =>
    match changeSet.generateChecksum read with
    | .ok _ => none
    | .error fault => some ⟨changeSet.key, ": ".intercalate fault.chain⟩

/-- There are no failures if every change set gets a checksum. -/
theorem failures_of_generated
    (hall : ∀ changeSet ∈ changeSets, ∃ finished,
      changeSet.generateChecksum read = .ok finished) :
    checksumFailures read changeSets = [] := by
  refine List.filterMap_eq_nil_iff.2 fun changeSet hmem => ?_
  obtain ⟨finished, hfinished⟩ := hall changeSet hmem
  rw [hfinished]

/-- The failures of a batch of change sets are those of the change sets on their own. -/
theorem failures_checksum_work :
    Checksum.Attempted.failures (changeSets.map (checksumWork read).attempt) =
      checksumFailures read changeSets := by
  have hlost : (changeSets.filterMap fun changeSet =>
      ((checksumWork read).compute changeSet).outcome.workerFailure?) = [] := by
    refine List.filterMap_eq_nil_iff.2 fun changeSet _ => ?_
    cases h : changeSet.generateChecksum read with
    | ok finished => simp [(compute_of_generated h).1, Checksum.Outcome.workerFailure?]
    | error fault => simp [compute_of_unreadable h, Checksum.Outcome.workerFailure?]
  rw [Checksum.failures_attempts, hlost, List.append_nil, checksumFailures]
  refine List.filterMap_congr fun changeSet _ => ?_
  cases h : changeSet.generateChecksum read with
  | ok finished => simp [(compute_of_generated h).1, Checksum.Outcome.itemFailure?]
  | error fault =>
      rw [compute_of_unreadable h]
      rfl

/-- A batch of change sets that all get a checksum gives each of them the one that it has on its
own. -/
theorem generate_of_generated (hlimit : workers ≤ Checksum.workerLimit)
    (hall : ∀ changeSet ∈ changeSets, ∃ finished,
      changeSet.generateChecksum read = .ok finished) :
    ∃ (steps : List Event) (finished : List ChangeSet),
      Checksum.generate (checksumWork read) workers changeSets =
        ⟨steps ++ [Checksum.generatedEvent changeSets.length], some (.ok finished)⟩ ∧
      List.Forall₂ (fun changeSet done => changeSet.generateChecksum read = .ok done)
        changeSets finished := by
  have hcomputed : ∀ changeSet ∈ changeSets,
      ((checksumWork read).compute changeSet).outcome = .computed := by
    intro changeSet hmem
    obtain ⟨finished, hfinished⟩ := hall changeSet hmem
    exact (compute_of_generated hfinished).1
  obtain ⟨steps, hsteps⟩ := Checksum.generate_of_computed hlimit hcomputed
  refine ⟨steps, _, hsteps, List.forall₂_map_right_iff.2 (List.forall₂_same.2 ?_)⟩
  intro changeSet hmem
  obtain ⟨finished, hfinished⟩ := hall changeSet hmem
  rw [hfinished, (compute_of_generated hfinished).2]

/-- A batch with a change set that gets no checksum reports all of those. -/
theorem generate_of_unreadable (hlimit : workers ≤ Checksum.workerLimit)
    (hsome : ∃ changeSet ∈ changeSets, ∃ fault,
      changeSet.generateChecksum read = .error fault) :
    ∃ steps : List Event,
      Checksum.generate (checksumWork read) workers changeSets =
        ⟨steps, some (.error (checksumFailures read changeSets))⟩ := by
  obtain ⟨changeSet, hmem, fault, hfault⟩ := hsome
  rw [← failures_checksum_work]
  refine Checksum.generate_of_failed hlimit ⟨changeSet, hmem, ?_⟩
  rw [compute_of_unreadable hfault]
  simp

end ChangeSet

end Runbook
