import Runbook.Checksum.Batch

/-!
# Results of a batch

A batch yields its items if every computation has succeeded, and otherwise exactly the failures that
the computations have left, whatever the items are.
-/

namespace Runbook.Checksum

/-- A lost worker leaves no report that names its item. -/
theorem Outcome.item_failure_of_lost {outcome : Outcome} {failure : ItemFailure}
    (h : outcome.workerFailure? = some failure) (label : String) :
    outcome.itemFailure? label = none := by
  cases outcome with
  | lost => rfl
  | computed | failed | panicked => cases h

/-- An outcome without any report is a success. -/
theorem Outcome.computed_iff {outcome : Outcome} (label : String) :
    outcome = .computed ↔ outcome.itemFailure? label = none ∧ outcome.workerFailure? = none := by
  cases outcome <;> simp [Outcome.itemFailure?, Outcome.workerFailure?]

/-- The event that announces a batch. -/
def startedEvent (count workers : Nat) : Event :=
  ⟨.info, .batch, "generating checksums",
    [("items", toString count), ("workers", toString workers)]⟩

/-- The event that reports a batch without failures. -/
def generatedEvent (count : Nat) : Event :=
  ⟨.info, .batch, "all checksums generated", [("items", toString count)]⟩

variable {α : Type} {work : Work α} {workers : Nat} {items : List α}

/-- The failures of a batch, in terms of its work. -/
theorem failures_attempts :
    Attempted.failures (items.map work.attempt) =
      (items.filterMap fun item => (work.compute item).outcome.itemFailure? (work.label item)) ++
        items.filterMap fun item => (work.compute item).outcome.workerFailure? := by
  simp only [Attempted.failures, List.filterMap_map, Function.comp_def, Work.attempt]

/-- A batch has no failures exactly if every computation has succeeded. -/
theorem failures_eq_nil :
    Attempted.failures (items.map work.attempt) = [] ↔
      ∀ item ∈ items, (work.compute item).outcome = .computed := by
  rw [failures_attempts, List.append_eq_nil_iff, List.filterMap_eq_nil_iff,
    List.filterMap_eq_nil_iff]
  constructor
  · intro hnone item hmem
    exact (Outcome.computed_iff (work.label item)).2 ⟨hnone.1 item hmem, hnone.2 item hmem⟩
  · intro hcomputed
    exact ⟨fun item hmem => ((Outcome.computed_iff _).1 (hcomputed item hmem)).1,
      fun item hmem => ((Outcome.computed_iff (work.label item)).1 (hcomputed item hmem)).2⟩

/-- If every computation has succeeded, the items come back as they were left. -/
theorem results_of_computed
    (hcomputed : ∀ item ∈ items, (work.compute item).outcome = .computed) :
    Attempted.results (items.map work.attempt) =
      .ok (items.map fun item => (work.compute item).item) := by
  simp [Attempted.results, failures_eq_nil.2 hcomputed, Work.attempt]

/-- If some computation has not succeeded, all failures are reported. -/
theorem results_of_failed (hfailed : ∃ item ∈ items, (work.compute item).outcome ≠ .computed) :
    Attempted.results (items.map work.attempt) =
      .error (Attempted.failures (items.map work.attempt)) := by
  have hsome : Attempted.failures (items.map work.attempt) ≠ [] := by
    intro hnone
    obtain ⟨item, hmem, hother⟩ := hfailed
    exact hother (failures_eq_nil.1 hnone item hmem)
  simp [Attempted.results, hsome]

/-- A batch whose pool can be set up, and in which every computation has succeeded. -/
theorem generate_of_computed (hlimit : workers ≤ workerLimit)
    (hcomputed : ∀ item ∈ items, (work.compute item).outcome = .computed) :
    ∃ steps : List Event,
      generate work workers items =
        ⟨steps ++ [generatedEvent items.length],
          some (.ok (items.map fun item => (work.compute item).item))⟩ := by
  simp only [generate, if_neg (Nat.not_lt.2 hlimit), results_of_computed hcomputed]
  exact ⟨_, rfl⟩

/-- A batch whose pool can be set up, and in which some computation has not succeeded. -/
theorem generate_of_failed (hlimit : workers ≤ workerLimit)
    (hfailed : ∃ item ∈ items, (work.compute item).outcome ≠ .computed) :
    ∃ steps : List Event,
      generate work workers items =
        ⟨steps, some (.error (Attempted.failures (items.map work.attempt)))⟩ := by
  simp only [generate, if_neg (Nat.not_lt.2 hlimit), results_of_failed hfailed]
  exact ⟨_, rfl⟩

/-- The result of a batch whose pool can be set up. -/
theorem generate_result (hlimit : workers ≤ workerLimit) :
    (generate work workers items).result = some (Attempted.results (items.map work.attempt)) := by
  simp only [generate, if_neg (Nat.not_lt.2 hlimit)]
  cases Attempted.results (items.map work.attempt) <;> rfl

/-- Within the limit, the size of the pool shows in the announcement of a batch and nowhere else. -/
theorem generate_within_limit (work : Work α) (items : List α) :
    ∃ (steps : List Event) (result : Except (List ItemFailure) (List α)),
      ∀ workers ≤ workerLimit,
        generate work workers items =
          ⟨startedEvent items.length workers :: steps, some result⟩ := by
  let steps := (items.map work.attempt).flatMap fun attempt =>
    attempt.completion.events ++ [attempt.event]
  cases hresults : Attempted.results (items.map work.attempt) with
  | ok finished =>
      refine ⟨steps ++ [generatedEvent items.length], .ok finished, fun workers hlimit => ?_⟩
      simp only [generate, if_neg (Nat.not_lt.2 hlimit), hresults]
      rfl
  | error failures =>
      refine ⟨steps, .error failures, fun workers hlimit => ?_⟩
      simp only [generate, if_neg (Nat.not_lt.2 hlimit), hresults]
      rfl

/-- Beyond the limit, a batch is announced and comes to nothing. -/
theorem generate_beyond_limit (hlimit : workerLimit < workers) :
    generate work workers items = ⟨[startedEvent items.length workers], none⟩ :=
  if_pos hlimit

/-- A batch comes to a result exactly if its pool is within the limit. -/
theorem result_isSome_iff :
    (generate work workers items).result.isSome = true ↔ workers ≤ workerLimit := by
  constructor
  · refine fun hsome => Nat.le_of_not_lt fun hlimit => ?_
    rw [generate_beyond_limit hlimit] at hsome
    cases hsome
  · intro hlimit
    rw [generate_result hlimit]
    rfl

end Runbook.Checksum
