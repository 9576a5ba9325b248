import Runbook.Cli.Invocation
import Runbook.Proofs.Pipeline.Records
import Runbook.Proofs.Pool.Schedules

/-!
# Numbers of workers

A run accepts every number of workers but none, and hands it to the pool as it is. Up to the limit
of the pool the number makes no difference: neither to the result of a batch, under whatever
schedule, nor to what a run does. Beyond the limit the pool cannot be set up, and the run breaks
down instead of reporting a fault. The main theorem is `counts_alike_up_to_limit`.
-/

namespace Runbook

open Checksum (Work Pool workerLimit)

namespace Checksum.Pool

variable {α : Type} {work : Work α} {workers : Nat} {items : List α}

/-- A pool that has got anywhere was within the limit. -/
theorem Reached.within_limit {pool : Pool α} (h : Reached work workers items pool) :
    effectiveWorkers workers ≤ workerLimit := by
  induction h with
  | start hlimit => exact hlimit
  | step _ _ ih => exact ih

end Checksum.Pool

variable {σ : Type} {world : World σ} {options : Options} {state : σ}

/-- Two runs that come to the same and differ at most in the events that they log. -/
structure SameEffect (first second : RunResult σ) : Prop where
  ending : first.ending = second.ending
  attempts : first.trace.attempts = second.trace.attempts
  lines : first.trace.lines = second.trace.lines
  state : first.state = second.state

/-- Options with another number of workers. -/
def Options.withWorkers (options : Options) (count : Nat) : Options :=
  { options with workers := some count }

/-- The number of workers that a run asks the pool for is the one among its options. -/
theorem pool_size_of_count {count : Nat} (hpositive : 1 ≤ count) :
    poolSize world state (some count) = .ok count := by
  cases count with
  | zero => omega
  | succ count => rfl

/-- Within the limit, the number of workers makes no difference to a run. -/
theorem same_effect_within_limit {first second : Nat} (hfirst : 1 ≤ first)
    (hsecond : 1 ≤ second) (hlimit : first ≤ workerLimit) (hother : second ≤ workerLimit) :
    SameEffect (run world (options.withWorkers first) state)
      (run world (options.withWorkers second) state) := by
  cases hload : Changelog.load world state options.changelog with
  | error failure =>
      have hrun : ∀ count, run world (options.withWorkers count) state =
          ⟨[], .failed ⟨[loadContext options.changelog], failure⟩, state⟩ := by
        intro count
        simp only [run, Options.withWorkers, hload]
      rw [hrun, hrun]
      exact ⟨rfl, rfl, rfl, rfl⟩
  | ok accepted =>
      -- The batches differ in their announcement, which neither attempts nor prints anything.
      obtain ⟨steps, result, hbatch⟩ := Checksum.generate_within_limit
        (ChangeSet.checksumWork (world.read state))
        (declaredChangeSets world options state accepted.changelog)
      unfold declaredChangeSets at hbatch
      simp only [run, Options.withWorkers, hload, checkAndProceed, pool_size_of_count hfirst,
        pool_size_of_count hsecond, hbatch first hlimit, hbatch second hother]
      cases result with
      | error failures => exact ⟨rfl, by simp, by simp, rfl⟩
      | ok finished =>
          refine ⟨rfl, ?_, ?_, rfl⟩
          · simp only [Trace.attempts_append, Trace.attempts_ofEvents]
            rfl
          · simp only [Trace.lines_append, Trace.lines_ofEvents]
            rfl

/-- Beyond the limit, a run of an accepted changelog announces its batch and breaks down. -/
theorem run_beyond_limit (options : Options) {accepted : Changelog.Accepted} {count : Nat}
    (hload : Changelog.load world state options.changelog = .ok accepted)
    (hworkers : options.workers = some count) (hlimit : workerLimit < count) :
    run world options state =
      ⟨[.logged (Checksum.startedEvent
        (declaredChangeSets world options state accepted.changelog).length count)],
        .aborted, state⟩ := by
  have hpositive : 1 ≤ count := Nat.one_le_of_lt hlimit
  simp only [run, hload, checkAndProceed, hworkers, pool_size_of_count hpositive,
    Checksum.generate_beyond_limit hlimit]
  rfl

/-- The last stage of a run does not break down. -/
theorem ending_proceed_ne_aborted (settings : Settings) (changeSets : List ChangeSet) :
    (proceed world options settings changeSets state).ending ≠ .aborted := by
  unfold proceed
  split
  · simp
  · dsimp only
    split <;> simp

/-- A run breaks down exactly if its changelog is accepted and its pool is beyond the limit. -/
theorem ending_eq_aborted_iff {count : Nat} (hpositive : 1 ≤ count) :
    (run world (options.withWorkers count) state).ending = .aborted ↔
      workerLimit < count ∧
        ∃ accepted, Changelog.load world state options.changelog = .ok accepted := by
  cases hload : Changelog.load world state options.changelog with
  | error failure => simp [run, Options.withWorkers, hload]
  | ok accepted =>
      by_cases hlimit : workerLimit < count
      · have hrun := run_beyond_limit (options.withWorkers count) hload rfl hlimit
        simp [hrun, hlimit]
      · refine iff_of_false ?_ (fun h => hlimit h.1)
        obtain ⟨steps, result, hbatch⟩ := Checksum.generate_within_limit
          (ChangeSet.checksumWork (world.read state))
          (declaredChangeSets world options state accepted.changelog)
        unfold declaredChangeSets at hbatch
        simp only [run, Options.withWorkers, hload, checkAndProceed, pool_size_of_count hpositive,
          hbatch count (Nat.le_of_not_lt hlimit)]
        cases result with
        | error failures => simp
        | ok finished => exact ending_proceed_ne_aborted _ _

/-- What the number of workers makes of batches and of runs. A batch comes to a result, and its pool
can be set up, exactly if the number is within the limit. Such a pool comes to its end under every
schedule, and if it loses no worker, its result is the one that a single worker comes to under any
schedule of its own. A run with such a number does what it does with a single worker. Any other
number ends a run of an accepted changelog without a fault to report, and before anything is
printed or attempted. -/
theorem counts_alike_up_to_limit (count : Nat) (hpositive : 1 ≤ count) :
    (∀ {α : Type} (work : Work α) (items : List α),
      ((Checksum.generate work count items).result.isSome = true ↔ count ≤ workerLimit) ∧
      ((∃ pool, Pool.Reached work count items pool) ↔ count ≤ workerLimit) ∧
      ∀ pool, Pool.Reached work count items pool →
        Inevitable (Pool.Step work) (fun _ _ => False) (fun later => later.isDone = true) 0 pool ∧
        ((∀ item ∈ items, (work.compute item).outcome.workerFailure? = none) →
          pool.isDone = true →
            (Checksum.generate work count items).result = some pool.result ∧
            (Checksum.generate work 1 items).result = some pool.result ∧
            ∀ single, Pool.Reached work 1 items single → single.isDone = true →
              single.result = pool.result)) ∧
    ∀ {σ : Type} (world : World σ) (options : Options) (state : σ),
      (count ≤ workerLimit →
        SameEffect (run world (options.withWorkers count) state)
          (run world (options.withWorkers 1) state)) ∧
      ((run world (options.withWorkers count) state).ending = .aborted ↔
        workerLimit < count ∧
          ∃ accepted, Changelog.load world state options.changelog = .ok accepted) ∧
      (workerLimit < count →
        (run world (options.withWorkers count) state).trace.attempts = [] ∧
        (run world (options.withWorkers count) state).trace.lines = [] ∧
        (run world (options.withWorkers count) state).state = state) := by
  have heffective : Checksum.effectiveWorkers count = count := Nat.max_eq_left hpositive
  have hone : 1 ≤ workerLimit := by decide
  constructor
  · intro α work items
    refine ⟨Checksum.result_isSome_iff, ⟨?_, fun hlimit => ?_⟩, fun pool hreached => ⟨?_, ?_⟩⟩
    · rintro ⟨pool, hreached⟩
      exact heffective ▸ hreached.within_limit
    · exact ⟨_, .start (heffective.symm ▸ hlimit)⟩
    · exact hreached.sound.inevitable fun current _ hgoal => Bool.eq_false_iff.2 hgoal
    · intro hsurvived hdone
      have hlimit : count ≤ workerLimit := heffective ▸ hreached.within_limit
      have hresult := (hreached.settled hdone).result_of_survived hsurvived
      refine ⟨?_, ?_, fun single hsingle hfinished => ?_⟩
      · rw [Checksum.generate_result hlimit, hresult]
      · rw [Checksum.generate_result hone, hresult]
      · rw [(hsingle.settled hfinished).result_of_survived hsurvived, hresult]
  · intro σ world options state
    refine ⟨fun hlimit => same_effect_within_limit hpositive (Nat.le_refl 1) hlimit hone,
      ending_eq_aborted_iff hpositive, fun hlimit => ?_⟩
    cases hload : Changelog.load world state options.changelog with
    | error failure =>
        simp [run, Options.withWorkers, hload]
    | ok accepted =>
        rw [run_beyond_limit (options.withWorkers count) hload rfl hlimit]
        exact ⟨rfl, rfl, rfl⟩

/-- The largest pool that can be set up reports what a single worker reports, and the next larger one
breaks down. -/
theorem counts_alike_at_limit :
    1 ≤ workerLimit ∧ 1 ≤ workerLimit + 1 ∧
    (∃ pool, Pool.Reached Pool.mixedWork workerLimit [3, 0, 2] pool ∧ pool.isDone = true ∧
      (Checksum.generate Pool.mixedWork 1 [3, 0, 2]).result = some pool.result) ∧
    SameEffect (run worldWithScript (({} : Options).withWorkers workerLimit) ())
      (run worldWithScript (({} : Options).withWorkers 1) ()) ∧
    (run worldWithScript (({} : Options).withWorkers (workerLimit + 1)) ()).ending = .aborted := by
  have hpositive : 1 ≤ workerLimit := by decide
  have hnext : 1 ≤ workerLimit + 1 := by decide
  have hload : Changelog.load worldWithScript () ({} : Options).changelog =
      .ok changelogWithScript := load_eq_ok_iff.2 reading_with_script
  obtain ⟨hbatches, hruns⟩ := counts_alike_up_to_limit workerLimit hpositive
  obtain ⟨-, hset, hall⟩ := hbatches Pool.mixedWork [3, 0, 2]
  obtain ⟨first, hfirst⟩ := hset.2 (Nat.le_refl _)
  obtain ⟨pool, hreached, hdone⟩ := hfirst.exists_later (hall first hfirst).1
  have hresult := (hall pool hreached).2 (by decide) hdone
  obtain ⟨-, hbeyond⟩ := counts_alike_up_to_limit (workerLimit + 1) hnext
  exact ⟨hpositive, hnext, ⟨pool, hreached, hdone, hresult.2.1⟩,
    (hruns worldWithScript {} ()).1 (Nat.le_refl _),
    (hbeyond worldWithScript {} ()).2.1.2 ⟨Nat.lt_succ_self _, changelogWithScript, hload⟩⟩

/-- A call that asks for the listing with a number of workers. -/
def listingCall (count : String) : Call :=
  { arguments := ["--checksums", "--workers", count] }

/-- Without a log filter of its own, a call that asks for a run shows what is shown by default. -/
theorem ofCall_of_run {call : Call} {arguments : Arguments}
    (hparse : Arguments.parse call.arguments = .ok (.run arguments))
    (hlevel : arguments.level = none) (hfilter : call.filter = none) :
    Invocation.ofCall world call state =
      .ran { filter := ChosenFilter.standard } (run world arguments.options state) := by
  simp only [Invocation.ofCall, hparse, hlevel, hfilter, ChosenFilter.choose]

/-- All checks of a listing of the changelog with a script pass, whatever the number of workers. -/
theorem cleared_listing {count : Nat} (hpositive : 1 ≤ count) :
    Cleared worldWithScript { checksums := true, workers := some count } ()
      changelogWithScript.changelog where
  read := reading_with_script
  sound := changelogWithScript.sound
  workers := by
    intro hnone
    cases hnone
    omega
  checksums := cleared_with_script.checksums

/-- The arguments of a call may ask for more workers than the limit, where every other check passes.
The call breaks down without a report, though the same call with one worker prints its listing. -/
theorem accepted_count_breaks_down :
    (¬ ∀ (count : Nat), 1 ≤ count → count < Text.wordLimit → ∀ items : List Nat,
      (Checksum.generate Pool.mixedWork count items).result.isSome = true) ∧
    Arguments.parse (listingCall "2305843009213693952").arguments =
      .ok (.run { options := { checksums := true, workers := some 2305843009213693952 } }) ∧
    Cleared worldWithScript { checksums := true, workers := some 2305843009213693952 } ()
      changelogWithScript.changelog ∧
    (Invocation.ofCall worldWithScript (listingCall "2305843009213693952") ()).exitCode = 101 ∧
    (Invocation.ofCall worldWithScript (listingCall "2305843009213693952") ()).report = none ∧
    (Invocation.ofCall worldWithScript (listingCall "1") ()).exitCode = 0 := by
  have hload : Changelog.load worldWithScript () "Changelog.toml" = .ok changelogWithScript :=
    load_eq_ok_iff.2 reading_with_script
  have hparse : Arguments.parse (listingCall "2305843009213693952").arguments =
      .ok (.run { options := { checksums := true, workers := some 2305843009213693952 } }) := rfl
  have hsingle : Arguments.parse (listingCall "1").arguments =
      .ok (.run { options := { checksums := true, workers := some 1 } }) := rfl
  have hbroken := run_beyond_limit { checksums := true, workers := some 2305843009213693952 } hload
    rfl (by decide)
  have hlisting := ((cleared_listing (Nat.le_refl 1)).listing (by decide) rfl).1
  refine ⟨fun hall => ?_, hparse, cleared_listing (by decide), ?_, ?_, ?_⟩
  · have hsome := hall 2305843009213693952 (by decide) (by decide) []
    rw [Checksum.generate_beyond_limit (by decide)] at hsome
    cases hsome
  · rw [ofCall_of_run hparse rfl rfl, hbroken]
    rfl
  · rw [ofCall_of_run hparse rfl rfl, hbroken]
    rfl
  · rw [ofCall_of_run hsingle rfl rfl, Invocation.exitCode, hlisting]

end Runbook
