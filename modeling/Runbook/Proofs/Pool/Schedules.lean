import Runbook.Proofs.Checksum.Batch
import Runbook.Proofs.Pool.Progress
import Runbook.Proofs.Pool.Reports

/-!
# Results of the pool under every schedule

Whatever the order of submissions, computations and joins, a pool comes to its end, it has computed
every item exactly once, and its result depends on the computations alone. `Accounted` says what the
pool has noted at any point: the computations begun, the items brought back and the failures are
those of its tasks. The main theorem is `every_schedule_returns`.
-/

namespace Runbook.Checksum

variable {α : Type}

/-- What all tasks have contributed to a list, in the order of their positions. -/
def contributions {β : Type} (part : Nat → Task α → List β) (tasks : List (Task α)) : List β :=
  (tasks.mapIdx part).flatten

section contributions

variable {β : Type} {part : Nat → Task α → List β} {tasks : List (Task α)} {index : Nat}
  {old : Task α}

/-- Replacing an entry by itself changes nothing. -/
theorem set_same {γ : Type} {entries : List γ} {entry : γ} (h : entries[index]? = some entry) :
    entries.set index entry = entries := by
  obtain ⟨hlt, rfl⟩ := List.getElem?_eq_some_iff.1 h
  exact List.set_getElem_self hlt

/-- A task that goes on without contributing more leaves the contributions alone. -/
theorem contributions_kept (hold : tasks[index]? = some old) (new : Task α)
    (hsame : part index new = part index old) :
    contributions part (tasks.set index new) = contributions part tasks := by
  have hentry : (tasks.mapIdx part)[index]? = some (part index new) := by
    rw [List.getElem?_mapIdx, hold, hsame]
    rfl
  rw [contributions, List.mapIdx_set, set_same hentry, contributions]

/-- Filling an empty entry adds its content. -/
theorem flatten_filled {entries : List (List β)} {index : Nat} (h : entries[index]? = some [])
    (content : List β) :
    (entries.set index content).flatten.Perm (entries.flatten ++ content) := by
  induction entries generalizing index with
  | nil => simp at h
  | cons entry rest ih =>
      cases index with
      | zero =>
          obtain rfl : entry = [] := by simpa using h
          simpa using List.perm_append_comm
      | succ index =>
          simp only [List.set_cons_succ, List.flatten_cons, List.append_assoc]
          exact (ih (by simpa using h)).append_left entry

/-- A task that contributes for the first time adds its contribution. -/
theorem contributions_grown (hold : tasks[index]? = some old) (new : Task α)
    (hnone : part index old = []) :
    (contributions part (tasks.set index new)).Perm
      (contributions part tasks ++ part index new) := by
  have hentry : (tasks.mapIdx part)[index]? = some [] := by
    rw [List.getElem?_mapIdx, hold, ← hnone]
    rfl
  rw [contributions, List.mapIdx_set]
  exact flatten_filled hentry _

/-- A new task that contributes nothing leaves the contributions alone. -/
theorem contributions_append (new : Task α) (hnone : part tasks.length new = []) :
    contributions part (tasks ++ [new]) = contributions part tasks := by
  rw [contributions, List.mapIdx_concat, hnone, List.flatten_append]
  simp [contributions]

/-- The contributions of the tasks that a list of items has come to. -/
theorem contributions_map (made : α → Task α) (items : List α) :
    contributions part (items.map made) =
      items.zipIdx.flatMap fun entry => part entry.2 (made entry.1) := by
  rw [contributions, List.mapIdx_eq_zipIdx_map, List.zipIdx_map, List.map_map, List.flatMap_def]
  rfl

end contributions

namespace Task

/-- The position of a task whose computation was begun. -/
def begins (index : Nat) : Task α → List Nat
  | .ready _ => []
  | _ => [index]

/-- The item that a task has brought back. -/
def slot : Task α → Option α
  | .joined completion =>
    if completion.outcome.workerFailure?.isNone then some completion.item else none
  | _ => none

/-- The failures that have been noted of a task. -/
def reports (label : String) (index : Nat) : Task α → List PlacedFailure
  | .joined completion => completion.reports index label
  | _ => []

/-- A task that has not been joined has brought nothing back. -/
theorem slot_eq_none {task : Task α} (h : task.isJoined = false) : task.slot = none := by
  cases task with
  | joined => cases h
  | ready | computing | ended | released => rfl

/-- Nothing has been noted of a task that has not been joined. -/
theorem reports_eq_nil {task : Task α} (h : task.isJoined = false) (label : String) (index : Nat) :
    task.reports label index = [] := by
  cases task with
  | joined => cases h
  | ready | computing | ended | released => rfl

end Task

/-- A task notes no position but its own. -/
theorem Task.eq_of_mem_begins {task : Task α} {index place : Nat}
    (h : place ∈ task.begins index) : place = index := by
  cases task with
  | ready => cases h
  | computing | ended | released | joined => exact List.mem_singleton.1 h

namespace Pool

variable {work : Work α} {workers : Nat} {items : List α}

/-- The label of the item at a position. -/
def labelAt (work : Work α) (items : List α) (index : Nat) : String :=
  (items[index]?.map work.label).getD ""

/-- The failures that have been noted of the task at a position. -/
def reportsAt (work : Work α) (items : List α) (index : Nat) (task : Task α) :
    List PlacedFailure :=
  task.reports (labelAt work items index) index

/-- What a pool has noted is what its tasks have come to. -/
structure Accounted (work : Work α) (items : List α) (pool : Pool α) : Prop where
  begun : pool.begun.Perm (contributions Task.begins pool.tasks)
  failures : pool.failures.Perm (contributions (reportsAt work items) pool.tasks)
  unjoined : pool.closed = false → ∀ task ∈ pool.tasks, task.isJoined = false
  slots : pool.closed = true → pool.slots = pool.tasks.map Task.slot

/-- Nothing has been noted before the first step. -/
theorem accounted_start : Accounted work items (Pool.start workers items) where
  begun := .nil
  failures := .nil
  unjoined := by simp [Pool.start]
  slots := by simp [Pool.start]

/-- A task that goes on without being joined leaves the account in order, if its beginning is
noted. -/
theorem Accounted.replace {pool next : Pool α} (h : Accounted work items pool) {index : Nat}
    {old new : Task α} (hold : pool.tasks[index]? = some old)
    (htasks : next.tasks = pool.tasks.set index new)
    (hunjoined : old.isJoined = false) (hstill : new.isJoined = false)
    (hbegun : next.begun.Perm (contributions Task.begins (pool.tasks.set index new)))
    (hfailures : next.failures = pool.failures) (hclosed : next.closed = pool.closed)
    (hslots : next.slots = pool.slots) : Accounted work items next where
  begun := htasks ▸ hbegun
  failures := by
    rw [hfailures, htasks, contributions_kept hold new]
    · exact h.failures
    · rw [reportsAt, reportsAt, Task.reports_eq_nil hunjoined, Task.reports_eq_nil hstill]
  unjoined := by
    rw [hclosed, htasks]
    intro hopen task hmem
    rcases List.mem_or_eq_of_mem_set hmem with hmem | rfl
    · exact h.unjoined hopen task hmem
    · exact hstill
  slots := by
    rw [hclosed, hslots, htasks, List.map_set, Task.slot_eq_none hstill]
    intro hjoining
    rw [set_same]
    · exact h.slots hjoining
    · rw [List.getElem?_map, hold, Option.map_some, Task.slot_eq_none hunjoined]

/-- Joining a task notes what it has come to. -/
theorem Accounted.join {pool : Pool α} (h : Accounted work items pool)
    (hsound : Sound work workers items pool) {index : Nat} {completion : Completion α}
    (htask : pool.tasks[index]? = some (.released completion)) (hphase : pool.phase = .joining) :
    Accounted work items (pool.join index completion) := by
  have hclosed := hsound.closed_iff.2 hphase
  have hbegun : pool.begun.Perm
      (contributions Task.begins (pool.tasks.set index (.joined completion))) := by
    rw [contributions_kept htask (.joined completion) rfl]
    exact h.begun
  have hgrown : (contributions (reportsAt work items) pool.tasks ++
      reportsAt work items index (.joined completion)).Perm
        (contributions (reportsAt work items) (pool.tasks.set index (.joined completion))) :=
    (contributions_grown htask _ rfl).symm
  -- The task finds the label and the slot of its item, so that the pool does not break down.
  obtain ⟨item, hitem, hlabel, hslot⟩ := hsound.label_and_slot hphase htask
  have hreports : reportsAt work items index (.joined completion) =
      completion.reports index (work.label item) := by
    simp [reportsAt, Task.reports, labelAt, hitem]
  rw [hreports] at hgrown
  cases houtcome : completion.outcome.workerFailure? with
  | some failure =>
      rw [join_of_lost houtcome]
      refine ⟨hbegun, ?_, by simp [hclosed], fun _ => ?_⟩
      · refine List.Perm.trans (h.failures.append_right _) ?_
        simpa [Completion.reports, houtcome, Outcome.item_failure_of_lost houtcome] using hgrown
      · -- The slot of a lost worker stays as empty as it was.
        have hempty : (pool.tasks.map Task.slot)[index]? = some (Task.joined completion).slot := by
          simp [htask, Task.slot, houtcome]
        rw [List.map_set, set_same hempty, h.slots hclosed]
  | none =>
      rw [join_of_returned houtcome hlabel hslot]
      refine ⟨hbegun, ?_, by simp [hclosed], fun _ => ?_⟩
      · refine List.Perm.trans (h.failures.append_right _) ?_
        simpa [Completion.reports, houtcome] using hgrown
      · rw [List.map_set, h.slots hclosed]
        simp [Task.slot, houtcome]

/-- Every step of a sound pool leaves the account in order. -/
theorem Accounted.step {pool next : Pool α} (h : Accounted work items pool)
    (hsound : Sound work workers items pool) (hstep : Step work pool next) :
    Accounted work items next := by
  cases hstep with
  | note => exact ⟨h.begun, h.failures, h.unjoined, h.slots⟩
  | acquire => exact ⟨h.begun, h.failures, h.unjoined, h.slots⟩
  | refuse => exact ⟨h.begun, h.failures, h.unjoined, h.slots⟩
  | submit item rest hqueue hphase =>
      have hopen : pool.closed = false := hsound.open_of_not_joining (by simp [hphase])
      refine ⟨?_, ?_, ?_, ?_⟩
      · rw [contributions_append _ rfl]
        exact h.begun
      · rw [contributions_append _ rfl]
        exact h.failures
      · intro _ task hmem
        rcases List.mem_append.1 hmem with hmem | hmem
        · exact h.unjoined hopen task hmem
        · rw [List.mem_singleton.1 hmem]
          rfl
      · intro hclosed
        rw [hopen] at hclosed
        cases hclosed
  | close hqueue hphase =>
      have hopen : pool.closed = false := hsound.open_of_not_joining (by simp [hphase])
      refine ⟨h.begun, h.failures, by simp, fun _ => ?_⟩
      -- No task has been joined yet, so that every slot has to be empty, and it is.
      rw [hsound.total, ← hsound.tasks_complete hqueue, eq_comm, List.map_eq_replicate_iff]
      exact fun task hmem => Task.slot_eq_none (h.unjoined hopen task hmem)
  | begin index item htask =>
      refine h.replace htask rfl rfl rfl ?_ rfl rfl rfl
      have hgrown : (contributions Task.begins pool.tasks ++
          Task.begins index (.computing item)).Perm
            (contributions Task.begins (pool.tasks.set index (.computing item))) :=
        (contributions_grown htask _ rfl).symm
      exact (h.begun.append_right _).trans hgrown
  | finish index item htask =>
      refine h.replace htask rfl rfl rfl ?_ rfl rfl rfl
      rw [contributions_kept htask (.ended (work.compute item)) rfl]
      exact h.begun
  | release index completion htask =>
      refine h.replace htask rfl rfl rfl ?_ rfl rfl rfl
      rw [contributions_kept htask (.released completion) rfl]
      exact h.begun
  | join index completion htask hphase => exact h.join hsound htask hphase

/-- The account of a pool is in order in every state that it can get into. -/
theorem Reached.accounted {pool : Pool α} (h : Reached work workers items pool) :
    Accounted work items pool := by
  induction h with
  | start => exact accounted_start
  | step h hstep ih => exact ih.step h.sound hstep

/-- No pool begins a computation twice. -/
theorem Accounted.begun_nodup {pool : Pool α} (h : Accounted work items pool) :
    pool.begun.Nodup := by
  have hpositions : pool.tasks.zipIdx.Pairwise fun first second => first.2 ≠ second.2 := by
    rw [← List.pairwise_map (f := Prod.snd), List.zipIdx_map_snd]
    exact List.nodup_range'
  refine h.begun.symm.nodup ?_
  rw [contributions, List.mapIdx_eq_zipIdx_map, ← List.flatMap_def, List.Nodup,
    List.pairwise_flatMap]
  refine ⟨fun entry _ => ?_, hpositions.imp ?_⟩
  · obtain ⟨task, index⟩ := entry
    cases task with
    | ready => exact .nil
    | computing | ended | released | joined => exact List.pairwise_singleton _ _
  · rintro ⟨task, index⟩ ⟨other, position⟩ hdistinct place hplace another hanother
    rw [Task.eq_of_mem_begins hplace, Task.eq_of_mem_begins hanother]
    exact hdistinct

/-- What a pool has come to when every item has been computed and its task joined. -/
structure Settled (work : Work α) (items : List α) (pool : Pool α) : Prop where
  tasks : pool.tasks = items.map fun item => .joined (work.compute item)
  begun : pool.begun.Perm (List.range items.length)
  failures : pool.failures.Perm (allReports work items)
  slots : pool.slots = items.map fun item => (Task.joined (work.compute item)).slot

/-- When a sound pool is done, every task has been joined with what the computation made of its
item. -/
theorem Sound.tasks_of_done {pool : Pool α} (h : Sound work workers items pool)
    (hdone : pool.isDone = true) :
    pool.tasks = items.map fun item => .joined (work.compute item) := by
  have hlength := h.all_submitted (joining_of_done hdone)
  simp only [isDone, Bool.and_eq_true, List.all_eq_true] at hdone
  -- There are as many tasks as items, so both lists can be compared position by position.
  refine List.ext_getElem? fun index => ?_
  cases htask : pool.tasks[index]? with
  | none =>
      rw [List.getElem?_eq_none_iff] at htask
      rw [eq_comm, List.getElem?_eq_none_iff, List.length_map]
      omega
  | some task =>
      obtain ⟨item, hitem, hof⟩ := h.assigned index task htask
      have hjoined := hdone.2 task (List.mem_of_getElem? htask)
      rw [List.getElem?_map, hitem]
      cases task with
      | joined completion =>
          rw [show completion = work.compute item from hof]
          rfl
      | ready | computing | ended | released => cases hjoined

/-- A pool that is done is settled. -/
theorem Reached.settled {pool : Pool α} (h : Reached work workers items pool)
    (hdone : pool.isDone = true) : Settled work items pool := by
  have hsound := h.sound
  have haccount := h.accounted
  have htasks := hsound.tasks_of_done hdone
  have hbegun := haccount.begun
  have hfailures := haccount.failures
  rw [htasks, contributions_map] at hbegun hfailures
  refine ⟨htasks, ?_, ?_, ?_⟩
  · have hpositions : (items.zipIdx.flatMap fun entry =>
        Task.begins entry.2 (.joined (work.compute entry.1))) = List.range items.length := by
      simp only [Task.begins, ← List.map_eq_flatMap, List.zipIdx_map_snd, List.range_eq_range']
    exact hpositions ▸ hbegun
  · have hlabels : (items.zipIdx.flatMap fun entry =>
        reportsAt work items entry.2 (.joined (work.compute entry.1))) = allReports work items := by
      refine List.flatMap_congr fun entry hmem => ?_
      rw [reportsAt, labelAt, List.mem_zipIdx_iff_getElem?.1 hmem]
      rfl
    exact hlabels ▸ hfailures
  · rw [haccount.slots (hsound.closed_iff.2 (joining_of_done hdone)), htasks, List.map_map]
    rfl

/-- There is nothing to report exactly when every computation has succeeded. -/
theorem all_reports_eq_nil :
    allReports work items = [] ↔ ∀ item ∈ items, (work.compute item).outcome = .computed := by
  rw [allReports, List.flatMap_eq_nil_iff]
  constructor
  · intro hnone item hmem
    obtain ⟨index, hitem⟩ := List.getElem?_of_mem hmem
    have hreports := hnone (item, index) (List.mk_mem_zipIdx_iff_getElem?.2 hitem)
    rw [Outcome.computed_iff (work.label item)]
    simpa [Completion.reports] using hreports
  · rintro hcomputed ⟨item, index⟩ hmem
    have hitem := List.mem_of_getElem? (List.mk_mem_zipIdx_iff_getElem?.1 hmem)
    have hreports := (Outcome.computed_iff (work.label item)).1 (hcomputed item hitem)
    simp [Completion.reports, hreports]

/-- A settled pool without failures yields every item as its computation left it. -/
theorem Settled.result_of_computed {pool : Pool α} (h : Settled work items pool)
    (hcomputed : ∀ item ∈ items, (work.compute item).outcome = .computed) :
    pool.result = .ok (items.map fun item => (work.compute item).item) := by
  have hnone : pool.failures = [] := by
    have hperm := h.failures
    rw [all_reports_eq_nil.2 hcomputed] at hperm
    exact hperm.eq_nil
  have hslots : pool.slots = items.map fun item => some (work.compute item).item := by
    rw [h.slots]
    refine List.map_congr_left fun item hmem => ?_
    simp [Task.slot, hcomputed item hmem, Outcome.workerFailure?]
  simp [Pool.result, hnone, hslots, List.filterMap_map]

/-- A settled pool with failures reports those that name an item in the order of the items, and then
one for each lost worker. -/
theorem Settled.result_of_failed {pool : Pool α} (h : Settled work items pool)
    (hfailed : ∃ item ∈ items, (work.compute item).outcome ≠ .computed) :
    ∃ lost : List ItemFailure,
      lost.Perm (items.filterMap fun item => (work.compute item).outcome.workerFailure?) ∧
      pool.result = .error
        ((items.filterMap fun item =>
          (work.compute item).outcome.itemFailure? (work.label item)) ++ lost) := by
  have hsome : pool.failures.isEmpty = false := by
    rw [List.isEmpty_eq_false_iff]
    intro hnone
    have hperm := h.failures
    rw [hnone, List.nil_perm, all_reports_eq_nil] at hperm
    obtain ⟨item, hmem, hother⟩ := hfailed
    exact hother (hperm item hmem)
  obtain ⟨lost, hlost, hsorted⟩ := sorted_failures_of_perm h.failures
  exact ⟨lost, hlost, by simp [Pool.result, hsome, hsorted]⟩

/-- A settled pool that has lost no worker comes to the result of the batch. -/
theorem Settled.result_of_survived {pool : Pool α} (h : Settled work items pool)
    (hsurvived : ∀ item ∈ items, (work.compute item).outcome.workerFailure? = none) :
    pool.result = Attempted.results (items.map work.attempt) := by
  by_cases hcomputed : ∀ item ∈ items, (work.compute item).outcome = .computed
  · rw [h.result_of_computed hcomputed, results_of_computed hcomputed]
  · have hfailed : ∃ item ∈ items, (work.compute item).outcome ≠ .computed := by
      simpa using hcomputed
    obtain ⟨lost, hperm, hresult⟩ := h.result_of_failed hfailed
    rw [List.filterMap_eq_nil_iff.2 hsurvived] at hperm
    rw [hresult, results_of_failed hfailed, failures_attempts,
      List.filterMap_eq_nil_iff.2 hsurvived, hperm.eq_nil]

/-- Nothing is left to happen in a pool that is done. -/
theorem no_step_of_done {pool : Pool α} (hdone : pool.isDone = true) (next : Pool α) :
    ¬ Step work pool next := by
  have hphase := joining_of_done hdone
  simp only [isDone, Bool.and_eq_true, List.all_eq_true] at hdone
  intro hstep
  cases hstep with
  | note item rest hqueue hother | close hqueue hother | acquire permits hpermits hopen hother
  | refuse hclosed hother | submit item rest hqueue hother => simp [hphase] at hother
  | begin index item htask | finish index item htask | release index completion htask
  | join index completion htask hother =>
      cases hdone.2 _ (List.mem_of_getElem? htask)

/-- What is inevitable holds in some state that the pool can get into. -/
theorem Reached.exists_later {goal : Pool α → Prop} {pool : Pool α}
    (h : Reached work workers items pool)
    (hinevitable : Inevitable (Step work) (fun _ _ => False) goal 0 pool) :
    ∃ later, Reached work workers items later ∧ goal later :=
  hinevitable.exists_later (Reached work workers items) (fun _ _ hreached => hreached.step) h

/-- Under every interleaving, a pool that can be set up comes to its end, and only when every task
has been joined. By then it has computed every item exactly once. If every computation has
succeeded, the items come back in their order as their computations left them. Otherwise the
failures that name an item are reported in the order of the items, and behind them one for each lost
worker. So the result of a pool that loses no worker depends neither on the interleaving nor on the
number of workers, and it is the result of the batch. -/
theorem every_schedule_returns (work : Work α) (workers : Nat) (items : List α)
    (hlimit : effectiveWorkers workers ≤ workerLimit) :
    Reached work workers items (Pool.start workers items) ∧
    (∀ pool, Reached work workers items pool →
      Inevitable (Step work) (fun _ _ => False) (fun later => later.isDone = true) 0 pool ∧
      (pool.isDone = true ↔ ∀ next, ¬ Step work pool next) ∧
      pool.begun.Nodup ∧
      (pool.isDone = true →
        pool.begun.Perm (List.range items.length) ∧
        pool.tasks = (items.map fun item => .joined (work.compute item)) ∧
        ((∀ item ∈ items, (work.compute item).outcome = .computed) →
          pool.result = .ok (items.map fun item => (work.compute item).item)) ∧
        ((∃ item ∈ items, (work.compute item).outcome ≠ .computed) →
          ∃ lost : List ItemFailure,
            lost.Perm (items.filterMap fun item => (work.compute item).outcome.workerFailure?) ∧
            pool.result = .error
              ((items.filterMap fun item =>
                (work.compute item).outcome.itemFailure? (work.label item)) ++ lost)))) ∧
    ((∀ item ∈ items, (work.compute item).outcome.workerFailure? = none) →
      ∀ (others : Nat) (pool another : Pool α), Reached work workers items pool →
        Reached work others items another → pool.isDone = true → another.isDone = true →
          pool.result = another.result ∧
          (generate work workers items).result = some pool.result) := by
  refine ⟨.start hlimit, fun pool hreached => ?_, fun hsurvived => ?_⟩
  · have hsound := hreached.sound
    refine ⟨?_, ?_, hreached.accounted.begun_nodup, fun hdone => ?_⟩
    · exact hsound.inevitable fun current _ hgoal => Bool.eq_false_iff.2 hgoal
    · refine ⟨no_step_of_done, fun hstuck => ?_⟩
      cases hdone : pool.isDone with
      | true => rfl
      | false =>
          obtain ⟨next, hstep⟩ := hsound.progress hdone
          exact absurd hstep (hstuck next)
    · have hsettled := hreached.settled hdone
      exact ⟨hsettled.begun, hsettled.tasks, hsettled.result_of_computed,
        hsettled.result_of_failed⟩
  · intro others pool another hreached hanother hdone hother
    have hresult := (hreached.settled hdone).result_of_survived hsurvived
    refine ⟨?_, ?_⟩
    · rw [hresult, (hanother.settled hother).result_of_survived hsurvived]
    · rw [generate_result (Nat.le_trans (Nat.le_max_left _ _) hlimit), hresult]

/-- Work that ends in all four ways. -/
def mixedWork : Work Nat where
  label item := toString item
  compute item :=
    match item with
    | 0 => ⟨.computed, 10, []⟩
    | 1 => ⟨.lost "no memory", 11, []⟩
    | 2 => ⟨.panicked .unreadable, 12, []⟩
    | _ => ⟨.failed ["reading", "denied"], item, []⟩

/-- Without a worker asked for, there is one. The report on the worker that is lost first comes
last. -/
theorem every_schedule_returns_of_mixed_work :
    effectiveWorkers 0 ≤ workerLimit ∧
    ∃ pool, Reached mixedWork 0 [1, 3, 0, 2] pool ∧ pool.begun.Perm [0, 1, 2, 3] ∧
      pool.result = .error
        [⟨"3", "reading: denied"⟩, ⟨"2", "panicked: unknown panic"⟩,
          ⟨"<unknown>", lostMessage "no memory"⟩] := by
  have hlimit : effectiveWorkers 0 ≤ workerLimit := by decide
  obtain ⟨hstart, hall, _⟩ := every_schedule_returns mixedWork 0 [1, 3, 0, 2] hlimit
  obtain ⟨pool, hreached, hdone⟩ := hstart.exists_later (hall _ hstart).1
  obtain ⟨hbegun, _, _, hfailed⟩ := (hall pool hreached).2.2.2 hdone
  obtain ⟨lost, hlost, hresult⟩ := hfailed ⟨1, by decide, by decide⟩
  refine ⟨hlimit, pool, hreached, hbegun, ?_⟩
  rw [hresult, List.perm_singleton.1 hlost]
  rfl

end Pool

end Runbook.Checksum
