import Runbook.Checksum.Pool

/-!
# The invariant of the pool

No step of a pool loses or multiplies a permit, whatever the interleaving of submissions and tasks.
`Sound` is the invariant that carries this. It also says which item every task works on, how far the
labels and slots reach, and that the pool never gets into one of the phases that stand for an error.
The main theorem is `Reached.sound`.
-/

namespace Runbook.Checksum

/-- Replacing an entry of a list changes a count by what that entry counts. -/
theorem countP_replaced {β : Type} (p : β → Bool) {entries : List β} {index : Nat} {old : β}
    (hold : entries[index]? = some old) (new : β) :
    (entries.set index new).countP p + (if p old then 1 else 0) =
      entries.countP p + (if p new then 1 else 0) := by
  obtain ⟨hlt, rfl⟩ := List.getElem?_eq_some_iff.1 hold
  rw [List.countP_set hlt]
  by_cases hp : p entries[index] = true
  · have hpos : 0 < entries.countP p :=
      List.countP_pos_iff.2 ⟨entries[index], List.getElem_mem hlt, hp⟩
    simp only [hp, if_true]
    omega
  · simp [hp]

variable {α : Type} {work : Work α} {workers : Nat} {items : List α}

/-- A task works on an item, or is left with what the computation made of it. -/
def Task.IsOf (work : Work α) (item : α) : Task α → Prop
  | .ready current => current = item
  | .computing current => current = item
  | .ended completion => completion = work.compute item
  | .released completion => completion = work.compute item
  | .joined completion => completion = work.compute item

namespace Pool

/-- Joining a lost worker notes its report, which knows no position. -/
theorem join_of_lost {pool : Pool α} {completion : Completion α} {failure : ItemFailure}
    (hlost : completion.outcome.workerFailure? = some failure) (index : Nat) :
    pool.join index completion =
      { pool with
        tasks := pool.tasks.set index (.joined completion)
        failures := pool.failures ++ [⟨none, failure⟩] } := by
  simp [Pool.join, hlost]

/-- Joining any other task puts its item into its slot and notes its failure under its label. -/
theorem join_of_returned {pool : Pool α} {completion : Completion α} {index : Nat} {label : String}
    (hreturned : completion.outcome.workerFailure? = none)
    (hlabel : pool.labels[index]? = some label) (hslot : index < pool.slots.length) :
    pool.join index completion =
      { pool with
        tasks := pool.tasks.set index (.joined completion)
        slots := pool.slots.set index (some completion.item)
        failures := pool.failures ++
          (completion.outcome.itemFailure? label).toList.map (PlacedFailure.mk (some index)) } := by
  simp [Pool.join, hreturned, hlabel, List.getElem?_eq_getElem hslot]

/-- Every task works on the item at its own position. -/
def Assigned (work : Work α) (items : List α) (tasks : List (Task α)) : Prop :=
  ∀ (index : Nat) (task : Task α), tasks[index]? = some task →
    ∃ item, items[index]? = some item ∧ task.IsOf work item

/-- A task goes on with the item of its position. -/
theorem Assigned.replace {tasks : List (Task α)} (h : Assigned work items tasks) {index : Nat}
    {old new : Task α} (hold : tasks[index]? = some old)
    (hnew : ∀ item, old.IsOf work item → new.IsOf work item) :
    Assigned work items (tasks.set index new) := by
  intro position task htask
  rw [List.getElem?_set] at htask
  split at htask
  · rename_i heq
    subst heq
    obtain ⟨item, hitem, hof⟩ := h index old hold
    split at htask
    · cases htask
      exact ⟨item, hitem, hnew item hof⟩
    · cases htask
  · exact h position task htask

/-- One more task takes the next item. -/
theorem Assigned.append {tasks : List (Task α)} (h : Assigned work items tasks) {item : α}
    (hitem : items[tasks.length]? = some item) :
    Assigned work items (tasks ++ [.ready item]) := by
  intro position task htask
  rw [List.getElem?_append] at htask
  split at htask
  · exact h position task htask
  · rename_i hge
    rw [List.getElem?_singleton] at htask
    split at htask
    · cases htask
      have heq : position = tasks.length := by omega
      exact ⟨item, by rw [heq]; exact hitem, rfl⟩
    · cases htask

/-- How many labels are ahead of the tasks. -/
def ahead : Phase → Nat
  | .waiting => 1
  | .granted => 1
  | _ => 0

/-- What the phase of a pool says about its permits and its queue. -/
def Consistent (pool : Pool α) : Prop :=
  match pool.phase with
  | .between => pool.closed = false
  | .waiting => pool.closed = false ∧ pool.queue ≠ []
  | .granted => pool.closed = false ∧ pool.queue ≠ []
  | .joining => pool.closed = true ∧ pool.queue = [] ∧ pool.slots.length = pool.tasks.length
  | .refused => False
  | .broken => False

/-- The invariant of a pool at work on a list of items. -/
structure Sound (work : Work α) (workers : Nat) (items : List α) (pool : Pool α) : Prop where
  total : pool.total = items.length
  permits : pool.permits + pool.tasks.countP Task.holdsPermit +
    (if pool.phase = .granted then 1 else 0) = effectiveWorkers workers
  queue : pool.queue = items.drop pool.tasks.length
  assigned : Assigned work items pool.tasks
  labels : pool.labels = (items.take (pool.tasks.length + ahead pool.phase)).map work.label
  consistent : pool.Consistent

/-- A pool is sound before its first step. -/
theorem sound_start : Sound work workers items (Pool.start workers items) where
  total := rfl
  permits := by simp [Pool.start]
  queue := rfl
  assigned := by
    intro index task htask
    simp [Pool.start] at htask
  labels := by simp [Pool.start, ahead]
  consistent := rfl

/-- The next item of a sound pool is the one after those of the tasks. -/
theorem Sound.next_item {pool : Pool α} (h : Sound work workers items pool) {item : α}
    {rest : List α} (hqueue : pool.queue = item :: rest) :
    items[pool.tasks.length]? = some item := by
  have hdrop : (items.drop pool.tasks.length)[0]? = some item := by
    rw [← h.queue, hqueue]
    rfl
  simpa using hdrop

/-- A sound pool has no more tasks than items. -/
theorem Sound.tasks_le {pool : Pool α} (h : Sound work workers items pool) :
    pool.tasks.length ≤ items.length := by
  by_cases hempty : pool.tasks.length = 0
  · omega
  · have hlast : pool.tasks.length - 1 < pool.tasks.length := by omega
    obtain ⟨item, hitem, _⟩ := h.assigned _ _ (List.getElem?_eq_getElem hlast)
    have hlt := (List.getElem?_eq_some_iff.1 hitem).1
    omega

/-- A sound pool whose queue is empty has a task for every item. -/
theorem Sound.tasks_complete {pool : Pool α} (h : Sound work workers items pool)
    (hqueue : pool.queue = []) : pool.tasks.length = items.length := by
  have hdrop := h.queue
  rw [hqueue, eq_comm, List.drop_eq_nil_iff] at hdrop
  have := h.tasks_le
  omega

/-- A task that goes on, and a permit that goes with it, leave a pool sound. -/
theorem Sound.replace {pool next : Pool α} (h : Sound work workers items pool) {index : Nat}
    {old new : Task α} (hold : pool.tasks[index]? = some old)
    (htasks : next.tasks = pool.tasks.set index new)
    (hnew : ∀ item, old.IsOf work item → new.IsOf work item)
    (hpermits : next.permits + (if new.holdsPermit then 1 else 0) =
      pool.permits + (if old.holdsPermit then 1 else 0))
    (htotal : next.total = pool.total) (hqueue : next.queue = pool.queue)
    (hphase : next.phase = pool.phase) (hclosed : next.closed = pool.closed)
    (hlabels : next.labels = pool.labels) (hslots : next.slots.length = pool.slots.length) :
    Sound work workers items next where
  total := htotal.trans h.total
  permits := by
    have hcount := countP_replaced Task.holdsPermit hold new
    have := h.permits
    rw [htasks, hphase]
    omega
  queue := by rw [hqueue, htasks, List.length_set, h.queue]
  assigned := by
    rw [htasks]
    exact h.assigned.replace hold hnew
  labels := by rw [hlabels, htasks, List.length_set, hphase, h.labels]
  consistent := by
    have hconsistent := h.consistent
    unfold Consistent at hconsistent ⊢
    rw [hphase, hclosed, hqueue, hslots, htasks, List.length_set]
    exact hconsistent

/-- While a sound pool joins its tasks, every task finds the label of its item and a slot. -/
theorem Sound.label_and_slot {pool : Pool α} (h : Sound work workers items pool)
    (hphase : pool.phase = .joining) {index : Nat} {task : Task α}
    (htask : pool.tasks[index]? = some task) :
    ∃ item, items[index]? = some item ∧ pool.labels[index]? = some (work.label item) ∧
      index < pool.slots.length := by
  have hconsistent := h.consistent
  simp only [Consistent, hphase] at hconsistent
  obtain ⟨_, hqueue, hslots⟩ := hconsistent
  obtain ⟨item, hitem, _⟩ := h.assigned index task htask
  have hlt := (List.getElem?_eq_some_iff.1 htask).1
  refine ⟨item, hitem, ?_, by omega⟩
  rw [h.labels, hphase, h.tasks_complete hqueue]
  simp [ahead, hitem]

/-- Joining a task leaves a pool sound: the position is never out of bounds. -/
theorem Sound.join {pool : Pool α} (h : Sound work workers items pool) {index : Nat}
    {completion : Completion α} (htask : pool.tasks[index]? = some (.released completion))
    (hphase : pool.phase = .joining) : Sound work workers items (pool.join index completion) := by
  obtain ⟨item, _, hlabel, hslot⟩ := h.label_and_slot hphase htask
  cases houtcome : completion.outcome.workerFailure? with
  | some failure =>
      rw [join_of_lost houtcome]
      exact h.replace htask rfl (fun _ hof => hof) rfl rfl rfl rfl rfl rfl rfl
  | none =>
      rw [join_of_returned houtcome hlabel hslot]
      exact h.replace htask rfl (fun _ hof => hof) rfl rfl rfl rfl rfl rfl (by simp)

/-- Every step leaves a pool sound. -/
theorem Sound.step {pool next : Pool α} (h : Sound work workers items pool)
    (hstep : Step work pool next) : Sound work workers items next := by
  have hconsistent := h.consistent
  have hpermits := h.permits
  have hlabels := h.labels
  cases hstep with
  | note item rest hqueue hphase =>
      simp only [Consistent, hphase] at hconsistent
      refine ⟨h.total, ?_, h.queue, h.assigned, ?_, ?_⟩
      · simpa [hphase] using hpermits
      · simp only [hphase, ahead, Nat.add_zero] at hlabels ⊢
        rw [hlabels, List.take_add_one, h.next_item hqueue]
        simp
      · exact ⟨hconsistent, by simp [hqueue]⟩
  | acquire permits hfree hopen hphase =>
      -- The permit leaves the free ones for the phase, which counts as its holder.
      simp only [Consistent, hphase] at hconsistent
      refine ⟨h.total, ?_, h.queue, h.assigned, ?_, hconsistent⟩
      · simp only [hphase, hfree, reduceCtorEq, if_false] at hpermits
        simp only [if_true]
        omega
      · simpa only [hphase, ahead] using hlabels
  | refuse hclosed hphase =>
      -- Permits are closed behind the last submission, and this phase comes before one.
      simp only [Consistent, hphase, hclosed] at hconsistent
      exact absurd hconsistent.1 (by simp)
  | submit item rest hqueue hphase =>
      simp only [Consistent, hphase] at hconsistent
      refine ⟨h.total, ?_, ?_, h.assigned.append (h.next_item hqueue), ?_, hconsistent.1⟩
      · -- The permit passes from the phase to the new task.
        simp only [hphase, if_true] at hpermits
        simp only [List.countP_append, List.countP_singleton, Task.holdsPermit, if_true,
          reduceCtorEq, if_false]
        omega
      · have hdrop := h.queue
        rw [hqueue] at hdrop
        rw [List.length_append, List.length_singleton, ← List.drop_drop, ← hdrop]
        rfl
      · simpa only [hphase, ahead, List.length_append, List.length_singleton, Nat.add_zero]
          using hlabels
  | close hqueue hphase =>
      refine ⟨h.total, ?_, h.queue, h.assigned, ?_, ?_⟩
      · simpa [hphase] using hpermits
      · simpa only [hphase, ahead] using hlabels
      · refine ⟨rfl, hqueue, ?_⟩
        rw [List.length_replicate, h.total, h.tasks_complete hqueue]
  | begin index item htask =>
      exact h.replace htask rfl (fun _ hof => hof) rfl rfl rfl rfl rfl rfl rfl
  | finish index item htask =>
      refine h.replace htask rfl (fun current hof => ?_) rfl rfl rfl rfl rfl rfl rfl
      exact congrArg work.compute hof
  | release index completion htask =>
      exact h.replace htask rfl (fun _ hof => hof) rfl rfl rfl rfl rfl rfl rfl
  | join index completion htask hphase => exact h.join htask hphase

/-- Every state that a pool can get into is sound. -/
theorem Reached.sound {pool : Pool α} (h : Reached work workers items pool) :
    Sound work workers items pool := by
  induction h with
  | start => exact sound_start
  | step _ hstep ih => exact ih.step hstep

end Pool

end Runbook.Checksum
