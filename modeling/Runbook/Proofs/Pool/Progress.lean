import Runbook.Proofs.Inevitability
import Runbook.Proofs.Pool.Invariant

/-!
# Progress of the pool

Every step of a pool uses up some of the work that remains, so no interleaving goes on forever, and
a pool gets stuck only when all its tasks have been joined. With the permits conserved this bounds
the work in progress and keeps the submission moving, which `Reached.bounded_and_unstuck` puts
together.
-/

namespace Runbook.Checksum

/-- The steps that a task still has to take. -/
def Task.remaining {α : Type} : Task α → Nat
  | .ready _ => 4
  | .computing _ => 3
  | .ended _ => 2
  | .released _ => 1
  | .joined _ => 0

/-- The steps that several tasks still have to take. -/
def Task.remainingOf {α : Type} : List (Task α) → Nat
  | [] => 0
  | task :: rest => task.remaining + remainingOf rest

/-- The steps that a phase still has to take before the next submission or the end. -/
def Phase.remaining : Phase → Nat
  | .between => 4
  | .waiting => 3
  | .granted => 2
  | .joining => 1
  | .refused => 0
  | .broken => 0

variable {α : Type} {work : Work α} {workers : Nat} {items : List α}

/-- One more task adds its steps. -/
theorem Task.remaining_of_append (tasks : List (Task α)) (task : Task α) :
    Task.remainingOf (tasks ++ [task]) = Task.remainingOf tasks + task.remaining := by
  induction tasks with
  | nil => simp [Task.remainingOf]
  | cons first rest ih =>
      simp only [List.cons_append, Task.remainingOf, ih]
      omega

/-- Replacing a task exchanges its steps for those of the new one. -/
theorem Task.remaining_of_set {tasks : List (Task α)} {index : Nat} {old : Task α}
    (hold : tasks[index]? = some old) (new : Task α) :
    Task.remainingOf (tasks.set index new) + old.remaining =
      Task.remainingOf tasks + new.remaining := by
  induction tasks generalizing index with
  | nil => simp at hold
  | cons first rest ih =>
      cases index with
      | zero =>
          obtain rfl : first = old := by simpa using hold
          simp only [List.set_cons_zero, Task.remainingOf]
          omega
      | succ index =>
          have hrest := ih (by simpa using hold)
          simp only [List.set_cons_succ, Task.remainingOf]
          omega

/-- A task inside the computation holds a permit. -/
theorem Task.holds_permit_of_computing {task : Task α} (h : task.isComputing = true) :
    task.holdsPermit = true := by
  cases task with
  | computing => rfl
  | ready | ended | released | joined => cases h

namespace Pool

/-- A bound on the steps that a pool can still take. An item in the queue counts for its submission
and for the steps of its task. -/
def remaining (pool : Pool α) : Nat :=
  7 * pool.queue.length + pool.phase.remaining + Task.remainingOf pool.tasks

/-- A task that goes on leaves less to do. -/
theorem remaining_replaced {pool next : Pool α} {index : Nat} {old new : Task α}
    (hold : pool.tasks[index]? = some old) (htasks : next.tasks = pool.tasks.set index new)
    (hqueue : next.queue = pool.queue) (hphase : next.phase = pool.phase)
    (hless : new.remaining < old.remaining) : next.remaining < pool.remaining := by
  have hsum := Task.remaining_of_set hold new
  unfold remaining
  rw [htasks, hqueue, hphase]
  omega

/-- Joining a task leaves less to do, even if the pool breaks down over it. -/
theorem remaining_join {pool : Pool α} {index : Nat} {completion : Completion α}
    (htask : pool.tasks[index]? = some (.released completion)) (hphase : pool.phase = .joining) :
    (pool.join index completion).remaining < pool.remaining := by
  unfold Pool.join
  split
  · exact remaining_replaced htask rfl rfl rfl (Nat.zero_lt_one)
  · split
    · exact remaining_replaced htask rfl rfl rfl (Nat.zero_lt_one)
    · simp [remaining, hphase, Phase.remaining]

/-- Every step leaves less to do. -/
theorem Step.remaining_lt {pool next : Pool α} (hstep : Step work pool next) :
    next.remaining < pool.remaining := by
  cases hstep with
  | note item rest hqueue hphase => simp [remaining, hphase, Phase.remaining]
  | acquire permits hpermits hopen hphase => simp [remaining, hphase, Phase.remaining]
  | refuse hclosed hphase => simp [remaining, hphase, Phase.remaining]
  | submit item rest hqueue hphase =>
      simp only [remaining, hphase, hqueue, Phase.remaining, List.length_cons,
        Task.remaining_of_append, Task.remaining]
      omega
  | close hqueue hphase => simp [remaining, hphase, Phase.remaining]
  | begin index item htask => exact remaining_replaced htask rfl rfl rfl (Nat.lt_succ_self 3)
  | finish index item htask => exact remaining_replaced htask rfl rfl rfl (Nat.lt_succ_self 2)
  | release index completion htask =>
      exact remaining_replaced htask rfl rfl rfl (Nat.lt_succ_self 1)
  | join index completion htask hphase => exact remaining_join htask hphase

/-- A task that holds a permit can go on. -/
theorem step_of_permit_held {pool : Pool α} {task : Task α} (hmem : task ∈ pool.tasks)
    (hpermit : task.holdsPermit = true) : ∃ next, Step work pool next := by
  obtain ⟨index, htask⟩ := List.getElem?_of_mem hmem
  cases task with
  | ready item => exact ⟨_, .begin pool index item htask⟩
  | computing item => exact ⟨_, .finish pool index item htask⟩
  | ended completion => exact ⟨_, .release pool index completion htask⟩
  | released completion => cases hpermit
  | joined completion => cases hpermit

/-- When a sound pool with workers has no free permit for a waiting item, some task holds one. -/
theorem Sound.permit_held_of_waiting {pool : Pool α} (h : Sound work workers items pool)
    (hphase : pool.phase = .waiting) (hnone : pool.permits = 0) :
    ∃ task ∈ pool.tasks, task.holdsPermit = true := by
  have hpermits := h.permits
  simp only [hphase, hnone, reduceCtorEq, if_false] at hpermits
  have hpos : 0 < effectiveWorkers workers := by
    unfold effectiveWorkers
    omega
  exact List.countP_pos_iff.1 (by omega)

/-- A sound pool can take a step unless all its tasks have been joined. -/
theorem Sound.progress {pool : Pool α} (h : Sound work workers items pool)
    (hdone : pool.isDone = false) : ∃ next, Step work pool next := by
  have hconsistent := h.consistent
  cases hphase : pool.phase with
  | between =>
      cases hqueue : pool.queue with
      | nil => exact ⟨_, .close pool hqueue hphase⟩
      | cons item rest => exact ⟨_, .note pool item rest hqueue hphase⟩
  | waiting =>
      simp only [Consistent, hphase] at hconsistent
      cases hpermits : pool.permits with
      | zero =>
          obtain ⟨task, hmem, hpermit⟩ := h.permit_held_of_waiting hphase hpermits
          exact step_of_permit_held hmem hpermit
      | succ permits => exact ⟨_, .acquire pool permits hpermits hconsistent.1 hphase⟩
  | granted =>
      simp only [Consistent, hphase] at hconsistent
      obtain ⟨item, rest, hqueue⟩ := List.exists_cons_of_ne_nil hconsistent.2
      exact ⟨_, .submit pool item rest hqueue hphase⟩
  | joining =>
      simp only [isDone, hphase, beq_self_eq_true, Bool.true_and, List.all_eq_false] at hdone
      obtain ⟨task, hmem, hjoined⟩ := hdone
      cases task with
      | ready | computing | ended => exact step_of_permit_held hmem rfl
      | released completion =>
          obtain ⟨index, htask⟩ := List.getElem?_of_mem hmem
          exact ⟨_, .join pool index completion htask hphase⟩
      | joined completion => exact absurd rfl hjoined
  | refused => simp [Consistent, hphase] at hconsistent
  | broken => simp [Consistent, hphase] at hconsistent

/-- A sound pool comes to every goal that it cannot get stuck before. -/
theorem Sound.inevitable {goal : Pool α → Prop}
    (hunstuck : ∀ current : Pool α, Sound work workers items current → ¬ goal current →
      current.isDone = false)
    {pool : Pool α} (h : Sound work workers items pool) :
    Inevitable (Step work) (fun _ _ => False) goal 0 pool :=
  inevitable_of_decreasing (Sound work workers items) remaining
    (fun _ _ hsound hstep => hsound.step hstep) (fun _ _ hstep => hstep.remaining_lt)
    (fun current hsound hmissing => hsound.progress (hunstuck current hsound hmissing)) pool h

/-- The permits of a sound pool are closed exactly while its tasks are joined. -/
theorem Sound.closed_iff {pool : Pool α} (h : Sound work workers items pool) :
    pool.closed = true ↔ pool.phase = .joining := by
  have hconsistent := h.consistent
  unfold Consistent at hconsistent
  cases hphase : pool.phase <;> simp_all

/-- A sound pool gives out permits until it joins its tasks. -/
theorem Sound.open_of_not_joining {pool : Pool α} (h : Sound work workers items pool)
    (hphase : pool.phase ≠ .joining) : pool.closed = false := by
  rw [← Bool.not_eq_true, h.closed_iff]
  exact hphase

/-- A sound pool is in neither of the phases that stand for an error. -/
theorem Sound.no_error {pool : Pool α} (h : Sound work workers items pool) :
    pool.phase ≠ .refused ∧ pool.phase ≠ .broken := by
  have hconsistent := h.consistent
  constructor <;> intro hphase <;> simp [Consistent, hphase] at hconsistent

/-- A sound pool that joins its tasks has submitted every item. -/
theorem Sound.all_submitted {pool : Pool α} (h : Sound work workers items pool)
    (hphase : pool.phase = .joining) : pool.tasks.length = items.length := by
  have hconsistent := h.consistent
  simp only [Consistent, hphase] at hconsistent
  exact h.tasks_complete hconsistent.2.1

/-- A pool that is done joins its tasks. -/
theorem joining_of_done {pool : Pool α} (hdone : pool.isDone = true) : pool.phase = .joining := by
  simp only [isDone, Bool.and_eq_true, beq_iff_eq] at hdone
  exact hdone.1

/-- A pool that gives out permits is not done. -/
theorem Sound.not_done_of_open {pool : Pool α} (h : Sound work workers items pool)
    (hopen : pool.closed = false) : pool.isDone = false := by
  cases hdone : pool.isDone with
  | false => rfl
  | true =>
      rw [h.closed_iff.2 (joining_of_done hdone)] at hopen
      cases hopen

/-- The submission of a sound pool comes to its end, and with every item. -/
theorem Sound.submission_inevitable {pool : Pool α} (h : Sound work workers items pool) :
    Inevitable (Step work) (fun _ _ => False)
      (fun later => later.closed = true ∧ later.tasks.length = items.length) 0 pool := by
  refine h.inevitable fun current hcurrent hgoal => ?_
  cases hdone : current.isDone with
  | false => rfl
  | true =>
      have hphase := joining_of_done hdone
      exact absurd ⟨hcurrent.closed_iff.2 hphase, hcurrent.all_submitted hphase⟩ hgoal

/-- In every state that a pool of workers can get into, whatever the interleaving of submissions and
tasks: the permits are conserved until they are closed, no more items are computed at once than
there are workers, a waiting item without a free permit waits for a task that holds one, the
submission comes to its end with every item, no permit is asked for after the permits have been
closed, and every task that is joined finds its label and its slot. -/
theorem Reached.bounded_and_unstuck {pool : Pool α} (h : Reached work workers items pool)
    (hworkers : 1 ≤ workers) :
    (pool.closed = false →
      pool.permits + pool.tasks.countP Task.holdsPermit +
        (if pool.phase = .granted then 1 else 0) = workers) ∧
    pool.tasks.countP Task.isComputing ≤ workers ∧
    (pool.phase = .waiting → pool.permits = 0 → ∃ task ∈ pool.tasks, task.holdsPermit = true) ∧
    (pool.closed = false →
      (∃ next, Step work pool next) ∧
      Inevitable (Step work) (fun _ _ => False)
        (fun later => later.closed = true ∧ later.tasks.length = items.length) 0 pool) ∧
    (pool.phase = .waiting → pool.closed = false) ∧
    pool.phase ≠ .refused ∧ pool.phase ≠ .broken ∧
    (pool.phase = .joining → ∀ (index : Nat) (completion : Completion α),
      pool.tasks[index]? = some (.released completion) →
        index < pool.labels.length ∧ index < pool.slots.length) := by
  have hsound := h.sound
  have hpermits := hsound.permits
  rw [show effectiveWorkers workers = workers from Nat.max_eq_left hworkers] at hpermits
  have hcomputing : pool.tasks.countP Task.isComputing ≤ pool.tasks.countP Task.holdsPermit :=
    List.countP_mono_left fun task _ => Task.holds_permit_of_computing
  refine ⟨fun _ => hpermits, by omega, hsound.permit_held_of_waiting, ?_, ?_, hsound.no_error.1,
    hsound.no_error.2, ?_⟩
  · intro hopen
    exact ⟨hsound.progress (hsound.not_done_of_open hopen), hsound.submission_inevitable⟩
  · intro hphase
    exact hsound.open_of_not_joining (by simp [hphase])
  · intro hphase index completion htask
    obtain ⟨_, _, hlabel, hslot⟩ := hsound.label_and_slot hphase htask
    exact ⟨(List.getElem?_eq_some_iff.1 hlabel).1, hslot⟩

/-- Work that always panics. -/
def panickingWork : Work String where
  label item := item
  compute item := ⟨.panicked .unreadable, item, []⟩

/-- A single worker that has just panicked still holds the only permit, and the second item, which
waits for it, is going to be submitted. -/
theorem bounded_and_unstuck_after_panic :
    ∃ pool, Reached panickingWork 1 ["a", "b"] pool ∧ 1 ≤ 1 ∧
      pool.tasks = [.ended (panickingWork.compute "a")] ∧
      pool.phase = .waiting ∧ pool.permits = 0 ∧
      (∃ task ∈ pool.tasks, task.holdsPermit = true) ∧
      Inevitable (Step panickingWork) (fun _ _ => False)
        (fun later => later.closed = true ∧ later.tasks.length = 2) 0 pool := by
  have hstart : Reached panickingWork 1 ["a", "b"] (Pool.start 1 ["a", "b"]) := .start (by decide)
  have hnoted := hstart.step (.note _ "a" ["b"] rfl rfl)
  have hgranted := hnoted.step (.acquire _ 0 rfl rfl rfl)
  have hsubmitted := hgranted.step (.submit _ "a" ["b"] rfl rfl)
  have hwaiting := hsubmitted.step (.note _ "b" [] rfl rfl)
  have hbegun := hwaiting.step (.begin _ 0 "a" rfl)
  have hended := hbegun.step (.finish _ 0 "a" rfl)
  obtain ⟨_, _, hheld, hmoving, _⟩ := Reached.bounded_and_unstuck hended (Nat.le_refl 1)
  exact ⟨_, hended, Nat.le_refl 1, rfl, rfl, rfl, hheld rfl rfl, (hmoving rfl).2⟩

end Pool

end Runbook.Checksum
