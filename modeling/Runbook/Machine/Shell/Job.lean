import Runbook.Machine.Shell.Variables

/-!
# Jobs

The processes that a shell starts and waits for. The last process of a job decides about its
status. A job whose end has been waited for gives up its number.
-/

namespace Runbook.Machine.Shell

namespace Job

/-- Whether all processes of a job have ended. -/
def isDone (job : Job) : Bool :=
  job.members.all fun member => member.outcome.isSome

/-- The outcome of a job that is done. -/
def outcome? (job : Job) : Option Outcome :=
  job.members.getLast?.bind Member.outcome

/-- The status of a job. -/
def status (job : Job) : Nat :=
  (job.outcome?.map Outcome.status).getD 0

/-- The job after a process ended. -/
def note (job : Job) (process : Nat) (outcome : Outcome) : Job :=
  { job with
    members := job.members.map fun member =>
      if member.number == process then { member with outcome := some outcome } else member }

end Job

namespace Act

/-- The job with a number. -/
def job? (number : Nat) : Act (Option Job) :=
  return (← get).jobs.find? fun job => job.number == number

/-- Changes the job with a number. -/
def modifyJob (number : Nat) (change : Job → Job) : Act Unit :=
  modify fun memory =>
    { memory with
      jobs := memory.jobs.map fun job => if job.number == number then change job else job }

/-- Gives up a job. -/
def dropJob (number : Nat) : Act Unit :=
  modify fun memory => { memory with jobs := memory.jobs.filter fun job => job.number != number }

/-- The least number that no job needs any more. The fuel bounds how many there are. -/
def freeNumber (jobs : List Job) : Nat → Nat → Nat
  | 0, number => number
  | fuel + 1, number =>
    match jobs.find? fun job => job.number == number with
    | none => number
    | some job =>
      if job.isDone && job.isWaitedFor then number else freeNumber jobs fuel (number + 1)

/-- Makes room for a new job, and yields its number. The latest job comes first. -/
def newJob : Act Nat := do
  let memory ← get
  let number := freeNumber memory.jobs memory.jobs.length 1
  dropJob number
  modify fun memory => { memory with jobs := { number := number, members := [] } :: memory.jobs }
  return number

/-- The report on a process that a signal ended, unless it is one that is passed over. -/
def reportOn? (outcome : Outcome) : Option String :=
  match outcome with
  | .signalled signal => if signal = 2 || signal = signalPipe then none else some (signalReport signal)
  | .exited _ => none

/-- Takes note of the end of a process. If it belongs to the job that is waited for, a signal that
ended it is reported. -/
def noteEnd (awaited : Option Nat) (process : Nat) (outcome : Outcome) : Act Unit := do
  let memory ← get
  let found := memory.jobs.find? fun job => job.members.any fun member => member.number == process
  match found with
  | none => return ()
  | some job =>
    modifyJob job.number fun job => job.note process outcome
    if awaited == some job.number then
      if let some report := reportOn? outcome then
        writeNow 2 (report ++ "\n")

/-- Takes note of the ends of all processes that have ended already. -/
def noteEnds (awaited : Option Nat) : Act Unit :=
  Acting.repeatAct
    (do
      match ← Acting.endedChild? with
      | some (process, outcome) =>
        noteEnd awaited process outcome
        return true
      | none => return false)
    Acting.endless

/-- Waits until a job is done, and yields whether it is, which it is not if a signal came. -/
def waitUntilDone (number : Nat) (isInterruptible : Bool) : Act Bool :=
  Acting.iterate
    (fun (_ : Unit) => do
      match ← job? number with
      | none => return .inr true
      | some job =>
        if job.isDone then
          noteEnds (some number)
          return .inr true
        let ended ←
          if isInterruptible then Acting.waitForChildUnlessAlerted else Acting.waitForChild
        match ended with
        | .ok (process, outcome) =>
          noteEnd (some number) process outcome
          return .inl ()
        | .error .interrupted => return .inr false
        | .error _ =>
          -- Nobody is left who could end: the processes are not this shell's any more.
          modifyJob number fun job =>
            { job with
              members := job.members.map fun member =>
                { member with outcome := some (member.outcome.getD (.exited 0)) } }
          return .inl ())
    true Acting.endless ()

/-- Waits for a job, gives it up, and yields its status. -/
def waitForJob (number : Nat) : Act Nat := do
  let _ ← waitUntilDone number false
  let status := ((← job? number).map Job.status).getD 0
  dropJob number
  return status

/-- Waits until no job is running, and yields whether that is so, which it is not if a signal came.
-/
def waitForAll : Act Bool := do
  let isOver ← Acting.iterate
    (fun (_ : Unit) => do
      if (← get).jobs.all Job.isDone then
        return .inr true
      match ← Acting.waitForChildUnlessAlerted with
      | .ok (process, outcome) =>
        noteEnd none process outcome
        return .inl ()
      | .error .interrupted => return .inr false
      | .error _ => return .inr true)
    true Acting.endless ()
  modify fun memory =>
    { memory with
      jobs := memory.jobs.map fun job =>
        if job.isDone then { job with isWaitedFor := true } else job }
  return isOver

/-- What a process becomes of the memory of the shell that started it. Traps are gone, except that
some signals stay ignored, and the jobs belong to somebody else. -/
def forgetful (memory : Memory) : Memory :=
  { memory with
    traps := memory.traps.filter fun trap => trap.2.isEmpty
    jobs := []
    output := []
    statusBefore := none }

/-- Has a child take no notice of the traps of its parent, and of no signal from the terminal if it
runs in the background. -/
def settle (memory : Memory) (inBackground : Bool) : Act Unit := do
  let caught := memory.traps.filter fun trap => !trap.2.isEmpty
  Acting.perform fun self host =>
    (host.modifyProcess self fun process =>
      { process with
        caught := process.caught.filter fun signal => (caught.lookup signal).isNone
        pending := []
        ignored := if inBackground then [2, 3] ++ process.ignored else process.ignored }, ())
  if inBackground then
    modify fun memory => { memory with deaf := [2, 3] ++ memory.deaf }

/-- Starts a process that acts and then ends, as part of a job if one is given. -/
def forkShell (conclude : Leave → Act Unit) (job : Option Nat) (inBackground : Bool)
    (act : Act Unit) : Act Nat := do
  let isFirst := ((← get).jobs.find? fun found => some found.number == job).all fun found =>
    found.members.isEmpty
  let child (memory : Memory) : Course :=
    let task : Act Unit := do
      settle memory inBackground
      if inBackground && isFirst then
        Acting.close 0
        let _ ← Acting.openPath "/dev/null" { reads := true }
      try
        act
        conclude .finish
      catch reason =>
        conclude reason
    task (forgetful memory) (fun _ memory => .ended memory.status) fun _ memory =>
      .ended memory.status
  let number ← Acting.fork child
  if let some found := job then
    modifyJob found fun job => { job with members := job.members ++ [{ number := number }] }
  if inBackground then
    modify fun memory => { memory with lastBackground := some number }
  return number

end Act

end Runbook.Machine.Shell
