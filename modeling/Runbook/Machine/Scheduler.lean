import Runbook.Machine.Course
import Runbook.Machine.Executable

/-!
# Schedulers

The processes of a machine take turns. Each goes on until it has to wait, or for a while at most, and
when all of them wait the clock moves to the time at which the first of them wants to go on. Every
step takes a moment.
-/

namespace Runbook.Machine

/-- What finds the course of a program by its name, its arguments and its variables. -/
abbrev Loader := String → List String → Environment → Course

/-- A host with the courses of its processes. -/
structure Running where
  host : Host
  courses : List (Nat × Course)
  /-- How many steps may still be taken before the machine is given up as one that never rests. -/
  fuel : Nat

/-- How far a process got in its turn: the rest of its course unless it ended, and the children that
it started. -/
structure Turn where
  host : Host
  course : Option Course
  children : List (Nat × Course) := []
  steps : Nat := 0

namespace Scheduler

/-- How many steps a turn has at most. -/
def turnLength : Nat := 100

/-- How many microseconds a step takes. -/
def stepDuration : Nat := 1

/-- Whether a process is alive and not stopped. -/
def isActive (host : Host) (self : Nat) : Bool :=
  (host.process? self).any fun process => process.outcome.isNone && !process.isStopped

/-- Whether a process is alive. -/
def isAlive (host : Host) (self : Nat) : Bool :=
  (host.process? self).any fun process => process.outcome.isNone

/-- The host after a process became another program: what it keeps to itself is closed, and it has
no arrangement for signals any more except that some are ignored. -/
def afterBecoming (host : Host) (self : Nat) : Host :=
  host.modifyProcess self fun process =>
    { process with
      descriptors := process.descriptors.filter fun descriptor => !descriptor.isPrivate
      caught := []
      pending := [] }

/-- The turn of a process. The fuel bounds the number of steps. -/
def turn (load : Loader) (self : Nat) : Nat → Turn → Course → Turn
  | 0, sofar, course => { sofar with course := some course }
  | fuel + 1, sofar, course =>
    if !isActive sofar.host self then
      { sofar with course := if isAlive sofar.host self then some course else none }
    else
      let host := { sofar.host with clock := sofar.host.clock + stepDuration }
      let steps := sofar.steps + 1
      match course with
      | .ended status =>
        { sofar with
          host := host.terminate self (.exited (status % 256)), course := none, steps := steps }
      | .step attempt =>
        match attempt self sofar.host with
        | some (after, course) =>
          turn load self fuel
            { sofar with
              host := { after with clock := after.clock + stepDuration }, steps := steps }
            course
        | none => { sofar with course := some course }
      | .fork child next =>
        let (host, number) := host.spawn self
        turn load self fuel
          { sofar with
            host := host, children := sofar.children ++ [(number, child)], steps := steps }
          (next number)
      | .become path argv environment refused =>
        match host.invoked self interpreterDepth path argv with
        | .error fault => turn load self fuel { sofar with host := host, steps := steps } (refused fault)
        | .ok invoked =>
          turn load self fuel { sofar with host := afterBecoming host self, steps := steps }
            (load invoked.program invoked.argv environment)

/-- A round in which each process has its turn, in the order in which they were started. The result
holds the courses in the same order, with the children at the end, and the number of steps. -/
def round (load : Loader) : List (Nat × Course) → Host → Host × List (Nat × Course) × Nat
  | [], host => (host, [], 0)
  | (self, course) :: rest, host =>
    let taken := turn load self turnLength { host := host, course := none } course
    let (host, courses, steps) := round load rest taken.host
    let own := taken.course.toList.map fun course => (self, course)
    (host, own ++ courses ++ taken.children, taken.steps + steps)

/-- When the first of the waiting processes wants to go on. -/
def nextWaking (host : Host) : Option Nat :=
  let times := host.processes.filterMap fun entry =>
    if entry.2.outcome.isNone && !entry.2.isStopped then entry.2.wakes else none
  match times with
  | [] => none
  | first :: rest => some (rest.foldl min first)

/-- The streams of outlets. -/
def streams : List Nat := [1, 2]

/-- Notes when outlets are closed everywhere. -/
def noteClosings (host : Host) : Host :=
  { host with
    closings := streams.foldl
      (fun closings stream =>
        if (closings.lookup stream).isNone && !host.isHeld (.outlet stream) true then
          (stream, host.clock) :: closings
        else
          closings)
      host.closings }

/-- What a machine runs for: the process whose end is waited for, and the time at which it is
killed if it lives that long. -/
structure Purpose where
  awaited : Nat
  deadline : Option Nat

/-- Moves the clock to the time at which something happens, if anything is ever going to happen. -/
def passTime (purpose : Purpose) (host : Host) : Option Host :=
  let lives := isAlive host purpose.awaited
  let deadline := if lives then purpose.deadline else none
  match nextWaking host, deadline with
  | none, none => none
  | some time, none => some { host with clock := max host.clock time }
  | none, some time => some { host with clock := max host.clock time }
  | some first, some second => some { host with clock := max host.clock (min first second) }

/-- Kills the awaited process if its time is over. -/
def enforce (purpose : Purpose) (host : Host) : Host :=
  match purpose.deadline with
  | some time => if time ≤ host.clock then host.signal purpose.awaited signalKill else host
  | none => host

/-- Runs a machine as long as anything happens and anybody still looks. The fuel bounds the number of
rounds. -/
def run (load : Loader) (purpose : Purpose) (isWatched : Host → Bool) : Nat → Running → Running
  | 0, running => running
  | fuel + 1, running =>
    let (host, courses, steps) := round load running.courses running.host
    let host := noteClosings (enforce purpose host)
    let running := { running with host := host, courses := courses, fuel := running.fuel - steps }
    if courses.isEmpty || running.fuel = 0 || !isWatched host then running
    else if steps = 0 then
      match passTime purpose host with
      | some host =>
        if isWatched host then
          run load purpose isWatched fuel { running with host := enforce purpose host }
        else
          running
      | none => running
    else
      run load purpose isWatched fuel running

end Scheduler

end Runbook.Machine
