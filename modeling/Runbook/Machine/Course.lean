import Runbook.Machine.Host

/-!
# Courses

What a process does from here on is a course: it ends, it takes a step on the host, which may have
to wait until it is possible, it starts a child, or it becomes another program. Courses are put
together from acts, which have a state of their own and can be left early.
-/

namespace Runbook.Machine

/-- The variables that are handed to a program. -/
abbrev Environment := List (String × String)

/-- What a process does from here on. A step gets the number of the process and the host, and is not
possible as long as it yields nothing. -/
inductive Course where
  | ended (status : Nat)
  | step (attempt : Nat → Host → Option (Host × Course))
  | fork (child : Course) (next : Nat → Course)
  | become (path : String) (argv : List String) (environment : Environment)
      (refused : OsError → Course)

/-- A part of a course with a state of type `σ` that yields an `α` or is left with an `ε`. It is
given by the courses that it goes on with in either case. -/
def Acting (σ ε α : Type) : Type :=
  σ → (ε → σ → Course) → (α → σ → Course) → Course

namespace Acting

variable {σ ε α : Type}

instance : Monad (Acting σ ε) where
  pure value := fun state _ next => next value state
  bind act continuation := fun state leave next =>
    act state leave fun value state => continuation value state leave next

instance : MonadStateOf σ (Acting σ ε) where
  get := fun state _ next => next state state
  set state := fun _ _ next => next () state
  modifyGet change := fun state _ next =>
    let (value, state) := change state
    next value state

instance : MonadExceptOf ε (Acting σ ε) where
  throw reason := fun state leave _ => leave reason state
  tryCatch act handle := fun state leave next =>
    act state (fun reason state => handle reason state leave next) next

/-- Takes a step that may have to wait. -/
def attempt (step : Nat → Host → Option (Host × α)) : Acting σ ε α :=
  fun state _ next => .step fun self host =>
    match step self host with
    | some (host, value) => some (host, next value state)
    | none => none

/-- Takes a step that is always possible. -/
def perform (step : Nat → Host → Host × α) : Acting σ ε α :=
  fun state _ next => .step fun self host =>
    let (host, value) := step self host
    some (host, next value state)

/-- Takes a step that changes nothing. -/
def observe (look : Nat → Host → α) : Acting σ ε α :=
  perform fun self host => (host, look self host)

/-- Takes a step that may be refused. -/
def request (step : Nat → Host → Except OsError (Host × α)) : Acting σ ε (Except OsError α) :=
  perform fun self host =>
    match step self host with
    | .ok (host, value) => (host, .ok value)
    | .error fault => (host, .error fault)

/-- Lets other processes take a step. -/
def pause : Acting σ ε Unit :=
  perform fun _ host => (host, ())

/-- Starts a child that goes on in a copy of the state, and yields its number. -/
def fork (child : σ → Course) : Acting σ ε Nat :=
  fun state _ next => .fork (child state) fun number => next number state

/-- Becomes another program, or tells why not. -/
def become (path : String) (argv : List String) (environment : Environment) :
    Acting σ ε OsError :=
  fun state _ next => .become path argv environment fun fault => next fault state

/-- Ends the process. -/
def finish (status : Nat) : Acting σ ε α :=
  fun _ _ _ => .ended status

/-- How often something is repeated that has no end of its own. -/
def endless : Nat := 1000000000

/-- Repeats an act as long as it asks for that. -/
def repeatAct (act : Acting σ ε Bool) : Nat → Acting σ ε Unit
  | 0 => pure ()
  | fuel + 1 => do
    if ← act then repeatAct act fuel else return ()

/-- Repeats an act on a value until it yields a result. -/
def iterate {β : Type} (act : α → Acting σ ε (Sum α β)) (otherwise : β) : Nat → α → Acting σ ε β
  | 0, _ => pure otherwise
  | fuel + 1, value => do
    match ← act value with
    | .inl value => iterate act otherwise fuel value
    | .inr result => return result

/-! ## System calls -/

/-- The number of the process. -/
def self : Acting σ ε Nat :=
  observe fun self _ => self

/-- Takes a step that may have to wait, unless a signal comes that the process has to deal with. -/
def attemptUnlessAlerted (step : Nat → Host → Option (Host × Except OsError α)) :
    Acting σ ε (Except OsError α) :=
  attempt fun self host =>
    match step self host with
    | some result => some result
    | none => if host.isAlerted self then some (host, .error .interrupted) else none

/-- Reads from what is open under a number. -/
def receive (number limit : Nat) (unitEnd : Option Char) : Acting σ ε (Except OsError String) :=
  attempt fun self host => host.receive self number limit unitEnd

/-- Reads from what is open under a number, unless a signal comes. -/
def receiveUnlessAlerted (number limit : Nat) (unitEnd : Option Char) :
    Acting σ ε (Except OsError String) :=
  attemptUnlessAlerted fun self host => host.receive self number limit unitEnd

/-- The most octets that are read at once. -/
def readLimit : Nat := 65536

/-- Writes to what is open under a number. What is not taken at once is written later. -/
def send (number : Nat) (text : String) : Acting σ ε (Except OsError Unit) :=
  iterate
    (fun text : String => do
      match ← attempt fun self host => host.send self number text with
      | .error fault => return .inr (.error fault)
      | .ok count =>
        if count < text.length && 0 < count then return .inl (text.drop count).toString
        else return .inr (.ok ()))
    (.ok ()) endless text

/-- Reads everything from what is open under a number. -/
def receiveAll (number : Nat) : Acting σ ε (Except OsError String) :=
  iterate
    (fun pieces : List String => do
      match ← receive number readLimit none with
      | .error fault => return .inr (.error fault)
      | .ok piece =>
        if piece.isEmpty then return .inr (.ok (String.join pieces.reverse))
        else return .inl (piece :: pieces))
    (.ok "") endless []

/-- Opens the file at a path, and waits for a partner if it is a pipe with a name. -/
def openPath (path : String) (how : Opening) : Acting σ ε (Except OsError Nat) := do
  let queue ← observe fun self host => host.queueAt? self path
  match queue with
  | some pipe =>
    if !(how.reads && how.writes) then
      perform fun self host =>
        (host.modifyProcess self fun process =>
          { process with wants := some (pipe, how.writes) }, ())
      attempt fun _ host => if host.hasPartner pipe how.writes then some (host, ()) else none
  | none => pure ()
  let opened ← request fun self host => host.openPath self path how
  if queue.isSome then
    -- The partner may still have to see that somebody has come.
    pause
    perform fun self host => (host.modifyProcess self fun process =>
      { process with wants := none }, ())
  return opened

/-- Closes what is open under a number. -/
def close (number : Nat) : Acting σ ε Unit :=
  perform fun self host => (host.close self number, ())

/-- Changes the files of the machine. -/
def changeFiles (change : Host → Nat → Except OsError Files) : Acting σ ε (Except OsError Unit) :=
  request fun self host =>
    (change host (host.directoryOf self)).map fun files => ({ host with files := files }, ())

/-- Waits for a number of microseconds, or until a signal comes. -/
def sleep (duration : Nat) : Acting σ ε Unit := do
  perform fun self host =>
    (host.modifyProcess self fun process =>
      { process with wakes := some (host.clock + duration) }, ())
  attempt fun self host =>
    match (host.process? self).bind Process.wakes with
    | none => some (host, ())
    | some time =>
      if time ≤ host.clock || host.isAlerted self then
        some (host.modifyProcess self fun process => { process with wakes := none }, ())
      else
        none

/-- Waits for ever, or until a signal comes. -/
def sleepForever : Acting σ ε Unit :=
  attempt fun self host => if host.isAlerted self then some (host, ()) else none

/-- The end of one of the children, if there has been one. -/
def ended? (self : Nat) (host : Host) : Option (Host × Except OsError (Nat × Outcome)) :=
  match host.reap? self with
  | some (host, child, outcome) => some (host, .ok (child, outcome))
  | none => if (host.childrenOf self).isEmpty then some (host, .error .noChild) else none

/-- Waits for the end of one of the children. There has to be one. -/
def waitForChild : Acting σ ε (Except OsError (Nat × Outcome)) :=
  attempt ended?

/-- Waits for the end of one of the children, unless a signal comes. -/
def waitForChildUnlessAlerted : Acting σ ε (Except OsError (Nat × Outcome)) :=
  attemptUnlessAlerted ended?

/-- The end of one of the children that have ended already. -/
def endedChild? : Acting σ ε (Option (Nat × Outcome)) :=
  perform fun self host =>
    match host.reap? self with
    | some (host, child, outcome) => (host, some (child, outcome))
    | none => (host, none)

/-- Sends a signal to a process. -/
def signal (target number : Nat) : Acting σ ε (Except OsError Unit) :=
  request fun _ host =>
    if (host.process? target).isNone then .error .noSuchProcess
    else .ok (host.signal target number, ())

/-- Sends a signal to the process itself. -/
def signalSelf (number : Nat) : Acting σ ε Unit :=
  perform fun self host => (host.signal self number, ())

end Acting

end Runbook.Machine
