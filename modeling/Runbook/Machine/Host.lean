import Runbook.Machine.Files
import Runbook.Machine.Signal

/-!
# Hosts

A host is everything that the processes of a machine share, and what is known of each process but
not what it is going to do: files, pipes, what is open, and the records of the processes. Time is
counted in microseconds.
-/

namespace Runbook.Machine

/-- What an open file leads to. -/
inductive Channel where
  | file (number : Nat)
  | device (device : Device)
  | pipe (number : Nat)
  /-- A pipe whose reader is outside of the machine. -/
  | outlet (stream : Nat)
  deriving Repr, DecidableEq

/-- An open file. Processes that share it share its position too. -/
structure OpenFile where
  channel : Channel
  position : Nat := 0
  reads : Bool := false
  writes : Bool := false
  appends : Bool := false
  deriving Repr, DecidableEq

/-- The number under which a process knows an open file. -/
structure Descriptor where
  number : Nat
  opened : Nat
  /-- Whether it is closed when the process becomes another program. -/
  isPrivate : Bool := false
  deriving Repr, DecidableEq

/-- How a process ended. -/
inductive Outcome where
  | exited (status : Nat)
  | signalled (number : Nat)
  deriving Repr, DecidableEq

/-- The status that stands for an outcome. -/
def Outcome.status : Outcome → Nat
  | .exited status => status
  | .signalled number => signalStatus number

/-- The record of a process. -/
structure Process where
  parent : Nat
  directory : Nat
  /-- The permission bits that new files do not get. -/
  mask : Nat := 0x12
  descriptors : List Descriptor := []
  ignored : List Nat := []
  /-- The signals for which the process has made an arrangement of its own. -/
  caught : List Nat := []
  /-- Caught signals that the process has not dealt with yet. -/
  pending : List Nat := []
  /-- When the process wants to go on. -/
  wakes : Option Nat := none
  /-- The pipe with a name that the process wants to open, and whether for writing. -/
  wants : Option (Nat × Bool) := none
  isStopped : Bool := false
  /-- The process that leads the group to which this one belongs. -/
  group : Nat := 0
  /-- How far other processes are put before this one. -/
  niceness : Int := 0
  outcome : Option Outcome := none
  /-- When the process ended, if it did. -/
  endedAt : Nat := 0
  deriving Repr, DecidableEq

/-- Octets that left the machine. -/
structure Emission where
  time : Nat
  stream : Nat
  octets : String
  deriving Repr, DecidableEq

/-- A host. -/
structure Host where
  files : Files
  clock : Nat := 0
  opened : Array OpenFile := #[]
  pipes : Array ByteArray := #[]
  processes : List (Nat × Process) := []
  nextProcess : Nat := 1000
  /-- What left the machine, latest first. -/
  emissions : List Emission := []
  /-- When the outlet of a stream was closed everywhere, once it was noticed. -/
  closings : List (Nat × Nat) := []

/-- How a file is opened. -/
structure Opening where
  reads : Bool := false
  writes : Bool := false
  appends : Bool := false
  creates : Bool := false
  truncates : Bool := false
  /-- Whether it must not exist yet. -/
  exclusive : Bool := false
  permissions : Nat := 0x1B6

namespace Host

/-- The process that adopts those whose parent ended. -/
def adopter : Nat := 1

/-- The most octets that a pipe holds. -/
def pipeCapacity : Nat := 65536

/-- The most octets that are written to a pipe all at once or not at all. -/
def pipeUnit : Nat := 4096

/-- The record of a process. -/
def process? (host : Host) (self : Nat) : Option Process :=
  host.processes.lookup self

/-- The host with the record of a process changed. -/
def modifyProcess (host : Host) (self : Nat) (change : Process → Process) : Host :=
  { host with
    processes := host.processes.map fun entry =>
      if entry.1 == self then (entry.1, change entry.2) else entry }

/-- The directory of a process. -/
def directoryOf (host : Host) (self : Nat) : Nat :=
  ((host.process? self).map Process.directory).getD Files.root

/-- The descriptor of a process with a number. -/
def descriptor? (host : Host) (self number : Nat) : Option Descriptor := do
  let process ← host.process? self
  process.descriptors.find? fun descriptor => descriptor.number == number

/-- What a process has open under a number, and where that stands among all that is open. -/
def openFile? (host : Host) (self number : Nat) : Option (Nat × OpenFile) := do
  let descriptor ← host.descriptor? self number
  let opened ← host.opened[descriptor.opened]?
  some (descriptor.opened, opened)

/-- Whether some process has a file open that meets a condition. -/
def anyOpen (host : Host) (condition : OpenFile → Bool) : Bool :=
  host.processes.any fun entry => entry.2.descriptors.any fun descriptor =>
    host.opened[descriptor.opened]?.any condition

/-- Whether some process can read from, or write to, a channel. -/
def isHeld (host : Host) (channel : Channel) (forWriting : Bool) : Bool :=
  host.anyOpen fun opened =>
    opened.channel == channel && (if forWriting then opened.writes else opened.reads)

/-- The least number from a bound on that a process has not got. The fuel bounds how many it has. -/
def leastFree (descriptors : List Descriptor) : Nat → Nat → Nat
  | 0, least => least
  | fuel + 1, least =>
    if descriptors.any fun descriptor => descriptor.number == least then
      leastFree descriptors fuel (least + 1)
    else
      least

/-- The host with a descriptor of a process set. -/
def setDescriptor (host : Host) (self : Nat) (descriptor : Descriptor) : Host :=
  host.modifyProcess self fun process =>
    { process with
      descriptors :=
        descriptor :: process.descriptors.filter fun other => other.number != descriptor.number }

/-- The host after a process closed a descriptor. -/
def close (host : Host) (self number : Nat) : Host :=
  host.modifyProcess self fun process =>
    { process with
      descriptors := process.descriptors.filter fun descriptor => descriptor.number != number }

/-- The host with an open file under the least free number of a process from a bound on, and that
number. -/
def install (host : Host) (self least : Nat) (opened : OpenFile) : Host × Nat :=
  let descriptors := ((host.process? self).map Process.descriptors).getD []
  let number := leastFree descriptors descriptors.length least
  let host' := { host with opened := host.opened.push opened }
  (host'.setDescriptor self { number := number, opened := host.opened.size }, number)

/-- Gives an open file another number as well, the least free one from a bound on. -/
def duplicateAbove (host : Host) (self number least : Nat) (isPrivate : Bool) :
    Except OsError (Host × Nat) :=
  match host.descriptor? self number with
  | none => .error .badDescriptor
  | some descriptor =>
    let descriptors := ((host.process? self).map Process.descriptors).getD []
    let copy := leastFree descriptors descriptors.length least
    .ok (host.setDescriptor self
      { number := copy, opened := descriptor.opened, isPrivate := isPrivate }, copy)

/-- Gives an open file another number as well. -/
def duplicate (host : Host) (self number copy : Nat) : Except OsError Host :=
  match host.descriptor? self number with
  | none => .error .badDescriptor
  | some descriptor =>
    if number = copy then .ok host
    else .ok (host.setDescriptor self { number := copy, opened := descriptor.opened })

/-- Makes a pipe and opens both of its ends: the number for reading and the number for writing. -/
def openPipe (host : Host) (self : Nat) : Host × Nat × Nat :=
  let pipe := host.pipes.size
  let host := { host with pipes := host.pipes.push .empty }
  let (host, reading) := host.install self 0 { channel := .pipe pipe, reads := true }
  let (host, writing) := host.install self 0 { channel := .pipe pipe, writes := true }
  (host, reading, writing)

/-- Whether a process has a caught signal to deal with. -/
def isAlerted (host : Host) (self : Nat) : Bool :=
  (host.process? self).any fun process => !process.pending.isEmpty

/-- The host with an open file at another position. -/
def reposition (host : Host) (index position : Nat) : Host :=
  { host with
    opened := host.opened.modify index fun opened => { opened with position := position } }

/-- How many octets there are from a position up to and including the first of a kind, and all if
there is none. The fuel bounds their number. -/
def countThrough (octets : ByteArray) (octet : UInt8) : Nat → Nat → Nat
  | 0, _ => 0
  | fuel + 1, position =>
    if octets.size ≤ position then 0
    else if octets[position]? == some octet then 1
    else countThrough octets octet fuel (position + 1) + 1

/-- How many octets from a position are taken: at most so many, and none behind the first that ends
a unit. -/
def countTaken (octets : ByteArray) (position limit : Nat) (unitEnd : Option Char) : Nat :=
  let available := min limit (octets.size - position)
  match unitEnd with
  | none => available
  | some c => countThrough octets c.toNat.toUInt8 available position

/-- Reads from an open file: at most so many octets, and none behind the first that ends a unit.
Nothing at all is the end of the file. -/
def receive (host : Host) (self number limit : Nat) (unitEnd : Option Char) :
    Option (Host × Except OsError String) :=
  match host.openFile? self number with
  | none => some (host, .error .badDescriptor)
  | some (index, opened) =>
    if !opened.reads then
      some (host, .error .badDescriptor)
    else
      match opened.channel with
      | .file file =>
        match host.files.kind? file with
        | some (.regular content) =>
          let count := countTaken content opened.position limit unitEnd
          let text := Octets.ofPart content opened.position (opened.position + count)
          some (host.reposition index (opened.position + count), .ok text)
        | some (.directory _ _) => some (host, .error .isADirectory)
        | _ => some (host, .ok "")
      | .device .zeros | .device .full =>
        some (host, .ok (String.ofList (List.replicate limit '\x00')))
      | .pipe pipe =>
        let content := (host.pipes[pipe]?).getD .empty
        if content.isEmpty then
          if host.isHeld (.pipe pipe) true then none else some (host, .ok "")
        else
          let count := countTaken content 0 limit unitEnd
          let rest := content.extract count content.size
          some ({ host with pipes := host.pipes.set! pipe rest }, .ok (Octets.ofPart content 0 count))
      | _ => some (host, .ok "")

/-- The processes that have a parent. -/
def childrenOf (host : Host) (self : Nat) : List (Nat × Process) :=
  host.processes.filter fun entry => entry.2.parent == self

/-- The host after a process ended. What it had open is closed, its children get another parent, and
its record remains until its own parent has asked for it. -/
def terminate (host : Host) (self : Nat) (outcome : Outcome) : Host :=
  let adopted := host.processes.map fun entry =>
    if entry.2.parent == self then (entry.1, { entry.2 with parent := adopter }) else entry
  let ended := adopted.map fun entry =>
    if entry.1 == self && entry.2.outcome.isNone then
      (entry.1,
        { entry.2 with
          descriptors := [], wakes := none, outcome := some outcome, endedAt := host.clock })
    else
      entry
  let isOver (entry : Nat × Process) : Bool :=
    entry.2.outcome.isSome && entry.2.parent == adopter
  let parent := ((host.process? self).map Process.parent).getD adopter
  let told := ended.map fun entry =>
    if entry.1 == parent && entry.2.caught.contains signalChild
        && !entry.2.pending.contains signalChild then
      (entry.1, { entry.2 with pending := entry.2.pending ++ [signalChild] })
    else
      entry
  { host with processes := told.filter fun entry => !isOver entry }

/-- The host after a signal was sent to a process. -/
def signal (host : Host) (self number : Nat) : Host :=
  match host.process? self with
  | none => host
  | some process =>
    if process.outcome.isSome then host
    else if number = signalKill then host.terminate self (.signalled number)
    else if number = signalStop then
      host.modifyProcess self fun process => { process with isStopped := true }
    else
      let host :=
        if signalEffect number = .continues then
          host.modifyProcess self fun process => { process with isStopped := false }
        else
          host
      if process.ignored.contains number then host
      else if process.caught.contains number then
        host.modifyProcess self fun process =>
          if process.pending.contains number then process
          else { process with pending := process.pending ++ [number] }
      else
        match signalEffect number with
        | .ends => host.terminate self (.signalled number)
        | .stops => host.modifyProcess self fun process => { process with isStopped := true }
        | .continues | .nothing => host

/-- The host after a signal was sent to all processes of a group. -/
def signalGroup (host : Host) (group number : Nat) : Host :=
  (host.processes.filter fun entry => entry.2.group == group).foldl
    (fun host entry => host.signal entry.1 number) host

/-- Writes to a regular file at a position, behind zeros if the file is shorter. -/
def overwrite (content : ByteArray) (position : Nat) (text : String) : ByteArray :=
  let zeros := ⟨Array.replicate (position - content.size) 0⟩
  let before := (content.extract 0 position) ++ zeros
  Octets.append before text ++ content.extract (position + text.length) content.size

/-- Writes to an open file and tells how many octets were taken. Where nobody reads from a pipe, the
writer is told by a signal. -/
def send (host : Host) (self number : Nat) (text : String) : Option (Host × Except OsError Nat) :=
  match host.openFile? self number with
  | none => some (host, .error .badDescriptor)
  | some (index, opened) =>
    if !opened.writes then
      some (host, .error .badDescriptor)
    else
      let all := text.length
      match opened.channel with
      | .file file =>
        match host.files.kind? file with
        | some (.regular content) =>
          if opened.appends || opened.position = content.size then
            let files := host.files.setContent file .empty host.clock
            let content := Octets.append content text
            let host := { host with files := files.setContent file content host.clock }
            some (host.reposition index content.size, .ok all)
          else
            let files :=
              host.files.setContent file (overwrite content opened.position text) host.clock
            some ({ host with files := files }.reposition index (opened.position + all), .ok all)
        | _ => some (host, .ok all)
      | .device .full => some (host, .error .noSpace)
      | .pipe pipe =>
        let content := (host.pipes[pipe]?).getD .empty
        if !host.isHeld (.pipe pipe) false then
          some (host.signal self signalPipe, .error .brokenPipe)
        else
          let room := pipeCapacity - content.size
          let count := min all room
          if (all ≤ pipeUnit && room < all) || (0 < all && count = 0) then
            none
          else
            let part := if count = all then text else (text.take count).toString
            let pipes := host.pipes.set! pipe .empty
            let host := { host with pipes := pipes.set! pipe (Octets.append content part) }
            some (host, .ok count)
      | .outlet stream =>
        if text.isEmpty then some (host, .ok 0)
        else
          some ({ host with emissions := ⟨host.clock, stream, text⟩ :: host.emissions }, .ok all)
      | _ => some (host, .ok all)

/-- The open file that a device is opened as. -/
def openDevice (host : Host) (self : Nat) (device : Device) (how : Opening) :
    Except OsError OpenFile :=
  let opened : OpenFile :=
    { channel := .device device, reads := how.reads, writes := how.writes, appends := how.appends }
  match device with
  | .terminal => .error .noSuchDevice
  | .descriptor number =>
    match host.openFile? self number with
    | none => .error .notFound
    | some (_, original) => .ok { opened with channel := original.channel }
  | _ => .ok opened

/-- Whether a pipe with a name can be opened: whether somebody has, or wants to have, the other end.
-/
def hasPartner (host : Host) (pipe : Nat) (forWriting : Bool) : Bool :=
  host.isHeld (.pipe pipe) !forWriting ||
    host.processes.any fun entry => entry.2.wants == some (pipe, !forWriting)

/-- The open file that an existing file is opened as, and the files afterwards. -/
def openExisting (host : Host) (self number : Nat) (how : Opening) :
    Except OsError (Host × OpenFile) :=
  let opened : OpenFile :=
    { channel := .file number, reads := how.reads, writes := how.writes, appends := how.appends }
  match host.files.kind? number with
  | some (.directory _ _) => if how.writes then .error .isADirectory else .ok (host, opened)
  | some (.device (.descriptor other)) =>
    match host.openFile? self other with
    | none => .error .notFound
    | some (_, original) =>
      match original.channel with
      | .file file =>
        let files :=
          if how.truncates then host.files.setContent file .empty host.clock else host.files
        .ok ({ host with files := files }, { opened with channel := .file file })
      | channel => .ok (host, { opened with channel := channel })
  | some (.device device) => (host.openDevice self device how).map fun opened => (host, opened)
  | some (.queue pipe) => .ok (host, { opened with channel := .pipe pipe })
  | some (.program _) => if how.writes then .error (.other "Text file busy") else .ok (host, opened)
  | some _ =>
    let files :=
      if how.truncates then host.files.setContent number .empty host.clock else host.files
    .ok ({ host with files := files }, opened)
  | none => .error .notFound

/-- Opens the file at a path, or makes it, and gives the number under which it is open. -/
def openPath (host : Host) (self : Nat) (path : String) (how : Opening) :
    Except OsError (Host × Nat) := do
  let place ← host.files.locate (host.directoryOf self) path (!how.exclusive)
  match place.file with
  | some number =>
    if how.creates && how.exclusive then
      throw .alreadyExists
    let (host, opened) ← host.openExisting self number how
    .ok (host.install self 0 opened)
  | none =>
    if !how.creates then
      throw .notFound
    if place.slashed then
      throw .isADirectory
    let mask := ((host.process? self).map Process.mask).getD 0
    let permissions := how.permissions &&& (0xFFF ^^^ mask)
    let (files, number) :=
      host.files.add place.parent place.name ⟨.regular .empty, permissions, host.clock⟩
    .ok ({ host with files := files }.install self 0
      { channel := .file number, reads := how.reads, writes := how.writes, appends := how.appends })

/-- The pipe with a name that a path leads to. -/
def queueAt? (host : Host) (self : Nat) (path : String) : Option Nat :=
  match host.files.find (host.directoryOf self) path true with
  | .ok number =>
    match host.files.kind? number with
    | some (.queue pipe) => some pipe
    | _ => none
  | .error _ => none

/-- Moves the position of an open file, which only a file on a disk has. -/
def seek (host : Host) (self number : Nat) (target : Nat → Nat → Nat) : Except OsError (Host × Nat) :=
  match host.openFile? self number with
  | none => .error .badDescriptor
  | some (index, opened) =>
    match opened.channel with
    | .file file =>
      match host.files.kind? file with
      | some (.regular content) =>
        let position := target opened.position content.size
        .ok (host.reposition index position, position)
      | _ => .error .illegalSeek
    | .device _ => .ok (host, 0)
    | _ => .error .illegalSeek

/-- A child of a process whose end has not been asked for. Its record is given up. -/
def reap? (host : Host) (self : Nat) : Option (Host × Nat × Outcome) :=
  (host.childrenOf self).findSome? fun (child, process) =>
    process.outcome.map fun outcome =>
      ({ host with processes := host.processes.filter fun entry => entry.1 != child },
        child, outcome)

/-- The host with a child of a process, and its number. The child has everything that the process
has. -/
def spawn (host : Host) (self : Nat) : Host × Nat :=
  let child := host.nextProcess
  let process := (host.process? self).getD { parent := self, directory := Files.root }
  let copy := { process with parent := self, pending := [], wakes := none, wants := none }
  ({ host with processes := host.processes ++ [(child, copy)], nextProcess := child + 1 }, child)

end Host

end Runbook.Machine
