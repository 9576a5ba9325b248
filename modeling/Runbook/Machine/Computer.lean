import Runbook.Machine.Program
import Runbook.Process.Child

/-!
# Computers

A computer is a file tree with a current directory and an environment. It serves as a world for
runs: files are read from the tree, and programs run to their end when they are started, with
everything they write noted together with its time.
-/

namespace Runbook.Machine

/-- The names that lead from the root to a file. -/
abbrev Location := List String

/-- The path of a location. -/
def Location.path (location : Location) : String :=
  "/" ++ "/".intercalate location

/-- The time at which the clocks of computers start, in microseconds. -/
def startTime : Nat := 1767225600000000

/-- A computer at rest. -/
structure Computer where
  files : Files
  /-- The number of the current directory. -/
  directory : Nat := Files.root
  environment : Environment := []
  threads : Nat := 1
  /-- What time it is, in microseconds. -/
  clock : Nat := startTime

namespace Computer

/-- The permission bits of directories and programs. -/
def openPermissions : Nat := 0x1ED

/-- The permission bits of files that are no programs. -/
def filePermissions : Nat := 0x1A4

/-- The permission bits of devices. -/
def devicePermissions : Nat := 0x1B6

/-- The directories that are always there. -/
def systemDirectories : List String :=
  ["/dev", "/dev/fd", "/etc", "/home", "/proc", "/root", "/tmp", "/usr", "/usr/bin", "/usr/lib",
    "/usr/local", "/usr/local/bin", "/usr/local/sbin", "/usr/sbin", "/var", "/var/tmp"]

/-- The symbolic links that are always there. -/
def systemLinks : List (String × String) :=
  [("/bin", "usr/bin"), ("/sbin", "usr/sbin"), ("/lib", "usr/lib")]

/-- The devices. -/
def systemDevices : List (String × Device) :=
  [("/dev/null", .nothing), ("/dev/zero", .zeros), ("/dev/full", .full), ("/dev/tty", .terminal),
    ("/dev/random", .zeros), ("/dev/urandom", .zeros), ("/dev/stdin", .descriptor 0),
    ("/dev/stdout", .descriptor 1), ("/dev/stderr", .descriptor 2)] ++
    (List.range 10).map fun number => ("/dev/fd/" ++ toString number, .descriptor number)

/-- The files with one more, unless there is one already or no room for it. -/
def withFile (files : Files) (path : String) (kind : FileKind) (permissions : Nat) : Files :=
  ((files.make Files.root path kind permissions 0).toOption).getD files

/-- The files with a directory, unless there is one already or no room for it. -/
def withDirectory (files : Files) (directory : Nat) (path : String) : Files :=
  ((files.makeDirectory directory path openPermissions 0).toOption).getD files

/-- The file tree with nothing but the files of the system. -/
def systemFiles : Files :=
  let files : Files := ⟨#[⟨.directory Files.root [], openPermissions, 0⟩]⟩
  let files := systemDirectories.foldl (fun files path => withDirectory files Files.root path) files
  let files := systemLinks.foldl
    (fun files (path, target) => withFile files path (.link target) openPermissions) files
  let files := systemDevices.foldl
    (fun files (path, device) => withFile files path (.device device) devicePermissions) files
  Program.names.foldl
    (fun files name => withFile files ("/usr/bin/" ++ name) (.program name) openPermissions) files

/-- The files with the directories along names, and the number of the last one. -/
def withDirectories (files : Files) : Nat → List String → Files × Nat
  | here, [] => (files, here)
  | here, name :: rest =>
    let files := withDirectory files here name
    match files.find here name true with
    | .ok number => withDirectories files number rest
    | .error _ => (files, here)

/-- A computer with an empty current directory. -/
def fresh (directory : Location) : Computer :=
  let (files, number) := withDirectories systemFiles Files.root directory
  { files := files
    directory := number
    environment := [("PATH", standardPath), ("HOME", "/root")] }

/-- The directory from which a path starts, and the names on it. -/
def namesOn (computer : Computer) (path : String) : Nat × List String :=
  (Files.startOf computer.directory path, (Files.namesOf path).filter fun name => !name.isEmpty)

/-- The computer with a directory. -/
def makeDirectory (computer : Computer) (path : String) : Computer :=
  let (start, names) := computer.namesOn (Octets.ofText path)
  { computer with files := (withDirectories computer.files start names).1 }

/-- The computer with a file of the given content. -/
def writeFile (computer : Computer) (path : String) (content : List UInt8) : Computer :=
  let path := Octets.ofText path
  let (start, names) := computer.namesOn path
  let (files, _) := withDirectories computer.files start names.dropLast
  let octets : ByteArray := ⟨content.toArray⟩
  let files :=
    match files.find computer.directory path true with
    | .ok number => files.setContent number octets computer.clock
    | .error _ =>
      ((files.make computer.directory path (.regular octets) filePermissions
        computer.clock).toOption).getD files
  { computer with files := files }

/-- The computer with a file executable. -/
def makeExecutable (computer : Computer) (path : String) : Computer :=
  match computer.files.find computer.directory (Octets.ofText path) true with
  | .ok number => { computer with files := computer.files.setPermissions number openPermissions }
  | .error _ => computer

/-- The computer without a file. -/
def removeFile (computer : Computer) (path : String) : Computer :=
  match computer.files.remove computer.directory (Octets.ofText path) computer.clock with
  | .ok files => { computer with files := files }
  | .error _ => computer

/-- What opening and reading the file at a path yields. -/
def read (computer : Computer) (path : String) : FileReading :=
  match computer.files.find computer.directory (Octets.ofText path) true with
  | .error fault => .refused fault
  | .ok number =>
    match computer.files.kind? number with
    | some (.directory _ _) => .opened [] (some .isADirectory)
    | some (.regular content) => .opened (piecesOf (readSize - 1) content.toList) none
    | _ => .opened [] none

/-- The regular files below a directory, with their paths relative to it. The fuel bounds the depth.
-/
def filesBelow (files : Files) : Nat → String → Nat → List (String × ByteArray)
  | 0, _, _ => []
  | fuel + 1, start, directory =>
    (files.entries directory).flatMap fun (name, number) =>
      match files.kind? number with
      | some (.regular content) => [(start ++ name, content)]
      | some (.directory _ _) => filesBelow files fuel (start ++ name ++ "/") number
      | _ => []

/-- The regular files below the current directory, with their paths relative to it. -/
def regularFiles (computer : Computer) : List (String × ByteArray) :=
  filesBelow computer.files computer.files.table.size "" computer.directory

/-- The regular files that are not in another computer with the same content. -/
def changedFiles (computer before : Computer) : List (String × List UInt8) :=
  let known := before.regularFiles
  let changed := computer.regularFiles.filter fun file =>
    (known.lookup file.1).map ByteArray.toList != some file.2.toList
  changed.map fun (path, content) => (Text.Utf8.decodeLossy (Octets.toList path), content.toList)

/-! ## Running programs -/

/-- How many steps the processes of a run take together before the run is given up. -/
def stepLimit : Nat := 4000000

/-- How long after its last output, in microseconds, a machine whose program has ended is watched. -/
def quietLimit : Nat := 150000

/-- How long after the end of its program a machine is watched at most. -/
def watchLimit : Nat := 2100000

/-- Whether somebody looks at a machine: its program has not ended, or has ended a short while ago
and left behind others that can still write. -/
def isWatched (awaited : Nat) (host : Host) : Bool :=
  match host.process? awaited with
  | none => false
  | some process =>
    process.outcome.isNone ||
      (Scheduler.streams.any (fun stream => (host.closings.lookup stream).isNone) &&
        let latest := (host.emissions.head?.map Emission.time).getD 0
        host.clock ≤ max process.endedAt latest + quietLimit &&
          host.clock ≤ process.endedAt + watchLimit)

/-- Emissions of one stream with those at the same time put together. -/
def mergeEmissions : List (Nat × List UInt8) → List (Nat × List UInt8)
  | [] => []
  | (time, octets) :: rest =>
    match mergeEmissions rest with
    | (next, others) :: later =>
      if time = next then (time, octets ++ others) :: later
      else (time, octets) :: (next, others) :: later
    | [] => [(time, octets)]

/-- How many microseconds a millisecond has. -/
def microseconds : Nat := 1000

/-- What the reader of a stream sees: the octets at the times at which they were written, in
milliseconds since the start, and the end once no process can write any more. -/
def arrivals (host : Host) (start stream : Nat) : List Arrival :=
  let written := host.emissions.foldl
    (fun (sofar : List (Nat × List UInt8)) emission =>
      if emission.stream == stream then
        ((emission.time - start) / microseconds, Octets.toList emission.octets) :: sofar
      else
        sofar)
    []
  let ended := (host.closings.lookup stream).map fun time =>
    Arrival.mk ((time - start) / microseconds) .endOfFile
  (mergeEmissions written).flatMap (fun (time, octets) => Arrival.ofOctets time octets) ++
    ended.toList

/-- A host with one process and nothing behind its outlets. -/
def host (computer : Computer) (self : Nat) : Host :=
  { files := computer.files
    clock := computer.clock
    opened :=
      #[{ channel := .device .nothing, reads := true }, { channel := .outlet 1, writes := true },
        { channel := .outlet 2, writes := true }]
    processes :=
      [(self,
        { parent := self - 1
          group := self - 1
          directory := computer.directory
          descriptors := (List.range 3).map fun number => { number := number, opened := number } })]
    nextProcess := self + 1 }

/-- The number of the first process. -/
def firstProcess : Nat := 1000

/-- Starts a program and runs it to its end, or to the time at which it is going to be killed. -/
def launch (computer : Computer) (argv : List String) (deadline : Option Nat) : Launch × Computer :=
  let host := computer.host firstProcess
  let words := argv.map Octets.ofText
  match host.resolve firstProcess computer.environment words with
  | .error fault => (.refused fault, computer)
  | .ok (_, invoked) =>
    let purpose : Scheduler.Purpose :=
      { awaited := firstProcess
        deadline := deadline.map fun millis => computer.clock + millis * microseconds }
    let course := Program.load invoked.program invoked.argv computer.environment
    let running := Scheduler.run Program.load purpose (isWatched firstProcess) stepLimit
      { host := host, courses := [(firstProcess, course)], fuel := stepLimit }
    let process := running.host.process? firstProcess
    let (lifetime, ending) : Nat × Ending :=
      match process, process.bind Process.outcome with
      | some process, some (.exited status) =>
        ((process.endedAt - computer.clock) / microseconds, .exited status)
      | some process, some (.signalled number) =>
        ((process.endedAt - computer.clock) / microseconds, .signalled number)
      | _, _ => (deadline.getD 0, .signalled signalKill)
    let child : Child :=
      { lifetime := lifetime
        ending := ending
        stdout := some (arrivals running.host computer.clock 1)
        stderr := some (arrivals running.host computer.clock 2) }
    (.started child, { computer with files := running.host.files, clock := running.host.clock })

/-- The world of a computer. -/
def world : World Computer where
  read := read
  directory computer := computer.files.pathOf computer.directory
  parallelism := Computer.threads
  launch := launch

end Computer

end Runbook.Machine
