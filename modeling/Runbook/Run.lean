import Runbook.Apply
import Runbook.Changelog.Document
import Runbook.Changelog.Validation

/-!
# Runs

A run reads and validates a changelog, computes all checksums, and only then lists the checksums or
applies the change sets. A stage that fails ends the run before the next one begins. The operating
system whose commands are admitted is the current one unless another is named.
-/

namespace Runbook

/-- The options of a run. -/
structure Options where
  changelog : String := "Changelog.toml"
  logOnly : Bool := false
  checksums : Bool := false
  workers : Option Nat := none
  deriving Repr, DecidableEq

/-- A failure with the contexts in which it is reported, outermost first. -/
structure Fault where
  contexts : List String
  failure : Failure
  deriving Repr, DecidableEq

/-- The messages of a fault, outermost first. -/
def Fault.chain (fault : Fault) : List String :=
  fault.contexts ++ fault.failure.chain

/-- How a run ends. -/
inductive RunEnd where
  | finished
  | failed (fault : Fault)
  /-- The pool of workers could not be set up, and the program breaks down. -/
  | aborted
  deriving Repr, DecidableEq

/-- A run: the trace, the end, and the world afterwards. -/
structure RunResult (σ : Type) where
  trace : Trace
  ending : RunEnd
  state : σ

/-- The changelog that reading a file yields. -/
def Changelog.ofReading : FileReading → Except Failure Changelog
  | .refused fault => .error (.io fault)
  | .opened _ (some fault) => .error (.io fault)
  | .opened pieces none => Changelog.ofOctets pieces.flatten

/-- The accepted changelog at a path. -/
def Changelog.load {σ : Type} (world : World σ) (state : σ) (path : String) :
    Except Failure Changelog.Accepted :=
  (Changelog.ofReading (world.read state path)).bind Changelog.accept

/-- The context that a failure to load a changelog is reported in. -/
def loadContext (path : String) : String :=
  "loading changelog " ++ Text.quote path

/-- The directory that the files of a changelog are relative to: its own, or else the current one.
-/
def rootDirectory {σ : Type} (world : World σ) (state : σ) (path : String) : String :=
  (Path.parent? path).getD (world.directory state)

/-- The number of workers for the checksums. -/
def poolSize {σ : Type} (world : World σ) (state : σ) : Option Nat → Except Failure Nat
  | some 0 => .error (.config "--workers must be at least 1")
  | some workers => .ok workers
  | none => .ok (Checksum.effectiveWorkers (world.parallelism state))

/-- The line that lists the checksum of a change set. -/
def checksumLine (changeSet : ChangeSet) : String :=
  changeSet.key ++ " " ++ changeSet.checksum.getD "-"

/-- The mode of a run: log-only if the options say so, and otherwise what the changelog says. -/
def Options.mode (options : Options) (settings : Settings) : ExecutionMode :=
  if options.logOnly then .logOnly else settings.mode

/-- The event that announces the application of a changelog. -/
def applyingEvent (context : Context) (count : Nat) : Event :=
  ⟨.info, .pipeline, "applying changelog",
    [("mode", context.mode.label), ("os", context.osName), ("encoding", context.encoding.name),
      ("changesets", toString count)]⟩

/-- The last stage of a run, after all checksums have been computed. -/
def proceed {σ : Type} (world : World σ) (options : Options) (settings : Settings)
    (changeSets : List ChangeSet) (state : σ) (osName : String := currentOsName) : RunResult σ :=
  if options.checksums then
    ⟨changeSets.map fun changeSet => .printed (checksumLine changeSet), .finished, state⟩
  else
    let context : Context := ⟨options.mode settings, settings.encoding, osName⟩
    let applied := applyAll world context changeSets state
    { trace := .logged (applyingEvent context changeSets.length) :: applied.trace
      ending :=
        match applied.failure with
        | none => .finished
        | some (changeSet, failure) => .failed ⟨[changeSet.failureContext], failure⟩
      state := applied.state }

/-- The stages of a run after the changelog has been accepted. -/
def checkAndProceed {σ : Type} (world : World σ) (options : Options) (accepted : Changelog.Accepted)
    (state : σ) (osName : String := currentOsName) : RunResult σ :=
  match poolSize world state options.workers with
  | .error failure => ⟨[], .failed ⟨[], failure⟩, state⟩
  | .ok workers =>
    let base := rootDirectory world state options.changelog
    let batch :=
      Checksum.generate (ChangeSet.checksumWork (world.read state)) workers
        (accepted.changelog.changeSets base)
    let checked := Trace.ofEvents batch.events
    match batch.result with
    | none => ⟨checked, .aborted, state⟩
    | some (.error failures) => ⟨checked, .failed ⟨[], .checksum failures⟩, state⟩
    | some (.ok changeSets) =>
      let rest := proceed world options accepted.changelog.settings changeSets state osName
      { rest with trace := checked ++ rest.trace }

/-- A run with the given options. -/
def run {σ : Type} (world : World σ) (options : Options) (state : σ)
    (osName : String := currentOsName) : RunResult σ :=
  match Changelog.load world state options.changelog with
  | .error failure => ⟨[], .failed ⟨[loadContext options.changelog], failure⟩, state⟩
  | .ok accepted => checkAndProceed world options accepted state osName

end Runbook
