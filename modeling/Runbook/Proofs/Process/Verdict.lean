import Runbook.Process.Execution
import Runbook.Proofs.Drainer.Reports

/-!
# The verdict on a command

Running a command ends in one of a few ways, and the behaviour of the operating system decides in
which: whether the process starts, what the waits for it yield, and whether the deadline comes
first. `Leads` says which behaviour leads to which end. The main theorem is `Pending.run_ends`:
there is exactly one end, and it fixes the verdict with its texts, what is attempted, and what is
logged. Until both drainers have come to their ends they log beside the supervisor, so that up to
there only the order of each of them is fixed (`Interleaved`).
-/

namespace Runbook

/-- The codes that a policy accepts besides zero. -/
def Policy.codes : Policy → List Int
  | .exitCode => []
  | .tolerate codes => codes

/-- A policy accepts zero and its codes, whatever their order and however often they are listed. -/
theorem Policy.accepts_iff {policy : Policy} {code : Int} :
    policy.accepts code = true ↔ code = 0 ∨ code ∈ policy.codes := by
  cases policy <;> simp [accepts, codes]

/-- The verdict on a finished process: a confirmation if its code is accepted, and otherwise the
failure with that code and the error output. -/
theorem Policy.evaluate_eq (policy : Policy) (line : String) (output : Output) :
    policy.evaluate line output =
      if output.exitCode = 0 ∨ output.exitCode ∈ policy.codes then
        .ok ("Shell command '" ++ line ++ "' executed")
      else
        .error (.nonZeroExit line output.exitCode output.stderr) := by
  rw [evaluate]
  split
  · rename_i haccepted
    rw [if_pos (accepts_iff.1 haccepted)]
    rfl
  · rename_i hrefused
    rw [if_neg (mt accepts_iff.2 hrefused)]

/-- When the drainers of a process are told to stop: when it has ended, or at its deadline. -/
def Child.stopTime (child : Child) (timeout : Timeout) : Nat :=
  match timeout.deadline? with
  | none => child.lifetime
  | some deadline => min child.lifetime deadline

namespace Pending

/-- The ways in which running a command can end. -/
inductive Outcome where
  /-- There is no program to start. -/
  | nameless
  /-- The process does not start. -/
  | refused (fault : OsError)
  /-- A pipe of the process is missing. -/
  | unpiped (stream : String)
  /-- There is an exit code for the policy to judge. -/
  | judged (code : Int)
  /-- The deadline comes first. -/
  | overdue
  /-- The wait fails. -/
  | unwaited (message : String)

/-- Where the waits for a process lead. -/
inductive WaitLeads : List WaitResult → Outcome → Prop
  | interrupted {waits : List WaitResult} {outcome : Outcome} (h : WaitLeads waits outcome) :
      WaitLeads (.interrupted :: waits) outcome
  | exited (code : Nat) (rest : List WaitResult) :
      WaitLeads (.ended (.exited code) :: rest) (.judged code)
  | signalled (signal : Nat) (rest : List WaitResult) :
      WaitLeads (.ended (.signalled signal) :: rest) (.judged (-1))
  | failed (message : String) (rest : List WaitResult) :
      WaitLeads (.ended (.waitFailed message) :: rest) (.unwaited message)
  | overdue : WaitLeads [] .overdue

/-- Where the answer to the attempt to start a process leads. -/
inductive Leads (pending : Pending) : Launch → Outcome → Prop
  | nameless (launch : Launch) (hargv : pending.argv = []) : Leads pending launch .nameless
  | refused (fault : OsError) (hargv : pending.argv ≠ []) :
      Leads pending (.refused fault) (.refused fault)
  | noStdout (child : Child) (hargv : pending.argv ≠ []) (hstdout : child.stdout = none) :
      Leads pending (.started child) (.unpiped "stdout")
  | noStderr (child : Child) (hargv : pending.argv ≠ []) (hstdout : child.stdout ≠ none)
      (hstderr : child.stderr = none) : Leads pending (.started child) (.unpiped "stderr")
  | watched {outcome : Outcome} (child : Child) (hargv : pending.argv ≠ [])
      (hstdout : child.stdout ≠ none) (hstderr : child.stderr ≠ none)
      (hwaits : WaitLeads (child.waits pending.timeout.deadline?) outcome) :
      Leads pending (.started child) outcome

/-- The argument vector as messages show it. -/
def shown (pending : Pending) : String :=
  " ".intercalate pending.argv

/-- The timeout as messages show it: as it was spelled, or else in milliseconds. -/
def limit (pending : Pending) : String :=
  pending.timeout.spec.getD (toString pending.timeout.millis ++ " ms")

/-- An event that names the command. -/
def event (pending : Pending) (level : Level) (message : String)
    (fields : List (String × String)) : Event :=
  ⟨level, .process, message, ("command", pending.shown) :: fields⟩

/-- The verdict at the end, with the error output of the process. -/
def Outcome.verdict (pending : Pending) (stderr : String) : Outcome → Except Failure String
  | .nameless => .error (.execution "" "empty command line")
  | .refused fault => .error (.spawn pending.shown fault)
  | .unpiped stream => .error (.execution pending.shown (stream ++ " pipe was not captured"))
  | .judged code =>
    if code = 0 ∨ code ∈ pending.policy.codes then
      .ok ("Shell command '" ++ pending.line ++ "' executed")
    else
      .error (.nonZeroExit pending.line code stderr)
  | .overdue => .error (.timeout pending.shown pending.limit stderr)
  | .unwaited message => .error (.execution pending.shown message)

/-- The events of the waits for a process that were interrupted. -/
def interruptions (child : Child) : List Event :=
  List.replicate child.interruptions ⟨.debug, .process, "process wait interrupted; retrying", []⟩

/-- The events of an attempt to deal with a process that is still running. -/
def Outcome.killing (pending : Pending) (child : Child) : Outcome → List Event
  | .overdue =>
    pending.event .warn "process timed out; killing it" [("timeout", pending.limit)] ::
      child.killFault.toList.map fun fault =>
        pending.event .warn "failed to kill timed-out process" [("error", fault)]
  | .unwaited _ =>
    child.killFault.toList.map fun fault =>
      pending.event .debug "kill after failed wait" [("error", fault)]
  | _ => []

/-- The events that show what a process has written: the error output unless there is none, and then
the output. -/
def showing (pending : Pending) (stdout stderr : String) : List Event :=
  (if stderr = "" then [] else [pending.event .error stderr []]) ++
    [pending.event .info stdout []]

/-- The events after both drainers have come to their ends. So many milliseconds have passed by then
since the process was started. -/
def Outcome.closing (pending : Pending) (elapsed : Nat) (stdout stderr : String) :
    Outcome → List Event
  | .judged code =>
    pending.showing stdout stderr ++
      [pending.event .info "external process exited"
        [("exit_code", toString code), ("elapsed_ms", toString elapsed)]]
  | .overdue => pending.showing stdout stderr
  | _ => []

/-- A log in which the events of a supervisor, up to the orders to stop, and what both drainers
report come in some order. Each of the three keeps its own order, and what a drainer reports only
after it has been told to stop comes after the events of the supervisor. -/
def Interleaved (events : List Event) (out err : Drainer.HandBack) (log : List Event) : Prop :=
  ∃ unasked asked,
    Interleaves (if out.isUnasked then out.events else [])
      (if err.isUnasked then err.events else []) unasked ∧
    Interleaves (if out.isUnasked then [] else out.events)
      (if err.isUnasked then [] else err.events) asked ∧
    Interleaves unasked (events ++ asked) log

/-- What is logged up to the point at which both drainers have come to their ends is interleaved,
and every interleaving is logged in some turns. -/
theorem interleaved_iff_exists {events log : List Event} {out err : Drainer.HandBack} :
    Interleaved events out err log ↔
      ∃ turns, (Execution.Captured.mk out err).log turns events = log := by
  constructor
  · rintro ⟨unasked, asked, hunasked, hasked, hlog⟩
    obtain ⟨first, rfl⟩ := hunasked.exists_turns
    obtain ⟨second, rfl⟩ := hasked.exists_turns
    obtain ⟨third, rfl⟩ := hlog.exists_turns
    exact ⟨⟨first, second, third⟩, rfl⟩
  · rintro ⟨turns, rfl⟩
    exact ⟨_, _, interleaves_interleave _ _ _, interleaves_interleave _ _ _,
      interleaves_interleave _ _ _⟩

/-- What a wait that is not interrupted leads to. -/
def Outcome.ofEnding? : Option Ending → Outcome
  | some (.exited code) => .judged code
  | some (.signalled _) => .judged (-1)
  | some (.waitFailed message) => .unwaited message
  | none => .overdue

/-- A wait that yields an exit code leads to the policy. -/
theorem ofEnding?_of_ok {ending : Ending} {code : Int}
    (hcode : Execution.exitCode ending = .ok code) :
    Outcome.ofEnding? (some ending) = .judged code := by
  cases ending with
  | exited | signalled =>
      cases hcode
      rfl
  | waitFailed => cases hcode

/-- A wait that yields no exit code is the end. -/
theorem ofEnding?_of_error {ending : Ending} {message : String}
    (hcode : Execution.exitCode ending = .error message) :
    Outcome.ofEnding? (some ending) = .unwaited message := by
  cases ending with
  | exited | signalled => cases hcode
  | waitFailed =>
      cases hcode
      rfl

/-- Only a wait that has been given up leads to the deadline. -/
theorem eq_none_of_overdue {ending? : Option Ending}
    (h : Outcome.ofEnding? ending? = .overdue) : ending? = none := by
  cases ending? with
  | none => rfl
  | some ending => cases ending <;> cases h

/-- A process that is waited for had a program to start. -/
theorem not_nameless (ending? : Option Ending) : Outcome.ofEnding? ending? ≠ .nameless := by
  cases ending? with
  | none => nofun
  | some ending => cases ending <;> nofun

/-- The waits lead to where the first of them leads that is not interrupted. -/
theorem waitLeads_iff {waits : List WaitResult} {outcome : Outcome} :
    WaitLeads waits outcome ↔ outcome = .ofEnding? (Execution.awaitExit waits).2 := by
  induction waits with
  | nil =>
      constructor
      · rintro ⟨⟩
        rfl
      · rintro rfl
        exact .overdue
  | cons wait rest ih =>
      cases wait with
      | interrupted =>
          rw [show (Execution.awaitExit (.interrupted :: rest)).2 =
            (Execution.awaitExit rest).2 from rfl, ← ih]
          exact ⟨fun h => by cases h; assumption, .interrupted⟩
      | ended ending =>
          constructor
          · rintro ⟨⟩ <;> rfl
          · rintro rfl
            cases ending with
            | exited code => exact .exited code rest
            | signalled signal => exact .signalled signal rest
            | waitFailed message => exact .failed message rest

/-- The waits lead somewhere, and to one end only. -/
theorem existsUnique_waitLeads (waits : List WaitResult) :
    ∃ outcome, WaitLeads waits outcome ∧ ∀ other, WaitLeads waits other → other = outcome :=
  ⟨_, waitLeads_iff.2 rfl, fun _ => waitLeads_iff.1⟩

/-- Every answer to the attempt to start a process leads somewhere, and to one end only. -/
theorem existsUnique_leads (pending : Pending) (launch : Launch) :
    ∃ outcome, pending.Leads launch outcome ∧
      ∀ other, pending.Leads launch other → other = outcome := by
  by_cases hargv : pending.argv = []
  · refine ⟨.nameless, .nameless launch hargv, fun other hother => ?_⟩
    cases hother with
    | nameless => rfl
    | refused _ hnamed | noStdout _ hnamed | noStderr _ hnamed | watched _ hnamed =>
        exact absurd hargv hnamed
  · cases launch with
    | refused fault =>
        refine ⟨_, .refused fault hargv, fun other hother => ?_⟩
        cases hother with
        | nameless _ hnameless => exact absurd hnameless hargv
        | refused => rfl
    | started child =>
        by_cases hstdout : child.stdout = none
        · refine ⟨_, .noStdout child hargv hstdout, fun other hother => ?_⟩
          cases hother with
          | nameless _ hnameless => exact absurd hnameless hargv
          | noStdout => rfl
          | noStderr _ _ hpipe | watched _ _ hpipe => exact absurd hstdout hpipe
        · by_cases hstderr : child.stderr = none
          · refine ⟨_, .noStderr child hargv hstdout hstderr, fun other hother => ?_⟩
            cases hother with
            | nameless _ hnameless => exact absurd hnameless hargv
            | noStdout _ _ hmissing => exact absurd hmissing hstdout
            | noStderr => rfl
            | watched _ _ _ hpipe => exact absurd hstderr hpipe
          · obtain ⟨outcome, hwaits, hunique⟩ :=
              existsUnique_waitLeads (child.waits pending.timeout.deadline?)
            refine ⟨outcome, .watched child hargv hstdout hstderr hwaits, fun other hother => ?_⟩
            cases hother with
            | nameless _ hnameless => exact absurd hnameless hargv
            | noStdout _ _ hmissing => exact absurd hmissing hstdout
            | noStderr _ _ _ hmissing => exact absurd hmissing hstderr
            | watched _ _ _ _ hother => exact hunique other hother

section stop

variable {child : Child} {timeout : Timeout}

/-- A wait tells how a process ends exactly if it ends before its deadline. -/
theorem awaitExit_waits (deadline? : Option Nat) :
    Execution.awaitExit (child.waits deadline?) =
      (List.replicate child.interruptions Execution.interruption,
        if child.endsBefore deadline? then some child.ending else none) := by
  rw [Child.waits, Execution.awaitExit_replicate]
  split <;> simp [Execution.awaitExit]

/-- A process that has not ended when the wait is given up has lived to see its deadline. -/
theorem stopTime_of_overdue (h : (Execution.awaitExit (child.waits timeout.deadline?)).2 = none) :
    0 < timeout.millis ∧ child.stopTime timeout = timeout.millis := by
  rw [awaitExit_waits] at h
  cases hdeadline : timeout.deadline? with
  | none => simp [hdeadline, Child.endsBefore] at h
  | some deadline =>
      have hlong : deadline ≤ child.lifetime := by simpa [hdeadline, Child.endsBefore] using h
      obtain ⟨hpositive, hmillis⟩ := Timeout.deadline?_eq_some.1 hdeadline
      refine ⟨hmillis ▸ hpositive, ?_⟩
      simp only [Child.stopTime, hdeadline, hmillis, Nat.min_eq_right hlong]

/-- A process about which a wait has told has ended before its deadline. -/
theorem stopTime_of_ended {ending : Ending}
    (h : (Execution.awaitExit (child.waits timeout.deadline?)).2 = some ending) :
    child.stopTime timeout = child.lifetime := by
  rw [awaitExit_waits] at h
  cases hdeadline : timeout.deadline? with
  | none => simp only [Child.stopTime, hdeadline]
  | some deadline =>
      have hshort : child.lifetime < deadline := by
        simp only [hdeadline, Child.endsBefore, Option.all_some] at h
        split at h
        · rename_i hends
          exact of_decide_eq_true hends
        · cases h
      simp only [Child.stopTime, hdeadline, Nat.min_eq_left (Nat.le_of_lt hshort)]

end stop

section watched

variable {pending : Pending} {child : Child} {stdout stderr : List Arrival} {outcome : Outcome}

/-- What is shown of a process is its error output, unless that is empty, and its output. -/
theorem outputEvents_eq (out err : String) :
    Execution.outputEvents (joinTokens pending.argv) out err = pending.showing out err := by
  simp only [Execution.outputEvents, showing, String.isEmpty_iff]
  rfl

/-- The events and the verdict of a process that is watched to its end. What has been captured is
looked at only after both drainers have handed it back. -/
theorem judge_watched (hstdout : child.stdout = some stdout) (hstderr : child.stderr = some stderr)
    (hwaits : WaitLeads (child.waits pending.timeout.deadline?) outcome) :
    let captured := Execution.capture stdout stderr (child.stopTime pending.timeout)
    let out := pending.encoding.decode captured.stdout.octets
    let err := pending.encoding.decode captured.stderr.octets
    pending.judge
        (Execution.supervise pending.encoding (joinTokens pending.argv) pending.timeout child) =
      (captured.log child.turns (interruptions child ++ outcome.killing pending child) ++
          outcome.closing pending (child.lifetime + captured.took) out err,
        outcome.verdict pending err) := by
  intro captured out err
  have hinterrupted : (Execution.awaitExit (child.waits pending.timeout.deadline?)).1 =
      interruptions child := by
    rw [awaitExit_waits]
    rfl
  -- The drainers are told to stop at the deadline in the first case, and at the end of the process
  -- in the others.
  cases hending : (Execution.awaitExit (child.waits pending.timeout.deadline?)).2 with
  | none =>
      obtain rfl : outcome = .overdue := by rw [waitLeads_iff.1 hwaits, hending]; rfl
      have hstop := (stopTime_of_overdue hending).2
      simp only [judge, Execution.supervise, hstdout, hstderr, hinterrupted, hending,
        Execution.overdue, outputEvents_eq, captured, out, err, hstop]
      rfl
  | some ending =>
      have hended : outcome = .ofEnding? (some ending) := by rw [waitLeads_iff.1 hwaits, hending]
      have hstop := stopTime_of_ended hending
      cases hcode : Execution.exitCode ending with
      | error message =>
          obtain rfl : outcome = .unwaited message := hended.trans (ofEnding?_of_error hcode)
          simp only [judge, Execution.supervise, hstdout, hstderr, hinterrupted, hending, hcode,
            Execution.unwaited, captured, hstop, Outcome.closing, List.append_nil]
          rfl
      | ok code =>
          obtain rfl : outcome = .judged code := hended.trans (ofEnding?_of_ok hcode)
          simp only [judge, Execution.supervise, hstdout, hstderr, hinterrupted, hending, hcode,
            Execution.ended, outputEvents_eq, captured, out, err, hstop, Outcome.killing,
            Outcome.closing, Outcome.verdict, List.append_nil, List.append_assoc, Except.bind,
            Policy.evaluate_eq]
          rfl

end watched

/-- The error output that a verdict shows. -/
def errorText (pending : Pending) : Launch → String
  | .refused _ => ""
  | .started child =>
    pending.encoding.decode
      (Drainer.drain "stderr" (child.stderr.getD []) (child.stopTime pending.timeout)).octets

/-- Every answer to the attempt to start a process fixes the verdict. -/
theorem conclude_verdict {pending : Pending} {launch : Launch} {outcome : Outcome}
    (hargv : pending.argv ≠ []) (hleads : pending.Leads launch outcome) :
    (pending.conclude launch).2 = outcome.verdict pending (pending.errorText launch) := by
  have hsome : pending.argv.isEmpty = false := List.isEmpty_eq_false_iff.2 hargv
  have hrest : (pending.conclude launch).2 =
      (pending.judge (Execution.attempted pending.encoding (joinTokens pending.argv)
        pending.timeout launch)).2 := by
    simp only [conclude, execute, hsome]
    rfl
  rw [hrest]
  cases hleads with
  | nameless _ hnameless => exact absurd hnameless hargv
  | refused fault => rfl
  | noStdout child _ hstdout =>
      simp only [Execution.attempted, Execution.supervise, hstdout]
      rfl
  | noStderr child _ hstdout hstderr =>
      obtain ⟨stdout, hstdout⟩ := Option.ne_none_iff_exists'.1 hstdout
      simp only [Execution.attempted, Execution.supervise, hstdout, hstderr]
      rfl
  | watched child _ hstdout hstderr hwaits =>
      obtain ⟨stdout, hstdout⟩ := Option.ne_none_iff_exists'.1 hstdout
      obtain ⟨stderr, hstderr⟩ := Option.ne_none_iff_exists'.1 hstderr
      rw [Execution.attempted, judge_watched hstdout hstderr hwaits]
      simp [errorText, hstderr, Execution.capture]

/-- A process with both pipes leads to where the waits for it lead. -/
theorem Leads.waits {pending : Pending} {child : Child} {outcome : Outcome}
    (hleads : pending.Leads (.started child) outcome) (hargv : pending.argv ≠ [])
    (hstdout : child.stdout ≠ none) (hstderr : child.stderr ≠ none) :
    WaitLeads (child.waits pending.timeout.deadline?) outcome := by
  cases hleads with
  | nameless _ hnameless => exact absurd hnameless hargv
  | noStdout _ _ hmissing => exact absurd hmissing hstdout
  | noStderr _ _ _ hmissing => exact absurd hmissing hstderr
  | watched _ _ _ _ hwaits => exact hwaits

/-- Only a timeout of some milliseconds can pass. -/
theorem Leads.positive {pending : Pending} {launch : Launch}
    (hleads : pending.Leads launch .overdue) : 0 < pending.timeout.millis := by
  cases hleads with
  | watched child _ _ _ hwaits =>
      exact (stopTime_of_overdue (eq_none_of_overdue (waitLeads_iff.1 hwaits).symm)).1

/-- Only an empty argument vector names no program. -/
theorem Leads.argv_eq_nil {pending : Pending} {launch : Launch}
    (hleads : pending.Leads launch .nameless) : pending.argv = [] := by
  cases hleads with
  | nameless _ hargv => exact hargv
  | watched child _ _ _ hwaits => exact absurd (waitLeads_iff.1 hwaits).symm (not_nameless _)

/-- Running a command without a program to start does nothing. -/
theorem run_of_nameless {σ : Type} (world : World σ) {pending : Pending} (state : σ)
    (hargv : pending.argv = []) :
    pending.run world state = ⟨[], .error (.execution "" "empty command line"), state⟩ := by
  rw [run, hargv]
  rfl

/-- A process that sees its deadline after two interrupted waits, and that cannot be killed. Its
output ends between these waits. -/
def stubbornChild : Child where
  interruptions := 2
  lifetime := 50
  ending := .exited 1
  killFault := some "no such process"
  stdout := some [⟨20, .endOfFile⟩]
  stderr := some [⟨0, .data [0x21]⟩]
  turns := { supervisor := [false, true] }

/-- A world in which every process is like that. -/
def stubbornWorld : World Nat where
  read _ _ := .refused .notFound
  directory _ := "/"
  parallelism _ := 1
  launch started _ _ := (.started stubbornChild, started + 1)

/-- A command with a deadline that such a process sees. -/
def limited : Pending :=
  ⟨["sleep", "1"], "sleep 1", .ofMillis 50, .latin1, .tolerate [2, 1, 2]⟩

-- The end of the output falls between two waits, and the flush of the other pipe takes its time.
example : (limited.conclude (.started stubbornChild)).1.map Event.message =
    ["starting external process", "process wait interrupted; retrying", "stream reached EOF",
      "process wait interrupted; retrying", "process timed out; killing it",
      "failed to kill timed-out process", "no more output within flush window",
      "stream drainer finished", "!", ""] := by
  decide

end Pending

end Runbook
