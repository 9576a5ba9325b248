import Runbook.Proofs.Drainer.Stopping
import Runbook.Proofs.Process.Watching

/-!
# Supervisors and executions

Every run of a supervisor that returns something returns what `execute` returns for the children
that show the same (`Reached.returned`). And for every child whose pipes are read as pipes can be,
some run of a supervisor returns what `execute` returns (`exists_reached_of_execute`). The latter
run lets the process write everything and come to its end first, and then replays the courses of
both drainers.
-/

namespace Runbook

/-- What a read of a pipe can yield: some octets that fit into one read, or none. -/
def ReadResult.IsPiped : ReadResult → Prop
  | .data octets => 0 < octets.length ∧ octets.length ≤ readSize
  | .panicked => False
  | _ => True

namespace Watch

variable {pending : Pending} {capacity : Nat} {out err : List UInt8} {watch next : Watch}
  {stream : Stream}

section channels

/-- The channel that has been put in place. -/
@[simp] theorem channel_setChannel_self (channel : Channel) :
    (watch.setChannel stream channel).process.channel stream = channel := by
  rw [setChannel, Supervision.channel_setChannel, if_pos rfl]

/-- Replacing a channel does not end the process. -/
@[simp] theorem ended_setChannel (channel : Channel) :
    (watch.setChannel stream channel).process.ended = watch.process.ended :=
  Supervision.ended_setChannel _ _ _

/-- What a process or a drainer does with a channel goes on around the supervisor. -/
theorem Step.of_channel {channel : Channel}
    (hstep : Supervision.Step capacity pending.encoding watch.process
      (watch.process.setChannel stream channel))
    (hsame : channel.loop.stopSent = (watch.process.channel stream).loop.stopSent) :
    Step pending capacity watch (watch.setChannel stream channel) :=
  .around watch _ hstep (Supervision.apart_setChannel hsame)

/-- A channel that is put in place takes the place of the one before. -/
@[simp] theorem setChannel_setChannel (first second : Channel) :
    (watch.setChannel stream first).setChannel stream second = watch.setChannel stream second := by
  cases stream <;> rfl

/-- Nothing changes if a channel takes its own place. -/
theorem setChannel_self {channel : Channel} (hsame : watch.process.channel stream = channel) :
    watch.setChannel stream channel = watch := by
  subst hsame
  cases stream <;> rfl

/-- A run goes on with a step on a channel. -/
theorem Reached.step_channel {first second : Channel}
    (h : Reached pending capacity out err (watch.setChannel stream first))
    (hstep : ∀ process : Supervision, process.channel stream = first →
      process.ended = watch.process.ended →
      Supervision.Step capacity pending.encoding process (process.setChannel stream second))
    (hsame : second.loop.stopSent = first.loop.stopSent) :
    Reached pending capacity out err (watch.setChannel stream second) := by
  have hself : (watch.setChannel stream first).process.channel stream = first :=
    channel_setChannel_self first
  have hnext := h.step (.of_channel (hstep _ hself (ended_setChannel first))
    (hsame.trans (congrArg (fun channel => channel.loop.stopSent) hself.symm)))
  rwa [setChannel_setChannel] at hnext

end channels

/-- A running process writes everything that it is going to write, and closes its end of the pipe.
-/
theorem Reached.pour (h : Reached pending capacity out err watch) (stream : Stream)
    {octets : List UInt8} (hrunning : watch.process.ended = none)
    (hchannel : watch.process.channel stream = .start stream octets)
    (hroom : octets.length ≤ capacity) :
    Reached pending capacity out err (watch.setChannel stream
      { unwritten := [], pipe := octets, closed := true, loop := .start stream.label }) := by
  have hwritten : Reached pending capacity out err (watch.setChannel stream
      { unwritten := [], pipe := octets, loop := .start stream.label }) := by
    -- A write takes at least one octet, so nothing is written by not writing at all.
    by_cases hnothing : octets = []
    · rw [setChannel_self (by rw [hchannel, hnothing]; rfl)]
      exact h
    · have hlength := List.length_pos_iff.2 hnothing
      rw [← setChannel_self hchannel] at h
      refine h.step_channel (fun process hsame hended => ?_) rfl
      have hwrite : Supervision.Step capacity pending.encoding process _ :=
        .write process stream octets.length (hended.trans hrunning)
          (by rw [hsame]; exact ⟨hlength, Nat.le_refl _⟩)
          (by rw [hsame]; simpa [Channel.start] using hroom)
      rw [hsame] at hwrite
      simpa [Channel.write, Channel.start] using hwrite
  refine hwritten.step_channel (fun process hsame hended => ?_) rfl
  have hclose : Supervision.Step capacity pending.encoding process _ :=
    .close process stream (hended.trans hrunning) (by rw [hsame]) (by rw [hsame])
  rw [hsame] at hclose
  exact hclose

/-- A drainer is told to stop, unless it has been told before. -/
theorem Reached.tell (h : Reached pending capacity out err watch) (stream : Stream)
    (hpoint : watch.point = .joining) :
    Reached pending capacity out err (watch.setChannel stream
      { watch.process.channel stream with
        loop := (watch.process.channel stream).loop.send }) := by
  cases hsent : (watch.process.channel stream).loop.stopSent with
  | false => exact h.step (.order watch stream hpoint hsent)
  | true =>
      rw [setChannel_self]
      · exact h
      · rw [Drainer.Loop.send, ← hsent]

section replay

variable {loop : Drainer.Loop} {reads : List ReadResult} {result : ReadResult}
  {rest : List UInt8} {since : Nat}

/-- The channel of a process that has written everything and closed the pipe. -/
def poured (pipe : List UInt8) (loop : Drainer.Loop) : Channel :=
  { unwritten := [], pipe := pipe, closed := true, loop := loop }

/-- A read of a pipe that the process has closed can happen if the pipe begins with what it yields.
-/
theorem Reached.receive
    (h : Reached pending capacity out err (watch.setChannel stream
      (poured (result.octets ++ rest) loop)))
    (hpoint : loop.point = .awaiting since) (hpiped : result.IsPiped)
    (hrest : result = .endOfFile → rest = []) :
    Reached pending capacity out err (watch.setChannel stream
      (poured rest (loop.receive result))) := by
  refine h.step_channel (fun process hsame hended => ?_) rfl
  have hloop : (process.channel stream).loop.point = .awaiting since := by
    rw [hsame]
    exact hpoint
  cases result with
  | data octets =>
      have hread : Supervision.Step capacity pending.encoding process _ :=
        .read process stream since octets.length hloop
          (by rw [hsame]; simpa [poured, ReadResult.octets] using hpiped.1) hpiped.2
      rw [hsame] at hread
      simpa [Channel.read, poured, ReadResult.octets] using hread
  | interrupted =>
      have hdisturb : Supervision.Step capacity pending.encoding process _ :=
        .disturb process stream since .interrupted hloop (.inl rfl)
      rw [hsame] at hdisturb
      exact hdisturb
  | endOfFile =>
      have hend : Supervision.Step capacity pending.encoding process _ :=
        .endOfFile process stream since hloop (by rw [hsame]; exact hrest rfl)
          (.inr (by rw [hsame]; rfl))
      rw [hsame] at hend
      exact hend
  | failed message =>
      have hdisturb : Supervision.Step capacity pending.encoding process _ :=
        .disturb process stream since (.failed message) hloop (.inr ⟨message, rfl⟩)
      rw [hsame] at hdisturb
      exact hdisturb
  | panicked => exact absurd hpiped id

/-- While a supervisor waits for both drainers, every course of a drainer over what is in its pipe
can be replayed. -/
theorem Reached.replay (h : Reached pending capacity out err watch)
    (hpoint : watch.point = .joining) (hloop : Drainer.Loop.Reached stream.label reads loop)
    (hpiped : ∀ result ∈ reads, result.IsPiped) (hrest : .endOfFile ∈ reads → rest = [])
    (hchannel : watch.process.channel stream =
      poured (reads.flatMap ReadResult.octets ++ rest) (.start stream.label)) :
    Reached pending capacity out err (watch.setChannel stream (poured rest loop)) := by
  induction hloop generalizing rest with
  | start =>
      rw [List.flatMap_nil, List.nil_append] at hchannel
      rw [setChannel_self hchannel]
      exact h
  | step _ hstep ih =>
      refine (ih hpiped hrest hchannel).step_channel (fun process hsame _ => ?_)
        hstep.keeps.stopSent
      have hdrain : Supervision.Step capacity pending.encoding process _ :=
        .drain process stream _ (by rw [hsame]; exact hstep)
      rw [hsame] at hdrain
      exact hdrain
  | send _ ih =>
      have hsent := (ih hpiped hrest hchannel).tell stream hpoint
      rw [channel_setChannel_self, setChannel_setChannel] at hsent
      exact hsent
  | receive result hbefore hawaiting ih =>
      rw [List.forall_mem_append, List.forall_mem_singleton] at hpiped
      rw [List.flatMap_append, List.flatMap_singleton, List.append_assoc] at hchannel
      -- A drainer that still reads has not met the end of the file.
      have hopen : Drainer.Loop.IsOpen _ := fun closing hclosed => by
        rw [hawaiting] at hclosed
        cases hclosed
      have hearlier := ih hpiped.1
        (fun hfile => nomatch hbefore.gathering.harmless hopen .endOfFile hfile) hchannel
      exact hearlier.receive hawaiting hpiped.2 fun hfile => hrest (by simp [hfile])

end replay

section returned

/-- Only a process with a deadline can see it. -/
theorem Reached.limited (h : Reached pending capacity out err watch)
    (hwait : watch.process.wait = .overdue) : pending.timeout.isUnbounded = false := by
  induction h with
  | start => cases hwait
  | step _ hstep ih =>
      cases hstep with
      | around following hstep hapart => exact ih (hapart.wait.symm.trans hwait)
      | exit | fail => cases hwait
      | expire hpoint hlimited => exact hlimited
      | order stream hpoint hunsent =>
          rw [setChannel, Supervision.wait_setChannel] at hwait
          exact ih hwait
      | interrupted | killed | unkilled | take | decode | abandon | display | finish | giveUp =>
          exact ih hwait

/-- A child whose wait tells what the supervisor has been told, and whose pipes deliver the given
reads. -/
structure Replays (pending : Pending) (watch : Watch) (child : Child)
    (reads readsErr : List ReadResult) : Prop where
  waits : (Execution.awaitExit (child.waits pending.timeout.deadline?)).2 =
    watch.process.wait.ending?
  stdout : Delivers (child.stopTime pending.timeout) reads child.stdout
  stderr : Delivers (child.stopTime pending.timeout) readsErr child.stderr

/-- What a supervisor has been told about its process, and all reads, are those of some child. -/
theorem Reached.exists_replays (h : Reached pending capacity out err watch)
    (hover : watch.process.wait ≠ .pending) (reads readsErr : List ReadResult) :
    ∃ child, Replays pending watch child reads readsErr := by
  -- All reads of this child come at once, so that no order to stop gets in between.
  let child : Child :=
    { lifetime := if watch.process.wait = .overdue then pending.timeout.millis else 0
      ending := watch.process.wait.ending?.getD (.exited 0)
      stdout := some (reads.map (Arrival.mk 0))
      stderr := some (readsErr.map (Arrival.mk 0)) }
  refine ⟨child, ?_, delivers_at_once _ reads, delivers_at_once _ readsErr⟩
  rw [Pending.awaitExit_waits]
  cases hwait : watch.process.wait with
  | pending => exact absurd hwait hover
  | overdue =>
      have hlimited := h.limited hwait
      simp [child, hwait, Child.endsBefore, Timeout.deadline?, hlimited, Wait.ending?]
  | resolved ending =>
      have hearly : child.endsBefore pending.timeout.deadline? = true := by
        cases hdeadline : pending.timeout.deadline? with
        | none => rfl
        | some deadline =>
            simpa [child, hwait, Child.endsBefore] using
              (Timeout.deadline?_eq_some.1 hdeadline).1
      rw [if_pos hearly]
      simp [child, hwait, Wait.ending?]

/-- What the execution of a child returns, in terms of what its drainers hand back. -/
theorem result_execute (hargv : pending.argv ≠ []) {child : Child} {stdout stderr : List Arrival}
    (hstdout : child.stdout = some stdout) (hstderr : child.stderr = some stderr) :
    let captured := Execution.capture stdout stderr (child.stopTime pending.timeout)
    (execute pending.encoding pending.argv pending.timeout (.started child)).result =
      pending.returns (Execution.awaitExit (child.waits pending.timeout.deadline?)).2
        captured.stdout.octets captured.stderr.octets := by
  intro captured
  have hsome : pending.argv.isEmpty = false := List.isEmpty_eq_false_iff.2 hargv
  cases hending : (Execution.awaitExit (child.waits pending.timeout.deadline?)).2 with
  | none =>
      have hstop := (Pending.stopTime_of_overdue hending).2
      simp [execute, hsome, Execution.attempted, Execution.supervise, hstdout, hstderr, hending,
        Execution.overdue, Pending.returns, captured, hstop]
  | some ending =>
      have hstop := Pending.stopTime_of_ended hending
      cases hcode : Execution.exitCode ending with
      | error message =>
          simp [execute, hsome, Execution.attempted, Execution.supervise, hstdout, hstderr,
            hending, hcode, Execution.unwaited, Pending.returns]
      | ok code =>
          simp [execute, hsome, Execution.attempted, Execution.supervise, hstdout, hstderr,
            hending, hcode, Execution.ended, Pending.returns, captured, hstop]

/-- The execution of a child that replays what a supervisor has seen returns what the supervisor
returns. -/
theorem Reached.returned (h : Reached pending capacity out err watch)
    {result : Except Failure Output} (hpoint : watch.point = .returned result)
    (hargv : pending.argv ≠ []) :
    ∃ reads readsErr,
      Drainer.Loop.Reached "stdout" reads watch.process.stdout.loop ∧
      Drainer.Loop.Reached "stderr" readsErr watch.process.stderr.loop ∧
      (∃ child, Replays pending watch child reads readsErr) ∧
      ∀ child, Replays pending watch child reads readsErr →
        (execute pending.encoding pending.argv pending.timeout (.started child)).result =
          result := by
  have horderly := h.orderly
  have hstands := horderly.stands
  simp only [Stands, hpoint] at hstands
  obtain ⟨hover, outOctets, errOctets, htaken, rfl⟩ := hstands
  obtain ⟨reads, hreads, hkept⟩ := horderly.process.reads .stdout
  obtain ⟨readsErr, hreadsErr, hkeptErr⟩ := horderly.process.reads .stderr
  refine ⟨reads, readsErr, hreads, hreadsErr, h.exists_replays hover reads readsErr,
    fun child hchild => ?_⟩
  obtain ⟨stdout, hstdout, _⟩ := hchild.stdout
  obtain ⟨stderr, hstderr, _⟩ := hchild.stderr
  -- Both the supervisor and the child hand back what the reads have delivered.
  have hout : (Drainer.drain "stdout" stdout (child.stopTime pending.timeout)).octets =
      outOctets := by
    have hdelivered := (hstdout ▸ hchild.stdout).octets hkept "stdout"
    rw [hdelivered, ← hreads.octets_of_kept hkept]
    exact (horderly.held .stdout outOctets (by rw [htaken]; rfl)).octets
  have herr : (Drainer.drain "stderr" stderr (child.stopTime pending.timeout)).octets =
      errOctets := by
    have hdelivered := (hstderr ▸ hchild.stderr).octets hkeptErr "stderr"
    rw [hdelivered, ← hreadsErr.octets_of_kept hkeptErr]
    exact (horderly.held .stderr errOctets (by rw [htaken]; rfl)).octets
  rw [result_execute hargv hstdout hstderr, hchild.waits, Execution.capture, hout, herr]

/-- A supervisor to which both drainers have handed back can return. -/
theorem Reached.exists_returned (h : Reached pending capacity out err watch)
    (hpoint : watch.point = .joining) (hover : watch.process.wait ≠ .pending)
    {outOctets errOctets : List UInt8} (htaken : watch.taken = ⟨some outOctets, some errOctets⟩) :
    ∃ final, Reached pending capacity out err final ∧
      final.point =
        .returned (pending.returns watch.process.wait.ending? outOctets errOctets) := by
  cases hwait : watch.process.wait with
  | pending => exact absurd hwait hover
  | overdue =>
      have h := h.step (.decode watch outOctets errOctets hpoint htaken (by simp [hwait]))
      have h := h.step (.display _ _ _ rfl)
      exact ⟨_, h.step (.giveUp _ _ _ rfl hwait), rfl⟩
  | resolved ending =>
      cases hcode : Execution.exitCode ending with
      | ok code =>
          have hfailed : ∀ message, watch.process.wait ≠ .resolved (.waitFailed message) := by
            rintro message hfailed
            rw [hwait] at hfailed
            cases hfailed
            cases hcode
          have h := h.step (.decode watch outOctets errOctets hpoint htaken hfailed)
          have h := h.step (.display _ _ _ rfl)
          refine ⟨_, h.step (.finish _ _ _ ending code 0 rfl hwait hcode), ?_⟩
          simp only [Wait.ending?, Pending.returns, hcode]
      | error message =>
          -- Only a failed wait yields no exit code, and then nothing is decoded.
          have hfailed : watch.process.wait = .resolved (.waitFailed message) := by
            rw [hwait]
            cases ending with
            | exited | signalled => cases hcode
            | waitFailed other =>
                cases hcode
                rfl
          refine ⟨_, h.step (.abandon watch outOctets errOctets message hpoint htaken hfailed), ?_⟩
          simp only [Wait.ending?, Pending.returns, hcode]

/-- A supervisor whose drainers have come to their ends can return. -/
theorem Reached.exists_returned_of_closed (h : Reached pending capacity out err watch)
    (hpoint : watch.point = .joining) (hover : watch.process.wait ≠ .pending)
    (htaken : watch.taken = {}) {closing closingErr : Drainer.Closing}
    (hout : watch.process.stdout.loop.point = .closed closing)
    (herr : watch.process.stderr.loop.point = .closed closingErr) :
    ∃ final, Reached pending capacity out err final ∧
      final.point = .returned (pending.returns watch.process.wait.ending?
        watch.process.stdout.loop.drainer.sink.octets
        watch.process.stderr.loop.drainer.sink.octets) := by
  obtain ⟨process, point, taken, events⟩ := watch
  subst hpoint htaken
  have h := (h.tell .stdout rfl).tell .stderr rfl
  have h := h.step (.take _ .stdout closing rfl rfl rfl hout)
  have h := h.step (.take _ .stderr closingErr rfl rfl rfl herr)
  exact h.exists_returned rfl hover rfl

/-- The wait for a process that has written everything can come out in every way. -/
theorem Reached.exists_over (h : Reached pending capacity out err watch)
    (hpoint : watch.point = .waiting) (hrunning : watch.process.ended = none)
    (hwritten : ∀ stream, (watch.process.channel stream).unwritten = []) (ending? : Option Ending)
    (hlimited : ending? = none → pending.timeout.isUnbounded = false) :
    ∃ later, Reached pending capacity out err later ∧ later.point = .joining ∧
      later.process.wait ≠ .pending ∧ later.process.wait.ending? = ending? ∧
      later.taken = watch.taken ∧
      ∀ stream, later.process.channel stream = watch.process.channel stream := by
  cases ending? with
  | none =>
      have h := (h.step (.expire watch hpoint (hlimited rfl))).step (.unkilled _ "" rfl)
      exact ⟨_, h, rfl, nofun, rfl, rfl, fun stream => by cases stream <;> rfl⟩
  | some ending =>
      cases hcode : Execution.exitCode ending with
      | ok code =>
          have h := h.step (.around watch _
            (.finish watch.process ending hrunning (hwritten .stdout) (hwritten .stderr))
            ⟨rfl, rfl, fun stream => by cases stream <;> rfl⟩)
          have h := h.step (.exit _ ending code hpoint rfl hcode)
          exact ⟨_, h, rfl, nofun, rfl, rfl, fun stream => by cases stream <;> rfl⟩
      | error message =>
          have h := (h.step (.fail watch message hpoint)).step (.unkilled _ "" rfl)
          refine ⟨_, h, rfl, nofun, ?_, rfl, fun stream => by cases stream <;> rfl⟩
          cases ending with
          | exited | signalled => cases hcode
          | waitFailed other =>
              cases hcode
              rfl

/-- The course of a drainer on a clock is one of its runs to the end. -/
theorem exists_course (stream : Stream) {arrivals : List Arrival} (stopAt : Nat)
    (hpiped : ∀ arrival ∈ arrivals, arrival.result.IsPiped) :
    ∃ reads closing loop, Drainer.Loop.Reached stream.label reads loop ∧
      (∀ result ∈ reads, result.IsPiped) ∧ loop.point = .closed closing ∧
      loop.drainer.sink.octets = (Drainer.drain stream.label arrivals stopAt).octets := by
  obtain ⟨reads, closing, loop, hleads, hpart, hclosed, hdrainer, _⟩ :=
    Drainer.closes_drain stream.label arrivals stopAt
  refine ⟨reads, closing, loop, Drainer.Loop.reached_iff_leads.2 hleads, fun result hmem => ?_,
    hclosed, by rw [hdrainer]; rfl⟩
  obtain ⟨arrival, harrival, rfl⟩ := List.mem_map.1 (hpart.subset hmem)
  exact hpiped arrival harrival

/-- What the execution of a child returns, some run of a supervisor returns as well, if the pipes of
the child are read as pipes can be. -/
theorem exists_reached_of_execute (hargv : pending.argv ≠ []) {child : Child}
    {stdout stderr : List Arrival} (hstdout : child.stdout = some stdout)
    (hstderr : child.stderr = some stderr)
    (hpiped : ∀ arrival ∈ stdout ++ stderr, arrival.result.IsPiped) :
    ∃ capacity out err watch, 1 ≤ capacity ∧ Reached pending capacity out err watch ∧
      watch.point = .returned
        (execute pending.encoding pending.argv pending.timeout (.started child)).result := by
  rw [List.forall_mem_append] at hpiped
  obtain ⟨reads, closing, loop, hloop, hreads, hclosed, hsink⟩ :=
    exists_course .stdout (child.stopTime pending.timeout) hpiped.1
  obtain ⟨readsErr, closingErr, loopErr, hloopErr, hreadsErr, hclosedErr, hsinkErr⟩ :=
    exists_course .stderr (child.stopTime pending.timeout) hpiped.2
  let out := reads.flatMap ReadResult.octets
  let err := readsErr.flatMap ReadResult.octets
  -- There is room for everything in the pipes, so the process need not wait for a drainer.
  let capacity := out.length + err.length + 1
  have hlimited : (Execution.awaitExit (child.waits pending.timeout.deadline?)).2 = none →
      pending.timeout.isUnbounded = false := by
    intro hnone
    have hpositive := (Pending.stopTime_of_overdue hnone).1
    simp only [Timeout.isUnbounded, beq_eq_false_iff_ne]
    omega
  have h : Reached pending capacity out err _ := .start
  have h := (h.pour .stdout rfl rfl (by omega)).pour .stderr rfl rfl (by omega)
  obtain ⟨later, hlater, hpoint, hover, hending, htaken, hchannels⟩ :=
    h.exists_over rfl rfl (fun stream => by cases stream <;> rfl) _ hlimited
  have hout : Reached pending capacity out err (later.setChannel .stdout (poured [] loop)) :=
    hlater.replay hpoint hloop hreads (fun _ => rfl)
      ((hchannels .stdout).trans (congrArg (fun pipe => poured pipe _) (List.append_nil out).symm))
  have herr : Reached pending capacity out err
      ((later.setChannel .stdout (poured [] loop)).setChannel .stderr (poured [] loopErr)) :=
    hout.replay hpoint hloopErr hreadsErr (fun _ => rfl)
      ((hchannels .stderr).trans (congrArg (fun pipe => poured pipe _) (List.append_nil err).symm))
  obtain ⟨final, hfinal, hreturned⟩ :=
    herr.exists_returned_of_closed hpoint hover htaken hclosed hclosedErr
  have hsame : (Execution.capture stdout stderr (child.stopTime pending.timeout)).stdout.octets =
      loop.drainer.sink.octets := hsink.symm
  have hsameErr : (Execution.capture stdout stderr (child.stopTime pending.timeout)).stderr.octets =
      loopErr.drainer.sink.octets := hsinkErr.symm
  refine ⟨capacity, out, err, final, by omega, hfinal, ?_⟩
  rw [hreturned, result_execute hargv hstdout hstderr, ← hending, hsame, hsameErr]
  rfl

end returned

end Watch

end Runbook
