import Runbook.Proofs.Drainer.Runs
import Runbook.Proofs.Process.Progress

/-!
# What is captured of a process

A process is captured whole: whatever the interleaving of its writes with the reads of its drainers,
and whenever each drainer takes notice of the order to stop, both texts are those of whole streams.
`Reached.nothing_lost` says this about every run of a supervised process, and `execute` returns the
same output for every child that delivers the reads of the run.
-/

namespace Runbook

/-- A pipe that delivers the given reads, none of them cut by the flush of a drainer that is told to
stop at the given time. -/
def Delivers (stopAt : Nat) (reads : List ReadResult) (pipe : Option (List Arrival)) : Prop :=
  ∃ arrivals, pipe = some arrivals ∧ arrivals.map Arrival.result = reads ∧
    Drainer.Timely stopAt stopAt arrivals

/-- A child that ends in time and as given, and whose pipes deliver the given reads. -/
structure Child.Replays (child : Child) (timeout : Timeout) (ending : Ending)
    (reads readsErr : List ReadResult) : Prop where
  inTime : child.endsBefore timeout.deadline? = true
  ending : child.ending = ending
  stdout : Delivers child.lifetime reads child.stdout
  stderr : Delivers child.lifetime readsErr child.stderr

/-- Reads that are all available from the beginning are delivered, whenever the order to stop comes.
-/
theorem delivers_at_once (stopAt : Nat) (reads : List ReadResult) :
    Delivers stopAt reads (some (reads.map (Arrival.mk 0))) := by
  refine ⟨_, rfl, ?_, Drainer.timely_of_early ?_⟩
  · rw [List.map_map]
    exact List.map_id reads
  · simp

/-- Every end and all reads are those of some child. -/
theorem Child.exists_replays (timeout : Timeout) (ending : Ending)
    (reads readsErr : List ReadResult) :
    ∃ child, Child.Replays child timeout ending reads readsErr := by
  let child : Child :=
    { lifetime := 0
      ending := ending
      stdout := some (reads.map (Arrival.mk 0))
      stderr := some (readsErr.map (Arrival.mk 0)) }
  refine ⟨child, ?_, rfl, delivers_at_once _ reads, delivers_at_once _ readsErr⟩
  -- Even the shortest deadline comes after the beginning.
  cases hdeadline : timeout.deadline? with
  | none => rfl
  | some deadline => exact decide_eq_true (Timeout.deadline?_eq_some.1 hdeadline).1

/-- What is gathered from a pipe. -/
theorem Delivers.octets {stopAt : Nat} {reads : List ReadResult} {arrivals : List Arrival}
    (h : Delivers stopAt reads (some arrivals)) (hkept : .panicked ∉ reads) (stream : String) :
    (Drainer.drain stream arrivals stopAt).octets = ReadResult.gathered reads := by
  obtain ⟨_, ⟨⟩, hreads, htimely⟩ := h
  rw [Drainer.octets_drain stream htimely, hreads]
  intro arrival hmem hpanicked
  rw [← hreads, ← hpanicked] at hkept
  exact hkept (List.mem_map_of_mem hmem)

/-- The execution of a child that replays some reads returns the texts of what they deliver. -/
theorem Child.Replays.execute {child : Child} {timeout : Timeout} {ending : Ending}
    {reads readsErr : List ReadResult} (h : child.Replays timeout ending reads readsErr)
    (hkept : .panicked ∉ reads) (hkeptErr : .panicked ∉ readsErr) {code : Int}
    (hcode : Execution.exitCode ending = .ok code) {argv : List String} (hargv : argv ≠ [])
    (encoding : OutputEncoding) :
    (execute encoding argv timeout (.started child)).result =
      .ok ⟨code, encoding.decode (ReadResult.gathered reads),
        encoding.decode (ReadResult.gathered readsErr)⟩ := by
  obtain ⟨arrivals, hout, _⟩ := h.stdout
  obtain ⟨arrivalsErr, herr, _⟩ := h.stderr
  have houtOctets := (hout ▸ h.stdout).octets hkept "stdout"
  have herrOctets := (herr ▸ h.stderr).octets hkeptErr "stderr"
  have hsome : argv.isEmpty = false := List.isEmpty_eq_false_iff.2 hargv
  have hwaits : child.waits timeout.deadline? =
      List.replicate child.interruptions .interrupted ++ [.ended ending] := by
    rw [Child.waits, if_pos h.inTime, h.ending]
  simp only [Runbook.execute, hsome, Execution.attempted, Execution.supervise, hout, herr, hwaits,
    Execution.awaitExit_replicate, Execution.awaitExit, hcode]
  simp [Execution.ended, Execution.capture, houtOctets, herrOctets]

namespace Supervision

variable {capacity : Nat} {encoding : OutputEncoding} {out err : List UInt8}
  {supervision next : Supervision}

/-- What can happen to a drainer in one step of a process. -/
inductive Advance (loop : Drainer.Loop) : Drainer.Loop → Prop
  | none : Advance loop loop
  | own {next : Drainer.Loop} (hstep : Drainer.Loop.Step loop next) : Advance loop next
  | send : Advance loop loop.send
  | receive {since : Nat} {result : ReadResult} (hpoint : loop.point = .awaiting since)
      (hkept : result ≠ .panicked) : Advance loop (loop.receive result)

/-- A channel that is replaced advances its own drainer only. -/
theorem advance_setChannel {stream : Stream} {channel : Channel}
    (hadvance : Advance (supervision.channel stream).loop channel.loop) (other : Stream) :
    Advance (supervision.channel other).loop
      ((supervision.setChannel stream channel).channel other).loop := by
  rw [channel_setChannel]
  split
  · rename_i heq
    rw [heq]
    exact hadvance
  · exact .none

/-- Every step of a process advances its drainers as they can be advanced. -/
theorem Step.advance (hstep : Step capacity encoding supervision next) (stream : Stream) :
    Advance (supervision.channel stream).loop (next.channel stream).loop := by
  cases hstep with
  | write | close => exact advance_setChannel (by exact .none) stream
  | read other since count hpoint hsome hsize =>
      exact advance_setChannel (.receive hpoint (by simp)) stream
  | disturb other since result hpoint hresult =>
      refine advance_setChannel (.receive hpoint ?_) stream
      rcases hresult with rfl | ⟨message, rfl⟩ <;> simp
  | endOfFile other since hpoint hempty hended =>
      exact advance_setChannel (.receive hpoint (by simp)) stream
  | drain other following hstep => exact advance_setChannel (.own hstep) stream
  | stop other hwait hunsent => exact advance_setChannel .send stream
  | finish | resolve | fail | expire | kill | decode => cases stream <;> exact .none

/-- A drainer that advances is still in a state that it can get into. -/
theorem Advance.reads {stream : String} {loop following : Drainer.Loop}
    (hadvance : Advance loop following) {reads : List ReadResult}
    (hreached : Drainer.Loop.Reached stream reads loop) (hkept : .panicked ∉ reads) :
    ∃ reads, Drainer.Loop.Reached stream reads following ∧ .panicked ∉ reads := by
  cases hadvance with
  | none => exact ⟨reads, hreached, hkept⟩
  | own hown => exact ⟨reads, hreached.step hown, hkept⟩
  | send => exact ⟨reads, hreached.send, hkept⟩
  | @receive since result hpoint hresult =>
      refine ⟨_, hreached.receive result hpoint, ?_⟩
      simpa [hkept] using hresult.symm

/-- In every state that a process can get into, its drainers are in states that they can get into,
and none of their readers has broken down. -/
theorem Reached.reads (h : Reached capacity encoding out err supervision) (stream : Stream) :
    ∃ reads, Drainer.Loop.Reached stream.label reads (supervision.channel stream).loop ∧
      .panicked ∉ reads := by
  induction h with
  | start => cases stream <;> exact ⟨[], .start, by simp⟩
  | step _ hstep ih =>
      obtain ⟨reads, hreached, hkept⟩ := ih
      exact (hstep.advance stream).reads hreached hkept

/-- No output is lost, duplicated, reordered or mixed. In every run of a process, with pipes of any
capacity, an output that comes back while nothing has gone wrong consists of the texts of both whole
streams, and `execute` returns it for every child that ends in the same way and whose pipes deliver
the same reads. And an output does come back, whatever the interleaving, unless something goes wrong
or too many idle steps are taken. -/
theorem Reached.nothing_lost (h : Reached capacity encoding out err supervision)
    (hcapacity : 1 ≤ capacity) :
    (∀ output, supervision.isCalm = true → supervision.output? = some output →
      output.stdout = encoding.decode out ∧ output.stderr = encoding.decode err ∧
      ∃ ending reads readsErr,
        supervision.ended = some ending ∧
        Drainer.Loop.Reached "stdout" reads supervision.stdout.loop ∧
        Drainer.Loop.Reached "stderr" readsErr supervision.stderr.loop ∧
        ∀ timeout,
          (∃ child, Child.Replays child timeout ending reads readsErr) ∧
          ∀ child argv, Child.Replays child timeout ending reads readsErr → argv ≠ [] →
            (execute encoding argv timeout (.started child)).result = .ok output) ∧
    ∀ patience, Inevitable (Step capacity encoding) Idle
      (fun final => final.isCalm = true → ∃ code,
        final.output? = some ⟨code, encoding.decode out, encoding.decode err⟩)
      patience supervision := by
  refine ⟨fun output hcalm hknown => ?_, h.sound.inevitable hcapacity⟩
  obtain ⟨hout, herr, ending, hended, hcode⟩ := h.sound.output hcalm hknown
  obtain ⟨reads, hreads, hkept⟩ := h.reads .stdout
  obtain ⟨readsErr, hreadsErr, hkeptErr⟩ := h.reads .stderr
  refine ⟨hout, herr, ending, reads, readsErr, hended, hreads, hreadsErr, fun timeout =>
    ⟨Child.exists_replays timeout ending reads readsErr, fun child argv hchild hargv => ?_⟩⟩
  obtain ⟨_, _, htexts, _⟩ := output?_eq_some.1 hknown
  -- What the run has gathered is what its reads have delivered, which is all that a child shows.
  have hwhole : ∀ stream : Stream, ∀ consumed : List ReadResult,
      Drainer.Loop.Reached stream.label consumed (supervision.channel stream).loop →
        ReadResult.gathered consumed = stream.pick out err := by
    intro stream consumed hreached
    have hclosed := h.sound.closed hcalm htexts stream
    rw [← hreached.gathering.octets (by simp [hclosed])]
    exact h.sound.gathered (wait_of_calm hcalm) hclosed
  rw [hchild.execute hkept hkeptErr hcode hargv, hwhole .stdout reads hreads,
    hwhole .stderr readsErr hreadsErr]
  have hsame : (⟨output.exitCode, encoding.decode out, encoding.decode err⟩ : Output) = output := by
    rw [← hout, ← herr]
  exact congrArg Except.ok hsame

/-- A run that splits the three octets of a character: the drainer has read two of them when the
process ends, and the third one is left to its flush. -/
theorem reached_split_character :
    ∃ supervision, Reached 2 .utf8 [0xE2, 0x82, 0xAC] [] supervision ∧
      supervision.isCalm = true ∧ supervision.output? =
        some ⟨0, OutputEncoding.utf8.decode [0xE2, 0x82, 0xAC], OutputEncoding.utf8.decode []⟩ := by
  have h : Reached 2 .utf8 [0xE2, 0x82, 0xAC] [] _ := .start
  -- The pipe holds two octets, so the third one has to wait for a read.
  have h := h.step (.write _ .stdout 2 rfl (by decide) (by decide))
  have h := h.step (.drain _ .stdout _ (.read _ rfl rfl rfl))
  have h := h.step (.read _ .stdout _ 2 rfl (by decide) (by decide))
  have h := h.step (.write _ .stdout 1 rfl (by decide) (by decide))
  have h := h.step (.finish _ (.exited 0) rfl rfl rfl)
  have h := h.step (.resolve _ (.exited 0) rfl rfl)
  have h := h.step (.stop _ .stdout (by decide) rfl)
  have h := h.step (.stop _ .stderr (by decide) rfl)
  -- Both drainers take notice of the order before they have met the end of the file.
  have h := h.step (.drain _ .stdout _ (.heed _ (fun _ => nofun) rfl rfl))
  have h := h.step (.drain _ .stdout _ (.flush _ _ _ rfl rfl (by decide)))
  have h := h.step (.read _ .stdout _ 1 rfl (by decide) (by decide))
  have h := h.step (.drain _ .stdout _ (.flush _ _ _ rfl rfl (by decide)))
  have h := h.step (.endOfFile _ .stdout _ rfl rfl (by decide))
  have h := h.step (.drain _ .stderr _ (.heed _ (fun _ => nofun) rfl rfl))
  have h := h.step (.drain _ .stderr _ (.flush _ _ _ rfl rfl (by decide)))
  have h := h.step (.endOfFile _ .stderr _ rfl rfl (by decide))
  have h := h.step (.decode _ _ _ (by decide) (fun _ => nofun) rfl (by decide) rfl rfl)
  exact ⟨_, h, rfl, rfl⟩

/-- The split character comes back as one, from the run and from a child that delivers its reads. -/
theorem nothing_lost_of_split_character :
    ∃ supervision, Reached 2 .utf8 [0xE2, 0x82, 0xAC] [] supervision ∧ 1 ≤ 2 ∧
      supervision.output? = some ⟨0, "€", ""⟩ ∧
      ∃ child, (execute .utf8 ["printf", "€"] .unbounded (.started child)).result =
        .ok ⟨0, "€", ""⟩ := by
  obtain ⟨supervision, hreached, hcalm, hknown⟩ := reached_split_character
  have hcharacter : OutputEncoding.utf8.decode [0xE2, 0x82, 0xAC] = "€" := by decide +kernel
  have hnothing : OutputEncoding.utf8.decode [] = "" := by decide +kernel
  rw [hcharacter, hnothing] at hknown
  obtain ⟨_, _, _, _, _, _, _, _, hexecute⟩ :=
    (Reached.nothing_lost hreached (by decide)).1 _ hcalm hknown
  obtain ⟨⟨child, hchild⟩, hall⟩ := hexecute .unbounded
  exact ⟨supervision, hreached, by decide, hknown, child, hall child _ hchild (by simp)⟩

end Supervision

end Runbook
