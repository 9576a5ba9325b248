import Runbook.Proofs.Inevitability
import Runbook.Proofs.Process.Conservation

/-!
# Progress of a supervised process

Every step of a supervised process is idle or uses up some of what remains to be done, and as long
as nothing goes wrong some step of the latter kind can be taken until the output is known. So no
interleaving keeps a process waiting on a full pipe forever, and `Sound.inevitable` leads every run
with boundedly many idle steps to its output.
-/

namespace Runbook

/-- The steps that the end of a phase accounts for. A drainer that heeds the order to stop in a read
goes back to the point between two reads. -/
@[simp] def DrainPhase.remaining : DrainPhase → Nat
  | .reading => 2
  | .flushing _ _ => 0
  | .ended => 0

namespace Drainer

/-- The steps that a drainer still has to take from a point before its next read or its end. -/
@[simp] def Point.remaining : Point → Nat
  | .between => 2
  | .awaiting _ => 1
  | .closed _ => 0

/-- The steps that an order accounts for, which is given only once. -/
@[simp] def orderRemaining : Bool → Nat
  | false => 1
  | true => 0

namespace Loop

/-- A bound on the steps that a drainer can take before its next read or its end. -/
@[simp] def remaining (loop : Loop) : Nat :=
  loop.point.remaining + loop.drainer.phase.remaining + orderRemaining loop.stopSent

/-- On its own account a drainer lets time pass or has less to do afterwards. -/
theorem Step.passes_or_remaining_lt {loop next : Loop} (hstep : Step loop next) :
    (∃ millis, next = { loop with clock := loop.clock + millis }) ∨
      next.remaining < loop.remaining := by
  cases hstep with
  | read hpoint hphase hsent => exact .inr (by simp [hpoint])
  | heed hpoint hphase hsent =>
      right
      cases hvalue : loop.point with
      | between | awaiting => simp [stop, hphase, hvalue]
      | closed closing => exact absurd hvalue (hpoint closing)
  | flush began gathered hpoint hphase htime => exact .inr (by simp [hpoint])
  | expire began gathered hpoint hphase htime => exact .inr (by simp [hpoint, hphase])
  | giveUp since began gathered hpoint hphase htime => exact .inr (by simp [hpoint, hphase])
  | wait since millis hpoint htime => exact .inl ⟨millis, rfl⟩

/-- A drainer that has moved on its own account has less to do. -/
theorem Step.remaining_lt {loop next : Loop} (hstep : Step loop next)
    (hmoved : next.point ≠ loop.point ∨ next.drainer.phase ≠ loop.drainer.phase) :
    next.remaining < loop.remaining := by
  rcases hstep.passes_or_remaining_lt with ⟨millis, rfl⟩ | hless
  · simp at hmoved
  · exact hless

/-- A drainer between two reads can go on, and then it has less to do. -/
theorem exists_step_of_between {loop : Loop} (hpoint : loop.point = .between)
    (hlive : loop.drainer.phase ≠ .ended) :
    ∃ next, Step loop next ∧ next.remaining < loop.remaining := by
  cases hphase : loop.drainer.phase with
  | reading =>
      cases hsent : loop.stopSent with
      | false =>
          have hstep := Step.read loop hpoint hphase hsent
          exact ⟨_, hstep, hstep.remaining_lt (by simp [hpoint])⟩
      | true =>
          have hstep := Step.heed loop (by simp [hpoint]) hphase hsent
          exact ⟨_, hstep, hstep.remaining_lt (by simp [stop, hphase])⟩
  | flushing began gathered =>
      by_cases htime : loop.clock < began + flushLimit
      · have hstep := Step.flush loop began gathered hpoint hphase htime
        exact ⟨_, hstep, hstep.remaining_lt (by simp [hpoint])⟩
      · have hstep := Step.expire loop began gathered hpoint hphase (Nat.le_of_not_lt htime)
        exact ⟨_, hstep, hstep.remaining_lt (by simp [hpoint])⟩
  | ended => exact absurd hphase hlive

section receive

variable {loop : Loop} {since : Nat} {result : ReadResult}

/-- A read that ends nothing takes a drainer one step back. -/
theorem remaining_receive_of_harmless (hpoint : loop.point = .awaiting since)
    (hharmless : Closing.ofRead? result = none) :
    (loop.receive result).remaining = loop.remaining + 1 := by
  simp only [remaining, point_receive_of_harmless hharmless, drainer_receive,
    phase_receive_of_harmless hharmless, hpoint]
  simp only [Point.remaining, receive]
  omega

/-- A read that ends a drainer leaves it less to do. -/
theorem remaining_receive_of_closing {closing : Closing} (hpoint : loop.point = .awaiting since)
    (hclosing : Closing.ofRead? result = some closing) :
    (loop.receive result).remaining < loop.remaining := by
  have hphase : (loop.receive result).drainer.phase = .ended := phase_receive_of_closing hclosing
  simp only [remaining, point_receive_of_closing hclosing, hphase, hpoint]
  simp only [Point.remaining, DrainPhase.remaining, receive]
  omega

end receive

end Loop

end Drainer

namespace Channel

/-- A bound on the steps that can be taken on a channel. Every octet has to be written, to be read
from the pipe, and to be followed by the next read. -/
def remaining (channel : Channel) : Nat :=
  3 * channel.unwritten.length + 2 * channel.pipe.length + channel.loop.remaining +
    Drainer.orderRemaining channel.closed

variable {channel : Channel}

/-- Writing something leaves less to do on a channel. -/
theorem remaining_write {count : Nat} (hsome : 0 < count ∧ count ≤ channel.unwritten.length) :
    (channel.write count).remaining < channel.remaining := by
  simp only [remaining, write, List.length_drop, List.length_append, List.length_take]
  omega

/-- Reading something leaves less to do on a channel. -/
theorem remaining_read {since count : Nat} (hpoint : channel.loop.point = .awaiting since)
    (hsome : 0 < count ∧ count ≤ channel.pipe.length) :
    (channel.read count).remaining < channel.remaining := by
  have hloop : (channel.read count).loop.remaining = channel.loop.remaining + 1 :=
    Drainer.Loop.remaining_receive_of_harmless hpoint rfl
  simp only [remaining, hloop]
  simp only [read, List.length_drop]
  omega

/-- A drainer that has less to do leaves less to do on its channel. -/
theorem remaining_loop {next : Drainer.Loop} (hless : next.remaining < channel.loop.remaining) :
    remaining { channel with loop := next } < channel.remaining := by
  simp only [remaining]
  omega

end Channel

namespace Supervision

/-- The steps that concern neither channel: the end of the process, the end of the wait, and the
decoding. -/
def ownRemaining (supervision : Supervision) : Nat :=
  supervision.ended.isNone.toNat + (supervision.wait == .pending).toNat +
    supervision.texts.isNone.toNat

/-- A bound on the steps that can be taken before the next idle one. -/
def remaining (supervision : Supervision) : Nat :=
  supervision.stdout.remaining + supervision.stderr.remaining + supervision.ownRemaining

variable {capacity : Nat} {encoding : OutputEncoding} {out err : List UInt8}
  {supervision next : Supervision}

/-- Replacing a channel exchanges its steps for those of the new one. -/
theorem remaining_setChannel (supervision : Supervision) (stream : Stream) (channel : Channel) :
    (supervision.setChannel stream channel).remaining + (supervision.channel stream).remaining =
      supervision.remaining + channel.remaining := by
  have hown : (supervision.setChannel stream channel).ownRemaining = supervision.ownRemaining := by
    simp [ownRemaining]
  cases stream
  · simp only [remaining, hown]
    simp only [setChannel, Supervision.channel]
    omega
  · simp only [remaining, hown]
    simp only [setChannel, Supervision.channel]
    omega

/-- Less to do on one channel is less to do for the process. -/
theorem remaining_setChannel_lt {stream : Stream} {channel : Channel}
    (hless : channel.remaining < (supervision.channel stream).remaining) :
    (supervision.setChannel stream channel).remaining < supervision.remaining := by
  have hsum := remaining_setChannel supervision stream channel
  omega

/-- Less to do apart from the channels is less to do for the process. -/
theorem remaining_lt_of_own {next : Supervision} (hout : next.stdout = supervision.stdout)
    (herr : next.stderr = supervision.stderr)
    (hless : next.ownRemaining < supervision.ownRemaining) :
    next.remaining < supervision.remaining := by
  rw [remaining, remaining, hout, herr]
  omega

/-- As much to do on one channel as before is as much to do for the process. -/
theorem remaining_setChannel_le {stream : Stream} {channel : Channel}
    (hmore : (supervision.channel stream).remaining ≤ channel.remaining) :
    supervision.remaining ≤ (supervision.setChannel stream channel).remaining := by
  have hsum := remaining_setChannel supervision stream channel
  omega

/-- After an idle step there is as much to do as before. -/
theorem Idle.remaining_le (hidle : Idle supervision next) :
    supervision.remaining ≤ next.remaining := by
  cases hidle with
  | interrupted stream =>
      apply remaining_setChannel_le
      have hpoint : (supervision.channel stream).loop.point.remaining ≤ 2 := by
        cases (supervision.channel stream).loop.point <;> simp
      simpa [Channel.remaining, Channel.receive, Drainer.Loop.receive, Drainer.Closing.ofRead?,
        Drainer.receive] using hpoint
  | passing stream millis => exact remaining_setChannel_le (Nat.le_refl _)

/-- Every step is idle or leaves less to do. -/
theorem Step.idle_or_remaining_lt (hstep : Step capacity encoding supervision next) :
    Idle supervision next ∨ next.remaining < supervision.remaining := by
  cases hstep with
  | write stream count hrunning hsome hroom =>
      exact .inr (remaining_setChannel_lt (Channel.remaining_write hsome))
  | finish ending hrunning hout herr =>
      exact .inr (remaining_lt_of_own rfl rfl (by simp [ownRemaining, hrunning]))
  | close stream hrunning hopen hwritten =>
      exact .inr (remaining_setChannel_lt (by simp [Channel.remaining, hopen]))
  | read stream since count hpoint hsome hsize =>
      exact .inr (remaining_setChannel_lt (Channel.remaining_read hpoint hsome))
  | disturb stream since result hpoint hresult =>
      rcases hresult with rfl | ⟨message, rfl⟩
      · exact .inl (.interrupted supervision stream)
      · exact .inr (remaining_setChannel_lt (Channel.remaining_loop
          (Drainer.Loop.remaining_receive_of_closing hpoint rfl)))
  | endOfFile stream since hpoint hempty hended =>
      exact .inr (remaining_setChannel_lt (Channel.remaining_loop
        (Drainer.Loop.remaining_receive_of_closing hpoint rfl)))
  | drain stream following hstep =>
      rcases hstep.passes_or_remaining_lt with ⟨millis, rfl⟩ | hless
      · exact .inl (.passing supervision stream millis)
      · exact .inr (remaining_setChannel_lt (Channel.remaining_loop hless))
  | resolve ending hwait hended =>
      exact .inr (remaining_lt_of_own rfl rfl (by simp [ownRemaining, hwait]))
  | fail message hwait =>
      exact .inr (remaining_lt_of_own rfl rfl (by simp [ownRemaining, hwait]))
  | expire hwait =>
      exact .inr (remaining_lt_of_own rfl rfl (by simp [ownRemaining, hwait]))
  | kill ending hrunning hwait =>
      exact .inr (remaining_lt_of_own rfl rfl (by simp [ownRemaining, hrunning]))
  | stop stream hwait hunsent =>
      exact .inr (remaining_setChannel_lt (Channel.remaining_loop
        (by simp [Drainer.Loop.send, hunsent])))
  | decode closing closingErr hwait hfailed hnew hsent hout herr =>
      exact .inr (remaining_lt_of_own rfl rfl (by simp [ownRemaining, hnew]))

/-- What can be done next, apart from idle steps. -/
def Moves (capacity : Nat) (encoding : OutputEncoding) (supervision : Supervision) : Prop :=
  ∃ next, Step capacity encoding supervision next ∧ next.remaining < supervision.remaining

/-- What leaves less to do is not idle. -/
theorem Moves.not_idle (h : Moves capacity encoding supervision) :
    ∃ next, Step capacity encoding supervision next ∧ ¬ Idle supervision next := by
  obtain ⟨next, hstep, hless⟩ := h
  exact ⟨next, hstep, fun hidle => Nat.not_lt_of_le hidle.remaining_le hless⟩

section motion

variable {stream : Stream}

/-- A drainer between two reads can go on. -/
theorem Sound.moves_of_between (h : Sound encoding out err supervision)
    (hpoint : (supervision.channel stream).loop.point = .between) :
    Moves capacity encoding supervision := by
  have hlive := (h.channels stream).live (by simp [Drainer.Loop.IsOpen, hpoint])
  obtain ⟨following, hstep, hless⟩ := Drainer.Loop.exists_step_of_between hpoint hlive
  exact ⟨_, .drain supervision stream following hstep,
    remaining_setChannel_lt (Channel.remaining_loop hless)⟩

/-- A drainer in a read can go on when there is something in its pipe. -/
theorem moves_of_pipe {since : Nat}
    (hpoint : (supervision.channel stream).loop.point = .awaiting since)
    (hpipe : (supervision.channel stream).pipe ≠ []) : Moves capacity encoding supervision := by
  have hsome : 0 < 1 ∧ 1 ≤ (supervision.channel stream).pipe.length :=
    ⟨Nat.one_pos, List.length_pos_iff.2 hpipe⟩
  exact ⟨_, .read supervision stream since 1 hpoint hsome (by decide),
    remaining_setChannel_lt (Channel.remaining_read hpoint hsome)⟩

/-- A drainer that has not come to its end can go on when the process has ended. -/
theorem Sound.moves_of_open (h : Sound encoding out err supervision)
    (hended : supervision.ended ≠ none) (hopen : (supervision.channel stream).loop.IsOpen) :
    Moves capacity encoding supervision := by
  cases hpoint : (supervision.channel stream).loop.point with
  | between => exact h.moves_of_between hpoint
  | awaiting since =>
      by_cases hpipe : (supervision.channel stream).pipe = []
      · exact ⟨_, .endOfFile supervision stream since hpoint hpipe (.inl hended),
          remaining_setChannel_lt (Channel.remaining_loop
            (Drainer.Loop.remaining_receive_of_closing hpoint rfl))⟩
      · exact moves_of_pipe hpoint hpipe
  | closed closing => exact absurd hpoint (hopen closing)

/-- While the process has something to write, it can write or the drainer of the full pipe can go
on. -/
theorem Sound.moves_of_unwritten (h : Sound encoding out err supervision) (stream : Stream)
    (hcapacity : 1 ≤ capacity) (hcalm : supervision.isCalm = true)
    (hrunning : supervision.ended = none)
    (hsome : (supervision.channel stream).unwritten ≠ []) :
    Moves capacity encoding supervision := by
  by_cases hroom : (supervision.channel stream).pipe.length + 1 ≤ capacity
  · have hlength : 0 < 1 ∧ 1 ≤ (supervision.channel stream).unwritten.length :=
      ⟨Nat.one_pos, List.length_pos_iff.2 hsome⟩
    exact ⟨_, .write supervision stream 1 hrunning hlength hroom,
      remaining_setChannel_lt (Channel.remaining_write hlength)⟩
  · have hpipe : (supervision.channel stream).pipe ≠ [] := by
      rw [← List.length_pos_iff]
      omega
    cases hpoint : (supervision.channel stream).loop.point with
    | between => exact h.moves_of_between hpoint
    | awaiting since => exact moves_of_pipe hpoint hpipe
    | closed closing =>
        -- Nothing is left to write behind the end of the file.
        have hfile := endOfFile_of_calm hcalm hpoint
        exact absurd (h.drained (wait_of_calm hcalm) stream (hfile ▸ hpoint)).2 hsome

/-- A drainer can be told to stop when the wait is over. -/
theorem moves_of_unsent (stream : Stream) (hwait : supervision.wait ≠ .pending)
    (hunsent : (supervision.channel stream).loop.stopSent = false) :
    Moves capacity encoding supervision :=
  ⟨_, .stop supervision stream hwait hunsent,
    remaining_setChannel_lt (Channel.remaining_loop (by simp [Drainer.Loop.send, hunsent]))⟩

end motion

/-- When the wait has told how the process ended and both drainers have come to their ends, the
output is known or there is a step towards it. -/
theorem moves_of_closed {ending : Ending} (hcalm : supervision.isCalm = true)
    (hwait : supervision.wait = .resolved ending) {closing closingErr : Drainer.Closing}
    (hout : supervision.stdout.loop.point = .closed closing)
    (herr : supervision.stderr.loop.point = .closed closingErr)
    (hunknown : supervision.output? = none) : Moves capacity encoding supervision := by
  have hover : supervision.wait ≠ .pending := by simp [hwait]
  have hfailed : ∀ message, ending ≠ .waitFailed message := by
    rintro message rfl
    have hcontra := wait_of_calm hcalm
    rw [hwait] at hcontra
    cases hcontra
  cases hsent : supervision.stdout.loop.stopSent with
  | false => exact moves_of_unsent .stdout hover hsent
  | true =>
      cases hsentErr : supervision.stderr.loop.stopSent with
      | false => exact moves_of_unsent .stderr hover hsentErr
      | true =>
          cases hnew : supervision.texts with
          | none =>
              have hresolved : ∀ message, supervision.wait ≠ .resolved (.waitFailed message) := by
                simpa [hwait] using hfailed
              exact ⟨_, .decode supervision closing closingErr hover hresolved hnew
                ⟨hsent, hsentErr⟩ hout herr, remaining_lt_of_own rfl rfl
                  (by simp [ownRemaining, hnew])⟩
          | some texts =>
              -- With the texts the output is known, unless the wait has failed.
              cases ending with
              | exited code | signalled signal =>
                  simp [output?, hwait, hnew, Execution.exitCode, Except.toOption] at hunknown
              | waitFailed message => exact absurd rfl (hfailed message)

/-- A calm process whose output is not known yet can go on. -/
theorem Sound.moves (h : Sound encoding out err supervision) (hcapacity : 1 ≤ capacity)
    (hcalm : supervision.isCalm = true) (hunknown : supervision.output? = none) :
    Moves capacity encoding supervision := by
  -- Before its end a process writes what is left. After it both drainers come to their ends first,
  -- then the wait tells, and then the orders to stop and the decoding are up.
  cases hended : supervision.ended with
  | none =>
      by_cases hout : supervision.stdout.unwritten = []
      · by_cases herr : supervision.stderr.unwritten = []
        · exact ⟨_, .finish supervision (.exited 0) hended hout herr,
            remaining_lt_of_own rfl rfl (by simp [ownRemaining, hended])⟩
        · exact h.moves_of_unwritten .stderr hcapacity hcalm hended herr
      · exact h.moves_of_unwritten .stdout hcapacity hcalm hended hout
  | some ending =>
      have hover : supervision.ended ≠ none := by simp [hended]
      by_cases hopen : ∃ stream, (supervision.channel stream).loop.IsOpen
      · obtain ⟨stream, hopen⟩ := hopen
        exact h.moves_of_open hover hopen
      · rw [not_exists] at hopen
        obtain ⟨closing, hout⟩ := Drainer.Loop.not_isOpen.1 (hopen .stdout)
        obtain ⟨closingErr, herr⟩ := Drainer.Loop.not_isOpen.1 (hopen .stderr)
        cases hwait : supervision.wait with
        | pending =>
            exact ⟨_, .resolve supervision ending hwait hended,
              remaining_lt_of_own rfl rfl (by simp [ownRemaining, hwait])⟩
        | resolved result => exact moves_of_closed hcalm hwait hout herr hunknown
        | overdue =>
            have hcontra := wait_of_calm hcalm
            rw [hwait] at hcontra
            cases hcontra

/-- Whatever happens, a process comes to its output unless something goes wrong, or too many idle
steps are taken. -/
theorem Sound.inevitable {supervision : Supervision} (h : Sound encoding out err supervision)
    (hcapacity : 1 ≤ capacity) (patience : Nat) :
    Inevitable (Step capacity encoding) Idle
      (fun final => final.isCalm = true → ∃ code,
        final.output? = some ⟨code, encoding.decode out, encoding.decode err⟩)
      patience supervision := by
  refine inevitable_of_remaining (Sound encoding out err) remaining
    (fun _ _ hsound hstep => hsound.step hstep) (fun _ _ hstep => hstep.idle_or_remaining_lt)
    (fun current hsound hmissing => ?_) patience supervision h
  obtain ⟨hcalm, hunknown⟩ := Classical.not_imp.1 hmissing
  cases hknown : current.output? with
  | none => exact (hsound.moves hcapacity hcalm hknown).not_idle
  | some output =>
      obtain ⟨hout, herr, _⟩ := hsound.output hcalm hknown
      exact absurd ⟨output.exitCode, by rw [hknown, ← hout, ← herr]⟩ hunknown

end Supervision

end Runbook
