import Runbook.Process.Watch
import Runbook.Proofs.Process.Capture
import Runbook.Proofs.Process.Verdict

/-!
# What a supervisor knows at each point

As long as a supervisor waits for its process or has it killed, no drainer has been told to stop. It
has decoded and logged nothing before both drainers have handed back what they gathered, and what
they have handed back does not change any more. `Stands` says this for each point of the program,
`Orderly` is the invariant around it, and the main results are `Reached.orderly` and, about the
drainers, `Reached.serving`.
-/

namespace Runbook

namespace Drainer.Loop

/-- A drainer that serves its pipe: it is in its main loop, or it has met the end of the file or a
read error there. -/
def Serving (loop : Loop) : Prop :=
  (loop.IsOpen ∧ loop.drainer.phase = .reading) ∨ loop.point = .closed .endOfFile ∨
    loop.point = .closed .failed

/-- A drainer that has handed back the given octets, after it has been told to stop. -/
structure HandedBack (loop : Loop) (octets : List UInt8) : Prop where
  ordered : loop.stopSent = true
  ended : ¬ loop.IsOpen
  octets : loop.drainer.sink.octets = octets

/-- In its main loop a drainer is open. -/
theorem Serving.phase {loop : Loop} (h : loop.Serving) (hopen : loop.IsOpen) :
    loop.drainer.phase = .reading := by
  rcases h with ⟨_, hphase⟩ | hclosed | hclosed
  · exact hphase
  · exact absurd hclosed (hopen _)
  · exact absurd hclosed (hopen _)

/-- On its own account a drainer that is not told to stop goes on serving. -/
theorem Step.serving {loop next : Loop} (hstep : Step loop next) (hunsent : loop.stopSent = false)
    (h : loop.Serving) : next.Serving := by
  have hreading := h.phase hstep.keeps.wasOpen
  cases hstep with
  | read hpoint hphase hsent => exact .inl ⟨nofun, hreading⟩
  | heed hpoint hphase hsent => rw [hunsent] at hsent; cases hsent
  | flush began gathered hpoint hphase htime => rw [hreading] at hphase; cases hphase
  | expire began gathered hpoint hphase htime => rw [hreading] at hphase; cases hphase
  | giveUp since began gathered hpoint hphase htime => rw [hreading] at hphase; cases hphase
  | wait since millis hpoint htime =>
      exact .inl ⟨fun closing hclosed => by simp [hpoint] at hclosed, hreading⟩

/-- A read leaves a drainer serving, unless the reader is lost. -/
theorem Serving.receive {loop : Loop} (h : loop.Serving) (hopen : loop.IsOpen)
    {result : ReadResult} (hkept : result ≠ .panicked) : (loop.receive result).Serving := by
  cases result with
  | data | interrupted => exact .inl ⟨nofun, h.phase hopen⟩
  | endOfFile => exact .inr (.inl rfl)
  | failed message => exact .inr (.inr rfl)
  | panicked => exact absurd rfl hkept

end Drainer.Loop

namespace Supervision

variable {capacity : Nat} {encoding : OutputEncoding} {out err octets : List UInt8}
  {supervision next : Supervision} {stream : Stream}

/-- A drainer that advances goes on serving until it is told to stop. -/
theorem Advance.serving {loop following : Drainer.Loop} (hadvance : Advance loop following)
    (h : loop.stopSent = false → loop.Serving) (hunsent : following.stopSent = false) :
    following.Serving := by
  cases hadvance with
  | none => exact h hunsent
  | own hstep =>
      rw [hstep.keeps.stopSent] at hunsent
      exact hstep.serving hunsent (h hunsent)
  | send => cases hunsent
  | receive hpoint hkept =>
      exact (h hunsent).receive (fun closing hclosed => by simp [hpoint] at hclosed) hkept

/-- What a drainer has handed back is not changed any more. -/
theorem Advance.handed_back {loop following : Drainer.Loop} (hadvance : Advance loop following)
    (h : loop.HandedBack octets) : following.HandedBack octets := by
  cases hadvance with
  | none => exact h
  | own hstep => exact absurd hstep.keeps.wasOpen h.ended
  | send => exact ⟨rfl, h.ended, h.octets⟩
  | receive hpoint hkept =>
      exact absurd (fun closing hclosed => by simp [hpoint] at hclosed) h.ended

/-- A drainer that has not been told to stop serves its pipe. -/
theorem Reached.serving (h : Reached capacity encoding out err supervision) (stream : Stream) :
    (supervision.channel stream).loop.stopSent = false →
      (supervision.channel stream).loop.Serving := by
  induction h with
  | start =>
      intro _
      cases stream <;> exact .inl ⟨nofun, rfl⟩
  | step _ hstep ih => exact (hstep.advance stream).serving ih

/-- Replacing a channel is apart from the supervisor, unless its drainer is told to stop. -/
theorem apart_setChannel {channel : Channel}
    (hsame : channel.loop.stopSent = (supervision.channel stream).loop.stopSent) :
    supervision.Apart (supervision.setChannel stream channel) where
  wait := wait_setChannel _ _ _
  texts := texts_setChannel _ _ _
  orders := by
    intro other
    rw [channel_setChannel]
    split
    · rename_i heq
      rw [heq]
      exact hsame
    · rfl

end Supervision

/-- Only what one stream has handed back is added. -/
theorem Taken.of_add (taken : Taken) (stream other : Stream) (octets : List UInt8) :
    (taken.add stream octets).of other =
      if other = stream then some octets else taken.of other := by
  cases stream <;> cases other <;> rfl

/-- How a wait has told that the process ended, if it has. -/
def Wait.ending? : Wait → Option Ending
  | .resolved ending => some ending
  | _ => none

/-- What an execution returns when the wait has told how the process ended, or has not, and the
drainers have handed back the given octets. -/
def Pending.returns (pending : Pending) (ending? : Option Ending) (out err : List UInt8) :
    Except Failure Output :=
  match ending? with
  | none =>
    .error (.timeout (joinTokens pending.argv) pending.timeout.display
      (pending.encoding.decode err))
  | some ending =>
    match Execution.exitCode ending with
    | .error message => .error (.execution (joinTokens pending.argv) message)
    | .ok code => .ok ⟨code, pending.encoding.decode out, pending.encoding.decode err⟩

namespace Watch

/-- An event that shows nothing of what a process has written. -/
inductive Announces (pending : Pending) : Event → Prop
  | starting : Announces pending (Execution.starting (joinTokens pending.argv) pending.timeout)
  | interruption : Announces pending Execution.interruption
  | expiry : Announces pending (expiry pending)
  | killFault (wait : Wait) (fault : String) : Announces pending (killFault pending wait fault)

/-- Nothing that the drainers have gathered has been decoded or logged. -/
structure Quiet (pending : Pending) (watch : Watch) : Prop where
  texts : watch.process.texts = none
  events : ∀ event ∈ watch.events, Announces pending event

/-- No drainer has been told to stop. -/
def Unordered (watch : Watch) : Prop :=
  ∀ stream, (watch.process.channel stream).loop.stopSent = false

/-- Both drainers have handed back, and the texts are those of what they handed back. -/
def Joined (pending : Pending) (watch : Watch) (outText errText : String) : Prop :=
  ∃ out err, watch.taken = ⟨some out, some err⟩ ∧ outText = pending.encoding.decode out ∧
    errText = pending.encoding.decode err

/-- What is known of a supervisor at each point of its program. -/
def Stands (pending : Pending) (watch : Watch) : Prop :=
  match watch.point with
  | .waiting => watch.process.wait = .pending ∧ watch.Unordered ∧ watch.Quiet pending
  | .killing => watch.process.wait ≠ .pending ∧ watch.Unordered ∧ watch.Quiet pending
  | .joining => watch.process.wait ≠ .pending ∧ watch.Quiet pending
  | .decoded out err => watch.process.wait ≠ .pending ∧ watch.Joined pending out err
  | .shown out err => watch.process.wait ≠ .pending ∧ watch.Joined pending out err
  | .returned result =>
    watch.process.wait ≠ .pending ∧ ∃ out err, watch.taken = ⟨some out, some err⟩ ∧
      result = pending.returns watch.process.wait.ending? out err

/-- What has been taken from a drainer is what it has handed back. -/
def Held (watch : Watch) : Prop :=
  ∀ stream octets, watch.taken.of stream = some octets →
    (watch.process.channel stream).loop.HandedBack octets

/-- The invariant of a supervisor: it stands where it should, it has taken what was handed back, and
its process is in a state that it can get into. -/
structure Orderly (pending : Pending) (capacity : Nat) (out err : List UInt8) (watch : Watch) :
    Prop where
  stands : watch.Stands pending
  held : watch.Held
  process : Supervision.Reached capacity pending.encoding out err watch.process

variable {pending : Pending} {capacity : Nat} {out err : List UInt8} {watch next : Watch}
  {stream : Stream}

/-- One more announcement leaves it quiet. -/
theorem Quiet.log (h : watch.Quiet pending) {event : Event} (hevent : Announces pending event) :
    (watch.log event).Quiet pending where
  texts := h.texts
  events := by
    rw [Watch.log, List.forall_mem_append, List.forall_mem_singleton]
    exact ⟨h.events, hevent⟩

/-- What goes on around a supervisor leaves it where it stands. -/
theorem Stands.around (h : watch.Stands pending) {process : Supervision}
    (hapart : watch.process.Apart process) :
    Stands pending { watch with process := process } := by
  obtain ⟨before, point, taken, events⟩ := watch
  have hover : before.wait ≠ .pending → process.wait ≠ .pending :=
    fun hbefore hpending => hbefore (hapart.wait.symm.trans hpending)
  have hquiet : Quiet pending ⟨before, point, taken, events⟩ →
      Quiet pending ⟨process, point, taken, events⟩ :=
    fun hbefore => ⟨hapart.texts.trans hbefore.texts, hbefore.events⟩
  cases point with
  | waiting =>
      obtain ⟨hwait, hunordered, hbefore⟩ := h
      exact ⟨hapart.wait.trans hwait,
        fun stream => (hapart.orders stream).trans (hunordered stream), hquiet hbefore⟩
  | killing =>
      obtain ⟨hwait, hunordered, hbefore⟩ := h
      exact ⟨hover hwait, fun stream => (hapart.orders stream).trans (hunordered stream),
        hquiet hbefore⟩
  | joining => exact ⟨hover h.1, hquiet h.2⟩
  | decoded | shown => exact ⟨hover h.1, h.2⟩
  | returned result =>
      refine ⟨hover h.1, ?_⟩
      simp only [hapart.wait]
      exact h.2

/-- Every step leaves a supervisor where it should stand. -/
theorem Step.stands (hstep : Step pending capacity watch next) (h : watch.Stands pending) :
    next.Stands pending := by
  cases hstep with
  | around process hstep hapart => exact h.around hapart
  | interrupted hpoint =>
      simp only [Stands, hpoint, log] at h ⊢
      exact ⟨h.1, h.2.1, h.2.2.texts, (h.2.2.log .interruption).events⟩
  | exit ending code hpoint hended hcode =>
      simp only [Stands, hpoint] at h
      exact ⟨nofun, h.2.2.texts, h.2.2.events⟩
  | fail message hpoint =>
      simp only [Stands, hpoint] at h
      exact ⟨nofun, h.2.1, h.2.2.texts, h.2.2.events⟩
  | expire hpoint hlimited =>
      simp only [Stands, hpoint] at h
      exact ⟨nofun, h.2.1, h.2.2.texts, (h.2.2.log .expiry).events⟩
  | killed hpoint hended =>
      simp only [Stands, hpoint] at h
      exact ⟨h.1, h.2.2.texts, h.2.2.events⟩
  | unkilled fault hpoint =>
      simp only [Stands, hpoint] at h
      exact ⟨h.1, h.2.2.texts, (h.2.2.log (.killFault _ fault)).events⟩
  | order stream hpoint hunsent =>
      simp only [Stands, hpoint, setChannel, Supervision.wait_setChannel] at h ⊢
      exact ⟨h.1, (Supervision.texts_setChannel _ _ _).trans h.2.texts, h.2.events⟩
  | take stream closing hpoint hnew hsent hclosed =>
      simp only [Stands, hpoint] at h ⊢
      exact ⟨h.1, h.2.texts, h.2.events⟩
  | decode outOctets errOctets hpoint htaken hfailed =>
      simp only [Stands, hpoint] at h
      exact ⟨h.1, outOctets, errOctets, htaken, rfl, rfl⟩
  | abandon outOctets errOctets message hpoint htaken hfailed =>
      simp only [Stands, hpoint] at h
      refine ⟨h.1, outOctets, errOctets, htaken, ?_⟩
      rw [hfailed]
      rfl
  | display outText errText hpoint =>
      simp only [Stands, hpoint] at h
      exact h
  | finish outText errText ending code elapsed hpoint hwait hcode =>
      simp only [Stands, hpoint] at h
      obtain ⟨hover, outOctets, errOctets, htaken, rfl, rfl⟩ := h
      refine ⟨hover, outOctets, errOctets, htaken, ?_⟩
      simp only [log, hwait, Wait.ending?, Pending.returns, hcode]
  | giveUp outText errText hpoint hwait =>
      simp only [Stands, hpoint] at h
      obtain ⟨hover, outOctets, errOctets, htaken, rfl, rfl⟩ := h
      refine ⟨hover, outOctets, errOctets, htaken, ?_⟩
      simp only [hwait, Wait.ending?, Pending.returns]

/-- A step of a supervisor is a step of its process, or it leaves the process alone. -/
theorem Orderly.process_step (h : watch.Orderly pending capacity out err)
    (hstep : Step pending capacity watch next) :
    next.process = watch.process ∨
      Supervision.Step capacity pending.encoding watch.process next.process := by
  have hstands := h.stands
  cases hstep with
  | around process hstep hapart => exact .inr hstep
  | exit ending code hpoint hended hcode =>
      simp only [Stands, hpoint] at hstands
      exact .inr (.resolve _ ending hstands.1 hended)
  | fail message hpoint =>
      simp only [Stands, hpoint] at hstands
      exact .inr (.fail _ message hstands.1)
  | expire hpoint hlimited =>
      simp only [Stands, hpoint] at hstands
      exact .inr (.expire _ hstands.1)
  | order stream hpoint hunsent =>
      simp only [Stands, hpoint] at hstands
      exact .inr (.stop _ stream hstands.1 hunsent)
  | decode outOctets errOctets hpoint htaken hfailed =>
      -- What has been taken is still in the drainers, from which the process decodes it.
      simp only [Stands, hpoint] at hstands
      have hout := h.held .stdout outOctets (by rw [htaken]; rfl)
      have herr := h.held .stderr errOctets (by rw [htaken]; rfl)
      obtain ⟨closing, hclosed⟩ := Drainer.Loop.not_isOpen.1 hout.ended
      obtain ⟨closingErr, hclosedErr⟩ := Drainer.Loop.not_isOpen.1 herr.ended
      rw [← hout.octets, ← herr.octets]
      exact .inr (.decode _ closing closingErr hstands.1 hfailed hstands.2.texts
        ⟨hout.ordered, herr.ordered⟩ hclosed hclosedErr)
  | interrupted | killed | unkilled | take | abandon | display | finish | giveUp => exact .inl rfl

/-- What has been taken after a step had been taken before, or has just been handed back. -/
theorem Step.taken (hstep : Step pending capacity watch next) {octets : List UInt8}
    (htaken : next.taken.of stream = some octets) :
    watch.taken.of stream = some octets ∨
      (watch.process.channel stream).loop.HandedBack octets := by
  cases hstep with
  | take other closing hpoint hnew hsent hclosed =>
      rw [Taken.of_add] at htaken
      split at htaken
      · rename_i heq
        subst heq
        exact .inr ⟨hsent, fun hopen => hopen closing hclosed, Option.some.inj htaken⟩
      · exact .inl htaken
  | around | interrupted | exit | fail | expire | killed | unkilled | order | decode | abandon
  | display | finish | giveUp => exact .inl htaken

/-- Every step leaves a supervisor orderly. -/
theorem Orderly.step (h : watch.Orderly pending capacity out err)
    (hstep : Step pending capacity watch next) : next.Orderly pending capacity out err := by
  have hprocess := h.process_step hstep
  refine ⟨hstep.stands h.stands, fun stream octets htaken => ?_, ?_⟩
  · have hback : (watch.process.channel stream).loop.HandedBack octets :=
      (hstep.taken htaken).elim (h.held stream octets) id
    rcases hprocess with hsame | hstep
    · rw [hsame]
      exact hback
    · exact (hstep.advance stream).handed_back hback
  · rcases hprocess with hsame | hstep
    · rw [hsame]
      exact h.process
    · exact h.process.step hstep

/-- Every state that a supervisor can get into is orderly. -/
theorem Reached.orderly (h : Reached pending capacity out err watch) :
    watch.Orderly pending capacity out err := by
  induction h with
  | start =>
      refine ⟨⟨rfl, fun stream => ?_, rfl, ?_⟩, fun stream _ htaken => ?_, .start⟩
      · cases stream <;> rfl
      · rw [Watch.start, List.forall_mem_singleton]
        exact .starting
      · cases stream <;> cases htaken
  | step _ hstep ih => exact ih.step hstep

end Watch

end Runbook
