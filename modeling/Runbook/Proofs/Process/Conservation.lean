import Runbook.Process.Supervision
import Runbook.Proofs.Drainer.Gathering

/-!
# No octet of a stream is lost

Whatever the interleaving of a process, its drainers and its supervisor, what a drainer has
gathered, what is in the pipe and what the process has not written yet are together the whole
stream. `Sound` is the invariant that carries this. It also says what is known once the wait has
told how the process ended, so that a drainer which met the end of the file has gathered everything.
The main theorems are `Reached.sound` and `Sound.output`.
-/

namespace Runbook

/-- What belongs to a stream, out of what belongs to both. -/
def Stream.pick {α : Type} (out err : α) : Stream → α
  | .stdout => out
  | .stderr => err

/-- A channel on which a process writes the given octets. -/
structure Channel.Sound (whole : List UInt8) (channel : Channel) : Prop where
  conserved : channel.loop.drainer.sink.octets ++ channel.pipe ++ channel.unwritten = whole
  closed : channel.closed = true → channel.unwritten = []
  live : channel.loop.IsOpen → channel.loop.drainer.phase ≠ .ended

section channels

variable {whole : List UInt8} {channel : Channel}

/-- Writing takes octets from those that are not written yet to the end of the pipe. -/
theorem Channel.Sound.write (h : channel.Sound whole) (count : Nat) :
    (channel.write count).Sound whole where
  conserved := by
    rw [← h.conserved]
    simp [Channel.write]
  closed := by
    intro hclosed
    simp [Channel.write, h.closed hclosed]
  live := h.live

/-- Reading takes octets from the head of the pipe to the end of what has been gathered. -/
theorem Channel.Sound.read (h : channel.Sound whole) {since : Nat}
    (hpoint : channel.loop.point = .awaiting since) (count : Nat) :
    (channel.read count).Sound whole where
  conserved := by
    rw [← h.conserved]
    simp [Channel.read, Drainer.Loop.receive, Drainer.receive]
  closed := h.closed
  live := fun _ => h.live (by simp [Drainer.Loop.IsOpen, hpoint])

/-- A read that takes nothing out of the pipe leaves everything where it is. -/
theorem Channel.Sound.receive (h : channel.Sound whole) {since : Nat}
    (hpoint : channel.loop.point = .awaiting since) {result : ReadResult}
    (hnothing : ReadResult.gathered [result] = [])
    (hkept : result ≠ .panicked) : (channel.receive result).Sound whole where
  conserved := by
    rw [← h.conserved, Channel.receive, Drainer.Loop.drainer_receive,
      Drainer.octets_receive hkept, hnothing, List.append_nil]
  closed := h.closed
  live := by
    intro hopen
    have hlive := h.live (by simp [Drainer.Loop.IsOpen, hpoint])
    cases hresult : Drainer.Closing.ofRead? result with
    | none =>
        rw [Channel.receive, Drainer.Loop.drainer_receive,
          Drainer.phase_receive_of_harmless hresult]
        exact hlive
    | some closing => exact absurd (Drainer.Loop.point_receive_of_closing hresult) (hopen closing)

/-- A drainer that goes on by itself leaves everything where it is. -/
theorem Channel.Sound.drain (h : channel.Sound whole) {next : Drainer.Loop}
    (hkeeps : channel.loop.Keeps next) : Sound whole { channel with loop := next } where
  conserved := by
    rw [← h.conserved, hkeeps.sink]
  closed := h.closed
  live := hkeeps.phase h.live

end channels

namespace Supervision

variable {capacity : Nat} {encoding : OutputEncoding} {out err : List UInt8}
  {supervision next : Supervision}

section replacement

variable (supervision : Supervision) (stream : Stream) (channel : Channel)

/-- Only the channel of one stream is replaced. -/
theorem channel_setChannel (other : Stream) :
    (supervision.setChannel stream channel).channel other =
      if other = stream then channel else supervision.channel other := by
  cases stream <;> cases other <;> rfl

/-- Replacing a channel does not end the process. -/
@[simp] theorem ended_setChannel :
    (supervision.setChannel stream channel).ended = supervision.ended := by
  cases stream <;> rfl

/-- Replacing a channel does not change the wait. -/
@[simp] theorem wait_setChannel :
    (supervision.setChannel stream channel).wait = supervision.wait := by
  cases stream <;> rfl

/-- Replacing a channel does not change the texts. -/
@[simp] theorem texts_setChannel :
    (supervision.setChannel stream channel).texts = supervision.texts := by
  cases stream <;> rfl

end replacement

/-- The invariant of a process that writes the given octets. -/
structure Sound (encoding : OutputEncoding) (out err : List UInt8) (supervision : Supervision) :
    Prop where
  channels : ∀ stream, (supervision.channel stream).Sound (stream.pick out err)
  /-- A process that has ended by itself has written everything. -/
  written : supervision.wait.isCalm = true → supervision.ended ≠ none →
    ∀ stream, (supervision.channel stream).unwritten = []
  /-- The wait tells how the process ended. -/
  resolved : ∀ ending, supervision.wait = .resolved ending → supervision.wait.isCalm = true →
    supervision.ended = some ending
  /-- Nothing is behind the end of the file. -/
  drained : supervision.wait.isCalm = true → ∀ stream,
    (supervision.channel stream).loop.point = .closed .endOfFile →
      (supervision.channel stream).pipe = [] ∧ (supervision.channel stream).unwritten = []
  /-- The texts are made of what both drainers have gathered up to their ends. -/
  decoded : ∀ texts, supervision.texts = some texts →
    supervision.wait ≠ .pending ∧
    (∀ message, supervision.wait ≠ .resolved (.waitFailed message)) ∧
    ∀ stream, ¬ (supervision.channel stream).loop.IsOpen ∧
      stream.pick texts.1 texts.2 =
        encoding.decode (supervision.channel stream).loop.drainer.sink.octets

/-- A process is sound before its first step. -/
theorem sound_start : Sound encoding out err (Supervision.start out err) where
  channels := by
    intro stream
    cases stream
    · exact ⟨rfl, fun h => (nomatch h), fun _ h => (nomatch h)⟩
    · exact ⟨rfl, fun h => (nomatch h), fun _ h => (nomatch h)⟩
  written := fun _ hended => absurd rfl hended
  resolved := fun _ hwait => (nomatch hwait)
  drained := by
    intro _ stream hpoint
    cases stream <;> cases hpoint
  decoded := fun _ htexts => (nomatch htexts)

/-- A channel that goes on leaves a process sound. -/
theorem Sound.replace (h : Sound encoding out err supervision) {stream : Stream}
    {channel : Channel} (hchannel : channel.Sound (stream.pick out err))
    (hwritten : (supervision.channel stream).unwritten = [] → channel.unwritten = [])
    (hdrained : supervision.wait.isCalm = true → channel.loop.point = .closed .endOfFile →
      channel.pipe = [] ∧ channel.unwritten = [])
    (hended : ¬ (supervision.channel stream).loop.IsOpen →
      ¬ channel.loop.IsOpen ∧
        channel.loop.drainer.sink = (supervision.channel stream).loop.drainer.sink) :
    Sound encoding out err (supervision.setChannel stream channel) where
  channels := by
    intro other
    rw [channel_setChannel]
    split
    · rename_i heq
      rw [heq]
      exact hchannel
    · exact h.channels other
  written := by
    intro hcalm hend other
    rw [wait_setChannel] at hcalm
    rw [ended_setChannel] at hend
    rw [channel_setChannel]
    split
    · exact hwritten (h.written hcalm hend stream)
    · exact h.written hcalm hend other
  resolved := by simpa using h.resolved
  drained := by
    intro hcalm other
    rw [wait_setChannel] at hcalm
    rw [channel_setChannel]
    split
    · exact hdrained hcalm
    · exact h.drained hcalm other
  decoded := by
    intro texts htexts
    rw [texts_setChannel] at htexts
    obtain ⟨hpending, hfailed, hall⟩ := h.decoded texts htexts
    rw [wait_setChannel]
    refine ⟨hpending, hfailed, fun other => ?_⟩
    rw [channel_setChannel]
    split
    · rename_i heq
      subst heq
      obtain ⟨hclosed, htext⟩ := hall other
      -- A drainer at its end keeps what it has gathered, so the text is still that of its sink.
      obtain ⟨hstill, hsink⟩ := hended hclosed
      exact ⟨hstill, by rw [hsink]; exact htext⟩
    · exact hall other

/-- A drainer whose read has come back with nothing leaves a process sound. -/
theorem Sound.receive (h : Sound encoding out err supervision) {stream : Stream} {since : Nat}
    (hpoint : (supervision.channel stream).loop.point = .awaiting since) {result : ReadResult}
    (hnothing : ReadResult.gathered [result] = [])
    (hkept : result ≠ .panicked)
    (hend : result = .endOfFile → supervision.wait.isCalm = true →
      (supervision.channel stream).pipe = [] ∧ (supervision.channel stream).unwritten = []) :
    Sound encoding out err
      (supervision.setChannel stream ((supervision.channel stream).receive result)) := by
  refine h.replace ((h.channels stream).receive hpoint hnothing hkept) id ?_ ?_
  · intro hcalm hclosed
    have hresult : result = .endOfFile := by
      cases result <;>
        simp [Channel.receive, Drainer.Loop.receive, Drainer.Closing.ofRead?] at hclosed ⊢
    exact hend hresult hcalm
  · intro hclosed
    exact absurd (by simp [Drainer.Loop.IsOpen, hpoint]) hclosed

/-- A wait that is over without telling how the process ended leaves a process sound. -/
theorem Sound.abandon (h : Sound encoding out err supervision)
    (hwait : supervision.wait = .pending) {wait : Wait} (hover : wait.isCalm = false) :
    Sound encoding out err { supervision with wait := wait } := by
  have hnot : wait.isCalm ≠ true := by simp [hover]
  exact ⟨h.channels, fun hcalm => absurd hcalm hnot,
    fun _ _ hcalm => absurd hcalm hnot, fun hcalm => absurd hcalm hnot,
    fun texts htexts => absurd hwait (h.decoded texts htexts).1⟩

/-- Every step leaves a process sound. -/
theorem Sound.step (h : Sound encoding out err supervision)
    (hstep : Step capacity encoding supervision next) : Sound encoding out err next := by
  cases hstep with
  | write stream count hrunning hsome hroom =>
      refine h.replace ((h.channels stream).write count) (fun hwritten => ?_) ?_
        fun hclosed => ⟨hclosed, rfl⟩
      · simp [Channel.write, hwritten]
      · intro hcalm hclosed
        have hwritten := (h.drained hcalm stream hclosed).2
        rw [hwritten, List.length_nil] at hsome
        omega
  | finish ending hrunning hout herr =>
      refine ⟨h.channels, fun _ _ stream => ?_, fun other hwait hcalm => ?_, h.drained,
        h.decoded⟩
      · cases stream
        · exact hout
        · exact herr
      · have hended := h.resolved other hwait hcalm
        rw [hrunning] at hended
        cases hended
  | close stream hrunning hopen hwritten =>
      have hchannel := h.channels stream
      exact h.replace ⟨hchannel.conserved, fun _ => hwritten, hchannel.live⟩ id
        (fun hcalm => h.drained hcalm stream) fun hclosed => ⟨hclosed, rfl⟩
  | read stream since count hpoint hsome hsize =>
      refine h.replace ((h.channels stream).read hpoint count) id ?_ ?_
      · intro _ hclosed
        cases hclosed
      · intro hclosed
        exact absurd (by simp [Drainer.Loop.IsOpen, hpoint]) hclosed
  | disturb stream since result hpoint hresult =>
      rcases hresult with rfl | ⟨message, rfl⟩
      · exact h.receive hpoint rfl (by simp) (by simp)
      · exact h.receive hpoint rfl (by simp) (by simp)
  | endOfFile stream since hpoint hempty hended =>
      refine h.receive hpoint rfl (by simp) fun _ hcalm => ⟨hempty, ?_⟩
      rcases hended with hended | hclosed
      · exact h.written hcalm hended stream
      · exact (h.channels stream).closed hclosed
  | drain stream following hstep =>
      have hkeeps := hstep.keeps
      refine h.replace ((h.channels stream).drain hkeeps) id ?_ fun hclosed =>
        absurd hkeeps.wasOpen hclosed
      intro _ hclosed
      rcases hkeeps.point _ hclosed with hidle | hidle <;> cases hidle
  | resolve ending hwait hended =>
      have hcalm : supervision.wait.isCalm = true := by rw [hwait]; rfl
      refine ⟨h.channels, fun _ => h.written hcalm, ?_, fun _ => h.drained hcalm,
        fun texts htexts => absurd hwait (h.decoded texts htexts).1⟩
      rintro other ⟨⟩ _
      exact hended
  | fail message hwait => exact h.abandon hwait rfl
  | expire hwait => exact h.abandon hwait rfl
  | kill ending hrunning hwait =>
      -- A wait that told how the process ended leaves nothing to kill.
      have hnot : supervision.wait.isCalm ≠ true := by
        intro hcalm
        cases hvalue : supervision.wait with
        | pending => exact hwait hvalue
        | overdue => rw [hvalue] at hcalm; cases hcalm
        | resolved other =>
            have hended := h.resolved other hvalue hcalm
            rw [hrunning] at hended
            cases hended
      exact ⟨h.channels, fun hcalm => absurd hcalm hnot, fun _ _ hcalm => absurd hcalm hnot,
        fun hcalm => absurd hcalm hnot, h.decoded⟩
  | stop stream hwait hunsent =>
      have hchannel := h.channels stream
      exact h.replace ⟨hchannel.conserved, hchannel.closed, hchannel.live⟩ id
        (fun hcalm => h.drained hcalm stream) fun hclosed => ⟨hclosed, rfl⟩
  | decode closing closingErr hwait hfailed hnew hsent hout herr =>
      refine ⟨h.channels, h.written, h.resolved, h.drained, ?_⟩
      rintro texts ⟨⟩
      refine ⟨hwait, hfailed, fun stream => ?_⟩
      cases stream
      · exact ⟨fun hopen => hopen closing hout, rfl⟩
      · exact ⟨fun hopen => hopen closingErr herr, rfl⟩

/-- The wait of a calm process is calm. -/
theorem wait_of_calm (hcalm : supervision.isCalm = true) : supervision.wait.isCalm = true := by
  simp only [isCalm, Bool.and_eq_true] at hcalm
  exact hcalm.1.1

/-- A drainer of a calm process comes to its end with the end of the file. -/
theorem endOfFile_of_calm (hcalm : supervision.isCalm = true) {stream : Stream}
    {closing : Drainer.Closing}
    (hclosed : (supervision.channel stream).loop.point = .closed closing) :
    closing = .endOfFile := by
  simp only [isCalm, Bool.and_eq_true] at hcalm
  have hpoint : (supervision.channel stream).loop.point.isCalm = true := by
    cases stream
    · exact hcalm.1.2
    · exact hcalm.2
  rw [hclosed] at hpoint
  exact eq_of_beq hpoint

/-- A drainer that has met the end of the file has gathered the whole stream. -/
theorem Sound.gathered (h : Sound encoding out err supervision)
    (hcalm : supervision.wait.isCalm = true) {stream : Stream}
    (hclosed : (supervision.channel stream).loop.point = .closed .endOfFile) :
    (supervision.channel stream).loop.drainer.sink.octets = stream.pick out err := by
  obtain ⟨hpipe, hunwritten⟩ := h.drained hcalm stream hclosed
  have hconserved := (h.channels stream).conserved
  rw [hpipe, hunwritten] at hconserved
  simpa using hconserved

/-- An output is known when the wait has told how the process ended and the texts are known. -/
theorem output?_eq_some {output : Output} :
    supervision.output? = some output ↔
      ∃ ending, supervision.wait = .resolved ending ∧
        supervision.texts = some (output.stdout, output.stderr) ∧
        Execution.exitCode ending = .ok output.exitCode := by
  cases hwait : supervision.wait with
  | pending | overdue => simp [output?, hwait]
  | resolved ending =>
      cases htexts : supervision.texts with
      | none => simp [output?, hwait, htexts]
      | some texts =>
          cases hcode : Execution.exitCode ending with
          | error message => simp [output?, hwait, htexts, hcode, Except.toOption]
          | ok code =>
              obtain ⟨stdout, stderr⟩ := texts
              obtain ⟨exitCode, outText, errText⟩ := output
              simp [output?, hwait, htexts, hcode, Except.toOption, and_comm, and_left_comm]

/-- When the texts of a calm process are known, both drainers have met the end of the file. -/
theorem Sound.closed (h : Sound encoding out err supervision) (hcalm : supervision.isCalm = true)
    {texts : String × String} (htexts : supervision.texts = some texts) (stream : Stream) :
    (supervision.channel stream).loop.point = .closed .endOfFile := by
  obtain ⟨_, _, hall⟩ := h.decoded texts htexts
  obtain ⟨closing, hclosed⟩ := Drainer.Loop.not_isOpen.1 (hall stream).1
  exact endOfFile_of_calm hcalm hclosed ▸ hclosed

/-- The output of a calm process is the whole of both streams, with the exit code that its end
yields. -/
theorem Sound.output (h : Sound encoding out err supervision) (hcalm : supervision.isCalm = true)
    {output : Output} (hknown : supervision.output? = some output) :
    output.stdout = encoding.decode out ∧ output.stderr = encoding.decode err ∧
      ∃ ending, supervision.ended = some ending ∧
        Execution.exitCode ending = .ok output.exitCode := by
  obtain ⟨ending, hwait, htexts, hcode⟩ := output?_eq_some.1 hknown
  have hwaited := wait_of_calm hcalm
  have htext : ∀ stream : Stream, stream.pick output.stdout output.stderr =
      encoding.decode (stream.pick out err) := by
    intro stream
    obtain ⟨_, _, hall⟩ := h.decoded _ htexts
    rw [(hall stream).2, h.gathered hwaited (h.closed hcalm htexts stream)]
  exact ⟨htext .stdout, htext .stderr, ending, h.resolved ending hwait hwaited, hcode⟩

/-- Every state that a process can get into is sound. -/
theorem Reached.sound (h : Reached capacity encoding out err supervision) :
    Sound encoding out err supervision := by
  induction h with
  | start => exact sound_start
  | step _ hstep ih => exact ih.step hstep

end Supervision

end Runbook
