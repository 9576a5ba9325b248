import Runbook.Proofs.Process.Replay

/-!
# Drainers serve as long as the process is waited for

While a supervisor waits for its process, both drainers serve their pipes, so that a process which
has filled a pipe finds its reader able to go on. Both of them are told to stop when the wait is
over, and nothing that they have gathered is decoded, logged or returned before they have handed it
back. The main theorem is `Reached.serves_until_over`.
-/

namespace Runbook

namespace Watch

variable {pending : Pending} {capacity : Nat} {out err : List UInt8} {watch next : Watch}
  {stream : Stream}

section relief

/-- A process that is blocked in a write: it has more to write to a full pipe, and there is a reader
at the other end. Without one the write is refused instead. -/
structure Blocked (capacity : Nat) (stream : Stream) (watch : Watch) : Prop where
  running : watch.process.ended = none
  more : (watch.process.channel stream).unwritten ≠ []
  full : (watch.process.channel stream).pipe.length = capacity
  reader : (watch.process.channel stream).loop.IsOpen

/-- A drainer takes octets from its pipe, which is not empty: any number of them that one read can
take, and then the process can write again. -/
def Relieves (pending : Pending) (capacity : Nat) (stream : Stream) (watch : Watch) : Prop :=
  (watch.process.channel stream).pipe ≠ [] ∧
  ∀ count, 0 < count ∧ count ≤ (watch.process.channel stream).pipe.length → count ≤ readSize →
    let relieved := watch.setChannel stream ((watch.process.channel stream).read count)
    Step pending capacity watch relieved ∧
    Step pending capacity relieved
      (relieved.setChannel stream ((relieved.process.channel stream).write 1))

/-- A drainer starts a read. -/
def startRead (watch : Watch) (stream : Stream) : Watch :=
  watch.setChannel stream
    { watch.process.channel stream with
      loop :=
        { (watch.process.channel stream).loop with
          point := .awaiting (watch.process.channel stream).loop.clock } }

/-- A drainer in a read relieves a process that is blocked. -/
theorem Blocked.relieves_of_awaiting (h : watch.Blocked capacity stream) (hcapacity : 1 ≤ capacity)
    {since : Nat} (hpoint : (watch.process.channel stream).loop.point = .awaiting since) :
    watch.Relieves pending capacity stream := by
  have hfull := h.full
  refine ⟨fun hempty => ?_, fun count hsome hsize => ⟨?_, ?_⟩⟩
  · rw [hempty, List.length_nil] at hfull
    omega
  · exact .of_channel (.read _ stream since count hpoint hsome hsize) rfl
  · -- The read has made room for at least one octet.
    have hlength := List.length_pos_iff.2 h.more
    refine .of_channel (.write _ stream 1 ?_ ?_ ?_) rfl
    · rw [ended_setChannel]
      exact h.running
    · rw [channel_setChannel_self]
      exact ⟨Nat.one_pos, hlength⟩
    · rw [channel_setChannel_self]
      simp only [Channel.read, List.length_drop]
      omega

/-- A process is still blocked when its drainer has started a read. -/
theorem Blocked.startRead (h : watch.Blocked capacity stream) :
    (watch.startRead stream).Blocked capacity stream where
  running := (ended_setChannel _).trans h.running
  more := by
    rw [Watch.startRead, channel_setChannel_self]
    exact h.more
  full := by
    rw [Watch.startRead, channel_setChannel_self]
    exact h.full
  reader := by
    rw [Watch.startRead, channel_setChannel_self]
    exact nofun

/-- A process that is blocked finds its drainer in a read or able to start one, as long as the
drainer serves. -/
theorem Blocked.relieved (h : watch.Blocked capacity stream) (hcapacity : 1 ≤ capacity)
    (hunsent : (watch.process.channel stream).loop.stopSent = false)
    (hserving : (watch.process.channel stream).loop.Serving) :
    watch.Relieves pending capacity stream ∨
      Step pending capacity watch (watch.startRead stream) ∧
        (watch.startRead stream).Relieves pending capacity stream := by
  cases hpoint : (watch.process.channel stream).loop.point with
  | between =>
      right
      have hphase := hserving.phase h.reader
      refine ⟨.of_channel (.drain _ stream _ (.read _ hpoint hphase hunsent)) rfl, ?_⟩
      have hawaiting : ((watch.startRead stream).process.channel stream).loop.point =
          .awaiting (watch.process.channel stream).loop.clock := by
        rw [Watch.startRead, channel_setChannel_self]
      exact h.startRead.relieves_of_awaiting hcapacity hawaiting
  | awaiting since => exact .inl (h.relieves_of_awaiting hcapacity hpoint)
  | closed closing => exact absurd hpoint (h.reader closing)

end relief

section orders

/-- A bound on the points that are still to come. -/
@[simp] def Point.remaining : Point → Nat
  | .waiting => 5
  | .killing => 4
  | .joining => 3
  | .decoded _ _ => 2
  | .shown _ _ => 1
  | .returned _ => 0

/-- How many drainers have not handed back yet. -/
@[simp] def missing (taken : Taken) : Nat :=
  taken.stdout.isNone.toNat + taken.stderr.isNone.toNat

/-- A bound on the steps that can be taken before the next idle one. -/
def remaining (watch : Watch) : Nat :=
  watch.process.remaining + watch.point.remaining + missing watch.taken

/-- What one more drainer hands back is no longer missing. -/
theorem missing_add {taken : Taken} (octets : List UInt8) (hnew : taken.of stream = none) :
    missing (taken.add stream octets) < missing taken := by
  cases stream with
  | stdout =>
      have hout : taken.stdout = none := hnew
      simp [Taken.add, hout]
  | stderr =>
      have herr : taken.stderr = none := hnew
      simp [Taken.add, herr]

/-- Less to do for the process is less to do for the supervisor. -/
theorem remaining_lt_of_process (hpoint : next.point = watch.point)
    (htaken : next.taken = watch.taken)
    (hless : next.process.remaining < watch.process.remaining) :
    next.remaining < watch.remaining := by
  rw [remaining, remaining, hpoint, htaken]
  omega

/-- A later point of the program leaves less to do, if there is no more to do for the process. -/
theorem remaining_lt_of_point (hout : next.process.stdout = watch.process.stdout)
    (herr : next.process.stderr = watch.process.stderr)
    (hown : next.process.ownRemaining ≤ watch.process.ownRemaining)
    (htaken : next.taken = watch.taken) (hless : next.point.remaining < watch.point.remaining) :
    next.remaining < watch.remaining := by
  rw [remaining, remaining, Supervision.remaining, Supervision.remaining, hout, herr, htaken]
  omega

/-- The end of a wait leaves less to do. -/
theorem remaining_conclude_lt {wait : Wait} {point : Point} (hover : wait ≠ .pending)
    (hless : point.remaining < watch.point.remaining) :
    (watch.conclude wait point).remaining < watch.remaining := by
  refine remaining_lt_of_point rfl rfl ?_ rfl hless
  have hknown : (wait == .pending) = false := beq_false_of_ne hover
  simp [conclude, Supervision.ownRemaining, hknown]

/-- A drainer that is told to stop leaves less to do. -/
theorem remaining_order_lt (hunsent : (watch.process.channel stream).loop.stopSent = false) :
    (watch.setChannel stream
      { watch.process.channel stream with
        loop := (watch.process.channel stream).loop.send }).remaining < watch.remaining :=
  remaining_lt_of_process rfl rfl (Supervision.remaining_setChannel_lt
    (Channel.remaining_loop (by simp [Drainer.Loop.send, hunsent])))

/-- After an idle step there is as much to do as before. -/
theorem Idle.remaining_le (hidle : Idle watch next) : watch.remaining ≤ next.remaining := by
  cases hidle with
  | around following hidle =>
      have hprocess := hidle.remaining_le
      simp only [remaining]
      omega
  | interrupted => exact Nat.le_refl _

/-- Every step is idle or leaves less to do. -/
theorem Step.idle_or_remaining_lt (hstep : Step pending capacity watch next) :
    Idle watch next ∨ next.remaining < watch.remaining := by
  cases hstep with
  | around following hstep hapart =>
      rcases hstep.idle_or_remaining_lt with hidle | hless
      · exact .inl (.around watch following hidle)
      · exact .inr (remaining_lt_of_process rfl rfl hless)
  | interrupted hpoint => exact .inl (.interrupted watch)
  | exit ending code hpoint hended hcode =>
      exact .inr (remaining_conclude_lt nofun (by simp [hpoint]))
  | fail message hpoint => exact .inr (remaining_conclude_lt nofun (by simp [hpoint]))
  | expire hpoint hlimited =>
      have hless : (watch.conclude .overdue .killing).remaining < watch.remaining :=
        remaining_conclude_lt nofun (by simp [hpoint])
      exact .inr hless
  | order stream hpoint hunsent => exact .inr (remaining_order_lt hunsent)
  | take stream closing hpoint hnew hsent hclosed =>
      right
      have hless := missing_add (watch.process.channel stream).loop.drainer.sink.octets hnew
      simp only [remaining]
      omega
  | decode outOctets errOctets hpoint htaken hfailed =>
      exact .inr (remaining_lt_of_point rfl rfl (by simp [Supervision.ownRemaining]) rfl
        (by simp [hpoint]))
  | killed hpoint | unkilled fault hpoint | abandon outOctets errOctets message hpoint
  | display outText errText hpoint | finish outText errText ending code elapsed hpoint
  | giveUp outText errText hpoint =>
      exact .inr (remaining_lt_of_point rfl rfl (Nat.le_refl _) rfl (by simp [hpoint]))

/-- What leaves less to do is not idle. -/
theorem not_idle_of_remaining_lt (hless : next.remaining < watch.remaining) :
    ¬ Idle watch next :=
  fun hidle => Nat.not_lt_of_le hidle.remaining_le hless

/-- A wait that is over stays over. -/
theorem Step.over (hstep : Step pending capacity watch next)
    (hover : watch.process.wait ≠ .pending) : next.process.wait ≠ .pending := by
  cases hstep with
  | around following hstep hapart =>
      rw [hapart.wait]
      exact hover
  | exit | fail | expire => exact nofun
  | order stream hpoint hunsent =>
      rw [setChannel, Supervision.wait_setChannel]
      exact hover
  | interrupted | killed | unkilled | take | decode | abandon | display | finish | giveUp =>
      exact hover

/-- Both drainers have been told to stop before both have handed back. -/
theorem Orderly.ordered_of_taken (h : watch.Orderly pending capacity out err)
    {outOctets errOctets : List UInt8} (htaken : watch.taken = ⟨some outOctets, some errOctets⟩)
    (stream : Stream) : (watch.process.channel stream).loop.stopSent = true := by
  cases stream with
  | stdout => exact (h.held .stdout outOctets (by rw [htaken]; rfl)).ordered
  | stderr => exact (h.held .stderr errOctets (by rw [htaken]; rfl)).ordered

/-- While the wait is pending, no drainer has been told to stop. -/
theorem Orderly.unordered (h : watch.Orderly pending capacity out err)
    (hwait : watch.process.wait = .pending) : watch.Unordered := by
  have hstands := h.stands
  cases hpoint : watch.point with
  | waiting =>
      simp only [Stands, hpoint] at hstands
      exact hstands.2.1
  | killing | joining | decoded | shown | returned =>
      simp only [Stands, hpoint] at hstands
      exact absurd hwait hstands.1

/-- When the wait is over, there is a step towards the order to stop as long as it is missing. -/
theorem Orderly.moves (h : watch.Orderly pending capacity out err)
    (hover : watch.process.wait ≠ .pending)
    (hmissing : ¬ ∀ stream, (watch.process.channel stream).loop.stopSent = true) :
    ∃ next, Step pending capacity watch next ∧ ¬ Idle watch next := by
  have hstands := h.stands
  have hdone : ∀ outOctets errOctets, watch.taken ≠ ⟨some outOctets, some errOctets⟩ :=
    fun _ _ htaken => hmissing (h.ordered_of_taken htaken)
  cases hpoint : watch.point with
  | waiting =>
      simp only [Stands, hpoint] at hstands
      exact absurd hstands.1 hover
  | killing =>
      -- The supervisor goes on when the process has ended, which the kill brings about.
      cases hended : watch.process.ended with
      | none =>
          have hkill : Step pending capacity watch
              { watch with process := { watch.process with ended := some (.signalled 9) } } :=
            .around watch _ (.kill watch.process (.signalled 9) hended hover)
              ⟨rfl, rfl, fun stream => by cases stream <;> rfl⟩
          exact ⟨_, hkill, not_idle_of_remaining_lt (remaining_lt_of_process rfl rfl
            (Supervision.remaining_lt_of_own rfl rfl (by simp [Supervision.ownRemaining, hended])))⟩
      | some ending =>
          exact ⟨_, .killed watch hpoint (by simp [hended]), not_idle_of_remaining_lt
            (remaining_lt_of_point rfl rfl (Nat.le_refl _) rfl (by simp [hpoint]))⟩
  | joining =>
      obtain ⟨stream, hunsent⟩ := Classical.not_forall.1 hmissing
      rw [Bool.not_eq_true] at hunsent
      exact ⟨_, .order watch stream hpoint hunsent,
        not_idle_of_remaining_lt (remaining_order_lt hunsent)⟩
  | decoded outText errText =>
      simp only [Stands, hpoint] at hstands
      obtain ⟨_, outOctets, errOctets, htaken, _⟩ := hstands
      exact absurd htaken (hdone _ _)
  | shown outText errText =>
      simp only [Stands, hpoint] at hstands
      obtain ⟨_, outOctets, errOctets, htaken, _⟩ := hstands
      exact absurd htaken (hdone _ _)
  | returned result =>
      simp only [Stands, hpoint] at hstands
      obtain ⟨_, outOctets, errOctets, htaken, _⟩ := hstands
      exact absurd htaken (hdone _ _)

/-- When the wait is over, both drainers are told to stop, whatever happens. -/
theorem Reached.ordered (h : Reached pending capacity out err watch)
    (hover : watch.process.wait ≠ .pending) (patience : Nat) :
    Inevitable (Step pending capacity) Idle
      (fun final => ∀ stream, (final.process.channel stream).loop.stopSent = true) patience watch :=
  inevitable_of_remaining
    (fun state => state.Orderly pending capacity out err ∧ state.process.wait ≠ .pending) remaining
    (fun _ _ hinv hstep => ⟨hinv.1.step hstep, hstep.over hinv.2⟩)
    (fun _ _ hstep => hstep.idle_or_remaining_lt)
    (fun _ hinv hmissing => hinv.1.moves hinv.2 hmissing) patience watch ⟨h.orderly, hover⟩

end orders

section returned

/-- As long as a drainer has not handed back, nothing is decoded, logged or returned. -/
theorem Orderly.quiet (h : watch.Orderly pending capacity out err)
    (hmissing : watch.taken.of stream = none) :
    watch.Quiet pending ∧
      (watch.point = .waiting ∨ watch.point = .killing ∨ watch.point = .joining) := by
  have hstands := h.stands
  have hnot : ∀ outOctets errOctets, watch.taken ≠ ⟨some outOctets, some errOctets⟩ := by
    intro outOctets errOctets htaken
    rw [htaken] at hmissing
    cases stream <;> cases hmissing
  cases hpoint : watch.point with
  | waiting =>
      simp only [Stands, hpoint] at hstands
      exact ⟨hstands.2.2, .inl rfl⟩
  | killing =>
      simp only [Stands, hpoint] at hstands
      exact ⟨hstands.2.2, .inr (.inl rfl)⟩
  | joining =>
      simp only [Stands, hpoint] at hstands
      exact ⟨hstands.2, .inr (.inr rfl)⟩
  | decoded outText errText | shown outText errText =>
      simp only [Stands, hpoint] at hstands
      obtain ⟨_, outOctets, errOctets, htaken, _⟩ := hstands
      exact absurd htaken (hnot _ _)
  | returned result =>
      simp only [Stands, hpoint] at hstands
      obtain ⟨_, outOctets, errOctets, htaken, _⟩ := hstands
      exact absurd htaken (hnot _ _)

end returned

/-- Drainers serve the pipes for as long as their process is waited for. In every state that a
supervisor can get into, with pipes of any capacity and everything around it interleaved in any way:
while the wait is pending, no drainer has been told to stop, and each of them is in its main loop or
has met the end of the file or a read error there, and behind the end of the file there is nothing
left to write. So a process that is blocked on a full pipe finds the drainer in a read that can take
something, or able to start one, and it can write again after that. When the wait is over, both
drainers are told to stop, whatever happens. What has been taken from a drainer is what it has
handed back after it was told to stop and had come to its end, and before this is true of both,
nothing is decoded, logged or returned. What is returned in the end is what `execute` returns for
every child that shows the same, and what `execute` returns for a child with pipes is returned at
the end of some run. -/
theorem serves_until_over (pending : Pending) (hargv : pending.argv ≠ []) :
    (∀ capacity out err watch, 1 ≤ capacity → Reached pending capacity out err watch →
      (watch.process.wait = .pending → ∀ stream,
        (watch.process.channel stream).loop.stopSent = false ∧
        (watch.process.channel stream).loop.Serving ∧
        ((watch.process.channel stream).loop.point = .closed .endOfFile →
          (watch.process.channel stream).unwritten = []) ∧
        (watch.Blocked capacity stream →
          watch.Relieves pending capacity stream ∨
          Step pending capacity watch (watch.startRead stream) ∧
            (watch.startRead stream).Relieves pending capacity stream)) ∧
      (watch.process.wait ≠ .pending → ∀ patience,
        Inevitable (Step pending capacity) Idle
          (fun final => ∀ stream, (final.process.channel stream).loop.stopSent = true)
          patience watch) ∧
      watch.Held ∧
      (∀ stream, watch.taken.of stream = none →
        watch.Quiet pending ∧
        (watch.point = .waiting ∨ watch.point = .killing ∨ watch.point = .joining)) ∧
      ∀ result, watch.point = .returned result → ∃ reads readsErr,
        Drainer.Loop.Reached "stdout" reads watch.process.stdout.loop ∧
        Drainer.Loop.Reached "stderr" readsErr watch.process.stderr.loop ∧
        (∃ child, Replays pending watch child reads readsErr) ∧
        ∀ child, Replays pending watch child reads readsErr →
          (execute pending.encoding pending.argv pending.timeout (.started child)).result =
            result) ∧
    ∀ child stdout stderr, child.stdout = some stdout → child.stderr = some stderr →
      (∀ arrival ∈ stdout ++ stderr, arrival.result.IsPiped) →
        ∃ capacity out err watch, 1 ≤ capacity ∧ Reached pending capacity out err watch ∧
          watch.point = .returned
            (execute pending.encoding pending.argv pending.timeout (.started child)).result := by
  refine ⟨fun capacity out err watch hcapacity h => ?_, fun child stdout stderr hstdout hstderr =>
    exists_reached_of_execute hargv hstdout hstderr⟩
  refine ⟨fun hwait stream => ?_, h.ordered, h.orderly.held, fun _ => h.orderly.quiet,
    fun result hpoint => h.returned hpoint hargv⟩
  have hprocess := h.orderly.process
  have hunsent := h.orderly.unordered hwait stream
  have hserving := hprocess.serving stream hunsent
  have hcalm : watch.process.wait.isCalm = true := by
    rw [hwait]
    rfl
  exact ⟨hunsent, hserving, fun hfile => (hprocess.sound.drained hcalm stream hfile).2,
    fun hblocked => hblocked.relieved hcapacity hunsent hserving⟩

/-- A run in which both pipes of a process are full, the one for errors first. -/
theorem reached_full_pipes :
    ∃ watch, Reached Pending.limited 1 [0x61, 0x62] [0x21, 0x3F] watch ∧
      watch.process.wait = .pending ∧ ∀ stream, watch.Blocked 1 stream := by
  have h : Reached Pending.limited 1 [0x61, 0x62] [0x21, 0x3F] _ := .start
  have h := h.step (.of_channel (.write _ .stderr 1 rfl (by decide) (by decide)) rfl)
  have h := h.step (.of_channel (.write _ .stdout 1 rfl (by decide) (by decide)) rfl)
  refine ⟨_, h, rfl, fun stream => ?_⟩
  cases stream with
  | stdout => exact ⟨rfl, by decide, rfl, nofun⟩
  | stderr => exact ⟨rfl, by decide, rfl, nofun⟩

/-- Both drainers can relieve a process that has filled both pipes, and some run ends as the
execution of a process does that can neither be killed nor ends in time. -/
theorem serves_until_over_of_full_pipes :
    Pending.limited.argv ≠ [] ∧
    (∃ watch, Reached Pending.limited 1 [0x61, 0x62] [0x21, 0x3F] watch ∧
      ∀ stream, watch.Blocked 1 stream ∧
        (watch.Relieves Pending.limited 1 stream ∨
          Step Pending.limited 1 watch (watch.startRead stream) ∧
            (watch.startRead stream).Relieves Pending.limited 1 stream)) ∧
    ∃ capacity out err watch, Reached Pending.limited capacity out err watch ∧
      watch.point = .returned (.error (.timeout "sleep 1" "50 ms" "!")) := by
  have hnamed : Pending.limited.argv ≠ [] := by decide
  obtain ⟨hserved, hexecuted⟩ := serves_until_over Pending.limited hnamed
  refine ⟨hnamed, ?_, ?_⟩
  · obtain ⟨watch, hreached, hwait, hblocked⟩ := reached_full_pipes
    obtain ⟨hserved, _⟩ := hserved 1 _ _ watch (by decide) hreached
    refine ⟨watch, hreached, fun stream => ⟨hblocked stream, ?_⟩⟩
    obtain ⟨_, _, _, hrelieved⟩ := hserved hwait stream
    exact hrelieved (hblocked stream)
  · have hpiped : ∀ arrival ∈ ([⟨20, .endOfFile⟩] : List Arrival) ++ [⟨0, .data [0x21]⟩],
        arrival.result.IsPiped := by
      simp [ReadResult.IsPiped, readSize]
    obtain ⟨capacity, out, err, watch, _, hreached, hreturned⟩ :=
      hexecuted Pending.stubbornChild [⟨20, .endOfFile⟩] [⟨0, .data [0x21]⟩] rfl rfl hpiped
    exact ⟨capacity, out, err, watch, hreached, hreturned⟩

end Watch

end Runbook
