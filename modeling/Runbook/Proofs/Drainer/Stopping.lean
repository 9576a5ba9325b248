import Runbook.Proofs.Drainer.Runs

/-!
# Drainers do not depend on the order to stop

What a drainer hands back is what its source delivers, whenever it takes notice of the order to
stop, and it warns exactly of a read error. If a limit cuts its flush, what it hands back is what
the reads have delivered up to then. The main theorem is `handed_back_whenever_stopped`. It is about
every run of a drainer, and about its course on a clock.
-/

namespace Runbook

/-- The octets that a read delivers. -/
def ReadResult.octets : ReadResult → List UInt8
  | .data octets => octets
  | _ => []

/-- Whether a read is an error. -/
def ReadResult.isFault : ReadResult → Bool
  | .failed _ => true
  | .panicked => true
  | _ => false

/-- The number of warnings among events. -/
def warnings (events : List Event) : Nat :=
  events.countP fun event => event.level == .warn

/-- Reads that end nothing deliver their octets one after the other. -/
theorem ReadResult.gathered_eq_flatMap {reads : List ReadResult}
    (hreads : ∀ result ∈ reads, Drainer.Closing.ofRead? result = none) :
    gathered reads = reads.flatMap octets := by
  induction reads with
  | nil => rfl
  | cons result rest ih =>
      rw [List.forall_mem_cons] at hreads
      cases result with
      | data octets => rw [gathered, ih hreads.2, List.flatMap_cons]; rfl
      | interrupted => rw [gathered, ih hreads.2, List.flatMap_cons]; rfl
      | endOfFile | failed | panicked => cases hreads.1

/-- A read that ends nothing is no error. -/
theorem ReadResult.not_fault_of_harmless {result : ReadResult}
    (hharmless : Drainer.Closing.ofRead? result = none) : result.isFault = false := by
  cases result with
  | data | interrupted => rfl
  | endOfFile | failed | panicked => cases hharmless

namespace Drainer

section warnings

variable (drainer : Drainer)

/-- An event counts if it is a warning. -/
@[simp] theorem warnings_report (level : Level) (message : String)
    (fields : List (String × String)) :
    warnings (drainer.report level message fields).events =
      warnings drainer.events + (level == .warn).toNat := by
  cases level <;> simp [report, warnings]

/-- Coming to its end, a drainer warns of nothing. -/
@[simp] theorem warnings_finish : warnings drainer.finish.events = warnings drainer.events := by
  unfold finish
  split
  · exact warnings_report drainer .debug _ _
  · rfl

/-- A drainer warns of each read that is an error. -/
theorem warnings_receive (result : ReadResult) :
    warnings (drainer.receive result).events =
      warnings drainer.events + [result].countP ReadResult.isFault := by
  cases result with
  | data | interrupted => rfl
  | endOfFile =>
      simp only [receive, meetEnd]
      split <;> simp [ReadResult.isFault]
  | failed message =>
      simp only [receive, meetError]
      split <;> simp [ReadResult.isFault]
  | panicked => exact warnings_report drainer .warn _ _

/-- A drainer does not warn of the order to stop. -/
theorem warnings_stop (now : Nat) :
    warnings (drainer.stop now).events = warnings drainer.events := by
  unfold stop
  split <;> rfl

/-- A drainer does not warn of a read that it gives up. -/
theorem warnings_giveUp : warnings drainer.giveUp.events = warnings drainer.events := by
  simp [giveUp]

end warnings

namespace Loop

variable {stream : String} {consumed body : List ReadResult} {last : ReadResult}
  {loop next : Loop} {closing : Closing}

/-- On its own account a drainer warns of nothing. -/
theorem Step.warnings_eq (hstep : Step loop next) :
    warnings next.drainer.events = warnings loop.drainer.events := by
  cases hstep with
  | read | flush | wait => rfl
  | heed => exact warnings_stop _ _
  | expire => exact warnings_finish _
  | giveUp => exact warnings_giveUp _

/-- In every state that a drainer can get into, it has warned of each error that it has read. -/
theorem Reached.warnings_eq (h : Reached stream consumed loop) :
    warnings loop.drainer.events = consumed.countP ReadResult.isFault := by
  induction h with
  | start => rfl
  | step _ hstep ih => rw [hstep.warnings_eq, ih]
  | send _ ih => exact ih
  | receive result _ _ ih => rw [drainer_receive, warnings_receive, ih, List.countP_append]

/-- A drainer that has not consumed the whole of a source has consumed nothing that ends it. -/
theorem harmless_of_prefix (hbody : ∀ result ∈ body, Closing.ofRead? result = none)
    (hpart : consumed <+: body ++ [last]) :
    consumed = body ++ [last] ∨
      consumed <+: body ∧ ∀ result ∈ consumed, Closing.ofRead? result = none := by
  rw [List.prefix_concat_iff] at hpart
  rcases hpart with hwhole | hpart
  · exact .inl hwhole
  · exact .inr ⟨hpart, fun result hmem => hbody result (hpart.subset hmem)⟩

/-- Only a limit of the flush closes a drainer on its own account: a read has waited too long, or
the time is used up. -/
theorem Step.cut (hstep : Step loop next) (hclosed : next.point = .closed closing) :
    ∃ began gathered, loop.drainer.phase = .flushing began gathered ∧
      ((closing = .idle ∧ ∃ since, loop.point = .awaiting since ∧
          loop.clock = since + idleLimit) ∨
        (closing = .overtime ∧ loop.point = .between ∧ began + flushLimit ≤ loop.clock)) := by
  cases hstep with
  | read | heed | flush => cases hclosed
  | expire began gathered hpoint hphase htime =>
      cases hclosed
      exact ⟨began, gathered, hphase, .inr ⟨rfl, hpoint, htime⟩⟩
  | giveUp since began gathered hpoint hphase htime =>
      cases hclosed
      exact ⟨began, gathered, hphase, .inl ⟨rfl, since, hpoint, htime⟩⟩
  | wait since millis hpoint htime =>
      have hstill : loop.point = .closed closing := hclosed
      rw [hpoint] at hstill
      cases hstill

/-- Reads that leave a drainer ready for the next one can be consumed one after the other. -/
theorem leads_all {Ready : Loop → Prop}
    (hread : ∀ loop result, Ready loop → Closing.ofRead? result = none →
      ∃ next, Leads loop [result] next ∧ Ready next)
    (hbody : ∀ result ∈ body, Closing.ofRead? result = none) (hready : Ready loop) :
    ∃ next, Leads loop body next ∧ Ready next := by
  induction body generalizing loop with
  | nil => exact ⟨loop, .start, hready⟩
  | cons result rest ih =>
      rw [List.forall_mem_cons] at hbody
      obtain ⟨middle, hfirst, hmiddle⟩ := hread loop result hready hbody.1
      obtain ⟨next, hrest, hnext⟩ := ih hbody.2 hmiddle
      exact ⟨next, hfirst.trans hrest, hnext⟩

/-- A drainer between two reads that has not been told to stop. -/
structure Reading (loop : Loop) : Prop where
  point : loop.point = .between
  phase : loop.drainer.phase = .reading
  unsent : loop.stopSent = false

/-- A drainer at the begin of its flush or after reads that have taken no time. -/
structure Flushing (loop : Loop) : Prop where
  point : loop.point = .between
  phase : ∃ gathered, loop.drainer.phase = .flushing loop.clock gathered

/-- A drainer that has not been told to stop can consume what ends nothing. -/
theorem Reading.leads (h : loop.Reading) (hbody : ∀ result ∈ body, Closing.ofRead? result = none) :
    ∃ next, Leads loop body next ∧ next.Reading := by
  refine leads_all (fun loop result hready hharmless => ?_) hbody h
  refine ⟨_, leads_read hready.point hready.phase hready.unsent ⟨0, result⟩, ?_⟩
  exact ⟨point_receive_of_harmless hharmless,
    (phase_receive_of_harmless hharmless).trans hready.phase, hready.unsent⟩

/-- A read of a flush that has taken no time. -/
theorem Flushing.leads_read (h : loop.Flushing) (result : ReadResult) :
    Leads loop [result] (loop.receive result) := by
  obtain ⟨gathered, hphase⟩ := h.phase
  have hread := leads_flush h.point hphase (Nat.lt_add_of_pos_right (by decide))
    (show (Arrival.mk 0 result).time ≤ loop.clock + idleLimit from Nat.zero_le _)
  rwa [meet, Nat.max_eq_left (Nat.zero_le _)] at hread

/-- A flush that has taken no time can consume what ends nothing. -/
theorem Flushing.leads (h : loop.Flushing)
    (hbody : ∀ result ∈ body, Closing.ofRead? result = none) :
    ∃ next, Leads loop body next ∧ next.Flushing := by
  refine leads_all (fun loop result hready hharmless => ?_) hbody h
  obtain ⟨gathered, hphase⟩ := hready.phase
  refine ⟨_, hready.leads_read result, point_receive_of_harmless hharmless, gathered, ?_⟩
  exact (phase_receive_of_harmless hharmless).trans hphase

end Loop

/-- What a drainer of a source hands back, given how it came to its end and which reads it has
consumed. Unless a limit has cut its flush, that is everything, and a warning tells of an error at
the end. After a cut it is what the consumed reads have delivered. -/
structure HandsBack (body : List ReadResult) (last : ReadResult) (consumed : List ReadResult)
    (closing : Closing) (octets : List UInt8) (events : List Event) : Prop where
  whole : closing ≠ .idle → closing ≠ .overtime →
    consumed = body ++ [last] ∧ octets = body.flatMap ReadResult.octets ∧
      (last = .endOfFile → warnings events = 0) ∧
      ((∃ message, last = .failed message) → warnings events = 1)
  cut : closing = .idle ∨ closing = .overtime →
    consumed <+: body ∧ octets = consumed.flatMap ReadResult.octets ∧
      octets <+: body.flatMap ReadResult.octets ∧ warnings events = 0

/-- A source: reads that yield data or are interrupted, and a last one that meets the end of the
file or an error. -/
structure Source (body : List ReadResult) (last : ReadResult) : Prop where
  body : ∀ result ∈ body, (∃ octets, result = .data octets) ∨ result = .interrupted
  last : last = .endOfFile ∨ ∃ message, last = .failed message

namespace Source

variable {body : List ReadResult} {last : ReadResult} (hsource : Source body last)

include hsource

/-- No read of a source but the last one ends a drainer. -/
theorem harmless : ∀ result ∈ body, Closing.ofRead? result = none := by
  intro result hmem
  rcases hsource.body result hmem with ⟨octets, rfl⟩ | rfl <;> rfl

/-- The last read of a source ends a drainer as no limit does, and leaves what it has gathered. -/
theorem closing : ∃ closing, Closing.ofRead? last = some closing ∧ closing ≠ .lost ∧
    closing ≠ .idle ∧ closing ≠ .overtime := by
  rcases hsource.last with rfl | ⟨message, rfl⟩
  · exact ⟨.endOfFile, rfl, by decide⟩
  · exact ⟨.failed, rfl, by decide⟩

/-- No read of a source but the last one is an error. -/
theorem faultless : body.countP ReadResult.isFault = 0 :=
  List.countP_eq_zero.2 fun result hmem => by
    simp [ReadResult.not_fault_of_harmless (hsource.harmless result hmem)]

/-- A drainer of a source that has come to its end was cut by a limit, or has consumed the whole
source. -/
theorem consumed_of_closed {stream : String} {consumed : List ReadResult} {loop : Loop}
    {closing : Closing} (h : Loop.Reached stream consumed loop)
    (hpart : consumed <+: body ++ [last]) (hclosed : loop.point = .closed closing) :
    ((closing = .idle ∨ closing = .overtime) ∧ consumed <+: body) ∨
      (consumed = body ++ [last] ∧ Closing.ofRead? last = some closing) := by
  have hsplit := Loop.harmless_of_prefix hsource.harmless hpart
  rcases h.gathering.closed closing hclosed with ⟨hcut, hharmless⟩ | ⟨front, final, rfl, hfinal, _⟩
  · left
    refine ⟨hcut, ?_⟩
    rcases hsplit with rfl | ⟨hbefore, _⟩
    · -- The last read of a source would have ended the drainer.
      obtain ⟨_, hend, _⟩ := hsource.closing
      rw [hharmless last (by simp)] at hend
      cases hend
    · exact hbefore
  · right
    rcases hsplit with hwhole | ⟨_, hharmless⟩
    · obtain ⟨_, hsame⟩ := List.append_inj' hwhole rfl
      refine ⟨hwhole, ?_⟩
      rw [← List.singleton_inj.1 hsame]
      exact hfinal
    · rw [hharmless final (by simp)] at hfinal
      cases hfinal

/-- A drainer of a source hands back what the source delivers. -/
theorem hands_back {stream : String} {consumed : List ReadResult} {loop : Loop}
    {closing : Closing} (h : Loop.Reached stream consumed loop)
    (hpart : consumed <+: body ++ [last]) (hclosed : loop.point = .closed closing) :
    HandsBack body last consumed closing loop.drainer.sink.octets loop.drainer.events := by
  have hwarned := h.warnings_eq
  -- Either the flush has been cut, or the drainer has met the last result.
  rcases hsource.consumed_of_closed h hpart hclosed with ⟨hcut, hbefore⟩ | ⟨rfl, hend⟩
  · have hharmless : ∀ result ∈ consumed, Closing.ofRead? result = none :=
      fun result hmem => hsource.harmless result (hbefore.subset hmem)
    have hoctets : loop.drainer.sink.octets = consumed.flatMap ReadResult.octets := by
      rw [h.gathering.octets (by rcases hcut with rfl | rfl <;> simp [hclosed]),
        ReadResult.gathered_eq_flatMap hharmless]
    refine ⟨fun hidle hover => absurd hcut (by simp [hidle, hover]), fun _ => ?_⟩
    refine ⟨hbefore, hoctets, ?_, ?_⟩
    · obtain ⟨rest, rfl⟩ := hbefore
      rw [hoctets, List.flatMap_append]
      exact List.prefix_append _ _
    · rw [hwarned, ← Nat.le_zero, ← hsource.faultless]
      exact hbefore.sublist.countP_le
  · obtain ⟨_, hsame, hkept, huncut⟩ := hsource.closing
    obtain rfl := Option.some.inj (hend.symm.trans hsame)
    rw [List.countP_append, hsource.faultless] at hwarned
    refine ⟨fun _ _ => ⟨rfl, ?_, ?_, ?_⟩, fun hcut => absurd hcut (by simp [huncut])⟩
    · rw [h.gathering.octets (by simp [hclosed, hkept]),
        ReadResult.gathered_append hsource.harmless, ReadResult.gathered_cons_of_closing [] hend,
        List.append_nil, ReadResult.gathered_eq_flatMap hsource.harmless]
    · rintro rfl
      exact hwarned
    · rintro ⟨message, rfl⟩
      exact hwarned

/-- The order to stop can be noticed in front of every read of a source, and then the run can go on
to an end that no limit has cut. -/
theorem exists_stopped (stream : String) {front rest : List ReadResult}
    (hsplit : body = front ++ rest) :
    ∃ reading stopped final closing,
      Loop.Reached stream front reading ∧ reading.drainer.phase = .reading ∧
      Loop.Step reading stopped ∧ stopped.Flushing ∧ Loop.Leads stopped (rest ++ [last]) final ∧
      final.point = .closed closing ∧ closing ≠ .idle ∧ closing ≠ .overtime := by
  have hharmless := hsource.harmless
  rw [hsplit, List.forall_mem_append] at hharmless
  have hstart : (Loop.start stream).Reading := ⟨rfl, rfl, rfl⟩
  obtain ⟨reading, hreading, hready⟩ := hstart.leads hharmless.1
  let stopped : Loop :=
    { reading.send with drainer := reading.drainer.stop reading.clock, point := .between }
  have hstop : Loop.Step reading.send stopped :=
    .heed reading.send (by simp [Loop.send, hready.point]) hready.phase rfl
  have hflushing : stopped.Flushing := ⟨rfl, _, phase_stop hready.phase⟩
  obtain ⟨flushed, hflushed, hstill⟩ := hflushing.leads hharmless.2
  obtain ⟨closing, hclosing, _, huncut⟩ := hsource.closing
  exact ⟨reading.send, stopped, flushed.receive last, closing,
    (Loop.reached_iff_leads.2 hreading).send, hready.phase, hstop, hflushing,
    hflushed.trans (hstill.leads_read last), Loop.point_receive_of_closing hclosing, huncut⟩

/-- A drainer that is never told to stop can come to the end of a source. -/
theorem exists_unstopped (stream : String) :
    ∃ final closing, Loop.Reached stream (body ++ [last]) final ∧ final.stopSent = false ∧
      final.point = .closed closing := by
  have hstart : (Loop.start stream).Reading := ⟨rfl, rfl, rfl⟩
  obtain ⟨reading, hreading, hready⟩ := hstart.leads hsource.harmless
  obtain ⟨closing, hclosing, _⟩ := hsource.closing
  have hlast := Loop.leads_read hready.point hready.phase hready.unsent ⟨0, last⟩
  exact ⟨_, closing, (Loop.reached_iff_leads.2 hreading).leads hlast, hready.unsent,
    Loop.point_receive_of_closing hclosing⟩

/-- A drainer on a clock hands back what its source delivers, and all of it if its arrivals are
timely. -/
theorem drain_hands_back (stream : String) {arrivals : List Arrival} (stopAt : Nat)
    (harrivals : arrivals.map Arrival.result = body ++ [last]) :
    ∃ consumed closing, consumed <+: body ++ [last] ∧
      HandsBack body last consumed closing (drain stream arrivals stopAt).octets
        (drain stream arrivals stopAt).events ∧
      (Timely stopAt stopAt arrivals → closing ≠ .idle ∧ closing ≠ .overtime) := by
  have hcourse := closes_drain stream arrivals stopAt
  rw [harrivals] at hcourse
  obtain ⟨consumed, closing, final, hleads, hpart, hclosed, hdrainer, hall⟩ := hcourse
  have hreached := Loop.reached_iff_leads.2 hleads
  refine ⟨consumed, closing, hpart, ?_, fun htimely => ?_⟩
  · have hback := hsource.hands_back hreached hpart hclosed
    rw [hdrainer] at hback
    exact hback
  · rcases hsource.consumed_of_closed hreached hpart hclosed with ⟨hcut, hbefore⟩ | ⟨_, hend⟩
    · -- A promise that holds leaves nothing behind a cut, not even the last read.
      have hlength := hbefore.length_le
      rw [hall htimely hcut, List.length_append, List.length_singleton] at hlength
      omega
    · obtain ⟨_, hsame, _, huncut⟩ := hsource.closing
      obtain rfl := Option.some.inj (hend.symm.trans hsame)
      exact huncut

end Source

/-- What a drainer hands back does not depend on the order to stop. Take a source whose reads yield
data or are interrupted up to the last one, which meets the end of the file or an error. Whenever a
drainer of this source takes notice of the order, it hands back all data of the source and has
warned once if the last read was an error, and otherwise never. This holds of every end of its runs
that no limit of the flush has cut. A cut takes a read of the flush that has waited for 100
milliseconds, or 2000 milliseconds since the flush began, and then the drainer hands back what the
consumed reads have delivered, without a warning. There are runs with the order noticed in front of
each read, and one without it. The course of a drainer on a clock is one of these runs, and no limit
cuts it if the arrivals are timely. -/
theorem handed_back_whenever_stopped (stream : String) {body : List ReadResult}
    {last : ReadResult} (hsource : Source body last) :
    (∀ consumed loop closing, Loop.Reached stream consumed loop → consumed <+: body ++ [last] →
      loop.point = .closed closing →
        HandsBack body last consumed closing loop.drainer.sink.octets loop.drainer.events) ∧
    (∀ loop next closing, Loop.Step loop next → next.point = .closed closing →
      ∃ began gathered, loop.drainer.phase = .flushing began gathered ∧
        ((closing = .idle ∧ ∃ since, loop.point = .awaiting since ∧ loop.clock = since + 100) ∨
          (closing = .overtime ∧ loop.point = .between ∧ began + 2000 ≤ loop.clock))) ∧
    (∀ front rest, body = front ++ rest → ∃ reading stopped final closing,
      Loop.Reached stream front reading ∧ reading.drainer.phase = .reading ∧
      Loop.Step reading stopped ∧ stopped.Flushing ∧ Loop.Leads stopped (rest ++ [last]) final ∧
      final.point = .closed closing ∧ closing ≠ .idle ∧ closing ≠ .overtime) ∧
    (∃ final closing, Loop.Reached stream (body ++ [last]) final ∧ final.stopSent = false ∧
      final.point = .closed closing) ∧
    ∀ arrivals stopAt, arrivals.map Arrival.result = body ++ [last] →
      ∃ consumed closing, consumed <+: body ++ [last] ∧
        HandsBack body last consumed closing (drain stream arrivals stopAt).octets
          (drain stream arrivals stopAt).events ∧
        (Timely stopAt stopAt arrivals → closing ≠ .idle ∧ closing ≠ .overtime) :=
  ⟨fun _ _ _ h hpart hclosed => hsource.hands_back h hpart hclosed,
    fun _ _ _ hstep hclosed => hstep.cut hclosed,
    fun _ _ hsplit => hsource.exists_stopped stream hsplit, hsource.exists_unstopped stream,
    fun _ stopAt harrivals => hsource.drain_hands_back stream stopAt harrivals⟩

/-- Arrivals of a source that is interrupted once and ends with an error. -/
def brokenArrivals : List Arrival :=
  [⟨0, .data [0x61, 0x62]⟩, ⟨3, .interrupted⟩, ⟨50, .data [0x63]⟩, ⟨60, .failed "broken pipe"⟩]

/-- Told to stop before the first read or in the middle, a drainer hands back the same three octets
and has warned once. -/
theorem handed_back_with_error :
    Source [.data [0x61, 0x62], .interrupted, .data [0x63]] (.failed "broken pipe") ∧
    (drain "stdout" brokenArrivals 0).octets = [0x61, 0x62, 0x63] ∧
    (drain "stdout" brokenArrivals 10).octets = [0x61, 0x62, 0x63] ∧
    warnings (drain "stdout" brokenArrivals 0).events = 1 ∧
    warnings (drain "stdout" brokenArrivals 10).events = 1 := by
  have hsource : Source [.data [0x61, 0x62], .interrupted, .data [0x63]] (.failed "broken pipe") :=
    ⟨by simp, .inr ⟨_, rfl⟩⟩
  obtain ⟨_, _, _, _, hclock⟩ := handed_back_whenever_stopped "stdout" hsource
  have hstopped : ∀ stopAt,
      (drain "stdout" brokenArrivals stopAt).octets = [0x61, 0x62, 0x63] ∧
        warnings (drain "stdout" brokenArrivals stopAt).events = 1 := by
    intro stopAt
    have htimely : Timely stopAt stopAt brokenArrivals := by
      simp only [brokenArrivals, Timely, idleLimit, flushLimit, and_true]
      refine ⟨?_, ?_, ?_, ?_, ?_, ?_, ?_, ?_⟩ <;> omega
    obtain ⟨_, _, _, hback, huncut⟩ := hclock brokenArrivals stopAt rfl
    obtain ⟨hidle, hover⟩ := huncut htimely
    obtain ⟨_, hoctets, _, hwarned⟩ := hback.whole hidle hover
    exact ⟨hoctets, hwarned ⟨_, rfl⟩⟩
  exact ⟨hsource, (hstopped 0).1, (hstopped 10).1, (hstopped 0).2, (hstopped 10).2⟩

end Drainer

end Runbook
