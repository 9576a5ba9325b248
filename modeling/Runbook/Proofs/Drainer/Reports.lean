import Runbook.Proofs.Drainer.Runs

/-!
# What a drainer reports

A drainer is silent until it comes to its end, and then it reports which end that was. `Reports`
lists the ends with their texts, and tells which of them are reported without an order to stop.
Whatever a drainer on a clock hands back is what some run of it has gathered and reported
(`served_drain`).
-/

namespace Runbook.Drainer

/-- What a drainer of a stream reports at its end, in view of what it has gathered, and whether it
does so without the order to stop. -/
inductive Reports (stream : String) (octets : List UInt8) : Bool → List Event → Prop
  | endOfFile :
      Reports stream octets true
        [⟨.debug, .drainer, "stream reached EOF",
          [("stream", stream), ("bytes", toString octets.length)]⟩]
  | failed (message : String) :
      Reports stream octets true
        [⟨.warn, .drainer, "failed to drain process stream",
          [("stream", stream), ("error", message)]⟩]
  /-- The reader has broken down, and nothing that it has gathered is left. -/
  | lost (hnothing : octets = []) :
      Reports stream octets false
        [⟨.warn, .drainer, "stream drainer task failed", [("stream", stream)]⟩]
  /-- The flush is over, of which the first of two events may tell the reason. -/
  | flushed (reason : List Event) (count : Nat)
      (hreason : reason = [] ∨
        reason = [⟨.debug, .drainer, "no more output within flush window",
          [("stream", stream)]⟩] ∨
        ∃ message, reason = [⟨.warn, .drainer, "failed to flush process stream",
          [("stream", stream), ("error", message)]⟩])
      (hcount : count ≤ octets.length) :
      Reports stream octets false
        (reason ++ [⟨.debug, .drainer, "stream drainer finished",
          [("stream", stream), ("flushed", toString count),
            ("total", toString octets.length)]⟩])

/-- A drainer of a stream that has reported nothing. -/
structure Silent (stream : String) (drainer : Drainer) : Prop where
  stream : drainer.stream = stream
  events : drainer.events = []

namespace Silent

variable {stream : String} {drainer : Drainer} (h : drainer.Silent stream) {result : ReadResult}
  {closing : Closing} {began gathered now stopAt : Nat} {arrivals : List Arrival}

include h

/-- A read that ends nothing is not reported. -/
theorem receive (hharmless : Closing.ofRead? result = none) :
    (drainer.receive result).Silent stream := by
  cases result with
  | data | interrupted => exact ⟨h.stream, h.events⟩
  | endOfFile | failed | panicked => cases hharmless

/-- The order to stop is not reported. -/
theorem stop (now : Nat) : (drainer.stop now).Silent stream := by
  unfold Drainer.stop
  split <;> exact ⟨h.stream, h.events⟩

/-- A read that ends a drainer in its main loop is reported at once, unless the reader is lost. -/
theorem reports_receive (hphase : drainer.phase = .reading)
    (hclosing : Closing.ofRead? result = some closing) :
    Reports stream (drainer.receive result).sink.octets (closing != .lost)
      (drainer.receive result).events := by
  cases result with
  | data | interrupted => cases hclosing
  | endOfFile =>
      cases hclosing
      rw [Drainer.receive, sink_meetEnd]
      simp only [meetEnd, finish, report, hphase, h.stream, h.events]
      exact .endOfFile
  | failed message =>
      cases hclosing
      rw [Drainer.receive, sink_meetError]
      simp only [meetError, finish, report, hphase, h.stream, h.events]
      exact .failed message
  | panicked =>
      cases hclosing
      simp only [Drainer.receive, breakDown, report, h.stream, h.events]
      exact .lost rfl

section flushing

variable (hphase : drainer.phase = .flushing began gathered)

include hphase

/-- The end of a flush without a reason. -/
theorem reports_finish :
    Reports stream drainer.finish.sink.octets false drainer.finish.events := by
  rw [sink_finish]
  simp only [finish, report, hphase, h.stream, h.events]
  exact .flushed [] _ (.inl rfl) (Nat.sub_le _ gathered)

/-- The end of a flush whose read has waited in vain. -/
theorem reports_giveUp :
    Reports stream drainer.giveUp.sink.octets false drainer.giveUp.events := by
  rw [sink_giveUp]
  simp only [giveUp, finish, report, hphase, h.stream, h.events]
  exact .flushed [_] _ (.inr (.inl rfl)) (Nat.sub_le _ gathered)

/-- The end of a flush by a read. -/
theorem reports_flushed (hclosing : Closing.ofRead? result = some closing) :
    Reports stream (drainer.receive result).sink.octets false (drainer.receive result).events := by
  cases result with
  | data | interrupted => cases hclosing
  | endOfFile =>
      simp only [Drainer.receive, meetEnd, hphase]
      exact h.reports_finish hphase
  | failed message =>
      rw [Drainer.receive, sink_meetError]
      simp only [meetError, finish, report, hphase, h.stream, h.events]
      exact .flushed [_] _ (.inr (.inr ⟨message, rfl⟩)) (Nat.sub_le _ gathered)
  | panicked =>
      simp only [Drainer.receive, breakDown, report, h.stream, h.events]
      exact .lost rfl

/-- The end of a flush on a clock. -/
theorem reports_flush :
    Reports stream (flush drainer now arrivals).1.sink.octets false
      (flush drainer now arrivals).1.events := by
  induction arrivals generalizing drainer now with
  | nil =>
      -- Nothing arrives any more, and a read waits for it in vain if there is time to start one.
      simp only [flush, hphase]
      split
      · exact h.reports_giveUp hphase
      · exact h.reports_finish hphase
  | cons arrival rest ih =>
      simp only [flush, hphase]
      split
      · split
        · cases hresult : Closing.ofRead? arrival.result with
          | none =>
              exact ih (h.receive hresult) ((phase_receive_of_harmless hresult).trans hphase)
          | some closing =>
              rw [flush_of_ended (phase_receive_of_closing hresult)]
              exact h.reports_flushed hphase hresult
        · exact h.reports_giveUp hphase
      · exact h.reports_finish hphase

end flushing

/-- The end of a drainer on a clock. It is reported without the order to stop exactly if a read that
comes before the order ends the drainer, unless that read loses the reader. -/
theorem reports_serve (hphase : drainer.phase = .reading) (hnow : now < stopAt ∨ stopAt = 0) :
    Reports stream (serve drainer now stopAt arrivals).1.sink.octets
      ((endsBefore? stopAt arrivals).any (· != .lost))
      (serve drainer now stopAt arrivals).1.events := by
  induction arrivals generalizing drainer now with
  | nil => exact (h.stop stopAt).reports_flush (phase_stop hphase)
  | cons arrival rest ih =>
      simp only [serve, hphase]
      split
      · -- The clock never falls behind an arrival, so that an early one comes before the order.
        rename_i hearly
        rw [endsBefore?_of_early (by omega)]
        cases hresult : Closing.ofRead? arrival.result with
        | none =>
            exact ih (h.receive hresult) ((phase_receive_of_harmless hresult).trans hphase)
              (.inl hearly)
        | some closing =>
            rw [serve_of_ended (phase_receive_of_closing hresult)]
            exact h.reports_receive hphase hresult
      · rename_i hlate
        rw [endsBefore?_of_late (by omega)]
        exact (h.stop stopAt).reports_flush (phase_stop hphase)

end Silent

/-- What a drainer of a source hands back comes from a run of it that has consumed a part of the
source, that has been told to stop and has come to its end, and it reports that end. -/
structure Served (stream : String) (arrivals : List Arrival) (back : HandBack) : Prop where
  run : ∃ reads closing loop, Loop.Reached stream reads loop ∧
    reads <+: arrivals.map Arrival.result ∧ loop.stopSent = true ∧ loop.point = .closed closing ∧
    loop.drainer.sink.octets = back.octets ∧ loop.drainer.events = back.events
  reports : Reports stream back.octets back.isUnasked back.events

/-- What a drainer on a clock hands back, whatever its source does and whenever it is told to stop.
-/
theorem served_drain (stream : String) (arrivals : List Arrival) (stopAt : Nat) :
    Served stream arrivals (drain stream arrivals stopAt) where
  run := by
    obtain ⟨reads, closing, loop, hleads, hpart, hclosed, hdrainer, _⟩ :=
      closes_drain stream arrivals stopAt
    -- The order is given in any case. It does nothing to a drainer that has met its end by then.
    have hreached := (Loop.reached_iff_leads.2 hleads).send
    refine ⟨reads, closing, loop.send, hreached, hpart, rfl, hclosed, ?_, ?_⟩
    · exact congrArg (fun drainer => drainer.sink.octets) hdrainer
    · exact congrArg Drainer.events hdrainer
  reports := by
    have hsilent : Silent stream { stream := stream } := ⟨rfl, rfl⟩
    exact hsilent.reports_serve rfl (Nat.eq_zero_or_pos stopAt).symm

end Runbook.Drainer
