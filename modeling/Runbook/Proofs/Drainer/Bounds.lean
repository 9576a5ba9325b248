import Runbook.Proofs.Drainer.Stopping

/-!
# Stopping a drainer takes a bounded time

No source can keep a drainer that has been told to stop. In its main loop it completes at most one
further read, and only one in which it already was (`Leads.at_most_one_read`). Its flush starts
reads for 2000 milliseconds and gives every one of them 100 milliseconds, so no state of the flush
is 2100 milliseconds away from its begin (`InTime`). The main theorem is `stopping_is_bounded`.
-/

namespace Runbook.Drainer

namespace Loop

variable {stream : String} {consumed back : List ReadResult} {loop next : Loop} {began gathered : Nat}

section inversion

variable (hstep : Step loop next) (hphase : loop.drainer.phase = .flushing began gathered)

include hstep hphase

/-- Between two reads of its flush a drainer starts another one while there is time, and then it
ends. -/
theorem Step.of_flush_between (hpoint : loop.point = .between) :
    (loop.clock < began + flushLimit ∧ next = { loop with point := .awaiting loop.clock }) ∨
      (began + flushLimit ≤ loop.clock ∧
        next = { loop with drainer := loop.drainer.finish, point := .closed .overtime }) := by
  cases hstep with
  | read _ hreading => simp [hphase] at hreading
  | heed _ hreading => simp [hphase] at hreading
  | flush other _ _ hflushing htime =>
      obtain ⟨rfl, -⟩ := DrainPhase.flushing.inj (hphase.symm.trans hflushing)
      exact .inl ⟨htime, rfl⟩
  | expire other _ _ hflushing htime =>
      obtain ⟨rfl, -⟩ := DrainPhase.flushing.inj (hphase.symm.trans hflushing)
      exact .inr ⟨htime, rfl⟩
  | giveUp _ _ _ hother => simp [hpoint] at hother
  | wait _ _ hother => simp [hpoint] at hother

/-- In a read of its flush a drainer waits until it gives the read up. -/
theorem Step.of_flush_awaiting {since : Nat} (hpoint : loop.point = .awaiting since) :
    (∃ millis, loop.clock + millis ≤ since + idleLimit ∧
        next = { loop with clock := loop.clock + millis }) ∨
      (loop.clock = since + idleLimit ∧
        next = { loop with drainer := loop.drainer.giveUp, point := .closed .idle }) := by
  cases hstep with
  | read hother => simp [hpoint] at hother
  | heed _ hreading => simp [hphase] at hreading
  | flush _ _ hother => simp [hpoint] at hother
  | expire _ _ hother => simp [hpoint] at hother
  | giveUp other _ _ hother _ htime =>
      obtain rfl := Point.awaiting.inj (hpoint.symm.trans hother)
      exact .inr ⟨htime, rfl⟩
  | wait other millis hother htime =>
      obtain rfl := Point.awaiting.inj (hpoint.symm.trans hother)
      have hlimit := htime.resolve_left (by simp [hphase])
      exact .inl ⟨millis, hlimit, rfl⟩

end inversion

/-- Where a flush that began at a time can get to, and when. -/
inductive InTime (began : Nat) (loop : Loop) : Prop
  | between (gathered : Nat) (hphase : loop.drainer.phase = .flushing began gathered)
      (hpoint : loop.point = .between) (hbegan : began ≤ loop.clock)
      (hclock : loop.clock < began + flushLimit + idleLimit)
  | awaiting (gathered since : Nat) (hphase : loop.drainer.phase = .flushing began gathered)
      (hpoint : loop.point = .awaiting since) (hbegan : began ≤ since)
      (hstarted : since < began + flushLimit) (hsince : since ≤ loop.clock)
      (hidle : loop.clock ≤ since + idleLimit)
  | closed (closing : Closing) (hpoint : loop.point = .closed closing)
      (hbegan : began ≤ loop.clock) (hclock : loop.clock < began + flushLimit + idleLimit)

namespace InTime

/-- A flush is never far from its begin. -/
theorem clock_lt (h : loop.InTime began) :
    began ≤ loop.clock ∧ loop.clock < began + flushLimit + idleLimit := by
  cases h with
  | between _ _ _ hbegan hclock => exact ⟨hbegan, hclock⟩
  | awaiting => omega
  | closed _ _ hbegan hclock => exact ⟨hbegan, hclock⟩

/-- What a drainer does on its own account keeps a flush in time. -/
theorem step (h : loop.InTime began) (hstep : Step loop next) : next.InTime began := by
  cases h with
  | between gathered hphase hpoint hbegan hclock =>
      rcases hstep.of_flush_between hphase hpoint with ⟨htime, rfl⟩ | ⟨_, rfl⟩
      · exact .awaiting gathered loop.clock hphase rfl hbegan htime (Nat.le_refl _)
          (Nat.le_add_right _ _)
      · exact .closed .overtime rfl hbegan hclock
  | awaiting gathered since hphase hpoint hbegan hstarted hsince hidle =>
      rcases hstep.of_flush_awaiting hphase hpoint with ⟨millis, hlimit, rfl⟩ | ⟨_, rfl⟩
      · exact .awaiting gathered since hphase hpoint hbegan hstarted
          (Nat.le_add_right_of_le hsince) hlimit
      · exact .closed .idle rfl (by simp; omega) (by simp; omega)
  | closed closing hpoint _ _ =>
      exact absurd hpoint (hstep.keeps.wasOpen closing)

/-- A read of a flush ends in time, whatever it yields. -/
theorem receive {since : Nat} (h : loop.InTime began) (hpoint : loop.point = .awaiting since)
    (result : ReadResult) : (loop.receive result).InTime began := by
  have hclock := h.clock_lt
  cases h with
  | between _ _ hother => simp [hpoint] at hother
  | closed _ hother => simp [hpoint] at hother
  | awaiting gathered _ hphase =>
      cases hresult : Closing.ofRead? result with
      | none =>
          exact .between gathered ((phase_receive_of_harmless hresult).trans hphase)
            (point_receive_of_harmless hresult) hclock.1 hclock.2
      | some closing =>
          exact .closed closing (point_receive_of_closing hresult) hclock.1 hclock.2

/-- An order to stop that comes again changes nothing. -/
theorem send (h : loop.InTime began) : loop.send.InTime began := by
  cases h with
  | between gathered hphase hpoint hbegan hclock =>
      exact .between gathered hphase hpoint hbegan hclock
  | awaiting gathered since hphase hpoint hbegan hstarted hsince hidle =>
      exact .awaiting gathered since hphase hpoint hbegan hstarted hsince hidle
  | closed closing hpoint hbegan hclock => exact .closed closing hpoint hbegan hclock

/-- A flush stays in time, whatever its source does. -/
theorem leads (h : loop.InTime began) (hleads : Leads loop back next) : next.InTime began := by
  induction hleads with
  | start => exact h
  | step _ hstep ih => exact ih.step hstep
  | send _ ih => exact ih.send
  | receive result _ hpoint ih => exact ih.receive hpoint result

end InTime

/-- A drainer enters its flush when it takes notice of the order to stop. -/
theorem Step.flushing_cases (hstep : Step loop next)
    (hphase : next.drainer.phase = .flushing began gathered) :
    loop.drainer.phase = .flushing began gathered ∨
      next.point = .between ∧ next.clock = began := by
  cases hstep with
  | read | flush | wait => exact .inl hphase
  | heed _ hreading =>
      rw [phase_stop hreading] at hphase
      exact .inr ⟨rfl, (DrainPhase.flushing.inj hphase).1⟩
  | expire | giveUp => simp at hphase

/-- A drainer in its flush is in time. -/
theorem Reached.in_time (h : Reached stream consumed loop)
    (hphase : loop.drainer.phase = .flushing began gathered) : loop.InTime began := by
  induction h with
  | start => cases hphase
  | step _ hstep ih =>
      rcases hstep.flushing_cases hphase with hbefore | ⟨hpoint, rfl⟩
      · exact (ih hbefore).step hstep
      · -- The flush begins with this step, at the time that the clock shows.
        exact .between gathered hphase hpoint (Nat.le_refl _) (by simp [flushLimit]; omega)
  | send _ ih => exact (ih hphase).send
  | receive result _ hpoint ih =>
      cases hresult : Closing.ofRead? result with
      | none => exact (ih ((phase_receive_of_harmless hresult).symm.trans hphase)).receive hpoint result
      | some closing =>
          rw [drainer_receive, phase_receive_of_closing hresult] at hphase
          cases hphase

/-- A drainer that has come to its end is in its last phase. -/
theorem Reached.phase_of_closed (h : Reached stream consumed loop) {closing : Closing}
    (hclosed : loop.point = .closed closing) : loop.drainer.phase = .ended := by
  induction h with
  | start => cases hclosed
  | @step _ loop next _ hstep ih =>
      cases hstep with
      | read | heed | flush => cases hclosed
      | expire | giveUp => simp
      | wait _ _ hpoint =>
          have hstill : loop.point = .closed closing := hclosed
          simp [hpoint] at hstill
  | send _ ih => exact ih hclosed
  | receive result _ hpoint ih =>
      cases hresult : Closing.ofRead? result with
      | none =>
          rw [point_receive_of_harmless hresult] at hclosed
          cases hclosed
      | some closing => exact phase_receive_of_closing hresult

section stop

variable (hsent : loop.stopSent = true)

include hsent

/-- An order to stop is not taken back. -/
theorem Leads.stopSent (h : Leads loop back next) : next.stopSent = true := by
  induction h with
  | start => exact hsent
  | step _ hstep ih => rw [hstep.keeps.stopSent, ih]
  | send => rfl
  | receive _ _ _ ih => exact ih

/-- In its main loop a drainer that has been told to stop completes the read in which it is, and no
other one. -/
theorem Leads.at_most_one_read (h : Leads loop back next) (hphase : next.drainer.phase = .reading) :
    back = [] ∨ back.length = 1 ∧ ∀ since, next.point ≠ .awaiting since := by
  induction h with
  | start => exact .inl rfl
  | @step _ middle _ hback hstep ih =>
      cases hstep with
      | read _ _ hunsent => simp [hback.stopSent hsent] at hunsent
      | heed _ hreading => simp [phase_stop hreading] at hphase
      | flush _ _ _ hflushing => simp [hflushing] at hphase
      | expire | giveUp => simp at hphase
      | wait since _ hpoint =>
          rcases ih hphase with hnone | ⟨_, hbetween⟩
          · exact .inl hnone
          · exact absurd hpoint (hbetween since)
  | send _ ih => exact ih hphase
  | @receive _ middle since result _ hpoint ih =>
      right
      cases hresult : Closing.ofRead? result with
      | none =>
          have hreading : middle.drainer.phase = .reading :=
            (phase_receive_of_harmless hresult).symm.trans hphase
          rcases ih hreading with rfl | ⟨_, hbetween⟩
          · -- From between two reads there is no way back into a read of the main loop.
            exact ⟨rfl, by simp [point_receive_of_harmless hresult]⟩
          · exact absurd hpoint (hbetween since)
      | some closing => simp [phase_receive_of_closing hresult] at hphase

end stop

/-- A drainer that has been told to stop can go on to its flush, whatever its source does. -/
theorem exists_flushing (hopen : loop.IsOpen) (hphase : loop.drainer.phase = .reading)
    (hsent : loop.stopSent = true) :
    ∃ stopped, Step loop stopped ∧ stopped.Flushing ∧ stopped.clock = loop.clock :=
  ⟨_, .heed loop hopen hphase hsent, ⟨rfl, _, phase_stop hphase⟩, rfl⟩

/-- Between two reads a drainer that has been told to stop goes on to its flush and to nothing
else. -/
theorem Step.flushing_of_sent (hstep : Step loop next) (hphase : loop.drainer.phase = .reading)
    (hsent : loop.stopSent = true) (hpoint : loop.point = .between) :
    next.Flushing ∧ next.clock = loop.clock := by
  cases hstep with
  | read _ _ hunsent => simp [hsent] at hunsent
  | heed => exact ⟨⟨rfl, _, phase_stop hphase⟩, rfl⟩
  | flush _ _ _ hflushing => simp [hphase] at hflushing
  | expire _ _ _ hflushing => simp [hphase] at hflushing
  | giveUp _ _ _ hother => simp [hpoint] at hother
  | wait _ _ hother => simp [hpoint] at hother

section flush

variable {since : Nat} (hphase : loop.drainer.phase = .flushing began gathered)

include hphase

/-- A flush needs no further read to come to its end. -/
theorem InTime.exists_closed (h : loop.InTime began) :
    ∃ final closing, Leads loop [] final ∧ final.point = .closed closing := by
  cases h with
  | between _ _ hpoint =>
      by_cases htime : loop.clock < began + flushLimit
      · exact ⟨_, .idle, leads_give_up hpoint hphase htime, rfl⟩
      · exact ⟨_, .overtime, leads_expire hpoint hphase (Nat.le_of_not_lt htime), rfl⟩
  | awaiting _ since _ hpoint _ _ hsince hidle =>
      -- The read waits for the rest of its time and is then given up.
      have hclock : loop.clock + (since + idleLimit - loop.clock) = since + idleLimit := by omega
      have h : Leads loop [] _ := .start
      have h := h.step (.wait loop since (since + idleLimit - loop.clock) hpoint
        (.inr (Nat.le_of_eq hclock)))
      exact ⟨_, .idle, h.step (.giveUp _ since began gathered hpoint hphase hclock), rfl⟩
  | closed closing hpoint => exact ⟨loop, closing, .start, hpoint⟩

/-- A read of a flush that has waited long enough is given up at once: nothing else can be done, and
no time can pass before. -/
theorem Step.give_up_of_idle (hpoint : loop.point = .awaiting since)
    (hidle : loop.clock = since + idleLimit) (hstep : Step loop next) :
    next = loop ∨ next.point = .closed .idle ∧ next.clock = loop.clock := by
  rcases hstep.of_flush_awaiting hphase hpoint with ⟨millis, hlimit, rfl⟩ | ⟨_, rfl⟩
  · obtain rfl : millis = 0 := by omega
    exact .inl rfl
  · exact .inr ⟨rfl, rfl⟩

/-- A read of a flush that has waited long enough can be given up. -/
theorem exists_give_up (hpoint : loop.point = .awaiting since)
    (hidle : loop.clock = since + idleLimit) :
    ∃ final, Step loop final ∧ final.point = .closed .idle ∧ final.clock = loop.clock :=
  ⟨_, .giveUp loop since began gathered hpoint hphase hidle, rfl, rfl⟩

end flush

end Loop

section clock

variable {drainer : Drainer} {now began gathered stopAt : Nat} {arrivals : List Arrival}

/-- A flush on a clock ends in time. -/
theorem end_of_flush_lt (hphase : drainer.phase = .flushing began gathered)
    (hnow : now < began + flushLimit + idleLimit) :
    (flush drainer now arrivals).2 < began + flushLimit + idleLimit := by
  induction arrivals generalizing drainer now with
  | nil =>
      simp only [flush, hphase]
      split <;> simp only <;> omega
  | cons arrival rest ih =>
      simp only [flush, hphase]
      split
      · split
        · -- The read began before the deadline and has taken at most `idleLimit`.
          have hlater : max now arrival.time < began + flushLimit + idleLimit := by omega
          cases hresult : Closing.ofRead? arrival.result with
          | none => exact ih ((phase_receive_of_harmless hresult).trans hphase) hlater
          | some closing =>
              rw [flush_of_ended (phase_receive_of_closing hresult)]
              exact hlater
        · simp only
          omega
      · exact hnow

/-- A drainer that has ended before the order to stop takes no time after it. -/
theorem end_of_ended_le (hphase : drainer.phase = .ended) (hnow : now ≤ stopAt) :
    (serve drainer now stopAt arrivals).2 ≤ stopAt := by
  cases arrivals with
  | nil => simp [serve, stop, hphase, flush_of_ended hphase]
  | cons arrival rest => simpa [serve, hphase] using hnow

/-- A drainer on a clock ends in time after the order to stop. -/
theorem end_of_serve_lt (hphase : drainer.phase = .reading) :
    (serve drainer now stopAt arrivals).2 < stopAt + flushLimit + idleLimit := by
  -- Both the end of the arrivals and a late one let the drainer notice the order.
  have hstopped : ∀ (drainer : Drainer) (arrivals : List Arrival), drainer.phase = .reading →
      (flush (drainer.stop stopAt) stopAt arrivals).2 < stopAt + flushLimit + idleLimit :=
    fun drainer arrivals hreading =>
      end_of_flush_lt (phase_stop hreading) (by simp [flushLimit]; omega)
  induction arrivals generalizing drainer now with
  | nil => exact hstopped drainer [] hphase
  | cons arrival rest ih =>
      simp only [serve, hphase]
      split
      · rename_i hearly
        cases hresult : Closing.ofRead? arrival.result with
        | none => exact ih ((phase_receive_of_harmless hresult).trans hphase)
        | some closing =>
            have hended : (drainer.receive arrival.result).phase = .ended :=
              phase_receive_of_closing hresult
            have hend : (serve (drainer.receive arrival.result) (max now arrival.time) stopAt
                rest).2 ≤ stopAt := end_of_ended_le hended (Nat.le_of_lt hearly)
            exact Nat.lt_of_le_of_lt hend (by simp [flushLimit]; omega)
      · exact hstopped drainer _ hphase

end clock

/-- A drainer in its main loop that has been told to stop and has completed some reads since then:
there is at most one of them, and none if the drainer is still in a read. It can go on to its flush
at once, and between two reads it can do nothing else. -/
structure LeavesMainLoop (back : List ReadResult) (loop : Loop) : Prop where
  reads : back.length ≤ 1
  first : ∀ since, loop.point = .awaiting since → back = []
  heeds : ∃ stopped, Loop.Step loop stopped ∧ stopped.Flushing ∧ stopped.clock = loop.clock
  leaves : loop.point = .between → ∀ stopped, Loop.Step loop stopped →
    stopped.Flushing ∧ stopped.clock = loop.clock

/-- A drainer in a flush that began at a time: the flush has not yet taken 2100 milliseconds, and it
will not have at its end. It has started its last read within 2000 milliseconds and has not waited
for more than 100 milliseconds, after which it can only give up, at once. It can come to its end
without any further read. -/
structure FlushesInTime (began : Nat) (loop : Loop) : Prop where
  elapsed : began ≤ loop.clock ∧ loop.clock < began + 2000 + 100
  started : ∀ since, loop.point = .awaiting since → began ≤ since ∧ since < began + 2000
  waited : ∀ since, loop.point = .awaiting since → since ≤ loop.clock ∧ loop.clock ≤ since + 100
  idle : ∀ since, loop.point = .awaiting since → loop.clock = since + 100 →
    (∃ final, Loop.Step loop final ∧ final.point = .closed .idle ∧ final.clock = loop.clock) ∧
      ∀ next, Loop.Step loop next →
        next = loop ∨ next.point = .closed .idle ∧ next.clock = loop.clock
  later : ∀ back next, Loop.Leads loop back next → next.clock < began + 2000 + 100
  ends : ∃ final closing, Loop.Leads loop [] final ∧ final.point = .closed closing

namespace Loop

variable {stream : String} {front consumed back : List ReadResult} {loop reading : Loop}
  {began gathered : Nat}

/-- No source keeps a drainer in its main loop after the order to stop. -/
theorem Reached.leaves_main_loop (h : Reached stream front loop)
    (hback : Leads loop.send back reading) (hphase : reading.drainer.phase = .reading) :
    LeavesMainLoop back reading := by
  have hsent : reading.stopSent = true := hback.stopSent rfl
  have hopen : reading.IsOpen := by
    intro closing hclosed
    have hended := (h.send.leads hback).phase_of_closed hclosed
    simp [hphase] at hended
  refine ⟨?_, fun since hpoint => ?_, exists_flushing hopen hphase hsent,
    fun hpoint _ hstep => hstep.flushing_of_sent hphase hsent hpoint⟩
  · rcases hback.at_most_one_read rfl hphase with rfl | ⟨hone, _⟩
    · exact Nat.zero_le _
    · exact Nat.le_of_eq hone
  · rcases hback.at_most_one_read rfl hphase with hnone | ⟨_, hbetween⟩
    · exact hnone
    · exact absurd hpoint (hbetween since)

/-- No source keeps a drainer in its flush for long. -/
theorem Reached.flushes_in_time (h : Reached stream consumed loop)
    (hphase : loop.drainer.phase = .flushing began gathered) : FlushesInTime began loop := by
  have hin := h.in_time hphase
  have hawaiting : ∀ since, loop.point = .awaiting since →
      (began ≤ since ∧ since < began + flushLimit) ∧
        since ≤ loop.clock ∧ loop.clock ≤ since + idleLimit := by
    intro since hpoint
    cases hin with
    | between _ _ hother => simp [hpoint] at hother
    | closed _ hother => simp [hpoint] at hother
    | awaiting _ other _ hother hbegan hstarted hsince hidle =>
        obtain rfl := Point.awaiting.inj (hpoint.symm.trans hother)
        exact ⟨⟨hbegan, hstarted⟩, hsince, hidle⟩
  exact
    { elapsed := hin.clock_lt
      started := fun since hpoint => (hawaiting since hpoint).1
      waited := fun since hpoint => (hawaiting since hpoint).2
      idle := fun _ hpoint hidle => ⟨exists_give_up hphase hpoint hidle,
        fun _ hstep => hstep.give_up_of_idle hphase hpoint hidle⟩
      later := fun _ _ hleads => (hin.leads hleads).clock_lt.2
      ends := hin.exists_closed hphase }

end Loop

/-- Stopping a drainer takes a bounded time, whatever its source does and whenever it is told to
stop. After the order it completes at most one further read in its main loop, the one in which it
already is, and then nothing keeps it from its flush. The flush starts reads for 2000 milliseconds
and waits for none of them longer than 100 milliseconds, so it never takes 2100 milliseconds, and a
read that has waited in vain ends it at once. The time that a drainer on a clock takes after the
order has the same bound. -/
theorem stopping_is_bounded (stream : String) :
    (∀ front loop back reading, Loop.Reached stream front loop →
      Loop.Leads loop.send back reading → reading.drainer.phase = .reading →
        LeavesMainLoop back reading) ∧
    (∀ consumed loop began gathered, Loop.Reached stream consumed loop →
      loop.drainer.phase = .flushing began gathered → FlushesInTime began loop) ∧
    ∀ arrivals stopAt, (drain stream arrivals stopAt).took < 2000 + 100 := by
  refine ⟨fun _ _ _ _ h hback hphase => h.leaves_main_loop hback hphase,
    fun _ _ _ _ h hphase => h.flushes_in_time hphase, fun arrivals stopAt => ?_⟩
  have hend : (serve { stream := stream } 0 stopAt arrivals).2 < stopAt + flushLimit + idleLimit :=
    end_of_serve_lt rfl
  simp only [drain]
  simp only [flushLimit, idleLimit] at hend
  omega

/-- A drainer in its first read. -/
def firstRead : Loop :=
  { Loop.start "stdout" with point := .awaiting 0 }

/-- The same drainer after it has been told to stop and the read has yielded an octet. -/
def lateOctet : Loop :=
  firstRead.send.receive (.data [0x78])

/-- The same drainer after the first read of its flush has waited in vain. -/
def silentFlush : Loop :=
  { lateOctet with drainer := lateOctet.drainer.stop 0, clock := 100, point := .awaiting 0 }

/-- The octet that comes after the order is the last one in the main loop, and silence then ends the
flush. A source that trickles for a minute gains no more time than 2100 milliseconds either. -/
theorem stopping_is_bounded_after_late_octet :
    LeavesMainLoop [.data [0x78]] lateOctet ∧ FlushesInTime 0 silentFlush ∧
      (drain "stdout" ((List.range 600).map fun n => ⟨100 * n, .data [0x78]⟩) 50).took <
        2000 + 100 := by
  obtain ⟨hmain, hflush, hclock⟩ := stopping_is_bounded "stdout"
  have hreading : Loop.Reached "stdout" [] firstRead := .step .start (.read _ rfl rfl rfl)
  have hlate : Loop.Leads firstRead.send [.data [0x78]] lateOctet :=
    .receive (.data [0x78]) .start rfl
  have hreached : Loop.Reached "stdout" [.data [0x78]] lateOctet := hreading.send.leads hlate
  have hheeded := hreached.step (.heed lateOctet nofun rfl rfl)
  have hflushing := hheeded.step (.flush _ 0 1 rfl rfl (by decide))
  have hsilent : Loop.Reached "stdout" [.data [0x78]] silentFlush :=
    hflushing.step (.wait _ 0 100 rfl (.inr (by decide)))
  exact ⟨hmain _ _ _ _ hreading hlate rfl, hflush _ _ _ 1 hsilent rfl, hclock _ 50⟩

end Runbook.Drainer
