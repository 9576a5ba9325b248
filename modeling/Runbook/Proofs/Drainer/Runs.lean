import Runbook.Proofs.Drainer.Course

/-!
# Runs of a drainer

`Leads` relates a drainer at work to the states that it can get into from there, with the reads
consumed on the way. The course of a drainer on a clock is such a run (`closes_drain`), which ends
with the drainer closed. Only a prefix of the arrivals may have been consumed by then, and if no
limit cuts the arrivals, then all of them up to the end of the source. So what the drainer hands
back is what its reads deliver, no matter which of them come before the order (`octets_drain`).
-/

namespace Runbook.Drainer

namespace Loop

/-- From one state of a drainer to another one, with the reads consumed in between. -/
inductive Leads (first : Loop) : List ReadResult → Loop → Prop
  | start : Leads first [] first
  | step {consumed : List ReadResult} {loop next : Loop} (h : Leads first consumed loop)
      (hstep : Step loop next) : Leads first consumed next
  | send {consumed : List ReadResult} {loop : Loop} (h : Leads first consumed loop) :
      Leads first consumed loop.send
  | receive {consumed : List ReadResult} {loop : Loop} {since : Nat} (result : ReadResult)
      (h : Leads first consumed loop) (hpoint : loop.point = .awaiting since) :
      Leads first (consumed ++ [result]) (loop.receive result)

variable {stream : String} {front back : List ReadResult} {first loop next final : Loop}

/-- A run goes on from where it has got to. -/
theorem Leads.trans (h : Leads first front loop) (hback : Leads loop back final) :
    Leads first (front ++ back) final := by
  induction hback with
  | start => simpa using h
  | step _ hstep ih => exact ih.step hstep
  | send _ ih => exact ih.send
  | receive result _ hpoint ih =>
      rw [← List.append_assoc]
      exact ih.receive result hpoint

/-- The states that a drainer can get into are those that its first state leads to. -/
theorem reached_iff_leads : Reached stream front loop ↔ Leads (Loop.start stream) front loop := by
  constructor
  · intro h
    induction h with
    | start => exact .start
    | step _ hstep ih => exact ih.step hstep
    | send _ ih => exact ih.send
    | receive result _ hpoint ih => exact ih.receive result hpoint
  · intro h
    induction h with
    | start => exact .start
    | step _ hstep ih => exact ih.step hstep
    | send _ ih => exact ih.send
    | receive result _ hpoint ih => exact ih.receive result hpoint

/-- What a drainer can get into leads to other such states. -/
theorem Reached.leads (h : Reached stream front loop) (hback : Leads loop back final) :
    Reached stream (front ++ back) final :=
  reached_iff_leads.2 ((reached_iff_leads.1 h).trans hback)

/-- The drainer after it has waited for an arrival and read it. -/
def meet (loop : Loop) (arrival : Arrival) : Loop :=
  receive { loop with clock := max loop.clock arrival.time } arrival.result

section moves

variable (hpoint : loop.point = .between)

include hpoint

/-- An arrival is read before the order to stop. -/
theorem leads_read (hphase : loop.drainer.phase = .reading) (hsent : loop.stopSent = false)
    (arrival : Arrival) : Leads loop [arrival.result] (loop.meet arrival) := by
  have hclock : loop.clock + (max loop.clock arrival.time - loop.clock) =
      max loop.clock arrival.time := by omega
  have h : Leads loop [] _ := .start
  have h := h.step (.read loop hpoint hphase hsent)
  have h := h.step (.wait _ loop.clock (max loop.clock arrival.time - loop.clock) rfl (.inl hphase))
  have h := h.receive arrival.result rfl
  rw [hclock] at h
  exact h

/-- The order to stop, of which a drainer takes notice at once while it waits for a read. -/
theorem leads_stop (hphase : loop.drainer.phase = .reading) (hsent : loop.stopSent = false)
    (millis : Nat) :
    Leads loop []
      { drainer := loop.drainer.stop (loop.clock + millis)
        clock := loop.clock + millis
        point := .between
        stopSent := true } := by
  have h : Leads loop [] _ := .start
  have h := h.step (.read loop hpoint hphase hsent)
  have h := h.step (.wait _ loop.clock millis rfl (.inl hphase))
  exact h.send.step (.heed _ nofun hphase rfl)

variable {began gathered : Nat} (hphase : loop.drainer.phase = .flushing began gathered)

include hphase

/-- An arrival is read by the flush, if it comes in time. -/
theorem leads_flush (htime : loop.clock < began + flushLimit) {arrival : Arrival}
    (hidle : arrival.time ≤ loop.clock + idleLimit) :
    Leads loop [arrival.result] (loop.meet arrival) := by
  have hclock : loop.clock + (max loop.clock arrival.time - loop.clock) =
      max loop.clock arrival.time := by omega
  have h : Leads loop [] _ := .start
  have h := h.step (.flush loop began gathered hpoint hphase htime)
  have h := h.step (.wait _ loop.clock (max loop.clock arrival.time - loop.clock) rfl
    (.inr (show loop.clock + _ ≤ loop.clock + idleLimit by omega)))
  have h := h.receive arrival.result rfl
  rw [hclock] at h
  exact h

/-- A read of the flush that waits in vain. -/
theorem leads_give_up (htime : loop.clock < began + flushLimit) :
    Leads loop []
      { loop with
        drainer := loop.drainer.giveUp
        clock := loop.clock + idleLimit
        point := .closed .idle } := by
  have h : Leads loop [] _ := .start
  have h := h.step (.flush loop began gathered hpoint hphase htime)
  have h := h.step (.wait _ loop.clock idleLimit rfl (.inr (Nat.le_refl _)))
  exact h.step (.giveUp _ loop.clock began gathered rfl hphase rfl)

/-- A flush whose time is used up. -/
theorem leads_expire (htime : began + flushLimit ≤ loop.clock) :
    Leads loop [] { loop with drainer := loop.drainer.finish, point := .closed .overtime } :=
  Leads.start.step (.expire loop began gathered hpoint hphase htime)

end moves

/-- A run to the end of a drainer, on which it has consumed a part of some reads, and all of them if
it is promised that no limit cuts it. -/
def Closes (first : Loop) (reads : List ReadResult) (promised : Prop) (drainer : Drainer) : Prop :=
  ∃ consumed closing final, Leads first consumed final ∧ consumed <+: reads ∧
    final.point = .closed closing ∧ final.drainer = drainer ∧
    (promised → closing = .idle ∨ closing = .overtime → consumed = reads)

section closes

variable {reads : List ReadResult} {promised : Prop} {drainer : Drainer}

/-- A run to the end begins with any run that leads to its first state. -/
theorem Closes.prepend (h : loop.Closes reads promised drainer) (hleads : Leads first front loop) :
    first.Closes (front ++ reads) promised drainer := by
  obtain ⟨consumed, closing, final, hrest, hpart, hclosed, hdrainer, hall⟩ := h
  refine ⟨front ++ consumed, closing, final, hleads.trans hrest, ?_, hclosed, hdrainer, ?_⟩
  · exact (List.prefix_append_right_inj front).2 hpart
  · intro hpromised hcut
    rw [hall hpromised hcut]

/-- A run to the end keeps a promise that says more. -/
theorem Closes.mono (h : loop.Closes reads promised drainer) {other : Prop}
    (hmore : other → promised) : loop.Closes reads other drainer := by
  obtain ⟨consumed, closing, final, hrest, hpart, hclosed, hdrainer, hall⟩ := h
  exact ⟨consumed, closing, final, hrest, hpart, hclosed, hdrainer,
    fun hother => hall (hmore hother)⟩

/-- A limit has cut a run to the end, about which there is no promise then. -/
theorem closes_of_cut {closing : Closing} (h : Leads loop [] final)
    (hclosed : final.point = .closed closing) (hbroken : ¬ promised) :
    loop.Closes reads promised final.drainer :=
  ⟨[], closing, final, h, List.nil_prefix, hclosed, rfl, fun hpromised => absurd hpromised hbroken⟩

/-- A limit has cut a run to the end behind all reads. -/
theorem closes_of_silence {closing : Closing} (h : Leads loop [] final)
    (hclosed : final.point = .closed closing) : loop.Closes [] promised final.drainer :=
  ⟨[], closing, final, h, List.nil_prefix, hclosed, rfl, fun _ _ => rfl⟩

/-- A read that ends a drainer is the end of a run, and no limit has cut it. -/
theorem closes_of_closing {result : ReadResult} {closing : Closing}
    (hclosing : Closing.ofRead? result = some closing) :
    (loop.receive result).Closes reads promised (loop.drainer.receive result) := by
  refine ⟨[], closing, _, .start, List.nil_prefix, point_receive_of_closing hclosing, rfl, ?_⟩
  rintro _ (rfl | rfl) <;> cases result <;> cases hclosing

end closes

end Loop

namespace Loop

variable {loop : Loop} {arrivals : List Arrival}

/-- The course of a flush on a clock is a run to the end. -/
theorem closes_flush {began gathered : Nat} (hpoint : loop.point = .between)
    (hphase : loop.drainer.phase = .flushing began gathered) :
    loop.Closes (arrivals.map Arrival.result) (Timely began loop.clock arrivals)
      (flush loop.drainer loop.clock arrivals).1 := by
  induction arrivals generalizing loop with
  | nil =>
      simp only [flush, hphase]
      split
      · rename_i htime
        exact closes_of_silence (leads_give_up hpoint hphase htime) rfl
      · rename_i htime
        exact closes_of_silence (leads_expire hpoint hphase (Nat.le_of_not_lt htime)) rfl
  | cons arrival rest ih =>
      simp only [flush, hphase]
      split
      · rename_i htime
        split
        · rename_i hidle
          have hread := leads_flush hpoint hphase htime hidle
          -- The read has consumed the arrival in any case, and it may have ended the drainer.
          cases hresult : Closing.ofRead? arrival.result with
          | none =>
              have hbetween : (loop.meet arrival).point = .between :=
                point_receive_of_harmless hresult
              have hstill : (loop.meet arrival).drainer.phase = .flushing began gathered :=
                (phase_receive_of_harmless hresult).trans hphase
              exact ((ih hbetween hstill).prepend hread).mono fun htimely => htimely.2.2
          | some closing =>
              rw [flush_of_ended (phase_receive_of_closing hresult)]
              exact (closes_of_closing hresult).prepend hread
        · rename_i hidle
          exact closes_of_cut (leads_give_up hpoint hphase htime) rfl
            fun htimely => hidle htimely.2.1
      · rename_i htime
        exact closes_of_cut (leads_expire hpoint hphase (Nat.le_of_not_lt htime)) rfl
          fun htimely => htime htimely.1

section order

variable {stopAt : Nat} (hpoint : loop.point = .between) (hphase : loop.drainer.phase = .reading)
  (hsent : loop.stopSent = false) (hclock : loop.clock ≤ stopAt)

include hpoint hphase hsent hclock

/-- The course of a drainer that is told to stop while it waits for a read is a run to the end. -/
theorem closes_stop (arrivals : List Arrival) :
    loop.Closes (arrivals.map Arrival.result) (Timely stopAt stopAt arrivals)
      (flush (loop.drainer.stop stopAt) stopAt arrivals).1 := by
  have hstop := leads_stop hpoint hphase hsent (stopAt - loop.clock)
  rw [Nat.add_sub_cancel' hclock] at hstop
  exact (closes_flush rfl (phase_stop hphase)).prepend hstop

/-- The course of a drainer on a clock is a run to the end. -/
theorem closes_serve :
    loop.Closes (arrivals.map Arrival.result) (Timely stopAt stopAt arrivals)
      (serve loop.drainer loop.clock stopAt arrivals).1 := by
  induction arrivals generalizing loop with
  | nil => exact closes_stop hpoint hphase hsent hclock []
  | cons arrival rest ih =>
      simp only [serve, hphase]
      split
      · rename_i hearly
        have hread := leads_read hpoint hphase hsent arrival
        cases hresult : Closing.ofRead? arrival.result with
        | none =>
            have hbetween : (loop.meet arrival).point = .between :=
              point_receive_of_harmless hresult
            have hstill : (loop.meet arrival).drainer.phase = .reading :=
              (phase_receive_of_harmless hresult).trans hphase
            have hlater : (loop.meet arrival).clock ≤ stopAt := Nat.le_of_lt hearly
            -- An arrival in front of the order does not move the begin of the flush.
            have hsame : max stopAt arrival.time = stopAt := Nat.max_eq_left (by omega)
            refine ((ih hbetween hstill hsent hlater).prepend hread).mono fun htimely => ?_
            have hrest := htimely.2.2
            rwa [hsame] at hrest
        | some closing =>
            rw [serve_of_ended (phase_receive_of_closing hresult)]
            exact (closes_of_closing hresult).prepend hread
      · exact closes_stop hpoint hphase hsent hclock _

end order

end Loop

section clock

variable (stream : String) (arrivals : List Arrival) (stopAt : Nat)

/-- The course of a drainer on a clock from its beginning is a run to the end. -/
theorem closes_drain :
    (Loop.start stream).Closes (arrivals.map Arrival.result) (Timely stopAt stopAt arrivals)
      (serve { stream := stream } 0 stopAt arrivals).1 :=
  Loop.closes_serve rfl rfl rfl (Nat.zero_le stopAt)

variable {arrivals stopAt}

/-- Unless its reader is lost or a limit of the flush cuts it, a drainer hands back what its reads
deliver, whenever it is told to stop. -/
theorem octets_drain (htimely : Timely stopAt stopAt arrivals)
    (hkept : ∀ arrival ∈ arrivals, arrival.result ≠ .panicked) :
    (drain stream arrivals stopAt).octets =
      ReadResult.gathered (arrivals.map Arrival.result) := by
  obtain ⟨consumed, closing, final, hleads, ⟨rest, hreads⟩, hclosed, hdrainer, hall⟩ :=
    closes_drain stream arrivals stopAt
  have hreached := Loop.reached_iff_leads.2 hleads
  have hpanicked : .panicked ∉ consumed := by
    intro hmem
    obtain ⟨arrival, harrival, hresult⟩ :=
      List.mem_map.1 (hreads ▸ List.mem_append_left rest hmem)
    exact hkept arrival harrival hresult
  have hoctets : (drain stream arrivals stopAt).octets = ReadResult.gathered consumed := by
    rw [← hreached.octets_of_kept hpanicked, hdrainer]
    rfl
  rcases hreached.gathering.closed closing hclosed with
    ⟨hcut, _⟩ | ⟨front, last, rfl, hlast, hfront⟩
  · rw [hoctets, hall htimely hcut]
  · -- Nothing behind the read that has ended the drainer counts.
    rw [hoctets, ← hreads, List.append_assoc, ReadResult.gathered_append hfront,
      ReadResult.gathered_append hfront, List.singleton_append,
      ReadResult.gathered_cons_of_closing _ hlast, ReadResult.gathered_cons_of_closing _ hlast]

end clock

end Runbook.Drainer
