import Runbook.Drainer.Schedule
import Runbook.Proofs.Drainer.Gathering

/-!
# Drainers on a clock come to their ends

The arrivals of a source and the time of the order to stop fix the course of a drainer. It always
comes to its end (`phase_serve`). `Timely` says that no limit of the flush cuts the course.
-/

namespace Runbook.Drainer

/-- No limit of a flush that began at one time and has come to another one cuts the arrivals. -/
def Timely (began : Nat) : Nat → List Arrival → Prop
  | _, [] => True
  | now, arrival :: rest =>
    now < began + flushLimit ∧ arrival.time ≤ now + idleLimit ∧
      Timely began (max now arrival.time) rest

/-- Arrivals which can all be had before the order to stop are timely. -/
theorem timely_of_early {stopAt : Nat} {arrivals : List Arrival}
    (hearly : ∀ arrival ∈ arrivals, arrival.time ≤ stopAt) : Timely stopAt stopAt arrivals := by
  induction arrivals with
  | nil => trivial
  | cons arrival rest ih =>
      rw [List.forall_mem_cons] at hearly
      refine ⟨Nat.lt_add_of_pos_right (by decide), Nat.le_add_right_of_le hearly.1, ?_⟩
      rw [Nat.max_eq_left hearly.1]
      exact ih hearly.2

variable {drainer : Drainer} {now stopAt : Nat} {arrivals : List Arrival}

section ended

variable (hphase : drainer.phase = .ended)

include hphase

/-- Nothing is flushed by a drainer that has ended. -/
theorem flush_of_ended : flush drainer now arrivals = (drainer, now) := by
  cases arrivals <;> simp [flush, hphase]

/-- Nothing happens to a drainer that has ended. -/
theorem serve_of_ended : (serve drainer now stopAt arrivals).1 = drainer := by
  cases arrivals with
  | nil => simp [serve, stop, hphase, flush_of_ended hphase]
  | cons arrival rest => simp [serve, hphase]

end ended

/-- A drainer that takes notice of the order to stop begins its flush. -/
theorem phase_stop (hphase : drainer.phase = .reading) :
    (drainer.stop stopAt).phase = .flushing stopAt drainer.sink.octets.length := by
  simp [stop, hphase]

/-- A flush comes to its end. -/
theorem phase_flush {began gathered : Nat} (hphase : drainer.phase = .flushing began gathered) :
    (flush drainer now arrivals).1.phase = .ended := by
  induction arrivals generalizing drainer now with
  | nil =>
      simp only [flush, hphase]
      split <;> simp
  | cons arrival rest ih =>
      simp only [flush, hphase]
      split
      · split
        · cases hresult : Closing.ofRead? arrival.result with
          | none => exact ih ((phase_receive_of_harmless hresult).trans hphase)
          | some closing =>
              rw [flush_of_ended (phase_receive_of_closing hresult)]
              exact phase_receive_of_closing hresult
        · exact phase_giveUp _
      · exact phase_finish _

/-- A drainer comes to its end, whatever its source does and whenever it is told to stop. -/
theorem phase_serve (hphase : drainer.phase = .reading ∨ drainer.phase = .ended) :
    (serve drainer now stopAt arrivals).1.phase = .ended := by
  induction arrivals generalizing drainer now with
  | nil =>
      rcases hphase with hphase | hphase
      · exact phase_flush (phase_stop hphase)
      · simp [serve, stop, hphase, flush_of_ended hphase]
  | cons arrival rest ih =>
      rcases hphase with hphase | hphase
      · simp only [serve, hphase]
        split
        · apply ih
          cases hresult : Closing.ofRead? arrival.result with
          | none => exact .inl ((phase_receive_of_harmless hresult).trans hphase)
          | some closing => exact .inr (phase_receive_of_closing hresult)
        · exact phase_flush (phase_stop hphase)
      · simp [serve, hphase]

end Runbook.Drainer
