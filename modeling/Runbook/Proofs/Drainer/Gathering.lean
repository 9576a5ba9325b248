import Runbook.Drainer.Loop

/-!
# What drainers gather

A drainer gathers what its reads deliver, and nothing that it does on its own account changes that.
`Step.keeps` is the lemma on its own steps, and `Reached.gathering` relates what it has gathered,
and how it has come to its end, to the reads that it has consumed.
-/

namespace Runbook

/-- Reads that end nothing deliver their octets in front of everything after them. -/
theorem ReadResult.gathered_append {front rest : List ReadResult}
    (hfront : ∀ result ∈ front, Drainer.Closing.ofRead? result = none) :
    gathered (front ++ rest) = gathered front ++ gathered rest := by
  induction front with
  | nil => rfl
  | cons result front ih =>
      rw [List.forall_mem_cons] at hfront
      cases result with
      | data octets => simp [gathered, ih hfront.2]
      | interrupted => simp [gathered, ih hfront.2]
      | endOfFile | failed | panicked => cases hfront.1

/-- Nothing is delivered from the read on that ends a drainer. -/
theorem ReadResult.gathered_cons_of_closing {result : ReadResult} {closing : Drainer.Closing}
    (rest : List ReadResult) (hclosing : Drainer.Closing.ofRead? result = some closing) :
    gathered (result :: rest) = [] := by
  cases result with
  | data | interrupted => cases hclosing
  | endOfFile | failed | panicked => rfl

namespace Drainer

/-- A drainer at its end is in no other phase. -/
@[simp] theorem phase_finish (drainer : Drainer) : drainer.finish.phase = .ended := by
  unfold finish
  split <;> rfl

/-- Giving up a read is the end of a drainer. -/
@[simp] theorem phase_giveUp (drainer : Drainer) : drainer.giveUp.phase = .ended :=
  phase_finish _

/-- A read that ends a drainer puts it into its last phase. -/
theorem phase_receive_of_closing {drainer : Drainer} {result : ReadResult} {closing : Closing}
    (hclosing : Closing.ofRead? result = some closing) :
    (drainer.receive result).phase = .ended := by
  cases result with
  | data | interrupted => cases hclosing
  | endOfFile =>
      simp only [receive, meetEnd]
      split <;> exact phase_finish _
  | failed message =>
      simp only [receive, meetError]
      split <;> exact phase_finish _
  | panicked => rfl

/-- A read that ends nothing leaves the phase as it was. -/
theorem phase_receive_of_harmless {drainer : Drainer} {result : ReadResult}
    (hharmless : Closing.ofRead? result = none) :
    (drainer.receive result).phase = drainer.phase := by
  cases result with
  | data | interrupted => rfl
  | endOfFile | failed | panicked => cases hharmless

/-- What a read delivers goes to the end of what has been gathered, unless the reader is lost. -/
theorem octets_receive {drainer : Drainer} {result : ReadResult} (hkept : result ≠ .panicked) :
    (drainer.receive result).sink.octets =
      drainer.sink.octets ++ ReadResult.gathered [result] := by
  cases result with
  | panicked => exact absurd rfl hkept
  | data octets => simp [receive, ReadResult.gathered]
  | interrupted | endOfFile | failed => simp [receive, ReadResult.gathered]

namespace Loop

/-- A drainer that has not come to its end. -/
def IsOpen (loop : Loop) : Prop :=
  ∀ closing, loop.point ≠ .closed closing

/-- A drainer that has come to its end is closed. -/
theorem not_isOpen {loop : Loop} : ¬ loop.IsOpen ↔ ∃ closing, loop.point = .closed closing := by
  simp [IsOpen]

/-- What a drainer keeps when it goes on by itself. -/
structure Keeps (loop next : Loop) : Prop where
  wasOpen : loop.IsOpen
  sink : next.drainer.sink = loop.drainer.sink
  stopSent : next.stopSent = loop.stopSent
  /-- It may give up, but it meets no end of the file and no error. -/
  point : ∀ closing, next.point = .closed closing → closing = .idle ∨ closing = .overtime
  phase : (loop.IsOpen → loop.drainer.phase ≠ .ended) → next.IsOpen → next.drainer.phase ≠ .ended

/-- On its own account a drainer changes nothing that it has gathered. -/
theorem Step.keeps {loop next : Loop} (hstep : Step loop next) : loop.Keeps next := by
  cases hstep with
  | read hpoint hphase hsent =>
      exact ⟨by simp [IsOpen, hpoint], rfl, rfl, by simp, by simp [hphase]⟩
  | heed hpoint hphase hsent =>
      exact ⟨hpoint, by simp, rfl, by simp, by simp [stop, hphase]⟩
  | flush began gathered hpoint hphase htime =>
      exact ⟨by simp [IsOpen, hpoint], rfl, rfl, by simp, by simp [hphase]⟩
  | expire began gathered hpoint hphase htime =>
      exact ⟨by simp [IsOpen, hpoint], by simp, rfl, by simp, by simp [IsOpen]⟩
  | giveUp since began gathered hpoint hphase htime =>
      exact ⟨by simp [IsOpen, hpoint], by simp, rfl, by simp, by simp [IsOpen]⟩
  | wait since millis hpoint htime =>
      have hopen : loop.IsOpen := by simp [IsOpen, hpoint]
      exact ⟨hopen, rfl, rfl, by simp [hpoint], fun hphase _ => hphase hopen⟩

/-- The reads that a drainer has consumed, and how they explain where it stands. -/
structure Gathering (consumed : List ReadResult) (loop : Loop) : Prop where
  octets : loop.point ≠ .closed .lost →
    loop.drainer.sink.octets = ReadResult.gathered consumed
  harmless : loop.IsOpen → ∀ result ∈ consumed, Closing.ofRead? result = none
  closed : ∀ closing, loop.point = .closed closing →
    ((closing = .idle ∨ closing = .overtime) ∧
      ∀ result ∈ consumed, Closing.ofRead? result = none) ∨
    ∃ front last, consumed = front ++ [last] ∧ Closing.ofRead? last = some closing ∧
      ∀ result ∈ front, Closing.ofRead? result = none

section receive

variable {loop : Loop} {result : ReadResult}

/-- A read changes what a drainer has gathered and its phase. -/
@[simp] theorem drainer_receive : (loop.receive result).drainer = loop.drainer.receive result :=
  rfl

/-- A read that ends nothing leaves a drainer between two reads. -/
theorem point_receive_of_harmless (hharmless : Closing.ofRead? result = none) :
    (loop.receive result).point = .between := by
  simp [receive, hharmless]

/-- A read that ends a drainer closes it. -/
theorem point_receive_of_closing {closing : Closing}
    (hclosing : Closing.ofRead? result = some closing) :
    (loop.receive result).point = .closed closing := by
  simp [receive, hclosing]

end receive

/-- Before its first step a drainer has gathered nothing. -/
theorem gathering_start (stream : String) : (Loop.start stream).Gathering [] where
  octets := fun _ => rfl
  harmless := by simp
  closed := by simp [Loop.start]

/-- On its own account a drainer consumes nothing. -/
theorem Gathering.step {consumed : List ReadResult} {loop next : Loop}
    (h : loop.Gathering consumed) (hstep : Step loop next) : next.Gathering consumed := by
  have hkeeps := hstep.keeps
  refine ⟨fun _ => ?_, fun _ => h.harmless hkeeps.wasOpen, fun closing hclosing => ?_⟩
  · rw [hkeeps.sink, h.octets (hkeeps.wasOpen _)]
  · exact .inl ⟨hkeeps.point closing hclosing, h.harmless hkeeps.wasOpen⟩

/-- A read is consumed behind all earlier ones. -/
theorem Gathering.receive {consumed : List ReadResult} {loop : Loop} {since : Nat}
    (h : loop.Gathering consumed) (hpoint : loop.point = .awaiting since) (result : ReadResult) :
    (loop.receive result).Gathering (consumed ++ [result]) := by
  have hopen : loop.IsOpen := by simp [IsOpen, hpoint]
  have hoctets : result ≠ .panicked →
      (loop.receive result).drainer.sink.octets =
        ReadResult.gathered (consumed ++ [result]) := by
    intro hkept
    rw [drainer_receive, octets_receive hkept, h.octets (hopen _),
      ReadResult.gathered_append (h.harmless hopen)]
  cases hresult : Closing.ofRead? result with
  | none =>
      have hbetween : (loop.receive result).point = .between :=
        point_receive_of_harmless hresult
      refine ⟨fun _ => hoctets (by rintro rfl; cases hresult), fun _ => ?_, by simp [hbetween]⟩
      rw [List.forall_mem_append, List.forall_mem_singleton]
      exact ⟨h.harmless hopen, hresult⟩
  | some closing =>
      have hclosed : (loop.receive result).point = .closed closing :=
        point_receive_of_closing hresult
      refine ⟨fun hkept => hoctets ?_, fun hstill => absurd hclosed (hstill closing), ?_⟩
      · rintro rfl
        cases hresult
        exact hkept hclosed
      · intro other hother
        rw [hclosed] at hother
        cases hother
        exact .inr ⟨consumed, result, rfl, hresult, h.harmless hopen⟩

/-- In every state that a drainer can get into, it has gathered what its reads have delivered. -/
theorem Reached.gathering {stream : String} {consumed : List ReadResult} {loop : Loop}
    (h : Reached stream consumed loop) : loop.Gathering consumed := by
  induction h with
  | start => exact gathering_start stream
  | step _ hstep ih => exact ih.step hstep
  | send _ ih => exact ⟨ih.octets, ih.harmless, ih.closed⟩
  | receive result _ hpoint ih => exact ih.receive hpoint result

/-- Unless its reader is lost, a drainer has gathered what its reads have delivered, wherever it
stands. -/
theorem Reached.octets_of_kept {stream : String} {consumed : List ReadResult} {loop : Loop}
    (h : Reached stream consumed loop) (hkept : .panicked ∉ consumed) :
    loop.drainer.sink.octets = ReadResult.gathered consumed := by
  refine h.gathering.octets fun hlost => ?_
  rcases h.gathering.closed .lost hlost with ⟨hcut, _⟩ | ⟨front, last, rfl, hlast, _⟩
  · rcases hcut with hcut | hcut <;> cases hcut
  · cases last with
    | panicked => simp at hkept
    | data | interrupted | endOfFile | failed => cases hlast

end Loop

end Drainer

end Runbook
