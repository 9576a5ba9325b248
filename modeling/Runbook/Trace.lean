import Runbook.Log

/-!
# Traces

A trace is everything that can be observed of a run, in one order: log events, printed lines, and
attempts to start a process.
-/

namespace Runbook

/-- One thing that can be observed. -/
inductive Occurrence where
  | logged (event : Event)
  | printed (line : String)
  | attempted (argv : List String)
  deriving Repr, DecidableEq

/-- What was observed, in order. -/
abbrev Trace := List Occurrence

namespace Trace

/-- The trace of a sequence of events. -/
def ofEvents (events : List Event) : Trace :=
  events.map .logged

/-- The log events of a trace. -/
def events (trace : Trace) : List Event :=
  trace.filterMap fun
    | .logged event => some event
    | _ => none

/-- The printed lines of a trace. -/
def lines (trace : Trace) : List String :=
  trace.filterMap fun
    | .printed line => some line
    | _ => none

/-- The argument vectors of the processes that were attempted. -/
def attempts (trace : Trace) : List (List String) :=
  trace.filterMap fun
    | .attempted argv => some argv
    | _ => none

/-- Everything printed, where each line is ended. -/
def output (trace : Trace) : String :=
  String.join (trace.lines.map (· ++ "\n"))

variable (event : Event) (line : String) (argv : List String) (first second trace : Trace)

/-- The attempts of two traces in sequence. -/
@[simp] theorem attempts_append : attempts (first ++ second) = attempts first ++ attempts second :=
  List.filterMap_append

/-- Nothing is attempted before the first occurrence. -/
@[simp] theorem attempts_nil : attempts [] = [] := rfl

/-- An event attempts nothing. -/
@[simp] theorem attempts_logged : attempts (.logged event :: trace) = attempts trace := rfl

/-- A printed line attempts nothing. -/
@[simp] theorem attempts_printed : attempts (.printed line :: trace) = attempts trace := rfl

/-- An attempt counts. -/
@[simp] theorem attempts_attempted :
    attempts (.attempted argv :: trace) = argv :: attempts trace := rfl

/-- Events attempt nothing. -/
@[simp] theorem attempts_ofEvents (events : List Event) : attempts (ofEvents events) = [] := by
  induction events with
  | nil => rfl
  | cons event rest ih => exact ih

/-- The lines of two traces in sequence. -/
@[simp] theorem lines_append : lines (first ++ second) = lines first ++ lines second :=
  List.filterMap_append

/-- Nothing is printed before the first occurrence. -/
@[simp] theorem lines_nil : lines [] = [] := rfl

/-- An event prints nothing. -/
@[simp] theorem lines_logged : lines (.logged event :: trace) = lines trace := rfl

/-- A printed line counts. -/
@[simp] theorem lines_printed : lines (.printed line :: trace) = line :: lines trace := rfl

/-- An attempt prints nothing. -/
@[simp] theorem lines_attempted : lines (.attempted argv :: trace) = lines trace := rfl

/-- Events print nothing. -/
@[simp] theorem lines_ofEvents (events : List Event) : lines (ofEvents events) = [] := by
  induction events with
  | nil => rfl
  | cons event rest ih => exact ih

/-- An occurrence that is no event comes after all the events in front. -/
theorem split_after_events {events : List Event} {rest before after : Trace} {act : Occurrence}
    (h : ofEvents events ++ rest = before ++ act :: after) (hact : ∀ event, act ≠ .logged event) :
    ∃ between, before = ofEvents events ++ between ∧ rest = between ++ act :: after := by
  induction events generalizing before with
  | nil => exact ⟨before, rfl, h⟩
  | cons event events ih =>
      cases before with
      | nil =>
          obtain ⟨heq, _⟩ := List.cons.inj h
          exact absurd heq.symm (hact event)
      | cons first before =>
          obtain ⟨rfl, hrest⟩ := List.cons.inj h
          obtain ⟨between, rfl, hsplit⟩ := ih hrest
          exact ⟨between, rfl, hsplit⟩

/-- Events alone contain nothing else. -/
theorem not_split_events (events : List Event) {before after : Trace} {act : Occurrence}
    (hact : ∀ event, act ≠ .logged event) : ofEvents events ≠ before ++ act :: after := by
  intro h
  rw [← List.append_nil (ofEvents events)] at h
  obtain ⟨between, _, hrest⟩ := split_after_events h hact
  simp at hrest

end Trace

end Runbook
