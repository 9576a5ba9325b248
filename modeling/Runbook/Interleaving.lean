/-!
# Interleavings

What two sequential parts of a program do beside each other comes in some order in which each part
keeps its own. `interleave` chooses an order by turns, and `Interleaves` is what all choices have in
common: the turns leave out no order (`interleaves_iff_exists`).
-/

namespace Runbook

variable {α : Type}

/-- Two lists as one, in the order of the turns. A turn that is `true` takes from the first list and
any other from the second, unless there is nothing left to take. After the last turn the first list
comes to its end before the second one goes on. -/
def interleave : List Bool → List α → List α → List α
  | [], first, second => first ++ second
  | true :: turns, x :: first, second => x :: interleave turns first second
  | false :: turns, first, x :: second => x :: interleave turns first second
  | _ :: turns, first, second => interleave turns first second

/-- A list that is made of two others, each of them in its own order. -/
inductive Interleaves : List α → List α → List α → Prop
  | nil : Interleaves [] [] []
  | first {x : α} {first second whole : List α} (h : Interleaves first second whole) :
      Interleaves (x :: first) second (x :: whole)
  | second {x : α} {first second whole : List α} (h : Interleaves first second whole) :
      Interleaves first (x :: second) (x :: whole)

/-- One list after the other is an order in which each keeps its own. -/
theorem interleaves_append (first second : List α) :
    Interleaves first second (first ++ second) := by
  induction first with
  | nil =>
      induction second with
      | nil => exact .nil
      | cons x second ih => exact ih.second
  | cons x first ih => exact ih.first

/-- Whatever the turns, each list keeps its own order. -/
theorem interleaves_interleave (turns : List Bool) (first second : List α) :
    Interleaves first second (interleave turns first second) := by
  fun_induction interleave turns first second with
  | case1 first second => exact interleaves_append first second
  | case2 _ _ _ _ ih => exact ih.first
  | case3 _ _ _ _ ih => exact ih.second
  | case4 _ _ _ _ _ _ ih => exact ih

/-- Every order in which each list keeps its own is that of some turns. -/
theorem Interleaves.exists_turns {first second whole : List α}
    (h : Interleaves first second whole) : ∃ turns, interleave turns first second = whole := by
  -- Every element takes one turn, in which there is something to take.
  induction h with
  | nil => exact ⟨[], rfl⟩
  | @first x _ _ _ _ ih =>
      obtain ⟨turns, hturns⟩ := ih
      exact ⟨true :: turns, congrArg (x :: ·) hturns⟩
  | @second x first _ _ _ ih =>
      obtain ⟨turns, hturns⟩ := ih
      refine ⟨false :: turns, ?_⟩
      rw [interleave, hturns]

/-- The orders in which each list keeps its own are those of the turns. -/
theorem interleaves_iff_exists {first second whole : List α} :
    Interleaves first second whole ↔ ∃ turns, interleave turns first second = whole := by
  refine ⟨Interleaves.exists_turns, ?_⟩
  rintro ⟨turns, rfl⟩
  exact interleaves_interleave turns first second

end Runbook
