/-!
# What is inevitable

A state with some property is inevitable if every run comes to one, as long as there are no more
than so many idle steps on the way. That is so if the property can be brought about as long as it is
missing, and every step that is not idle uses up some of what remains to be done
(`inevitable_of_remaining`).
-/

namespace Runbook

/-- Whatever step is taken next, it comes to a state with the property, if there are no more than so
many idle steps on the way. -/
inductive Inevitable {α : Type} (step idle : α → α → Prop) (goal : α → Prop) : Nat → α → Prop
  | now {patience : Nat} {state : α} (hgoal : goal state) :
      Inevitable step idle goal patience state
  | later {patience : Nat} {state : α} (hmore : ∃ next, step state next ∧ ¬ idle state next)
      (hall : ∀ next, step state next → ¬ idle state next →
        Inevitable step idle goal patience next)
      (hidle : ∀ next fewer, idle state next → step state next → fewer < patience →
        Inevitable step idle goal fewer next) :
      Inevitable step idle goal patience state

/-- What can be brought about as long as it is missing is inevitable, if every step that is not idle
uses up some of what remains to be done. -/
theorem inevitable_of_remaining {α : Type} {step idle : α → α → Prop} {goal : α → Prop}
    (inv : α → Prop) (remaining : α → Nat)
    (hkept : ∀ state next, inv state → step state next → inv next)
    (hless : ∀ state next, step state next → idle state next ∨ remaining next < remaining state)
    (hmore : ∀ state, inv state → ¬ goal state → ∃ next, step state next ∧ ¬ idle state next)
    (patience : Nat) (state : α) (hinv : inv state) :
    Inevitable step idle goal patience state := by
  -- Idle steps use up the patience, and between two of them every step uses up what remains.
  by_cases hgoal : goal state
  · exact .now hgoal
  · refine .later (hmore state hinv hgoal) (fun next hstep hbusy => ?_)
      fun next fewer _ hstep hfewer => ?_
    · exact inevitable_of_remaining inv remaining hkept hless hmore patience next
        (hkept state next hinv hstep)
    · exact inevitable_of_remaining inv remaining hkept hless hmore fewer next
        (hkept state next hinv hstep)
termination_by (patience, remaining state)
decreasing_by
  · exact Prod.Lex.right _ ((hless state next hstep).resolve_left hbusy)
  · exact Prod.Lex.left _ _ hfewer

/-- What can be brought about as long as it is missing is inevitable, if every step uses up some of
what remains to be done, so that none is idle. -/
theorem inevitable_of_decreasing {α : Type} {step : α → α → Prop} {goal : α → Prop}
    (inv : α → Prop) (remaining : α → Nat)
    (hkept : ∀ state next, inv state → step state next → inv next)
    (hless : ∀ state next, step state next → remaining next < remaining state)
    (hmore : ∀ state, inv state → ¬ goal state → ∃ next, step state next)
    (state : α) (hinv : inv state) : Inevitable step (fun _ _ => False) goal 0 state := by
  refine inevitable_of_remaining inv remaining hkept
    (fun _ _ hstep => .inr (hless _ _ hstep)) (fun current hcurrent hmissing => ?_) 0 state hinv
  obtain ⟨next, hstep⟩ := hmore current hcurrent hmissing
  exact ⟨next, hstep, not_false⟩

/-- Some run comes to what is inevitable, so it happens in a state that the invariants hold of. -/
theorem Inevitable.exists_later {α : Type} {step idle : α → α → Prop} {goal : α → Prop}
    {patience : Nat} {state : α} (h : Inevitable step idle goal patience state) (inv : α → Prop)
    (hkept : ∀ state next, inv state → step state next → inv next) (hinv : inv state) :
    ∃ later, inv later ∧ goal later := by
  induction h with
  | now hgoal => exact ⟨_, hinv, hgoal⟩
  | later hmore _ _ ih _ =>
      obtain ⟨next, hstep, hbusy⟩ := hmore
      exact ih next hstep hbusy (hkept _ _ hinv hstep)

end Runbook
