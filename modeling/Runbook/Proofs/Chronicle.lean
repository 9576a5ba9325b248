import Mathlib.Data.List.Induction

/-!
# Chronicles

A chronicle is written while one thing happens after the other: some of these things add an entry at
its end, and the others leave it alone. So every entry stands behind those of the earlier things
that have one (`Chronicle.getElem?_foldl`).
-/

namespace Runbook

/-- Each event of some kind adds one entry to what is written, and no other event adds any. -/
structure Chronicle {state event entry : Type} (step : state → event → state)
    (written : state → List entry) (isWritten : event → Bool) : Prop where
  added : ∀ current happening, isWritten happening = true →
    ∃ last, written (step current happening) = written current ++ [last]
  kept : ∀ current happening, isWritten happening = false →
    written (step current happening) = written current

namespace Chronicle

variable {state event entry : Type} {step : state → event → state} {written : state → List entry}
  {isWritten : event → Bool}

/-- Every entry is kept, and there is one for each event of the kind. -/
theorem foldl (h : Chronicle step written isWritten) (start : state) (events : List event) :
    written start <+: written (events.foldl step start) ∧
      (written (events.foldl step start)).length =
        (written start).length + events.countP isWritten := by
  induction events using List.reverseRecOn with
  | nil => exact ⟨List.prefix_rfl, rfl⟩
  | append_singleton events last ih =>
      obtain ⟨hkept, hlength⟩ := ih
      rw [List.foldl_append, List.foldl_cons, List.foldl_nil, List.countP_append, ← Nat.add_assoc,
        ← hlength, List.countP_singleton]
      cases hlast : isWritten last with
      | false =>
          rw [h.kept _ _ hlast]
          exact ⟨hkept, rfl⟩
      | true =>
          obtain ⟨added, hadded⟩ := h.added (events.foldl step start) last hlast
          rw [hadded, List.length_append]
          exact ⟨hkept.trans (List.prefix_append _ _), rfl⟩

/-- The entry of an event stands behind those of the events before it, whatever happens later. -/
theorem getElem?_foldl (h : Chronicle step written isWritten) (start : state)
    (before after : List event) (happening : event) {last : entry}
    (hlast : written (step (before.foldl step start) happening) =
      written (before.foldl step start) ++ [last]) :
    (written ((before ++ happening :: after).foldl step start))[
        (written start).length + before.countP isWritten]? = some last := by
  -- The entries after this one only add to the end, so its place stays the same.
  obtain ⟨rest, hrest⟩ := (h.foldl (step (before.foldl step start) happening) after).1
  rw [List.foldl_append, List.foldl_cons, ← hrest, ← (h.foldl start before).2, hlast]
  simp

end Chronicle

end Runbook
