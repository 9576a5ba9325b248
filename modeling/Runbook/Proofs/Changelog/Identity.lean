import Runbook.Proofs.Changelog.Reports

/-!
# Identities of change sets

Validation tells entries apart by id and author, but the identity of a change set is the text that
joins the two with colons. Colons inside ids and authors can make two different entries come to the
same text. The main theorem, `keys_distinct_iff`, says between which entries this happens.
-/

namespace Runbook

/-- Two divisions of a text are the same, or one comes later than the other. -/
theorem Text.append_eq_append_iff {start rest other remainder : String} :
    start ++ rest = other ++ remainder ↔
      (∃ shift : String, other = start ++ shift ∧ rest = shift ++ remainder) ∨
        ∃ shift : String, start = other ++ shift ∧ remainder = shift ++ rest := by
  simp only [← String.toList_inj, String.toList_append, List.append_eq_append_iff]
  constructor
  · rintro (⟨shift, h⟩ | ⟨shift, h⟩)
    · exact .inl ⟨String.ofList shift, by simpa using h⟩
    · exact .inr ⟨String.ofList shift, by simpa using h⟩
  · rintro (⟨shift, h⟩ | ⟨shift, h⟩)
    · exact .inl ⟨shift.toList, h⟩
    · exact .inr ⟨shift.toList, h⟩

namespace ChangeSetEntry

/-- The id of the second entry is longer than that of the first one, and what it has more is what
the author of the second entry has less. -/
def Shifted (first second : ChangeSetEntry) : Prop :=
  ∃ shift : String, shift ≠ "" ∧ second.id = first.id ++ shift ∧
    "::" ++ first.author = shift ++ "::" ++ second.author

variable {first second : ChangeSetEntry} {base : String}

/-- Two entries come to the same identity exactly if they agree, or if one is the other one
shifted. -/
theorem key_eq_iff :
    (first.toChangeSet base).key = (second.toChangeSet base).key ↔
      (first.id = second.id ∧ first.author = second.author) ∨ Shifted first second ∨
        Shifted second first := by
  have hborder : (first.toChangeSet base).key = (second.toChangeSet base).key ↔
      (∃ shift, second.id = first.id ++ shift ∧
        "::" ++ first.author = shift ++ "::" ++ second.author) ∨
      ∃ shift, first.id = second.id ++ shift ∧
        "::" ++ second.author = shift ++ "::" ++ first.author := by
    simp only [ChangeSet.key, toChangeSet, String.append_assoc]
    exact Text.append_eq_append_iff
  rw [hborder]
  constructor
  · rintro (⟨shift, hid, hrest⟩ | ⟨shift, hid, hrest⟩) <;> by_cases hempty : shift = ""
    · subst hempty
      simp only [String.append_empty, String.empty_append, String.append_right_inj] at hid hrest
      exact .inl ⟨hid.symm, hrest⟩
    · exact .inr (.inl ⟨shift, hempty, hid, hrest⟩)
    · subst hempty
      simp only [String.append_empty, String.empty_append, String.append_right_inj] at hid hrest
      exact .inl ⟨hid, hrest.symm⟩
    · exact .inr (.inr ⟨shift, hempty, hid, hrest⟩)
  · rintro (⟨hid, hauthor⟩ | ⟨shift, _, hid, hrest⟩ | ⟨shift, _, hid, hrest⟩)
    · exact .inl ⟨"", by simp [hid], by simp [hauthor]⟩
    · exact .inl ⟨shift, hid, hrest⟩
    · exact .inr ⟨shift, hid, hrest⟩

/-- A shift moves a colon from the author to the id. -/
theorem Shifted.colon (h : Shifted first second) :
    ':' ∈ second.id.toList ∧ ':' ∈ first.author.toList := by
  obtain ⟨shift, hsome, hid, hrest⟩ := h
  rw [hid]
  have hcharacters : ':' :: ':' :: first.author.toList =
      shift.toList ++ ':' :: ':' :: second.author.toList := by
    simpa using congrArg String.toList hrest
  cases hshift : shift.toList with
  | nil => exact absurd (String.toList_eq_nil_iff.1 hshift) hsome
  | cons c others =>
      rw [hshift, List.cons_append, List.cons.injEq] at hcharacters
      obtain ⟨rfl, hothers⟩ := hcharacters
      refine ⟨by simp [hshift], ?_⟩
      -- The author begins with the second colon, unless the shift has that one too.
      cases others with
      | nil => simp [(List.cons.inj hothers).2]
      | cons d others => simp [(List.cons.inj hothers).2]

end ChangeSetEntry

namespace Changelog

/-- The identities of the change sets of an accepted changelog are distinct exactly if no entry is
another one shifted. This is so at least if no id contains a colon, or if no author does. -/
theorem Accepted.keys_distinct_iff (accepted : Accepted) (base : String) :
    (((accepted.changelog.changeSets base).map ChangeSet.key).Nodup ↔
      accepted.changelog.entries.Pairwise fun first second =>
        ¬ first.Shifted second ∧ ¬ second.Shifted first) ∧
    ((∀ entry ∈ accepted.changelog.entries, ':' ∉ entry.id.toList) →
      ((accepted.changelog.changeSets base).map ChangeSet.key).Nodup) ∧
    ((∀ entry ∈ accepted.changelog.entries, ':' ∉ entry.author.toList) →
      ((accepted.changelog.changeSets base).map ChangeSet.key).Nodup) := by
  have hpairs : ((accepted.changelog.changeSets base).map ChangeSet.key).Nodup ↔
      accepted.changelog.entries.Pairwise fun first second =>
        ¬ first.Shifted second ∧ ¬ second.Shifted first := by
    have hdistinct := List.pairwise_map.1 accepted.well_formed.distinct
    rw [changeSets, List.map_map, List.Nodup, List.pairwise_map]
    constructor
    · intro h
      refine h.imp fun hkeys => ⟨fun hshifted => hkeys ?_, fun hshifted => hkeys ?_⟩
      · exact ChangeSetEntry.key_eq_iff.2 (.inr (.inl hshifted))
      · exact ChangeSetEntry.key_eq_iff.2 (.inr (.inr hshifted))
    · intro h
      -- Equal ids and authors are what validation excludes.
      refine (hdistinct.and h).imp fun hpair hkey => ?_
      obtain ⟨hother, hfirst, hsecond⟩ := hpair
      rcases ChangeSetEntry.key_eq_iff.1 hkey with ⟨hid, hauthor⟩ | hshifted | hshifted
      · exact hother (Prod.ext hid hauthor)
      · exact hfirst hshifted
      · exact hsecond hshifted
  refine ⟨hpairs, fun hnone => hpairs.2 ?_, fun hnone => hpairs.2 ?_⟩
  · exact List.pairwise_of_forall_mem_list fun first hfirst second hsecond =>
      ⟨fun h => hnone second hsecond h.colon.1, fun h => hnone first hfirst h.colon.1⟩
  · exact List.pairwise_of_forall_mem_list fun first hfirst second hsecond =>
      ⟨fun h => hnone first hfirst h.colon.2, fun h => hnone second hsecond h.colon.2⟩

/-- Two entries whose ids and authors differ and that still come to the same identity. -/
def withSharedKey : Changelog where
  entries := [{ id := "a", author := "b::c" }, { id := "a::b", author := "c" }]

/-- Validation accepts two change sets with the same identity. -/
theorem accepted_with_shared_key :
    ∃ accepted, withSharedKey.accept = .ok accepted ∧
      ¬ ((accepted.changelog.changeSets "/base").map ChangeSet.key).Nodup := by
  have hsound : withSharedKey.problems.messages = [] := by decide +kernel
  have hkeys : (withSharedKey.changeSets "/base").map ChangeSet.key =
      ["a::b::c", "a::b::c"] := by decide +kernel
  refine ⟨⟨withSharedKey, hsound⟩, dif_pos hsound, ?_⟩
  rw [hkeys]
  decide

end Changelog

end Runbook
