import Mathlib.Data.List.DropRight
import Runbook.Text.Blank

/-!
# Trimming

Trimming takes the white space away at both ends of a text and leaves the rest as it is. Nothing is
left exactly of a blank text, and nothing is left to be trimmed of a trimmed one.
-/

namespace Runbook.Text

variable {cs before core after : List Char} {text : String}

/-- What trimming takes away is white space in front and at the end. -/
theorem exists_eq_append_trimChars (cs : List Char) :
    ∃ before after, cs = before ++ trimChars cs ++ after ∧
      (∀ c ∈ before, isBlank c = true) ∧ ∀ c ∈ after, isBlank c = true := by
  refine ⟨cs.takeWhile isBlank, (cs.dropWhile isBlank).rtakeWhile isBlank, ?_,
    fun c hc => List.mem_takeWhile_imp hc, fun c hc => List.mem_rtakeWhile_imp hc⟩
  calc cs = cs.takeWhile isBlank ++ cs.dropWhile isBlank := List.takeWhile_append_dropWhile.symm
    _ = cs.takeWhile isBlank ++
          (trimChars cs ++ (cs.dropWhile isBlank).rtakeWhile isBlank) :=
        congrArg _ List.rdropWhile_append_rtakeWhile.symm
    _ = _ := (List.append_assoc _ _ _).symm

/-- Trimming leaves what neither begins nor ends with white space. -/
theorem trimChars_of_surrounded (hbefore : ∀ c ∈ before, isBlank c = true)
    (hafter : ∀ c ∈ after, isBlank c = true) (hfirst : ∀ c ∈ core.head?, isBlank c = false)
    (hlast : ∀ c ∈ core.getLast?, isBlank c = false) :
    trimChars (before ++ core ++ after) = core := by
  have hstart : (before ++ core ++ after).dropWhile isBlank = (core ++ after).dropWhile isBlank := by
    rw [List.append_assoc, List.dropWhile_append_of_pos hbefore]
  have hend : trimRight (core ++ after) = core := by
    have hkept : core.reverse.dropWhile isBlank = core.reverse := by
      cases hcore : core.reverse with
      | nil => rfl
      | cons c rest =>
          refine List.dropWhile_cons_of_neg ?_
          simp [hlast c (by rw [← List.head?_reverse, hcore]; rfl)]
    rw [trimRight, List.reverse_append,
      List.dropWhile_append_of_pos (by simpa using hafter), hkept, List.reverse_reverse]
  rw [trimChars, hstart]
  cases core with
  | nil =>
      rw [List.nil_append, List.dropWhile_eq_nil_iff.2 hafter]
      rfl
  | cons c rest =>
      rw [List.cons_append, List.dropWhile_cons_of_neg (by simp [hfirst c rfl])]
      exact hend

/-- Trimming leaves nothing that begins with white space. -/
theorem not_blank_of_head_trimChars : ∀ c ∈ (trimChars cs).head?, isBlank c = false := by
  intro c hc
  -- Taking white space away at the end keeps the head, if it leaves anything.
  obtain ⟨rest, hrest⟩ : trimChars cs <+: cs.dropWhile isBlank := List.rdropWhile_prefix isBlank _
  have hhead := List.head?_dropWhile_not isBlank cs
  rw [← hrest, List.head?_append_of_ne_nil _ (by intro hnil; simp [hnil] at hc), hc] at hhead
  exact hhead

/-- Trimming leaves nothing that ends with white space. -/
theorem not_blank_of_getLast_trimChars : ∀ c ∈ (trimChars cs).getLast?, isBlank c = false := by
  intro c hc
  have hkept : trimChars cs ≠ [] := by
    intro hnil
    simp [hnil] at hc
  have hlast := List.rdropWhile_last_not isBlank (cs.dropWhile isBlank) hkept
  rw [List.getLast?_eq_some_getLast hkept, Option.mem_some_iff] at hc
  rw [← hc]
  exact Bool.eq_false_iff.2 hlast

/-- Trimming leaves nothing of white space alone. -/
theorem trimChars_eq_nil_iff : trimChars cs = [] ↔ ∀ c ∈ cs, isBlank c = true := by
  constructor
  · intro hnil c hc
    obtain ⟨before, after, hcs, hbefore, hafter⟩ := exists_eq_append_trimChars cs
    rw [hcs, hnil, List.append_nil, List.mem_append] at hc
    exact hc.elim (hbefore c) (hafter c)
  · intro hblank
    have hnone : ∀ c ∈ ([] : List Char), isBlank c = true := by simp
    have htrim : trimChars (cs ++ [] ++ []) = [] :=
      trimChars_of_surrounded hblank hnone (by simp) (by simp)
    simpa using htrim

/-- Trimming a text a second time leaves it as it is. -/
theorem trim_trim (text : String) : trim (trim text) = trim text := by
  have hnone : ∀ c ∈ ([] : List Char), isBlank c = true := by simp
  have htrim : trimChars ([] ++ trimChars text.toList ++ []) = trimChars text.toList :=
    trimChars_of_surrounded hnone hnone not_blank_of_head_trimChars not_blank_of_getLast_trimChars
  rw [trim, trim, String.toList_ofList, String.ofList_inj]
  simpa using htrim

/-- A text is blank exactly if trimming leaves nothing of it. -/
theorem trim_eq_empty_iff : trim text = "" ↔ isBlankText text = true := by
  rw [trim, isBlankText, List.all_eq_true, ← trimChars_eq_nil_iff, ← String.toList_inj,
    String.toList_ofList, String.toList_empty]

end Runbook.Text
