import Mathlib.Data.Bool.AllAny
import Mathlib.Data.List.Forall2
import Runbook.Proofs.Text.Utf8
import Runbook.Text.Case

/-!
# Case mappings and US-ASCII

Within US-ASCII both case mappings go character by character. Into US-ASCII they bring hardly
anything from outside: the upper-case mapping the dotless i and the long s, and a few ligatures that
become several letters, and the lower-case mapping the Kelvin sign. So a word of US-ASCII that
contains none of these has no other spellings than its own (`upper_eq_iff`, `lower_eq_iff`).
-/

namespace Runbook.Text

/-- A character of US-ASCII. -/
def IsAscii (c : Char) : Prop :=
  c.toNat < 0x80

instance (c : Char) : Decidable (IsAscii c) :=
  inferInstanceAs (Decidable (_ < _))

/-- The capitals that the ligatures outside US-ASCII, and the sharp s, consist of. -/
def ligatures : List (List Char) :=
  [['S', 'S'], ['F', 'F'], ['F', 'I'], ['F', 'L'], ['F', 'F', 'I'], ['F', 'F', 'L'], ['S', 'T']]

/-- A character is written for a capital or a digit: one that differs from it at most in its case, or
one of the two letters outside US-ASCII whose capital is in it. -/
def StandsFor (c capital : Char) : Prop :=
  c.toUpper = capital ∨ (c = 'ı' ∧ capital = 'I') ∨ (c = 'ſ' ∧ capital = 'S')

variable {c d : Char} {cs before others word : List Char}

/-- What holds of the first 128 characters holds of US-ASCII. -/
theorem of_ascii {p : Char → Prop} (h : ∀ code < 0x80, p (Char.ofNat code)) (hc : IsAscii c) :
    p c := by
  have hp := h c.toNat hc
  rwa [Char.ofNat_toNat] at hp

/-- If all ranges but the first begin outside US-ASCII, the first alone counts within it. -/
theorem mapByRanges_of_ascii (first : CaseRange) (rest : List CaseRange) {code : Nat}
    (hrest : ∀ range ∈ rest, 0x80 ≤ range.first) (hcode : code < 0x80) :
    mapByRanges (first :: rest) code = first.map? code := by
  rw [mapByRanges, List.findSome?_cons]
  cases first.map? code with
  | some image => rfl
  | none =>
      refine List.findSome?_eq_none_iff.2 fun range hmem => if_neg fun hwithin => ?_
      have hfirst := hrest range hmem
      omega

/-- The upper-case form of a character of US-ASCII is one character. -/
theorem upperOf_of_ascii (hc : IsAscii c) : upperOf c = [c.toUpper] := by
  have houtside : ∀ expansion ∈ upperExpansions, 0x80 ≤ expansion.1 := by decide
  have hsingle : upperExpansions.lookup c.toNat = none := by
    refine List.lookup_eq_none_iff.2 fun expansion hmem => bne_iff_ne.2 fun heq => ?_
    exact absurd (heq ▸ houtside expansion hmem) (Nat.not_le.2 hc)
  have hranges : mapByRanges upperRanges c.toNat = CaseRange.map? ⟨0x61, 0x7A, 1, 0x41⟩ c.toNat :=
    mapByRanges_of_ascii ⟨0x61, 0x7A, 1, 0x41⟩ upperRanges.tail (by decide +kernel) hc
  have hfirst := of_ascii
    (p := fun c => ((CaseRange.map? ⟨0x61, 0x7A, 1, 0x41⟩ c.toNat).map Char.ofNat).getD c = c.toUpper)
    (by decide) hc
  simp only [upperOf, hsingle, hranges]
  cases hmap : CaseRange.map? ⟨0x61, 0x7A, 1, 0x41⟩ c.toNat with
  | some code => simpa [hmap] using hfirst
  | none => simpa [hmap] using hfirst

/-- The lower-case form of a character of US-ASCII is one character. -/
theorem lowerOf_of_ascii (hc : IsAscii c) : lowerOf c = [c.toLower] := by
  have hother : c.toNat ≠ 0x130 := fun heq => absurd (heq ▸ hc : 0x130 < 0x80) (by decide)
  have hranges : mapByRanges lowerRanges c.toNat = CaseRange.map? ⟨0x41, 0x5A, 1, 0x61⟩ c.toNat :=
    mapByRanges_of_ascii ⟨0x41, 0x5A, 1, 0x61⟩ lowerRanges.tail (by decide +kernel) hc
  have hfirst := of_ascii
    (p := fun c => ((CaseRange.map? ⟨0x41, 0x5A, 1, 0x61⟩ c.toNat).map Char.ofNat).getD c = c.toLower)
    (by decide) hc
  simp only [lowerOf, if_neg hother, hranges]
  cases hmap : CaseRange.map? ⟨0x41, 0x5A, 1, 0x61⟩ c.toNat with
  | some code => simpa [hmap] using hfirst
  | none => simpa [hmap] using hfirst

/-- The letters of US-ASCII are all that its own upper-case mapping changes. -/
theorem toUpper_of_not_ascii (hc : ¬ IsAscii c) : c.toUpper = c := by
  refine dif_neg fun hletter => hc ?_
  have hlast : c.toNat ≤ 'z'.toNat := UInt32.le_iff_toNat_le.1 hletter.2
  exact Nat.lt_of_le_of_lt hlast (by decide)

/-- The letters of US-ASCII are all that its own lower-case mapping changes. -/
theorem toLower_of_not_ascii (hc : ¬ IsAscii c) : c.toLower = c := by
  refine dif_neg fun hletter => hc ?_
  have hlast : c.toNat ≤ 'Z'.toNat := UInt32.le_iff_toNat_le.1 hletter.2
  exact Nat.lt_of_le_of_lt hlast (by decide)

/-- A range of a case mapping has all its images outside US-ASCII. -/
def CaseRange.LeadsOutside (range : CaseRange) : Prop :=
  (0x80 ≤ range.image ∧ range.image + (range.last - range.first) < 0xD800) ∨
    (0xE000 ≤ range.image ∧ range.image + (range.last - range.first) < 0x110000)

instance (range : CaseRange) : Decidable range.LeadsOutside :=
  inferInstanceAs (Decidable (_ ∨ _))

/-- A code point that is mapped lies within a range. -/
theorem mapped_by_range {ranges : List CaseRange} {code image : Nat}
    (h : mapByRanges ranges code = some image) :
    ∃ range ∈ ranges, range.first ≤ code ∧ code ≤ range.last ∧
      image = range.image + (code - range.first) := by
  obtain ⟨range, hmem, hmap⟩ := List.exists_of_findSome?_eq_some h
  rw [CaseRange.map?] at hmap
  split at hmap
  · rename_i hwithin
    cases hmap
    exact ⟨range, hmem, hwithin.1, hwithin.2.1, rfl⟩
  · cases hmap

/-- Images outside US-ASCII are those of characters outside US-ASCII. -/
theorem CaseRange.LeadsOutside.not_ascii {range : CaseRange} (h : range.LeadsOutside) {code : Nat}
    (hlast : code ≤ range.last) : ¬ IsAscii (Char.ofNat (range.image + (code - range.first))) := by
  rw [LeadsOutside] at h
  have hvalid : (range.image + (code - range.first)).isValidChar := by
    rw [Nat.isValidChar]
    omega
  have hcode : (Char.ofNat (range.image + (code - range.first))).toNat =
      range.image + (code - range.first) := Utf8.val_ofNat hvalid
  rw [IsAscii, hcode]
  omega

/-- Where the ranges of the upper-case mapping lead. -/
theorem upper_range_cases : ∀ range ∈ upperRanges,
    range.LeadsOutside ∨ range.last < 0x80 ∨ range = ⟨0x131, 0x131, 1, 0x49⟩ ∨
      range = ⟨0x17F, 0x17F, 1, 0x53⟩ := by
  decide +kernel

/-- Where the ranges of the lower-case mapping lead. -/
theorem lower_range_cases : ∀ range ∈ lowerRanges,
    range.LeadsOutside ∨ range.last < 0x80 ∨ range = ⟨0x212A, 0x212A, 1, 0x6B⟩ := by
  decide +kernel

/-- Where the upper-case mapping to several characters leads. -/
theorem expansion_cases : ∀ expansion ∈ upperExpansions,
    (∃ d ∈ expansion.2.map Char.ofNat, ¬ IsAscii d) ∨ expansion.2.map Char.ofNat ∈ ligatures := by
  have htable : ∀ expansion ∈ upperExpansions,
      (expansion.2.map Char.ofNat).any (fun d => ¬ IsAscii d) = true ∨
        expansion.2.map Char.ofNat ∈ ligatures := by
    decide
  exact fun expansion hmem => (htable expansion hmem).imp_left List.any_iff_exists_prop.1

/-- What the upper-case mapping makes of a character outside US-ASCII. -/
theorem upperOf_of_not_ascii (hc : ¬ IsAscii c) :
    (∃ d ∈ upperOf c, ¬ IsAscii d) ∨ upperOf c ∈ ligatures ∨ (c = 'ı' ∧ upperOf c = ['I']) ∨
      (c = 'ſ' ∧ upperOf c = ['S']) := by
  -- The cases are those of the mapping: several characters, another character, the same one.
  rw [upperOf]
  split
  · rename_i codes hcodes
    obtain ⟨_, _, htable, _⟩ := List.lookup_eq_some_iff.1 hcodes
    have hmem : (c.toNat, codes) ∈ upperExpansions := by simp [htable]
    rcases expansion_cases _ hmem with houtside | hligature
    · exact .inl houtside
    · exact .inr (.inl hligature)
  · split
    · rename_i image himage
      obtain ⟨range, hmem, hfirst, hlast, rfl⟩ := mapped_by_range himage
      rcases upper_range_cases range hmem with houtside | hinside | rfl | rfl
      · exact .inl ⟨_, List.mem_singleton_self _, houtside.not_ascii hlast⟩
      · exact absurd (Nat.lt_of_le_of_lt hlast hinside) hc
      · have hcode : c.toNat = 'ı'.toNat := Nat.le_antisymm hlast hfirst
        exact .inr (.inr (.inl ⟨Char.toNat_inj.1 hcode, by rw [hcode]; rfl⟩))
      · have hcode : c.toNat = 'ſ'.toNat := Nat.le_antisymm hlast hfirst
        exact .inr (.inr (.inr ⟨Char.toNat_inj.1 hcode, by rw [hcode]; rfl⟩))
    · exact .inl ⟨c, List.mem_singleton_self _, hc⟩

/-- What the lower-case mapping makes of a character outside US-ASCII. -/
theorem lowerOf_of_not_ascii (hc : ¬ IsAscii c) :
    (∃ d ∈ lowerOf c, ¬ IsAscii d) ∨ lowerOf c = ['k'] := by
  rw [lowerOf]
  split
  · exact .inl ⟨Char.ofNat 0x307, by simp, by decide⟩
  · split
    · rename_i image himage
      obtain ⟨range, hmem, hfirst, hlast, rfl⟩ := mapped_by_range himage
      rcases lower_range_cases range hmem with houtside | hinside | rfl
      · exact .inl ⟨_, List.mem_singleton_self _, houtside.not_ascii hlast⟩
      · exact absurd (Nat.lt_of_le_of_lt hlast hinside) hc
      · have hcode : c.toNat = 0x212A := Nat.le_antisymm hlast hfirst
        exact .inr (by rw [hcode]; rfl)
    · exact .inl ⟨c, List.mem_singleton_self _, hc⟩

/-- A character whose upper-case form is one character of US-ASCII stands for it. -/
theorem upperOf_eq_singleton_iff (hd : IsAscii d) : upperOf c = [d] ↔ StandsFor c d := by
  by_cases hc : IsAscii c
  · rw [upperOf_of_ascii hc, List.singleton_inj]
    refine ⟨.inl, ?_⟩
    rintro (hsame | ⟨rfl, -⟩ | ⟨rfl, -⟩)
    · exact hsame
    · exact absurd hc (by decide)
    · exact absurd hc (by decide)
  · constructor
    · intro hupper
      rcases upperOf_of_not_ascii hc with ⟨other, hmem, hother⟩ | hligature | ⟨rfl, hi⟩ | ⟨rfl, hs⟩
      · rw [hupper, List.mem_singleton] at hmem
        exact absurd hd (hmem ▸ hother)
      · rw [hupper] at hligature
        simp [ligatures] at hligature
      · exact .inr (.inl ⟨rfl, List.singleton_inj.1 (hupper.symm.trans hi)⟩)
      · exact .inr (.inr ⟨rfl, List.singleton_inj.1 (hupper.symm.trans hs)⟩)
    · rintro (hsame | ⟨rfl, rfl⟩ | ⟨rfl, rfl⟩)
      · rw [toUpper_of_not_ascii hc] at hsame
        exact absurd (hsame ▸ hd) hc
      · decide
      · decide

/-- In front of a word of US-ASCII without ligatures, the upper-case form of a character is one
character. -/
theorem exists_upperOf_eq_singleton (hupper : upperOf c ++ others = word)
    (hword : ∀ d ∈ word, IsAscii d) (hplain : ∀ letters ∈ ligatures, ¬ letters <:+: word) :
    ∃ d, upperOf c = [d] := by
  by_cases hc : IsAscii c
  · exact ⟨_, upperOf_of_ascii hc⟩
  · rcases upperOf_of_not_ascii hc with ⟨d, hmem, hd⟩ | hligature | ⟨-, hi⟩ | ⟨-, hs⟩
    · exact absurd (hword d (hupper ▸ List.mem_append_left _ hmem)) hd
    · exact absurd ⟨[], others, hupper⟩ (hplain _ hligature)
    · exact ⟨_, hi⟩
    · exact ⟨_, hs⟩

/-- The texts whose upper-case form is a given word are those that stand for it character by
character, if the word is in US-ASCII and contains no ligatures. -/
theorem upper_eq_iff (hword : ∀ d ∈ word, IsAscii d)
    (hplain : ∀ letters ∈ ligatures, ¬ letters <:+: word) :
    cs.flatMap upperOf = word ↔ List.Forall₂ StandsFor cs word := by
  induction cs generalizing word with
  | nil => rw [List.flatMap_nil, List.forall₂_nil_left_iff, eq_comm]
  | cons c rest ih =>
      rw [List.flatMap_cons, List.forall₂_cons_left_iff]
      constructor
      · intro hupper
        obtain ⟨d, hd⟩ := exists_upperOf_eq_singleton hupper hword hplain
        rw [hd, List.singleton_append] at hupper
        subst hupper
        rw [List.forall_mem_cons] at hword
        refine ⟨d, _, (upperOf_eq_singleton_iff hword.1).1 hd, (ih hword.2 ?_).1 rfl, rfl⟩
        exact fun letters hmem hinfix => hplain letters hmem (List.infix_cons hinfix)
      · rintro ⟨d, tail, hd, htail, rfl⟩
        rw [List.forall_mem_cons] at hword
        have hrest : rest.flatMap upperOf = tail := (ih hword.2 fun letters hmem hinfix =>
          hplain letters hmem (List.infix_cons hinfix)).2 htail
        rw [(upperOf_eq_singleton_iff hword.1).2 hd, hrest, List.singleton_append]

/-- Within US-ASCII, lower-casing goes character by character. -/
theorem lowerAfter_of_ascii (hcs : ∀ c ∈ cs, IsAscii c) :
    lowerAfter before cs = cs.map Char.toLower := by
  induction cs generalizing before with
  | nil => rfl
  | cons c rest ih =>
      rw [List.forall_mem_cons] at hcs
      have hsigma : c.toNat ≠ 0x3A3 := fun heq => absurd (heq ▸ hcs.1 : 0x3A3 < 0x80) (by decide)
      rw [lowerAfter, ih hcs.2]
      simp only [if_neg hsigma, lowerOf_of_ascii hcs.1]
      rfl

/-- Only US-ASCII has a lower-case form within US-ASCII, but for the Kelvin sign. -/
theorem ascii_of_lowerAfter (h : ∀ d ∈ lowerAfter before cs, IsAscii d ∧ d ≠ 'k') :
    ∀ c ∈ cs, IsAscii c := by
  induction cs generalizing before with
  | nil => simp
  | cons c rest ih =>
      rw [lowerAfter] at h
      simp only [List.mem_append] at h
      rw [List.forall_mem_cons]
      refine ⟨by_contra fun hc => ?_, ih fun d hd => h d (.inr hd)⟩
      split at h
      · -- Neither form of the sigma is in US-ASCII.
        have hsigma := (h _ (.inl (List.mem_singleton_self _))).1
        split at hsigma <;> exact absurd hsigma (by decide)
      · rcases lowerOf_of_not_ascii hc with ⟨d, hmem, hd⟩ | hkelvin
        · exact hd (h d (.inl hmem)).1
        · exact (h 'k' (.inl (by rw [hkelvin]; exact List.mem_singleton_self _))).2 rfl

/-- The texts whose lower-case form is a given word are those that differ from it at most in the case
of letters of US-ASCII, if the word is in US-ASCII and contains no k. -/
theorem lower_eq_iff (hword : ∀ d ∈ word, IsAscii d ∧ d ≠ 'k') :
    lowerAfter before cs = word ↔ cs.map Char.toLower = word := by
  constructor
  · intro hlower
    have hcs : ∀ c ∈ cs, IsAscii c := ascii_of_lowerAfter (hlower ▸ hword)
    rwa [lowerAfter_of_ascii hcs] at hlower
  · intro hmap
    have hcs : ∀ c ∈ cs, IsAscii c := by
      refine fun c hmem => by_contra fun hc => ?_
      have hlower : c.toLower ∈ word := hmap ▸ List.mem_map_of_mem hmem
      rw [toLower_of_not_ascii hc] at hlower
      exact hc (hword c hlower).1
    rw [lowerAfter_of_ascii hcs, hmap]

end Runbook.Text
