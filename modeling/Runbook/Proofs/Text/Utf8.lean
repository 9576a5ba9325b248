import Mathlib.Data.List.Basic
import Runbook.Text.Utf8

/-!
# What UTF-8 decoding makes of octets

Some octet sequences are characters in sequence, and all others contain ill-formed subparts.
`Divided` says how a sequence is divided into characters and maximal ill-formed subparts, in terms
of the octets of characters alone. The decoder finds this division, and there is no other one
(`divided_iff`). So decoding gives a text back from its octets, and gives a replacement character
away for each ill-formed subpart.
-/

namespace Runbook.Text.Utf8

/-- Octets that some character begins with. -/
def Begins (octets : List UInt8) : Prop :=
  ∃ c, octets <+: String.utf8EncodeChar c

/-- What can be taken for one ill-formed subpart at the front of octets: octets that some character
begins with, or a single octet. -/
structure Candidate (octets subpart : List UInt8) : Prop where
  nonempty : subpart ≠ []
  front : subpart <+: octets
  begins : Begins subpart ∨ subpart.length = 1

/-- The maximal ill-formed subpart at the front of octets: no character stands there, and no
candidate is longer. -/
structure MaximalSubpart (octets subpart : List UInt8) : Prop where
  illFormed : ∀ c, ¬ String.utf8EncodeChar c <+: octets
  candidate : Candidate octets subpart
  longest : ∀ other, Candidate octets other → other.length ≤ subpart.length

/-- The division of octets into characters and maximal ill-formed subparts. -/
inductive Divided : List UInt8 → List (Option Char) → Prop
  | nil : Divided [] []
  | character (c : Char) {rest : List UInt8} {parts : List (Option Char)}
      (h : Divided rest parts) : Divided (String.utf8EncodeChar c ++ rest) (some c :: parts)
  | illFormed {subpart rest : List UInt8} {parts : List (Option Char)}
      (hsubpart : MaximalSubpart (subpart ++ rest) subpart) (h : Divided rest parts) :
      Divided (subpart ++ rest) (none :: parts)

/-- What an octet announces, by the number of octets that are owed. -/
inductive Announces (octet : UInt8) : Lead → Prop
  | one (hrange : octet.toNat < 0x80) : Announces octet ⟨0, 0x80, 0xBF, octet.toNat⟩
  | two (bits : Nat) (hoctet : octet.toNat = 0xC0 + bits) (hleast : 2 ≤ bits)
      (hmost : bits < 0x20) : Announces octet ⟨1, 0x80, 0xBF, bits⟩
  | three (bits : Nat) (low high : UInt8) (hoctet : octet.toNat = 0xE0 + bits)
      (hmost : bits < 0x10) (hlow : low.toNat = if bits = 0 then 0xA0 else 0x80)
      (hhigh : high.toNat = if bits = 0xD then 0x9F else 0xBF) :
      Announces octet ⟨2, low, high, bits⟩
  | four (bits : Nat) (low high : UInt8) (hoctet : octet.toNat = 0xF0 + bits) (hmost : bits < 5)
      (hlow : low.toNat = if bits = 0 then 0x90 else 0x80)
      (hhigh : high.toNat = if bits = 4 then 0x8F else 0xBF) :
      Announces octet ⟨3, low, high, bits⟩

variable {octet : UInt8} {rest remaining : List UInt8} {lead : Lead}

/-- An octet that is read as a lead octet announces what is read. -/
theorem announces_of_lead (h : lead? octet = some lead) : Announces octet lead := by
  simp only [lead?] at h
  split at h
  · cases h
    exact .one ‹_›
  split at h
  · cases h
  split at h
  · cases h
    exact .two _ (by omega) (by omega) (by omega)
  split at h
  · cases h
    exact .three 0 _ _ (by omega) (by omega) rfl rfl
  split at h
  · cases h
    exact .three 0xD _ _ (by omega) (by omega) rfl rfl
  split at h
  · cases h
    exact .three _ _ _ (by omega) (by omega) (if_neg (by omega)).symm (if_neg (by omega)).symm
  split at h
  · cases h
    exact .four 0 _ _ (by omega) (by omega) rfl rfl
  split at h
  · cases h
    exact .four _ _ _ (by omega) (by omega) (if_neg (by omega)).symm (if_neg (by omega)).symm
  split at h
  · cases h
    exact .four 4 _ _ (by omega) (by omega) rfl rfl
  · cases h

/-- An octet that announces something is read as a lead octet. -/
theorem Announces.lead_eq (h : Announces octet lead) : lead? octet = some lead := by
  cases h with
  | one hrange => simp [lead?, hrange]
  | two bits hoctet hleast hmost =>
      simp only [lead?, hoctet]
      rw [if_neg (by omega), if_neg (by omega), if_pos (by omega), Nat.add_sub_cancel_left]
  | three bits low high hoctet hmost hlow hhigh =>
      obtain rfl : low = if bits = 0 then 0xA0 else 0x80 :=
        UInt8.toNat_inj.1 (by rw [hlow]; split <;> rfl)
      obtain rfl : high = if bits = 0xD then 0x9F else 0xBF :=
        UInt8.toNat_inj.1 (by rw [hhigh]; split <;> rfl)
      simp only [lead?, hoctet]
      rw [if_neg (by omega), if_neg (by omega), if_neg (by omega)]
      split
      · obtain rfl : bits = 0 := by omega
        rfl
      split
      · obtain rfl : bits = 0xD := by omega
        rfl
      · rw [if_pos (by omega), if_neg (by omega), if_neg (by omega), Nat.add_sub_cancel_left]
  | four bits low high hoctet hmost hlow hhigh =>
      obtain rfl : low = if bits = 0 then 0x90 else 0x80 :=
        UInt8.toNat_inj.1 (by rw [hlow]; split <;> rfl)
      obtain rfl : high = if bits = 4 then 0x8F else 0xBF :=
        UInt8.toNat_inj.1 (by rw [hhigh]; split <;> rfl)
      simp only [lead?, hoctet]
      rw [if_neg (by omega), if_neg (by omega), if_neg (by omega), if_neg (by omega),
        if_neg (by omega), if_neg (by omega)]
      split
      · obtain rfl : bits = 0 := by omega
        rfl
      split
      · rw [if_neg (by omega), if_neg (by omega), Nat.add_sub_cancel_left]
      · obtain rfl : bits = 4 := by omega
        rfl

/-- The bounds of the first continuation octet leave room for one. -/
theorem Announces.bounds (h : Announces octet lead) :
    0x80 ≤ lead.low.toNat ∧ lead.low.toNat ≤ lead.high.toNat ∧ lead.high.toNat ≤ 0xBF := by
  cases h with
  | one | two =>
      show 0x80 ≤ (0x80 : UInt8).toNat ∧ (0x80 : UInt8).toNat ≤ (0xBF : UInt8).toNat ∧
        (0xBF : UInt8).toNat ≤ 0xBF
      decide
  | three bits low high hoctet hmost hlow hhigh =>
      show 0x80 ≤ low.toNat ∧ low.toNat ≤ high.toNat ∧ high.toNat ≤ 0xBF
      split at hlow <;> split at hhigh <;> omega
  | four bits low high hoctet hmost hlow hhigh =>
      show 0x80 ≤ low.toNat ∧ low.toNat ≤ high.toNat ∧ high.toNat ≤ 0xBF
      split at hlow <;> split at hhigh <;> omega

/-- The continuation octet that carries six bits. -/
def trail (bits : Nat) : UInt8 :=
  UInt8.ofNat (0x80 + bits)

section continuation

variable {owed bits code last : Nat} {low high : UInt8}

/-- A continuation octet carries its six bits. -/
theorem toNat_trail (hlast : last < 64) : (trail last).toNat = 0x80 + last := by
  rw [trail, UInt8.toNat_ofNat']
  omega

/-- An octet between the bounds is read for its six bits. -/
theorem continuation_of_trail (hlast : last < 64) (hlow : low.toNat ≤ 0x80 + last)
    (hhigh : 0x80 + last ≤ high.toNat) :
    continuation (owed + 1) low high bits (trail last :: rest) =
      continuation owed 0x80 0xBF (bits * 64 + last) rest := by
  have hfits : low ≤ trail last ∧ trail last ≤ high := by
    rw [UInt8.le_iff_toNat_le, UInt8.le_iff_toNat_le, toNat_trail hlast]
    exact ⟨hlow, hhigh⟩
  rw [continuation, if_pos hfits, toNat_trail hlast, Nat.add_sub_cancel_left]

/-- Behind the first one, every continuation octet is read for its six bits. -/
theorem continuation_of_free_trail (hlast : last < 64) :
    continuation (owed + 1) 0x80 0xBF bits (trail last :: rest) =
      continuation owed 0x80 0xBF (bits * 64 + last) rest :=
  continuation_of_trail hlast (Nat.le_add_right 0x80 last)
    (Nat.add_le_add_left (Nat.le_of_lt_succ hlast) 0x80)

/-- What is owed has been paid only by octets between the bounds. -/
theorem exists_trail (hlow : 0x80 ≤ low.toNat) (hhigh : high.toNat ≤ 0xBF)
    (h : continuation (owed + 1) low high bits rest = (some code, remaining)) :
    ∃ last others, last < 64 ∧ low.toNat ≤ 0x80 + last ∧ 0x80 + last ≤ high.toNat ∧
      rest = trail last :: others ∧
      continuation owed 0x80 0xBF (bits * 64 + last) others = (some code, remaining) := by
  cases rest with
  | nil => cases h
  | cons octet others =>
      rw [continuation] at h
      split at h
      · rename_i hfits
        rw [UInt8.le_iff_toNat_le, UInt8.le_iff_toNat_le] at hfits
        have hoctet : octet = trail (octet.toNat - 0x80) := by
          rw [trail, Nat.add_sub_cancel' (by omega), UInt8.ofNat_toNat]
        exact ⟨octet.toNat - 0x80, others, by omega, by omega, by omega, by rw [← hoctet], h⟩
      · cases h

/-- What is owed can always be paid. -/
theorem exists_continuation (owed bits : Nat) (hlow : 0x80 ≤ low.toNat) (h : low.toNat ≤ high.toNat)
    (hhigh : high.toNat ≤ 0xBF) :
    ∃ more code, continuation owed low high bits more = (some code, []) := by
  induction owed generalizing low high bits with
  | zero => exact ⟨[], bits, rfl⟩
  | succ owed ih =>
      obtain ⟨more, code, hmore⟩ : ∃ more code,
          continuation owed 0x80 0xBF (bits * 64 + (low.toNat - 0x80)) more = (some code, []) :=
        ih _ (by decide) (by decide) (by decide)
      refine ⟨trail (low.toNat - 0x80) :: more, code, ?_⟩
      rw [continuation_of_trail (by omega) (by omega) (by omega), hmore]

/-- Octets that do not pay what is owed go on as those of some character, up to the octet that does
not fit. -/
theorem continuation_eq_none (hlow : 0x80 ≤ low.toNat) (h : low.toNat ≤ high.toNat)
    (hhigh : high.toNat ≤ 0xBF)
    (hnone : continuation owed low high bits rest = (none, remaining)) :
    ∃ taken, rest = taken ++ remaining ∧
      (∃ more code, continuation owed low high bits (taken ++ more) = (some code, [])) ∧
      ∀ next tail, remaining.head? = some next →
        (continuation owed low high bits (taken ++ next :: tail)).1 = none := by
  -- The bounds are those of the next octet only, so they have to be free in the induction.
  induction owed generalizing low high bits rest with
  | zero => cases hnone
  | succ owed ih =>
      cases rest with
      | nil =>
          cases hnone
          exact ⟨[], rfl, exists_continuation _ _ hlow h hhigh, by simp⟩
      | cons octet rest =>
          rw [continuation] at hnone
          split at hnone
          · rename_i hfits
            obtain ⟨taken, rfl, hmore, hstop⟩ := ih (by decide) (by decide) (by decide) hnone
            refine ⟨octet :: taken, rfl, ?_, fun next tail hnext => ?_⟩
            · simpa only [List.cons_append, continuation, if_pos hfits] using hmore
            · rw [List.cons_append, continuation, if_pos hfits]
              exact hstop next tail hnext
          · rename_i hunfit
            cases hnone
            refine ⟨[], rfl, exists_continuation _ _ hlow h hhigh, fun next tail hnext => ?_⟩
            obtain rfl : octet = next := Option.some.inj hnext
            rw [List.nil_append, continuation, if_neg hunfit]

end continuation

section reading

variable {character : Option Char}

/-- A lead octet is read with the octets that it owes. -/
theorem next_of_lead (code : Option Nat) (hlead : lead? octet = some lead)
    (h : continuation lead.owed lead.low lead.high lead.bits rest = (code, remaining)) :
    next octet rest = (code.map Char.ofNat, remaining) := by
  simp only [next, hlead, h]

/-- What is read is a lead octet with the octets that it owes, or an octet that cannot lead. -/
theorem lead_of_next (h : next octet rest = (character, remaining)) :
    lead? octet = none ∧ character = none ∧ rest = remaining ∨
      ∃ lead code, lead? octet = some lead ∧
        continuation lead.owed lead.low lead.high lead.bits rest = (code, remaining) ∧
        character = code.map Char.ofNat := by
  cases hlead : lead? octet with
  | none =>
      simp only [next, hlead, Prod.mk.injEq] at h
      exact .inl ⟨rfl, h.1.symm, h.2⟩
  | some lead =>
      rw [next_of_lead _ hlead rfl, Prod.mk.injEq] at h
      exact .inr ⟨lead, _, rfl, Prod.ext rfl h.2, h.1.symm⟩

end reading

/-- A valid number is the number of its character. -/
theorem val_ofNat {code : Nat} (h : code.isValidChar) : (Char.ofNat code).val.toNat = code := by
  rw [Char.ofNat, dif_pos h]
  rfl

/-- An octet is determined by its number. -/
theorem ofNat_eq_of_toNat {n : Nat} (h : octet.toNat = n) : UInt8.ofNat n = octet := by
  rw [← h, UInt8.ofNat_toNat]

/-- A character of one octet. -/
theorem encode_one (h : octet.toNat < 0x80) :
    String.utf8EncodeChar (Char.ofNat octet.toNat) = [octet] := by
  have hcode : (Char.ofNat octet.toNat).val.toNat = octet.toNat := val_ofNat (.inl (by omega))
  rw [String.utf8EncodeChar]
  simp only [hcode]
  rw [if_pos (by omega), UInt8.ofNat_toNat]

section longer

variable {bits second third last : Nat}

/-- A character of two octets. -/
theorem encode_two (hoctet : octet.toNat = 0xC0 + bits) (hleast : 2 ≤ bits) (hmost : bits < 0x20)
    (hlast : last < 64) :
    String.utf8EncodeChar (Char.ofNat (bits * 64 + last)) = [octet, trail last] := by
  have hcode : (Char.ofNat (bits * 64 + last)).val.toNat = bits * 64 + last :=
    val_ofNat (.inl (by omega))
  rw [String.utf8EncodeChar]
  simp only [hcode]
  rw [if_neg (by omega), if_pos (by omega),
    show (bits * 64 + last) / 64 % 32 + 192 = 0xC0 + bits by omega, ofNat_eq_of_toNat hoctet,
    show (bits * 64 + last) % 64 + 128 = 0x80 + last by omega]
  rfl

/-- A character of three octets, which neither fits into two nor is a surrogate. -/
theorem encode_three (hoctet : octet.toNat = 0xE0 + bits) (hmost : bits < 0x10)
    (hsecond : second < 64) (hlast : last < 64) (hleast : bits = 0 → 0x20 ≤ second)
    (hsurrogate : bits = 0xD → second < 0x20) :
    String.utf8EncodeChar (Char.ofNat ((bits * 64 + second) * 64 + last)) =
      [octet, trail second, trail last] := by
  have hcode : (Char.ofNat ((bits * 64 + second) * 64 + last)).val.toNat =
      (bits * 64 + second) * 64 + last :=
    val_ofNat (by unfold Nat.isValidChar; omega)
  rw [String.utf8EncodeChar]
  simp only [hcode]
  rw [if_neg (by omega), if_neg (by omega), if_pos (by omega),
    show ((bits * 64 + second) * 64 + last) / 4096 % 16 + 224 = 0xE0 + bits by omega,
    ofNat_eq_of_toNat hoctet,
    show ((bits * 64 + second) * 64 + last) / 64 % 64 + 128 = 0x80 + second by omega,
    show ((bits * 64 + second) * 64 + last) % 64 + 128 = 0x80 + last by omega]
  rfl

/-- A character of four octets, which neither fits into three nor is above the range. -/
theorem encode_four (hoctet : octet.toNat = 0xF0 + bits) (hmost : bits < 5)
    (hsecond : second < 64) (hthird : third < 64) (hlast : last < 64)
    (hleast : bits = 0 → 0x10 ≤ second) (hrange : bits = 4 → second < 0x10) :
    String.utf8EncodeChar (Char.ofNat (((bits * 64 + second) * 64 + third) * 64 + last)) =
      [octet, trail second, trail third, trail last] := by
  have hcode : (Char.ofNat (((bits * 64 + second) * 64 + third) * 64 + last)).val.toNat =
      ((bits * 64 + second) * 64 + third) * 64 + last :=
    val_ofNat (by unfold Nat.isValidChar; omega)
  rw [String.utf8EncodeChar]
  simp only [hcode]
  rw [if_neg (by omega), if_neg (by omega), if_neg (by omega),
    show (((bits * 64 + second) * 64 + third) * 64 + last) / 262144 % 8 + 240 = 0xF0 + bits by
      omega,
    ofNat_eq_of_toNat hoctet,
    show (((bits * 64 + second) * 64 + third) * 64 + last) / 4096 % 64 + 128 = 0x80 + second by
      omega,
    show (((bits * 64 + second) * 64 + third) * 64 + last) / 64 % 64 + 128 = 0x80 + third by omega,
    show (((bits * 64 + second) * 64 + third) * 64 + last) % 64 + 128 = 0x80 + last by omega]
  rfl

/-- A character of two octets is read. -/
theorem next_two (hoctet : octet.toNat = 0xC0 + bits) (hleast : 2 ≤ bits) (hmost : bits < 0x20)
    (hlast : last < 64) :
    next octet (trail last :: rest) = (some (Char.ofNat (bits * 64 + last)), rest) := by
  have hlead := Announces.lead_eq (.two bits hoctet hleast hmost)
  refine next_of_lead (some (bits * 64 + last)) hlead ?_
  rw [continuation_of_free_trail hlast]
  rfl

/-- A character of three octets is read. -/
theorem next_three (hoctet : octet.toNat = 0xE0 + bits) (hmost : bits < 0x10)
    (hsecond : second < 64) (hlast : last < 64) (hleast : bits = 0 → 0x20 ≤ second)
    (hsurrogate : bits = 0xD → second < 0x20) :
    next octet (trail second :: trail last :: rest) =
      (some (Char.ofNat ((bits * 64 + second) * 64 + last)), rest) := by
  obtain ⟨low, hlow⟩ : ∃ low : UInt8, low.toNat = if bits = 0 then 0xA0 else 0x80 :=
    ⟨if bits = 0 then 0xA0 else 0x80, by split <;> rfl⟩
  obtain ⟨high, hhigh⟩ : ∃ high : UInt8, high.toNat = if bits = 0xD then 0x9F else 0xBF :=
    ⟨if bits = 0xD then 0x9F else 0xBF, by split <;> rfl⟩
  have hlead := Announces.lead_eq (.three bits low high hoctet hmost hlow hhigh)
  refine next_of_lead (some ((bits * 64 + second) * 64 + last)) hlead ?_
  have hover : low.toNat ≤ 0x80 + second := by split at hlow <;> omega
  have hunder : 0x80 + second ≤ high.toNat := by split at hhigh <;> omega
  rw [continuation_of_trail hsecond hover hunder, continuation_of_free_trail hlast]
  rfl

/-- A character of four octets is read. -/
theorem next_four (hoctet : octet.toNat = 0xF0 + bits) (hmost : bits < 5)
    (hsecond : second < 64) (hthird : third < 64) (hlast : last < 64)
    (hleast : bits = 0 → 0x10 ≤ second) (hrange : bits = 4 → second < 0x10) :
    next octet (trail second :: trail third :: trail last :: rest) =
      (some (Char.ofNat (((bits * 64 + second) * 64 + third) * 64 + last)), rest) := by
  obtain ⟨low, hlow⟩ : ∃ low : UInt8, low.toNat = if bits = 0 then 0x90 else 0x80 :=
    ⟨if bits = 0 then 0x90 else 0x80, by split <;> rfl⟩
  obtain ⟨high, hhigh⟩ : ∃ high : UInt8, high.toNat = if bits = 4 then 0x8F else 0xBF :=
    ⟨if bits = 4 then 0x8F else 0xBF, by split <;> rfl⟩
  have hlead := Announces.lead_eq (.four bits low high hoctet hmost hlow hhigh)
  refine next_of_lead (some (((bits * 64 + second) * 64 + third) * 64 + last)) hlead ?_
  have hover : low.toNat ≤ 0x80 + second := by split at hlow <;> omega
  have hunder : 0x80 + second ≤ high.toNat := by split at hhigh <;> omega
  rw [continuation_of_trail hsecond hover hunder, continuation_of_free_trail hthird,
    continuation_of_free_trail hlast]
  rfl

end longer

/-- What is read as a character is the octets of that character. -/
theorem eq_append_of_next {c : Char} (h : next octet rest = (some c, remaining)) :
    octet :: rest = String.utf8EncodeChar c ++ remaining := by
  obtain ⟨_, hnone, _⟩ | ⟨lead, code?, hlead, hread, hcode⟩ := lead_of_next h
  · cases hnone
  obtain ⟨code, rfl, rfl⟩ := Option.map_eq_some_iff.1 hcode.symm
  have hannounced := announces_of_lead hlead
  obtain ⟨hleast, -, hmost⟩ := hannounced.bounds
  -- The lead announces how many octets are owed, and they are taken off one by one.
  cases hannounced with
  | one hrange =>
      cases hread
      rw [encode_one hrange]
      rfl
  | two bits hoctet hlow hhigh =>
      obtain ⟨last, others, hlast, -, -, rfl, hend⟩ := exists_trail hleast hmost hread
      cases hend
      rw [encode_two hoctet hlow hhigh hlast]
      rfl
  | three bits low high hoctet hbits hlow hhigh =>
      obtain ⟨second, others, hsecond, hover, hunder, rfl, hmore⟩ := exists_trail hleast hmost hread
      obtain ⟨last, others, hlast, -, -, rfl, hend⟩ := exists_trail (by decide) (by decide) hmore
      cases hend
      dsimp only at hover hunder
      rw [encode_three hoctet hbits hsecond hlast (by split at hlow <;> omega)
        (by split at hhigh <;> omega)]
      rfl
  | four bits low high hoctet hbits hlow hhigh =>
      obtain ⟨second, others, hsecond, hover, hunder, rfl, hmore⟩ := exists_trail hleast hmost hread
      obtain ⟨third, others, hthird, -, -, rfl, hlater⟩ :=
        exists_trail (by decide) (by decide) hmore
      obtain ⟨last, others, hlast, -, -, rfl, hend⟩ := exists_trail (by decide) (by decide) hlater
      cases hend
      dsimp only at hover hunder
      rw [encode_four hoctet hbits hsecond hthird hlast (by split at hlow <;> omega)
        (by split at hhigh <;> omega)]
      rfl

/-- A character is read from its octets, whatever stands behind it. -/
theorem next_of_character (c : Char) :
    ∃ octet tail, String.utf8EncodeChar c = octet :: tail ∧
      ∀ rest, next octet (tail ++ rest) = (some c, rest) := by
  have hvalid : c.val.toNat.isValidChar := c.valid
  rw [← Char.ofNat_toNat c, Char.toNat]
  generalize c.val.toNat = code at hvalid ⊢
  unfold Nat.isValidChar at hvalid
  have hoctets : ∀ n < 256, ∃ octet : UInt8, octet.toNat = n := fun n hn =>
    ⟨UInt8.ofNat n, UInt8.toNat_ofNat_of_lt hn⟩
  -- By its number of octets the code point is taken apart into digits to the base 64.
  have hrange : code < 0x80 ∨ 0x80 ≤ code ∧ code < 0x800 ∨ 0x800 ≤ code ∧ code < 0x10000 ∨
      0x10000 ≤ code := by omega
  rcases hrange with hone | ⟨hleast, hmost⟩ | ⟨hleast, hmost⟩ | hleast
  · obtain ⟨octet, rfl⟩ := hoctets code (by omega)
    refine ⟨octet, [], encode_one hone, fun rest => ?_⟩
    exact next_of_lead (some octet.toNat) (Announces.lead_eq (.one hone)) rfl
  · obtain ⟨bits, last, rfl, hlast⟩ : ∃ bits last, code = bits * 64 + last ∧ last < 64 :=
      ⟨code / 64, code % 64, by omega, by omega⟩
    obtain ⟨octet, hoctet⟩ := hoctets (0xC0 + bits) (by omega)
    exact ⟨octet, _, encode_two hoctet (by omega) (by omega) hlast,
      fun rest => next_two hoctet (by omega) (by omega) hlast⟩
  · obtain ⟨bits, second, last, rfl, hsecond, hlast⟩ :
        ∃ bits second last, code = (bits * 64 + second) * 64 + last ∧ second < 64 ∧ last < 64 :=
      ⟨code / 4096, code / 64 % 64, code % 64, by omega, by omega, by omega⟩
    obtain ⟨octet, hoctet⟩ := hoctets (0xE0 + bits) (by omega)
    exact ⟨octet, _, encode_three hoctet (by omega) hsecond hlast (by omega) (by omega),
      fun rest => next_three hoctet (by omega) hsecond hlast (by omega) (by omega)⟩
  · obtain ⟨bits, second, third, last, rfl, hsecond, hthird, hlast⟩ :
        ∃ bits second third last, code = ((bits * 64 + second) * 64 + third) * 64 + last ∧
          second < 64 ∧ third < 64 ∧ last < 64 :=
      ⟨code / 262144, code / 4096 % 64, code / 64 % 64, code % 64, by omega, by omega, by omega,
        by omega⟩
    obtain ⟨octet, hoctet⟩ := hoctets (0xF0 + bits) (by omega)
    exact ⟨octet, _, encode_four hoctet (by omega) hsecond hthird hlast (by omega) (by omega),
      fun rest => next_four hoctet (by omega) hsecond hthird hlast (by omega) (by omega)⟩

/-- Octets that some character begins with can go on in such a way that it is read. -/
theorem next_of_begins {more : List UInt8} (h : Begins (octet :: more)) :
    ∃ c after, next octet (more ++ after) = (some c, []) := by
  obtain ⟨c, after, hafter⟩ := h
  obtain ⟨first, tail, hencode, hread⟩ := next_of_character c
  rw [hencode, List.cons_append] at hafter
  obtain ⟨rfl, rfl⟩ := List.cons.inj hafter
  exact ⟨c, after, by simpa using hread []⟩

/-- What cannot be read as a character is a maximal ill-formed subpart. -/
theorem maximal_subpart_of_next (h : next octet rest = (none, remaining)) :
    ∃ taken, rest = taken ++ remaining ∧ MaximalSubpart (octet :: rest) (octet :: taken) := by
  -- A character at the front would have been read.
  have hillFormed : ∀ c, ¬ String.utf8EncodeChar c <+: octet :: rest := by
    rintro c ⟨others, hothers⟩
    obtain ⟨first, tail, hencode, hread⟩ := next_of_character c
    rw [hencode, List.cons_append] at hothers
    obtain ⟨rfl, rfl⟩ := List.cons.inj hothers
    rw [hread others] at h
    cases h
  obtain ⟨hlead, -, rfl⟩ | ⟨lead, code, hlead, hread, hcode⟩ := lead_of_next h
  · refine ⟨[], rfl, hillFormed, ⟨List.cons_ne_nil _ _, ⟨rest, rfl⟩, .inr rfl⟩, ?_⟩
    rintro other ⟨hnonempty, hfront, hbegins | hsingle⟩
    · -- No character begins with an octet that cannot lead.
      obtain ⟨first, more, rfl⟩ := List.exists_cons_of_ne_nil hnonempty
      obtain ⟨rfl, -⟩ := List.cons_prefix_cons.1 hfront
      obtain ⟨c, after, hnext⟩ := next_of_begins hbegins
      rw [next, hlead] at hnext
      cases hnext
    · exact Nat.le_of_eq hsingle
  · obtain rfl : code = none := Option.map_eq_none_iff.1 hcode.symm
    obtain ⟨hleast, hroom, hmost⟩ := (announces_of_lead hlead).bounds
    obtain ⟨taken, rfl, ⟨more, code, hmore⟩, hstop⟩ :=
      continuation_eq_none hleast hroom hmost hread
    have hbegins : Begins (octet :: taken) := by
      have hcharacter := eq_append_of_next (next_of_lead _ hlead hmore)
      rw [List.append_nil] at hcharacter
      exact ⟨_, more, hcharacter⟩
    refine ⟨taken, rfl, hillFormed, ⟨List.cons_ne_nil _ _, ⟨remaining, rfl⟩, .inl hbegins⟩, ?_⟩
    rintro other ⟨hnonempty, hfront, hlonger | hsingle⟩
    · -- A longer candidate contains the octet that does not fit.
      obtain ⟨first, others, rfl⟩ := List.exists_cons_of_ne_nil hnonempty
      obtain ⟨rfl, hothers⟩ := List.cons_prefix_cons.1 hfront
      by_contra hlength
      rw [List.length_cons, List.length_cons, Nat.not_le] at hlength
      obtain ⟨extra, rfl⟩ :=
        List.prefix_of_prefix_length_le (List.prefix_append taken remaining) hothers (by omega)
      obtain ⟨unfit, tail, rfl⟩ := List.exists_cons_of_ne_nil (l := extra) (by
        rintro rfl
        simp at hlength)
      have hhead : remaining.head? = some unfit := by
        obtain ⟨behind, rfl⟩ := (List.prefix_append_right_inj taken).1 hothers
        rfl
      obtain ⟨c, after, hnext⟩ := next_of_begins hlonger
      rw [List.append_assoc, List.cons_append] at hnext
      have hnone := hstop unfit (tail ++ after) hhead
      rw [next_of_lead _ hlead (Prod.ext hnone rfl)] at hnext
      cases hnext
    · rw [hsingle]
      exact Nat.succ_le_succ (Nat.zero_le _)

/-- There is only one maximal ill-formed subpart at the front. -/
theorem MaximalSubpart.unique {octets first second : List UInt8} (h : MaximalSubpart octets first)
    (hother : MaximalSubpart octets second) : first = second := by
  have hlength : first.length = second.length :=
    Nat.le_antisymm (hother.longest first h.candidate) (h.longest second hother.candidate)
  have hprefix := List.prefix_of_prefix_length_le h.candidate.front hother.candidate.front
    (Nat.le_of_eq hlength)
  exact hprefix.eq_of_length hlength

/-- A character is the first part of octets that begin with it. -/
theorem parts_of_character (c : Char) (rest : List UInt8) :
    parts (String.utf8EncodeChar c ++ rest) = some c :: parts rest := by
  obtain ⟨octet, tail, hencode, hread⟩ := next_of_character c
  rw [hencode, List.cons_append, parts, hread]

/-- The octets of a text are divided into its characters, whatever stands behind them. -/
theorem parts_of_text (characters : List Char) (rest : List UInt8) :
    parts (characters.flatMap String.utf8EncodeChar ++ rest) =
      characters.map some ++ parts rest := by
  induction characters with
  | nil => rfl
  | cons c others ih =>
      rw [List.flatMap_cons, List.append_assoc, parts_of_character, ih]
      rfl

/-- The decoder divides octets into characters and maximal ill-formed subparts. -/
theorem divided_parts (octets : List UInt8) : Divided octets (parts octets) := by
  -- Each step of the decoder finds one part, so the induction follows its recursion.
  induction octets using parts.induct with
  | case1 =>
      rw [parts]
      exact .nil
  | case2 octet rest ih =>
      rw [parts]
      cases hnext : next octet rest with
      | mk character remaining =>
          rw [hnext] at ih
          cases character with
          | none =>
              obtain ⟨taken, rfl, hsubpart⟩ := maximal_subpart_of_next hnext
              have hdivided : Divided ((octet :: taken) ++ remaining) (none :: parts remaining) :=
                .illFormed hsubpart ih
              exact hdivided
          | some c =>
              rw [eq_append_of_next hnext]
              exact .character c ih

/-- A maximal ill-formed subpart at the front is the first part. -/
theorem parts_of_subpart {subpart : List UInt8} (h : MaximalSubpart (subpart ++ rest) subpart) :
    parts (subpart ++ rest) = none :: parts rest := by
  obtain ⟨octet, more, rfl⟩ := List.exists_cons_of_ne_nil h.candidate.nonempty
  rw [List.cons_append, parts]
  cases hnext : next octet (more ++ rest) with
  | mk character remaining =>
      cases character with
      | none =>
          obtain ⟨taken, hrest, hfound⟩ := maximal_subpart_of_next hnext
          obtain rfl : more = taken := (List.cons.inj (h.unique hfound)).2
          rw [List.append_cancel_left hrest]
      | some c => exact absurd ⟨remaining, (eq_append_of_next hnext).symm⟩ (h.illFormed c)

/-- There is one division of octets into characters and maximal ill-formed subparts, and the decoder
finds it. -/
theorem divided_iff {octets : List UInt8} {found : List (Option Char)} :
    Divided octets found ↔ parts octets = found := by
  constructor
  · intro h
    induction h with
    | nil => rw [parts]
    | character c h ih => rw [parts_of_character, ih]
    | illFormed hsubpart h ih => rw [parts_of_subpart hsubpart, ih]
  · rintro rfl
    exact divided_parts octets

/-- Octets are well-formed exactly if they are those of some characters. -/
theorem valid_iff_exists {octets : List UInt8} :
    octets.toByteArray.IsValidUTF8 ↔
      ∃ characters : List Char, octets = characters.flatMap String.utf8EncodeChar := by
  constructor
  · rintro ⟨characters, h⟩
    exact ⟨characters, List.toByteArray_inj.1 h⟩
  · rintro ⟨characters, rfl⟩
    exact ⟨characters, rfl⟩

/-- A division without ill-formed subparts is that of a text. -/
theorem Divided.eq_flatMap {octets : List UInt8} {found : List (Option Char)}
    (h : Divided octets found) (hfound : none ∉ found) :
    ∃ characters : List Char, octets = characters.flatMap String.utf8EncodeChar := by
  induction h with
  | nil => exact ⟨[], rfl⟩
  | character c h ih =>
      obtain ⟨characters, rfl⟩ := ih (by simp_all)
      exact ⟨c :: characters, rfl⟩
  | illFormed => simp at hfound

/-- Octets are well-formed exactly if there is no ill-formed subpart in them. -/
theorem valid_iff_none_not_mem {octets : List UInt8} :
    octets.toByteArray.IsValidUTF8 ↔ none ∉ parts octets := by
  rw [valid_iff_exists]
  constructor
  · rintro ⟨characters, rfl⟩
    have hparts := parts_of_text characters []
    rw [List.append_nil] at hparts
    rw [hparts, parts]
    simp
  · exact (divided_parts octets).eq_flatMap

end Runbook.Text.Utf8
