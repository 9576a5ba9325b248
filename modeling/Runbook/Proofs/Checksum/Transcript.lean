import Mathlib.Data.List.Basic
import Runbook.Checksum.Entry

/-!
# Transcripts can be read back

Every frame says where it ends, so the octets of a sequence of entries tell the entries apart,
whatever their texts contain. The main theorems are `transcript_prefix_iff` and `transcript_eq_iff`
on the texts of entries, and `entries_of_transcript` on labels and values when no label contains the
mark between the two.
-/

namespace Runbook.Checksum

/-- What comes before a separator for the first time, and what comes after it, are determined. -/
theorem eq_of_append_separator {α : Type} {separator : α} {first second rest others : List α}
    (hfirst : separator ∉ first) (hsecond : separator ∉ second)
    (h : first ++ separator :: rest = second ++ separator :: others) :
    first = second ∧ rest = others := by
  induction first generalizing second with
  | nil =>
      cases second with
      | nil => exact ⟨rfl, (List.cons.inj h).2⟩
      | cons head tail =>
          obtain ⟨rfl, _⟩ := List.cons.inj h
          exact absurd List.mem_cons_self hsecond
  | cons head tail ih =>
      cases second with
      | nil =>
          obtain ⟨rfl, _⟩ := List.cons.inj h
          exact absurd List.mem_cons_self hfirst
      | cons other tails =>
          obtain ⟨rfl, htails⟩ := List.cons.inj h
          rw [List.mem_cons, not_or] at hfirst hsecond
          obtain ⟨rfl, hrest⟩ := ih hfirst.2 hsecond.2 htails
          exact ⟨rfl, hrest⟩

/-- The octet of a digit is not that of a colon. -/
theorem colon_not_mem_digit {digit : Char} (hdigit : digit.isDigit = true) :
    (0x3A : UInt8) ∉ String.utf8EncodeChar digit := by
  simp only [Char.isDigit, Bool.and_eq_true, decide_eq_true_eq] at hdigit
  have hhigh : digit.val.toNat ≤ 57 := UInt32.le_iff_toNat_le.1 hdigit.2
  rw [String.utf8EncodeChar.eq_1, if_pos (by omega), List.mem_singleton]
  intro hcolon
  have hvalue : (0x3A : UInt8).toNat = _ := congrArg UInt8.toNat hcolon
  rw [UInt8.toNat_ofNat', show (0x3A : UInt8).toNat = 58 from rfl] at hvalue
  omega

/-- A decimal number is written without a colon. -/
theorem colon_not_mem_decimal (n : Nat) : (0x3A : UInt8) ∉ Text.Utf8.encode (toString n) := by
  intro hmem
  obtain ⟨digit, hdigit, hoctet⟩ := List.mem_flatMap.1 hmem
  rw [show (toString n).toList = Nat.toDigits 10 n from Nat.toList_repr] at hdigit
  exact colon_not_mem_digit (Nat.isDigit_of_mem_toDigits (by decide) (by decide) hdigit) hoctet

/-- Different numbers are written differently. -/
theorem decimal_injective {m n : Nat} (h : toString m = toString n) : m = n := by
  rw [Nat.toString_eq_ofList_toDigits, Nat.toString_eq_ofList_toDigits, String.ofList_inj] at h
  rw [← Nat.ofDigitChars_ten_toDigits (n := m), h, Nat.ofDigitChars_ten_toDigits]

namespace Entry

/-- The parts of a frame, with what follows it. -/
theorem frame_append (octets rest : List UInt8) :
    frame octets ++ rest =
      Text.Utf8.encode (toString octets.length) ++ 0x3A :: (octets ++ 0x0A :: rest) := by
  have hcolon : Text.Utf8.encode ":" = [0x3A] := by decide
  simp [frame, hcolon]

/-- A frame says where it ends. -/
theorem frame_append_inj {first second rest others : List UInt8}
    (h : frame first ++ rest = frame second ++ others) : first = second ∧ rest = others := by
  rw [frame_append, frame_append] at h
  obtain ⟨hcounts, hbodies⟩ :=
    eq_of_append_separator (colon_not_mem_decimal _) (colon_not_mem_decimal _) h
  have hlength : first.length = second.length :=
    decimal_injective (Text.Utf8.encode_injective hcounts)
  obtain ⟨rfl, hends⟩ := List.append_inj hbodies hlength
  exact ⟨rfl, (List.cons.inj hends).2⟩

/-- A frame is never empty. -/
theorem frame_ne_nil (octets : List UInt8) : frame octets ≠ [] := by
  simp [frame]

/-- The text of an entry shows its label and its value, if the label has no equals sign. -/
theorem eq_of_text {first second : Entry} (hfirst : '=' ∉ first.label.toList)
    (hsecond : '=' ∉ second.label.toList) (h : first.text = second.text) : first = second := by
  have hcharacters := congrArg String.toList h
  simp only [text, String.toList_append, List.append_assoc] at hcharacters
  obtain ⟨hlabel, hvalue⟩ := eq_of_append_separator hfirst hsecond hcharacters
  obtain ⟨label, value⟩ := first
  obtain ⟨other, content⟩ := second
  obtain rfl : label = other := String.toList_inj.1 hlabel
  obtain rfl : value = content := String.toList_inj.1 hvalue
  rfl

end Entry

variable {first second : List Entry}

/-- A transcript begins with another one exactly if its entries begin with those of the other one.
-/
theorem transcript_prefix_iff :
    transcript first <+: transcript second ↔ first.map Entry.text <+: second.map Entry.text := by
  induction first generalizing second with
  | nil => simp [transcript]
  | cons entry rest ih =>
      cases second with
      | nil => simp [transcript, Entry.octets, Entry.frame_ne_nil]
      | cons other others =>
          rw [List.map_cons, List.map_cons, List.cons_prefix_cons, ← ih]
          simp only [transcript, List.flatMap_cons]
          constructor
          · rintro ⟨more, h⟩
            -- Both begin with a frame, and a frame says where it ends.
            rw [List.append_assoc] at h
            obtain ⟨htext, hrest⟩ := Entry.frame_append_inj h
            exact ⟨Text.Utf8.encode_injective htext, more, hrest⟩
          · rintro ⟨htext, hrest⟩
            rw [Entry.octets, Entry.octets, htext]
            exact (List.prefix_append_right_inj _).2 hrest

/-- Transcripts are equal exactly if the texts of the entries are. -/
theorem transcript_eq_iff :
    transcript first = transcript second ↔ first.map Entry.text = second.map Entry.text := by
  constructor
  · intro h
    have hfront : transcript first <+: transcript second := h ▸ List.prefix_rfl
    have hback : transcript second <+: transcript first := h ▸ List.prefix_rfl
    exact (transcript_prefix_iff.1 hfront).eq_of_length_le (transcript_prefix_iff.1 hback).length_le
  · intro h
    have hfront : first.map Entry.text <+: second.map Entry.text := h ▸ List.prefix_rfl
    have hback : second.map Entry.text <+: first.map Entry.text := h ▸ List.prefix_rfl
    exact (transcript_prefix_iff.2 hfront).eq_of_length_le (transcript_prefix_iff.2 hback).length_le

/-- A transcript shows all labels and values, if no label has an equals sign. -/
theorem entries_of_transcript (hfirst : ∀ entry ∈ first, '=' ∉ entry.label.toList)
    (hsecond : ∀ entry ∈ second, '=' ∉ entry.label.toList)
    (h : transcript first = transcript second) : first = second := by
  have htexts := transcript_eq_iff.1 h
  induction first generalizing second with
  | nil => simpa using htexts.symm
  | cons entry rest ih =>
      cases second with
      | nil => cases htexts
      | cons other others =>
          rw [List.forall_mem_cons] at hfirst hsecond
          obtain ⟨htext, hrest⟩ := List.cons.inj htexts
          rw [Entry.eq_of_text hfirst.1 hsecond.1 htext,
            ih hfirst.2 hsecond.2 (transcript_eq_iff.2 hrest) hrest]

end Runbook.Checksum
