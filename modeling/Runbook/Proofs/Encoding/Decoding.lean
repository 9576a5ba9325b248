import Mathlib
import Runbook.Encoding
import Runbook.Proofs.Text.Utf8

/-!
# What decoding makes of output

Each encoding reads every octet sequence, and what it loses is known. ISO 8859-1 loses nothing.
US-ASCII loses the octets that are not its own. UTF-8 loses the ill-formed subparts, one replacement
character for each of them. The main theorem is `decoded_exactly`.
-/

namespace Runbook.OutputEncoding

open Text.Utf8 (Divided encode)

/-- Octets that US-ASCII has characters for. -/
def IsAscii (octets : List UInt8) : Prop :=
  ∀ octet ∈ octets, octet < 0x80

variable {octets others : List UInt8} {octet : UInt8}

/-- An octet is the number of its character in ISO 8859-1. -/
theorem toNat_latin1 (octet : UInt8) : (Char.ofNat octet.toNat).toNat = octet.toNat :=
  Text.Utf8.val_ofNat (.inl (Nat.lt_trans octet.toNat_lt (by decide)))

/-- No octet has the replacement character in ISO 8859-1. -/
theorem latin1_ne_replacement (octet : UInt8) : Char.ofNat octet.toNat ≠ '\uFFFD' := by
  intro h
  have hnumber := congrArg Char.toNat h
  rw [toNat_latin1] at hnumber
  have hoctet := octet.toNat_lt
  rw [hnumber] at hoctet
  exact absurd hoctet (by decide)

/-- The characters of ISO 8859-1 have the numbers of the octets. -/
theorem codes_latin1 (octets : List UInt8) :
    (decode .latin1 octets).toList.map Char.toNat = octets.map UInt8.toNat := by
  rw [decode, String.toList_ofList, List.map_map]
  exact List.map_congr_left fun octet _ => toNat_latin1 octet

/-- The octets are got back from the characters of ISO 8859-1. -/
theorem octets_latin1 (octets : List UInt8) :
    (decode .latin1 octets).toList.map (fun c => UInt8.ofNat c.toNat) = octets := by
  have hcodes := congrArg (List.map UInt8.ofNat) (codes_latin1 octets)
  rw [List.map_map, List.map_map,
    show UInt8.ofNat ∘ UInt8.toNat = id from funext fun _ => UInt8.ofNat_toNat,
    List.map_id] at hcodes
  exact hcodes

/-- Different octets have different texts in ISO 8859-1. -/
theorem latin1_injective (h : decode .latin1 octets = decode .latin1 others) : octets = others := by
  rw [← octets_latin1 octets, h, octets_latin1]

/-- US-ASCII has the characters of ISO 8859-1 for its own octets. -/
theorem asciiChar_of_lt (h : octet < 0x80) : asciiChar octet = Char.ofNat octet.toNat :=
  if_pos (UInt8.lt_iff_toNat_lt.1 h)

/-- US-ASCII has the replacement character for all other octets. -/
theorem asciiChar_of_le (h : 0x80 ≤ octet) : asciiChar octet = '\uFFFD' :=
  if_neg (Nat.not_lt.2 (UInt8.le_iff_toNat_le.1 h))

/-- US-ASCII and ISO 8859-1 agree on the octets that US-ASCII has characters for, and on no others.
-/
theorem ascii_eq_latin1_iff : decode .ascii octets = decode .latin1 octets ↔ IsAscii octets := by
  rw [decode, decode, String.ofList_inj, List.map_inj_left]
  refine forall₂_congr fun octet _ => ⟨fun h => ?_, asciiChar_of_lt⟩
  by_contra hlarge
  rw [asciiChar_of_le (UInt8.not_lt.1 hlarge)] at h
  exact latin1_ne_replacement octet h.symm

/-- The characters of US-ASCII are their octets in UTF-8. -/
theorem encode_latin1_of_ascii (h : IsAscii octets) : encode (decode .latin1 octets) = octets := by
  induction octets with
  | nil => rfl
  | cons octet rest ih =>
      rw [IsAscii, List.forall_mem_cons] at h
      have hrest := ih h.2
      rw [encode, decode, String.toList_ofList] at hrest ⊢
      rw [List.map_cons, List.flatMap_cons, hrest,
        Text.Utf8.encode_one (UInt8.lt_iff_toNat_lt.1 h.1)]
      rfl

/-- In UTF-8 a well-formed sequence is read as its text, whatever stands behind it. -/
theorem utf8_of_text (text : String) (others : List UInt8) :
    decode .utf8 (encode text ++ others) = text ++ decode .utf8 others := by
  rw [decode, decode, Text.Utf8.decodeLossy, encode, Text.Utf8.parts_of_text, List.map_append,
    List.map_map, String.ofList_append]
  refine congrArg (· ++ _) ?_
  rw [← String.toList_inj, String.toList_ofList]
  exact List.map_id _

/-- A text is read from its own octets. -/
theorem utf8_encode (text : String) : decode .utf8 (encode text) = text := by
  have hnone : decode .utf8 [] = "" := by
    rw [decode, Text.Utf8.decodeLossy, Text.Utf8.parts]
    rfl
  have hread := utf8_of_text text []
  rwa [List.append_nil, hnone, String.append_empty] at hread

/-- Octets are well-formed exactly if they are those of a text. -/
theorem valid_iff_exists_text :
    octets.toByteArray.IsValidUTF8 ↔ ∃ text, octets = encode text := by
  rw [Text.Utf8.valid_iff_exists]
  constructor
  · rintro ⟨characters, rfl⟩
    exact ⟨String.ofList characters, by rw [encode, String.toList_ofList]⟩
  · rintro ⟨text, rfl⟩
    exact ⟨text.toList, rfl⟩

/-- Octets are got back from their text in UTF-8 exactly if they are well-formed. -/
theorem encode_utf8_iff :
    encode (decode .utf8 octets) = octets ↔ octets.toByteArray.IsValidUTF8 := by
  rw [valid_iff_exists_text]
  constructor
  · intro h
    exact ⟨_, h.symm⟩
  · rintro ⟨text, rfl⟩
    rw [utf8_encode]

/-- The text of a divided sequence. -/
theorem utf8_of_divided {found : List (Option Char)} (h : Divided octets found) :
    (decode .utf8 octets).toList = found.map fun part => part.getD '\uFFFD' := by
  rw [decode, Text.Utf8.decodeLossy, Text.Utf8.divided_iff.1 h, String.toList_ofList]
  rfl

/-- An ill-formed sequence shows a replacement character. -/
theorem replacement_of_ill_formed (h : ¬ octets.toByteArray.IsValidUTF8) :
    '\uFFFD' ∈ (decode .utf8 octets).toList := by
  rw [Text.Utf8.valid_iff_none_not_mem, not_not] at h
  rw [utf8_of_divided (Text.Utf8.divided_parts octets)]
  exact List.mem_map.2 ⟨none, h, rfl⟩

/-- Where a character of US-ASCII comes from. -/
theorem ascii_at {index : Nat} (h : octets[index]? = some octet) :
    (octet < 0x80 →
      (decode .ascii octets).toList[index]? = (decode .latin1 octets).toList[index]?) ∧
    (0x80 ≤ octet →
      (decode .ascii octets).toList[index]? = some '\uFFFD' ∧
      (decode .latin1 octets).toList[index]? ≠ some '\uFFFD') := by
  simp only [decode, String.toList_ofList, List.getElem?_map, h, Option.map_some, ne_eq,
    Option.some.injEq]
  exact ⟨asciiChar_of_lt, fun hlarge => ⟨asciiChar_of_le hlarge, latin1_ne_replacement octet⟩⟩

/-- Pure US-ASCII is the same text in all encodings. -/
theorem utf8_of_ascii (h : IsAscii octets) : decode .utf8 octets = decode .latin1 octets := by
  have hencode := encode_latin1_of_ascii h
  rw [← utf8_encode (decode .latin1 octets), hencode]

/-- What the text of an octet sequence shows. In ISO 8859-1 it has one character for each octet,
with the number of the octet, so the octets can be got back from it. In US-ASCII it has the same
length, the same characters for the octets below 80 (hexadecimal), and U+FFFD, which ISO 8859-1
never shows, for all others; so the two texts are equal exactly for pure US-ASCII, which is the same
text in UTF-8 as well. In UTF-8, a text is got back from its octets, octets are got back from their
text exactly if they are well-formed, and otherwise the text contains U+FFFD. The octets can be
divided into characters and maximal ill-formed subparts in one way only, and the text has U+FFFD for
each of the latter. Texts of octets in sequence are in sequence, in UTF-8 if the octets in front are
well-formed. -/
theorem decoded_exactly (octets : List UInt8) :
    ((decode .latin1 octets).toList.map Char.toNat = octets.map UInt8.toNat ∧
      (decode .latin1 octets).toList.map (fun c => UInt8.ofNat c.toNat) = octets ∧
      ∀ others, decode .latin1 octets = decode .latin1 others → octets = others) ∧
    ((decode .ascii octets).length = octets.length ∧
      (∀ (index : Nat) (octet : UInt8), octets[index]? = some octet →
        (octet < 0x80 →
          (decode .ascii octets).toList[index]? = (decode .latin1 octets).toList[index]?) ∧
        (0x80 ≤ octet →
          (decode .ascii octets).toList[index]? = some '\uFFFD' ∧
          (decode .latin1 octets).toList[index]? ≠ some '\uFFFD')) ∧
      (decode .ascii octets = decode .latin1 octets ↔ IsAscii octets) ∧
      (IsAscii octets → decode .utf8 octets = decode .latin1 octets)) ∧
    ((∀ text, decode .utf8 (encode text) = text) ∧
      (encode (decode .utf8 octets) = octets ↔ octets.toByteArray.IsValidUTF8) ∧
      (¬ octets.toByteArray.IsValidUTF8 → '\uFFFD' ∈ (decode .utf8 octets).toList) ∧
      (∃! found, Divided octets found) ∧
      ∀ found, Divided octets found →
        (decode .utf8 octets).toList = found.map fun part => part.getD '\uFFFD') ∧
    ∀ others,
      decode .latin1 (octets ++ others) = decode .latin1 octets ++ decode .latin1 others ∧
      decode .ascii (octets ++ others) = decode .ascii octets ++ decode .ascii others ∧
      (octets.toByteArray.IsValidUTF8 →
        decode .utf8 (octets ++ others) = decode .utf8 octets ++ decode .utf8 others) := by
  refine ⟨⟨codes_latin1 octets, octets_latin1 octets, fun others => latin1_injective⟩,
    ⟨by simp [decode], fun _ _ h => ascii_at h, ascii_eq_latin1_iff, utf8_of_ascii⟩,
    ⟨utf8_encode, encode_utf8_iff, replacement_of_ill_formed, ?_, fun found => utf8_of_divided⟩,
    fun others => ⟨by simp [decode], by simp [decode], fun hvalid => ?_⟩⟩
  · refine ⟨Text.Utf8.parts octets, Text.Utf8.divided_parts octets, fun found hfound => ?_⟩
    exact (Text.Utf8.divided_iff.1 hfound).symm
  · obtain ⟨text, rfl⟩ := valid_iff_exists_text.1 hvalid
    rw [utf8_of_text, utf8_encode]

/-- The octets of a text. -/
def textOctets : List UInt8 :=
  [0x63, 0xC3, 0xA9]

/-- A character without its last octet, and a surrogate, which is not a character. -/
def brokenOctets : List UInt8 :=
  [0xF0, 0x9F, 0x98, 0xED, 0xA0, 0x80]

/-- An unfinished character is one ill-formed subpart, and a surrogate is three of them. Neither of
them changes the text in front. -/
theorem decoded_exactly_of_broken :
    textOctets.toByteArray.IsValidUTF8 ∧ ¬ brokenOctets.toByteArray.IsValidUTF8 ∧
      Divided brokenOctets [none, none, none, none] ∧
      '\uFFFD' ∈ (decode .utf8 brokenOctets).toList ∧
      (decode .utf8 brokenOctets).toList = ['\uFFFD', '\uFFFD', '\uFFFD', '\uFFFD'] ∧
      decode .utf8 (textOctets ++ brokenOctets) =
        decode .utf8 textOctets ++ decode .utf8 brokenOctets ∧
      (decode .ascii textOctets).toList[0]? = (decode .latin1 textOctets).toList[0]? ∧
      (decode .ascii textOctets).toList[1]? = some '\uFFFD' ∧
      decode .utf8 [0x63] = decode .latin1 [0x63] := by
  have hvalid : textOctets.toByteArray.IsValidUTF8 := valid_iff_exists_text.2 ⟨"cé", by decide⟩
  have hparts : Text.Utf8.parts brokenOctets = [none, none, none, none] := by cbv
  have hbroken : ¬ brokenOctets.toByteArray.IsValidUTF8 := by
    rw [Text.Utf8.valid_iff_none_not_mem, hparts]
    simp
  have hdivided := Text.Utf8.divided_iff.2 hparts
  obtain ⟨-, ⟨-, hat, -, -⟩, -, happend⟩ := decoded_exactly textOctets
  obtain ⟨-, -, ⟨-, -, hshown, -, htext⟩, -⟩ := decoded_exactly brokenOctets
  obtain ⟨-, ⟨-, -, -, hascii⟩, -, -⟩ := decoded_exactly [0x63]
  exact ⟨hvalid, hbroken, hdivided, hshown hbroken, htext _ hdivided,
    (happend brokenOctets).2.2 hvalid, (hat 0 0x63 rfl).1 (by decide),
    ((hat 1 0xC3 rfl).2 (by decide)).1, hascii (by simp [IsAscii])⟩

end Runbook.OutputEncoding
