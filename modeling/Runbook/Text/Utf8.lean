/-!
# UTF-8

Encoding and decoding of octet sequences. The decoder reads one lead octet and then as many
continuation octets as the lead owes, each within the bounds that exclude overlong forms, surrogates
and values above U+10FFFF. When an octet does not fit, the octets read so far are a maximal
ill-formed subpart: `decodeLossy` replaces them by one U+FFFD and goes on with the octet that did
not fit, and `decode?` refuses the whole sequence.
-/

namespace Runbook.Text.Utf8

/-- The octets of a text. -/
def encode (text : String) : List UInt8 :=
  text.toList.flatMap String.utf8EncodeChar

/-- Texts in sequence have their octets in sequence. -/
@[simp] theorem encode_append (first second : String) :
    encode (first ++ second) = encode first ++ encode second := by
  simp [encode]

/-- A text is determined by its octets. -/
theorem encode_injective {first second : String} (h : encode first = encode second) :
    first = second := by
  refine String.toByteArray_inj.1 ?_
  rw [← String.utf8Encode_toList, ← String.utf8Encode_toList, List.utf8Encode, List.utf8Encode]
  exact congrArg List.toByteArray h

/-- The character that stands for octets that encode nothing. -/
def replacement : Char := Char.ofNat 0xFFFD

/-- What a lead octet announces: how many continuation octets it owes, the bounds of the first of
them, and the high bits of the code point. -/
structure Lead where
  owed : Nat
  low : UInt8
  high : UInt8
  bits : Nat
  deriving Repr, DecidableEq

/-- The announcement of an octet in lead position, if it can stand there. -/
def lead? (octet : UInt8) : Option Lead :=
  let code := octet.toNat
  if code < 0x80 then some ⟨0, 0x80, 0xBF, code⟩
  else if code < 0xC2 then none
  else if code < 0xE0 then some ⟨1, 0x80, 0xBF, code - 0xC0⟩
  else if code = 0xE0 then some ⟨2, 0xA0, 0xBF, 0⟩
  else if code = 0xED then some ⟨2, 0x80, 0x9F, 0xD⟩
  else if code < 0xF0 then some ⟨2, 0x80, 0xBF, code - 0xE0⟩
  else if code = 0xF0 then some ⟨3, 0x90, 0xBF, 0⟩
  else if code < 0xF4 then some ⟨3, 0x80, 0xBF, code - 0xF0⟩
  else if code = 0xF4 then some ⟨3, 0x80, 0x8F, 4⟩
  else none

/-- Reads the owed continuation octets, the first of them between `low` and `high`. The answer is
the code point, unless an octet is missing or does not fit, and the octets that were not read. -/
def continuation : Nat → UInt8 → UInt8 → Nat → List UInt8 → Option Nat × List UInt8
  | 0, _, _, bits, rest => (some bits, rest)
  | _ + 1, _, _, _, [] => (none, [])
  | owed + 1, low, high, bits, octet :: rest =>
    if low ≤ octet ∧ octet ≤ high then
      continuation owed 0x80 0xBF (bits * 64 + (octet.toNat - 0x80)) rest
    else
      (none, octet :: rest)

/-- Continuation octets are only ever consumed. -/
theorem length_continuation_le (owed : Nat) (low high : UInt8) (bits : Nat) (octets : List UInt8) :
    (continuation owed low high bits octets).2.length ≤ octets.length := by
  induction owed generalizing low high bits octets with
  | zero => simp [continuation]
  | succ owed ih =>
    cases octets with
    | nil => simp [continuation]
    | cons octet rest =>
      unfold continuation
      split
      · exact Nat.le_trans (ih _ _ _ _) (Nat.le_succ _)
      · exact Nat.le_refl _

/-- The first character of a non-empty octet sequence, or `none` for a maximal ill-formed subpart,
with the octets after it. -/
def next (octet : UInt8) (rest : List UInt8) : Option Char × List UInt8 :=
  match lead? octet with
  | none => (none, rest)
  | some lead =>
    let (code, remaining) := continuation lead.owed lead.low lead.high lead.bits rest
    (code.map Char.ofNat, remaining)

/-- Each step of the decoder consumes at least the lead octet. -/
theorem length_next_le (octet : UInt8) (rest : List UInt8) :
    (next octet rest).2.length ≤ rest.length := by
  unfold next
  split
  · exact Nat.le_refl _
  · exact length_continuation_le ..

/-- The text of an octet sequence as the list of its parts: a character, or `none` for each maximal
ill-formed subpart. -/
def parts : List UInt8 → List (Option Char)
  | [] => []
  | octet :: rest =>
    (next octet rest).1 :: parts (next octet rest).2
  termination_by octets => octets.length
  decreasing_by exact Nat.lt_succ_of_le (length_next_le octet rest)

/-- The text of an octet sequence, with one U+FFFD for each maximal ill-formed subpart. -/
def decodeLossy (octets : List UInt8) : String :=
  String.ofList ((parts octets).map fun part => part.getD replacement)

/-- The text of a well-formed octet sequence. -/
def decode? (octets : List UInt8) : Option String :=
  ((parts octets).mapM id).map String.ofList

/-- Parts that are all characters make up the text. -/
theorem decode_of_parts {octets : List UInt8} {characters : List Char}
    (h : (parts octets).mapM id = some characters) :
    decode? octets = some (String.ofList characters) := by
  rw [decode?, h, Option.map_some]

end Runbook.Text.Utf8
