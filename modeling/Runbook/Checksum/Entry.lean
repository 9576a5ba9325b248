import Runbook.Text.Utf8

/-!
# Checksum entries

What enters a checksum is a sequence of labelled values. Each is framed by its own length in octets,
so that octets cannot move from one value to the next unnoticed.
-/

namespace Runbook.Checksum

/-- A labelled value. -/
structure Entry where
  label : String
  value : String
  deriving Repr, DecidableEq

namespace Entry

/-- The entry as one text. -/
def text (entry : Entry) : String :=
  entry.label ++ "=" ++ entry.value

/-- The frame of an octet sequence: its length in decimal, a colon, the octets, and a newline. -/
def frame (octets : List UInt8) : List UInt8 :=
  Text.Utf8.encode (toString octets.length ++ ":") ++ octets ++ [0x0A]

/-- The framed octets of an entry. -/
def octets (entry : Entry) : List UInt8 :=
  frame (Text.Utf8.encode entry.text)

end Entry

/-- The framed octets of a sequence of entries. -/
def transcript (entries : List Entry) : List UInt8 :=
  entries.flatMap Entry.octets

end Runbook.Checksum
