import Runbook.Text.Utf8

/-!
# Octet texts

The programs of a machine know octets only. Within a machine a text is therefore an octet text, in
which each character stands for the octet with the same number, and the octets of a UTF-8 text are
several characters.
-/

namespace Runbook.Machine.Octets

/-- The octet text of octets. -/
def ofList (octets : List UInt8) : String :=
  String.ofList (octets.map fun octet => Char.ofNat octet.toNat)

/-- The octets of an octet text. -/
def toList (octets : String) : List UInt8 :=
  octets.toList.map fun c => c.toNat.toUInt8

/-- The octet text of a part of an array of octets. -/
def ofPart (octets : ByteArray) (first last : Nat) : String :=
  ofList (octets.extract first last).toList

/-- An array of octets with an octet text at its end. -/
def append (octets : ByteArray) (text : String) : ByteArray :=
  text.foldl (fun octets c => octets.push c.toNat.toUInt8) octets

/-- The octet text of a text in UTF-8. -/
def ofText (text : String) : String :=
  ofList (Text.Utf8.encode text)

end Runbook.Machine.Octets
