import Runbook.Text.Blank
import Runbook.Text.Case
import Runbook.Text.Utf8

/-!
# Output encodings

The output of a process is a sequence of octets. The changelog names the encoding in which it is
read; decoding never fails, because an octet that encodes nothing becomes U+FFFD.
-/

namespace Runbook

/-- The encodings in which process output can be read. -/
inductive OutputEncoding where
  | utf8
  | latin1
  | ascii
  deriving Repr, DecidableEq

namespace OutputEncoding

/-- The canonical name of an encoding. -/
def name : OutputEncoding → String
  | .utf8 => "UTF-8"
  | .latin1 => "ISO-8859-1"
  | .ascii => "US-ASCII"

/-- The identifier of an encoding in record forms. -/
def label : OutputEncoding → String
  | .utf8 => "Utf8"
  | .latin1 => "Latin1"
  | .ascii => "Ascii"

/-- A name with everything removed that does not tell encodings apart: outer white space, hyphens,
underscores and case. -/
def normalize (name : String) : List Char :=
  ((Text.trimChars name.toList).filter fun c => c != '-' && c != '_').flatMap Text.upperOf

/-- The encoding that a name stands for. -/
def ofName? (name : String) : Option OutputEncoding :=
  match String.ofList (normalize name) with
  | "UTF8" => some .utf8
  | "ISO88591" | "LATIN1" => some .latin1
  | "USASCII" | "ASCII" => some .ascii
  | _ => none

/-- The encoding that a name stands for, or what is wrong with the name. -/
def parse (name : String) : Except String OutputEncoding :=
  match ofName? name with
  | some encoding => .ok encoding
  | none =>
    .error ("unsupported output_encoding: " ++ Text.trim name ++
      " (expected UTF-8, ISO-8859-1 or US-ASCII)")

/-- The character of one octet in a one-octet encoding: the code point of the same value, unless the
encoding stops at U+007F. -/
def asciiChar (octet : UInt8) : Char :=
  if octet.toNat < 0x80 then Char.ofNat octet.toNat else Text.Utf8.replacement

/-- The text of an octet sequence. -/
def decode (encoding : OutputEncoding) (octets : List UInt8) : String :=
  match encoding with
  | .utf8 => Text.Utf8.decodeLossy octets
  | .latin1 => String.ofList (octets.map fun octet => Char.ofNat octet.toNat)
  | .ascii => String.ofList (octets.map asciiChar)

end OutputEncoding

end Runbook
