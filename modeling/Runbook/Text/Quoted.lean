import Runbook.Text.Property.GraphemeExtend
import Runbook.Text.Property.Unprintable

/-!
# Quoted texts

Messages show texts that come from outside between double quotes, with everything escaped that
would be invisible or would merge with its neighbour. Lists and optional values of texts have a
quoted form too.
-/

namespace Runbook.Text

/-- The lower-case hexadecimal digits of a number. -/
def hexDigits (n : Nat) : List Char :=
  Nat.toDigits 16 n

/-- Whether a character merges with the one printed before it. -/
def mergesBackwards (c : Char) : Bool :=
  inRanges graphemeExtendRanges c.toNat && !inRanges extendingLetterRanges c.toNat

/-- Whether printing a character above ASCII shows nothing. -/
def isInvisible (c : Char) : Bool :=
  inRanges unprintableRanges c.toNat || inRanges fillerRanges c.toNat

/-- Whether a character stands for itself between quotes. -/
def isPlain (c : Char) : Bool :=
  if c.toNat < 0x80 then
    0x20 ≤ c.toNat && c.toNat < 0x7F
  else
    !mergesBackwards c && !isInvisible c

/-- The form of a character between quotes. -/
def escapeChar (c : Char) : List Char :=
  match c with
  | '\x00' => ['\\', '0']
  | '\t' => ['\\', 't']
  | '\r' => ['\\', 'r']
  | '\n' => ['\\', 'n']
  | '\\' => ['\\', '\\']
  | '"' => ['\\', '"']
  | _ => if isPlain c then [c] else ['\\', 'u', '\x7b'] ++ hexDigits c.toNat ++ ['\x7d']

/-- A text between double quotes. -/
def quote (text : String) : String :=
  String.ofList ('"' :: (text.toList.flatMap escapeChar ++ ['"']))

/-- A list of quoted texts in brackets. -/
def quoteList (texts : List String) : String :=
  "[" ++ ", ".intercalate (texts.map quote) ++ "]"

/-- An optional value, given the form of the value. -/
def quoteOption {α : Type} (form : α → String) : Option α → String
  | none => "None"
  | some value => "Some(" ++ form value ++ ")"

end Runbook.Text
