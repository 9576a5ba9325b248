import Runbook.Text.Case.LowerTable
import Runbook.Text.Case.UpperTable
import Runbook.Text.Property.Cased
import Runbook.Text.Property.CaseIgnorable

/-!
# Full case mappings

Lower- and upper-casing of whole texts, with the mappings that lengthen a text and the one mapping
that depends on its context: a capital sigma becomes a final sigma at the end of a word.
-/

namespace Runbook.Text

/-- The image of a code point under the first range that contains it. -/
def mapByRanges (ranges : List CaseRange) (code : Nat) : Option Nat :=
  ranges.findSome? fun range => range.map? code

/-- The lower-case form of a character out of context. -/
def lowerOf (c : Char) : List Char :=
  if c.toNat = 0x130 then
    ['i', Char.ofNat 0x307]
  else
    match mapByRanges lowerRanges c.toNat with
    | some code => [Char.ofNat code]
    | none => [c]

/-- The upper-case form of a character. -/
def upperOf (c : Char) : List Char :=
  match upperExpansions.lookup c.toNat with
  | some codes => codes.map Char.ofNat
  | none =>
    match mapByRanges upperRanges c.toNat with
    | some code => [Char.ofNat code]
    | none => [c]

/-- Whether the next character that is not case-ignorable has case. -/
def meetsCased (cs : List Char) : Bool :=
  match cs.dropWhile fun c => inRanges caseIgnorableRanges c.toNat with
  | c :: _ => inRanges casedRanges c.toNat
  | [] => false

/-- Lower-cases the characters that follow `before`, which is kept in reverse. -/
def lowerAfter (before : List Char) : List Char → List Char
  | [] => []
  | c :: rest =>
    let image :=
      if c.toNat = 0x3A3 then
        [Char.ofNat (if meetsCased before && !meetsCased rest then 0x3C2 else 0x3C3)]
      else
        lowerOf c
    image ++ lowerAfter (c :: before) rest

/-- The lower-case form of a text. -/
def lower (text : String) : String :=
  String.ofList (lowerAfter [] text.toList)

/-- The upper-case form of a text. -/
def upper (text : String) : String :=
  String.ofList (text.toList.flatMap upperOf)

end Runbook.Text
