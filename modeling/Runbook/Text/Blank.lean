/-!
# White space

White space is the Unicode property White_Space, for trimming, for blank fields and for the gaps of
a timeout alike.
-/

namespace Runbook.Text

/-- The Unicode property White_Space. -/
def isBlank (c : Char) : Bool :=
  let code := c.toNat
  (0x9 ≤ code && code ≤ 0xD) || code == 0x20 || code == 0x85 || code == 0xA0 || code == 0x1680 ||
    (0x2000 ≤ code && code ≤ 0x200A) || code == 0x2028 || code == 0x2029 || code == 0x202F ||
    code == 0x205F || code == 0x3000

/-- A character list without the white space at its end. -/
def trimRight (cs : List Char) : List Char :=
  (cs.reverse.dropWhile isBlank).reverse

/-- A character list without the white space at both ends. -/
def trimChars (cs : List Char) : List Char :=
  trimRight (cs.dropWhile isBlank)

/-- A text without the white space at both ends. -/
def trim (text : String) : String :=
  String.ofList (trimChars text.toList)

/-- Whether a text is empty or white space only. -/
def isBlankText (text : String) : Bool :=
  text.toList.all isBlank

end Runbook.Text
