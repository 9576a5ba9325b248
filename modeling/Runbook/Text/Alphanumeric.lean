import Runbook.Text.Property.Alphabetic
import Runbook.Text.Property.Numeric

/-!
# Letters and numbers

The characters of which words consist, as the Unicode character database classifies them.
-/

namespace Runbook.Text

/-- Whether a character is a letter. -/
def isAlphabetic (c : Char) : Bool :=
  inRanges alphabeticRanges c.toNat

/-- Whether a character is a letter or a number. -/
def isAlphanumeric (c : Char) : Bool :=
  isAlphabetic c || inRanges numericRanges c.toNat

end Runbook.Text
