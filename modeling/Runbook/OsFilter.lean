import Runbook.Text.Blank
import Runbook.Text.Split

/-!
# Filters on the operating system

A command can be limited to some operating systems by a comma-separated list of names. The filter is
kept as the list of trimmed, non-blank names, and a list without any sets no filter at all.
-/

namespace Runbook.OsFilter

/-- The names in a comma-separated list: every piece trimmed, and the blank ones left out. -/
def names (text : String) : List String :=
  (((Text.splitAt ',' text.toList).map Text.trimChars).filter fun piece => !piece.isEmpty).map
    String.ofList

/-- The filter that a comma-separated list sets. -/
def ofText (text : String) : Option (List String) :=
  if (names text).isEmpty then none else some (names text)

/-- Whether a filter lets the named operating system pass. A missing or empty filter lets everything
pass, and names are compared exactly. -/
def admits (filter : Option (List String)) (osName : String) : Bool :=
  match filter with
  | none => true
  | some allowed => allowed.isEmpty || allowed.contains osName

end Runbook.OsFilter
