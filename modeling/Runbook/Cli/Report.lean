import Runbook.Text.Split

/-!
# Error reports

The end of a failed run is reported as the outermost message, followed by the causes below it. A
single cause is only indented, and several are numbered from zero.
-/

namespace Runbook.Report

/-- A message in an indented block, given what stands before its first line and before the others.
-/
def block (first following message : String) : String :=
  match (Text.splitAt '\n' message.toList).map String.ofList with
  | [] => first
  | line :: lines => first ++ line ++ String.join (lines.map fun line => "\n" ++ following ++ line)

/-- A number at the end of a column of the given width. -/
def column (width number : Nat) : String :=
  let digits := toString number
  String.ofList (List.replicate (width - digits.length) ' ') ++ digits

/-- The block of a cause that stands alone. -/
def single (cause : String) : String :=
  "\n" ++ block "    " "    " cause

/-- The block of one of several causes. -/
def numbered (number : Nat) (cause : String) : String :=
  "\n" ++ block (column 5 number ++ ": ") "       " cause

/-- The blocks of several causes, numbered from the given number. -/
def numberedFrom (number : Nat) : List String → String
  | [] => ""
  | cause :: rest => numbered number cause ++ numberedFrom (number + 1) rest

/-- The report on messages, outermost first. -/
def text : List String → String
  | [] => ""
  | [message] => message
  | [message, cause] => message ++ "\n\nCaused by:" ++ single cause
  | message :: causes => message ++ "\n\nCaused by:" ++ numberedFrom 0 causes

end Runbook.Report
