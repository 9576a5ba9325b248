import Runbook.Text.Number

/-!
# Quotation in complaints

How programs quote names when they complain. One way is made to be read by people, the other one can
be pasted into a shell.
-/

namespace Runbook.Machine.Quoted

/-- Whether an octet can be shown as it is. -/
def isShown (c : Char) : Bool :=
  ' ' ≤ c && c ≤ '~'

/-- What a backslash in front of a letter stands for. -/
def letter? (c : Char) : Option Char :=
  match c with
  | '\x07' => some 'a'
  | '\x08' => some 'b'
  | '\x0C' => some 'f'
  | '\n' => some 'n'
  | '\x0D' => some 'r'
  | '\t' => some 't'
  | '\x0B' => some 'v'
  | _ => none

/-- An octet that cannot be shown behind a backslash. -/
def escaped (c : Char) : List Char :=
  match letter? c with
  | some letter => ['\\', letter]
  | none =>
    let digits := Nat.toDigits 8 c.toNat
    '\\' :: List.replicate (3 - digits.length) '0' ++ digits

/-- A text between single quotes, in which a backslash marks what cannot be shown. -/
def plain (text : String) : String :=
  let each (c : Char) : List Char :=
    if c == '\'' || c == '\\' then ['\\', c] else if isShown c then [c] else escaped c
  "'" ++ String.ofList (text.toList.flatMap each) ++ "'"

/-- Whether a character has a meaning for shells where it stands. -/
def needsQuotes (withColons isFirst isAlone : Bool) (c : Char) : Bool :=
  !isShown c || (c == ':' && withColons) ||
    "'\\ !\"$&()*;<=>[^\x60|?".toList.contains c ||
    (isFirst && (c == '#' || c == '~')) || (isAlone && (c == '\x7b' || c == '\x7d'))

/-- Whether a character means the same between single and between double quotes. -/
def isHarmless (isFirst : Bool) (c : Char) : Bool :=
  c.isAlphanum || " '%+,-./:]_".toList.contains c || (isFirst && (c == '#' || c == '~'))

/-- The part of a quoted text behind its opening quote. What cannot be shown stands between quotes of
another kind, which may be open already. -/
def shellRest : Bool → List Char → List Char
  | _, [] => ['\'']
  | isEscaping, c :: rest =>
    if c == '\'' then
      '\'' :: '\\' :: '\'' :: '\'' :: shellRest false rest
    else if isShown c then
      (if isEscaping then ['\'', '\''] else []) ++ c :: shellRest false rest
    else
      (if isEscaping then [] else ['\'', '$', '\'']) ++ escaped c ++ shellRest true rest

/-- A text between quotes as a shell reads it. -/
def always (text : String) : String :=
  let cs := text.toList
  let harmless := (cs.take 1).all (isHarmless true) && (cs.drop 1).all (isHarmless false)
  if cs.contains '\'' && harmless then "\"" ++ text ++ "\""
  else "'" ++ String.ofList (shellRest false cs)

/-- Whether a text means something else than itself to a shell. -/
def isNeeded (withColons : Bool) (text : String) : Bool :=
  let cs := text.toList
  cs.isEmpty || (cs.take 1).any (needsQuotes withColons true (cs.length = 1)) ||
    (cs.drop 1).any (needsQuotes withColons false false)

/-- A text between quotes, if a shell needs them. -/
def whereNeeded (text : String) : String :=
  if isNeeded false text then always text else text

/-- A name in front of a colon, between quotes if it needs them. -/
def file (text : String) : String :=
  if isNeeded true text then always text else text

end Runbook.Machine.Quoted
