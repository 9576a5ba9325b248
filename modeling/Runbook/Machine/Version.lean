import Runbook.Text.Number

/-!
# The order of versions

An order of names in which digits are compared as numbers, so that the tenth version comes behind the
ninth one, and in which what looks like the ending of a file name counts last.
-/

namespace Runbook.Machine.Version

/-- The rank of the character that comes next, if any. -/
def rank : List Char → Int
  | [] => -1
  | c :: _ =>
    if c.isDigit then 0
    else if c.isAlpha then c.toNat
    else if c == '~' then -2
    else c.toNat + 256

/-- Whether something else than a digit comes next. -/
def isPlain : List Char → Bool
  | [] => false
  | c :: _ => !c.isDigit

/-- Compares texts part by part. The fuel bounds the number of characters. -/
def compareParts : Nat → List Char → List Char → Ordering
  | 0, _, _ => .eq
  | fuel + 1, first, second =>
    if first.isEmpty && second.isEmpty then .eq
    else if isPlain first || isPlain second then
      match compare (rank first) (rank second) with
      | .eq => compareParts fuel (first.drop 1) (second.drop 1)
      | order => order
    else
      let digits := first.takeWhile Char.isDigit
      let others := second.takeWhile Char.isDigit
      match compare (Text.decimalValue digits) (Text.decimalValue others) with
      | .eq => compareParts fuel (first.drop digits.length) (second.drop others.length)
      | order => order

/-- What is left behind endings of file names, each of which is a point, a letter, and more letters
and digits. The fuel bounds their number. -/
def skipEndings : Nat → List Char → List Char
  | 0, cs => cs
  | fuel + 1, cs =>
    match cs with
    | '.' :: c :: rest =>
      if c.isAlpha || c == '~' then
        skipEndings fuel (rest.dropWhile fun c => c.isAlphanum || c == '~')
      else
        cs
    | _ => cs

/-- The part of a name in front of its endings. The fuel bounds the number of characters. -/
def stem : Nat → List Char → List Char
  | 0, cs => cs
  | _, [] => []
  | fuel + 1, c :: rest =>
    let behind := skipEndings (rest.length + 1) rest
    if behind.isEmpty then [c]
    else
      let used := rest.take (rest.length - behind.length)
      c :: (used ++ stem fuel behind)

/-- Compares two names. -/
def compareNames (first second : List Char) : Ordering :=
  let fuel := first.length + second.length + 2
  let place (cs : List Char) : Nat :=
    match cs with
    | [] => 0
    | ['.'] => 1
    | ['.', '.'] => 2
    | '.' :: _ => 3
    | _ => 4
  match compare (place first) (place second) with
  | .eq =>
    match compareParts fuel (stem fuel first) (stem fuel second) with
    | .eq => compareParts fuel first second
    | order => order
  | order => order

end Runbook.Machine.Version
