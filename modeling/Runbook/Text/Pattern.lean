/-!
# Patterns

Regular expressions as a tree, and which of them a deterministic automaton over well-formed text can
be built for. Such a pattern matches whole characters only, looks at no Unicode word edges, and is
nested to a bounded depth. Counts and names in braces are not part of the notion of a pattern here.
-/

namespace Runbook.Text

/-- The smallest parts of a pattern. -/
inductive PatternAtom where
  | literal (c : Char)
  /-- A character spelled by two hexadecimal digits, which is an octet where octets are matched. -/
  | octet (c : Char)
  | anyChar
  /-- The start or the end of the text or of a line. -/
  | edge
  /-- The start or the end of a word, or a place that is neither. -/
  | wordEdge
  /-- The digits, blanks or word characters, or all others. -/
  | shorthand (negated : Bool)
  /-- The characters of a general category. -/
  | category (letter : Char)
  deriving Repr, DecidableEq

/-- What stands between brackets. -/
inductive PatternSet where
  | atom (atom : PatternAtom)
  | range (first last : PatternAtom)
  /-- A class with a name, such as the letters. -/
  | named (negated : Bool)
  | bracketed (negated : Bool) (content : PatternSet)
  | union (items : List PatternSet)
  /-- An intersection or a difference. -/
  | combined (left right : PatternSet)

/-- A pattern. Where flags are set, `unicode` says whether characters rather than octets are
matched from there on. -/
inductive Pattern where
  | empty
  | flags (unicode : Option Bool)
  | atom (atom : PatternAtom)
  | set (negated : Bool) (content : PatternSet)
  | repeated (body : Pattern)
  | group (unicode : Option Bool) (body : Pattern)
  | sequence (parts : List Pattern)
  | choice (branches : List Pattern)

/-- The letters of the general categories that one letter names, in either case. -/
def categoryLetters : List Char :=
  ['c', 'l', 'm', 'n', 'p', 's', 'z']

namespace PatternAtom

/-- The character that an atom stands for on its own. -/
def char? : PatternAtom → Option Char
  | literal c => some c
  | octet c => some c
  | _ => none

/-- Whether an atom matches whole characters only, in Unicode terms or in ASCII. -/
def fits (unicode : Bool) : PatternAtom → Bool
  | literal _ => true
  | octet c => unicode || c.toNat < 0x80
  | anyChar => unicode
  | edge => true
  | wordEdge => !unicode
  | shorthand negated => unicode || !negated
  | category letter => unicode && categoryLetters.contains letter.toLower

/-- Whether an atom may occur between brackets. Literals are ASCII there unless in Unicode terms. -/
def fitsSet (unicode : Bool) (atom : PatternAtom) : Bool :=
  atom.fits unicode && (unicode || atom.char?.all fun c => c.toNat < 0x80)

end PatternAtom

namespace PatternSet

mutual

/-- Whether a set consists of whole characters only. -/
def fits (unicode : Bool) : PatternSet → Bool
  | atom a => a.fitsSet unicode
  | range first last => first.fitsSet unicode && last.fitsSet unicode
  | named negated => unicode || !negated
  | bracketed negated content => (unicode || !negated) && content.fits unicode
  | union items => allFit unicode items
  | combined left right => left.fits unicode && right.fits unicode

/-- Whether all of several sets consist of whole characters only. -/
def allFit (unicode : Bool) : List PatternSet → Bool
  | [] => true
  | item :: rest => item.fits unicode && allFit unicode rest

end

mutual

/-- How deep a set is nested. -/
def depth : PatternSet → Nat
  | atom _ | range _ _ | named _ => 0
  | bracketed _ content => content.depth + 1
  | union items => greatestDepth items + 1
  | combined left right => max left.depth right.depth + 1

/-- How deep the deepest of several sets is nested. -/
def greatestDepth : List PatternSet → Nat
  | [] => 0
  | item :: rest => max item.depth (greatestDepth rest)

end

end PatternSet

namespace Pattern

mutual

/-- Whether characters are matched after a pattern, given whether they are before it, if the pattern
matches whole characters only. A group confines the flags that are set in it. -/
def unicodeAfter? (unicode : Bool) : Pattern → Option Bool
  | empty => some unicode
  | flags changed => some (changed.getD unicode)
  | atom a => if a.fits unicode then some unicode else none
  | set negated content =>
    if (PatternSet.bracketed negated content).fits unicode then some unicode else none
  | repeated body => body.unicodeAfter? unicode
  | group changed body => (body.unicodeAfter? (changed.getD unicode)).map fun _ => unicode
  | sequence parts => unicodeAfterAll? unicode parts
  | choice branches => unicodeAfterAll? unicode branches

/-- Whether characters are matched after several patterns in turn. -/
def unicodeAfterAll? (unicode : Bool) : List Pattern → Option Bool
  | [] => some unicode
  | part :: rest => (part.unicodeAfter? unicode).bind fun unicode => unicodeAfterAll? unicode rest

end

mutual

/-- How deep a pattern is nested. -/
def depth : Pattern → Nat
  | empty | flags _ | atom _ => 0
  | set _ content => content.depth + 1
  | repeated body => body.depth + 1
  | group _ body => body.depth + 1
  | sequence parts => greatestDepth parts + 1
  | choice branches => greatestDepth branches + 1

/-- How deep the deepest of several patterns is nested. -/
def greatestDepth : List Pattern → Nat
  | [] => 0
  | part :: rest => max part.depth (greatestDepth rest)

end

/-- How deep a pattern may be nested. -/
def depthLimit : Nat := 250

/-- Whether an automaton can be built for a pattern. -/
def isAutomatic (pattern : Pattern) : Bool :=
  pattern.depth ≤ depthLimit && (pattern.unicodeAfter? true).isSome

end Pattern

end Runbook.Text
