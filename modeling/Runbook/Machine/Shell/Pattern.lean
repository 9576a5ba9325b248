import Runbook.Machine.Files

/-!
# Patterns

Patterns for texts: a star stands for any characters, a question mark for one, and brackets for one
of a set. A backslash takes away the meaning of the character behind it.
-/

namespace Runbook.Machine.Shell

/-- A member of a set of characters. -/
inductive SetPart where
  | range (first last : Char)
  | named (contains : Char → Bool)

/-- A part of a pattern. -/
inductive Item where
  | one (c : Char)
  | anyOne
  | anyMany
  | oneOf (members : List SetPart) (isNegated : Bool)

namespace Pattern

/-- The number of an octet as one with a sign. -/
def signed (c : Char) : Int :=
  if c.toNat < 128 then c.toNat else (c.toNat : Int) - 256

/-- Whether an octet is a visible character that is neither a letter nor a digit. -/
def isPunctuation (c : Char) : Bool :=
  0x21 ≤ c.toNat && c.toNat ≤ 0x7E && !c.isAlphanum

/-- The classes of characters by their names. -/
def classes : List (String × (Char → Bool)) :=
  [("alnum", Char.isAlphanum), ("cntrl", fun c => c.toNat < 0x20 || c.toNat == 0x7F),
    ("lower", Char.isLower), ("space", fun c => c == ' ' || (9 ≤ c.toNat && c.toNat ≤ 13)),
    ("alpha", Char.isAlpha), ("digit", Char.isDigit),
    ("print", fun c => 0x20 ≤ c.toNat && c.toNat ≤ 0x7E), ("upper", Char.isUpper),
    ("blank", fun c => c == ' ' || c == '\t'),
    ("graph", fun c => 0x21 ≤ c.toNat && c.toNat ≤ 0x7E), ("punct", isPunctuation),
    ("xdigit", fun c => c.isDigit || ('a' ≤ c && c ≤ 'f') || ('A' ≤ c && c ≤ 'F'))]

/-- The class that is named behind an opening bracket, and what stands behind it. -/
def class? (cs : List Char) : Option ((Char → Bool) × List Char) :=
  classes.findSome? fun (name, contains) =>
    let text := ':' :: name.toList ++ [':', ']']
    if text.isPrefixOf cs then some (contains, cs.drop text.length) else none

/-- The members of a set up to the bracket that closes it, and what stands behind it. The first
character is a member at any rate. The fuel bounds the number of members. -/
def members? : Nat → Bool → List Char → Option (List SetPart × List Char)
  | 0, _, _ => none
  | _, _, [] => none
  | fuel + 1, isFirst, c :: rest =>
    if c == ']' && !isFirst then
      some ([], rest)
    else
      match if c == '[' then class? rest else none with
      | some (contains, rest) =>
        (members? fuel false rest).map fun (members, rest) =>
          (.named contains :: members, rest)
      | none =>
        let (first, rest) :=
          match c, rest with
          | '\\', escaped :: rest => (escaped, rest)
          | _, _ => (c, rest)
        match rest with
        | '-' :: '\\' :: last :: rest =>
          (members? fuel false rest).map fun (members, rest) =>
            (.range first last :: members, rest)
        | '-' :: last :: others =>
          if last == ']' then
            (members? fuel false rest).map fun (members, rest) =>
              (.range first first :: members, rest)
          else
            (members? fuel false others).map fun (members, rest) =>
              (.range first last :: members, rest)
        | _ =>
          (members? fuel false rest).map fun (members, rest) =>
            (.range first first :: members, rest)

/-- The items of a pattern. A bracket that nothing closes stands for itself. The fuel bounds the
length. -/
def itemsWithin : Nat → List Char → List Item
  | 0, _ => []
  | _, [] => []
  | fuel + 1, c :: rest =>
    match c, rest with
    | '\\', escaped :: rest => .one escaped :: itemsWithin fuel rest
    | '?', _ => .anyOne :: itemsWithin fuel rest
    | '*', _ => .anyMany :: itemsWithin fuel rest
    | '[', _ =>
      let (isNegated, inside) :=
        match rest with
        | '!' :: inside => (true, inside)
        | _ => (false, rest)
      match members? (inside.length + 1) true inside with
      | some (members, rest) => .oneOf members isNegated :: itemsWithin fuel rest
      | none => .one '[' :: itemsWithin fuel rest
    | _, _ => .one c :: itemsWithin fuel rest

/-- The items of a pattern. -/
def items (pattern : List Char) : List Item :=
  itemsWithin pattern.length pattern

/-- Whether a character is a member. -/
def isMember (c : Char) : SetPart → Bool
  | .range first last => signed first ≤ signed c && signed c ≤ signed last
  | .named contains => contains c

/-- All ends of a text, the longest first. -/
def ends : List Char → List (List Char)
  | [] => [[]]
  | c :: rest => (c :: rest) :: ends rest

/-- Whether items fit a whole text. -/
def fits : List Item → List Char → Bool
  | [], cs => cs.isEmpty
  | .anyMany :: items, cs => (ends cs).any (fits items)
  | .one wanted :: items, cs =>
    match cs with
    | c :: rest => c == wanted && fits items rest
    | [] => false
  | .anyOne :: items, cs =>
    match cs with
    | _ :: rest => fits items rest
    | [] => false
  | .oneOf members isNegated :: items, cs =>
    match cs with
    | c :: rest => members.any (isMember c) != isNegated && fits items rest
    | [] => false

/-! ## Names of files -/

/-- Whether a bracket is closed before the name ends. -/
def closes : Nat → List Char → Bool
  | 0, _ => false
  | fuel + 1, cs =>
    let cs :=
      match cs with
      | '\\' :: rest => rest
      | _ => cs
    match cs with
    | [] => false
    | '/' :: _ => false
    | _ :: rest => rest.head? == some ']' || closes fuel rest

/-- Whether a name holds anything that makes it a pattern. The fuel bounds the length. -/
def hasMeaning : Nat → List Char → Bool
  | 0, _ => false
  | _, [] => false
  | fuel + 1, c :: rest =>
    match c, rest with
    | '*', _ | '?', _ => true
    | '[', '!' :: inside => closes (inside.length + 1) inside || hasMeaning fuel rest
    | '[', _ => closes (rest.length + 1) rest || hasMeaning fuel rest
    | '\\', _ :: rest => hasMeaning fuel rest
    | _, _ => hasMeaning fuel rest

/-- A path divided at its slashes, some of which may have backslashes in front of them. -/
def namesOf : List Char → List Char → List (List Char)
  | current, [] => [current.reverse]
  | current, '\\' :: '/' :: rest => current.reverse :: namesOf [] rest
  | current, '\\' :: c :: rest => namesOf (c :: '\\' :: current) rest
  | current, '/' :: rest => current.reverse :: namesOf [] rest
  | current, c :: rest => namesOf (c :: current) rest

/-- Characters without the backslashes in front of others. -/
def unescaped : List Char → List Char
  | '\\' :: c :: rest => c :: unescaped rest
  | c :: rest => c :: unescaped rest
  | [] => []

/-- The paths that a pattern stands for, given the part of them that is settled. Names that begin
with a point are passed over unless the pattern begins with one. -/
def pathsFrom (files : Files) (directory : Nat) : String → List (List Char) → List String
  | settled, [] => [settled]
  | settled, name :: rest =>
    if !hasMeaning (name.length + 1) name then
      let settled := settled ++ String.ofList (unescaped name)
      if rest.isEmpty then
        match files.locate directory settled false with
        | .ok place => if place.file.isSome then [settled] else []
        | .error _ => []
      else
        pathsFrom files directory (settled ++ "/") rest
    else
      let above := if settled.isEmpty then "." else settled
      match files.find directory above true with
      | .error _ => []
      | .ok number =>
        if !files.isDirectory number then
          []
        else
          let showsHidden := (unescaped name).head? == some '.'
          let items := items name
          let found := ("." :: ".." :: files.namesIn number).filter fun entry =>
            (showsHidden || !entry.startsWith ".") && fits items entry.toList
          if rest.isEmpty then found.map (settled ++ ·)
          else found.flatMap fun entry => pathsFrom files directory (settled ++ entry ++ "/") rest

/-- The paths that a pattern stands for, in ascending order. -/
def paths (files : Files) (directory : Nat) (pattern : List Char) : List String :=
  if hasMeaning (pattern.length + 1) pattern then
    (pathsFrom files directory "" (namesOf [] pattern)).mergeSort fun first second =>
      first ≤ second
  else
    []

end Pattern

end Runbook.Machine.Shell
