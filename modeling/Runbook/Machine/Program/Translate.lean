import Runbook.Machine.Program.Options
import Runbook.Machine.Regex

/-!
# Translation

The program that replaces, deletes and squeezes octets. Its arguments describe sequences of octets by
ranges, classes and repetitions.
-/

namespace Runbook.Machine.Program.Translation

open OptionTable

/-! ## Sequences of octets -/

/-- An octet of an argument, and whether a backslash took its meaning. -/
abbrev Sign := Char × Bool

/-- A part of a described sequence. -/
inductive Part where
  | single (c : Char)
  | range (first last : Char)
  | named (name : String)
  | equivalent (c : Char)
  /-- An octet several times, or as often as is needed. -/
  | repeated (c : Char) (count : Option Nat)
  deriving Repr, DecidableEq

/-- What a backslash in front of a letter means. -/
def escape? : Char → Option Char
  | 'a' => some '\x07'
  | 'b' => some '\x08'
  | 'f' => some '\x0C'
  | 'n' => some '\n'
  | 'r' => some '\x0D'
  | 't' => some '\t'
  | 'v' => some '\x0B'
  | _ => none

/-- What is said about a backslash that has nothing behind it. -/
def loneBackslash : String :=
  "warning: an unescaped backslash at end of string is not portable"

/-- Takes the backslashes out of an argument, and says what is doubtful about them. The fuel bounds
the number of octets. -/
def signs : Nat → List Char → List Sign × List String
  | 0, _ => ([], [])
  | _, [] => ([], [])
  | _, ['\\'] => ([('\\', false)], [loneBackslash])
  | fuel + 1, '\\' :: c :: rest =>
    let digits := ((c :: rest).take 3).takeWhile Text.isOctalDigit
    if digits.isEmpty then
      let (others, doubts) := signs fuel rest
      (((escape? c).getD c, true) :: others, doubts)
    else if 255 < Text.valueIn 8 digits then
      let used := digits.take 2
      let (others, doubts) := signs fuel (rest.drop 1)
      ((Char.ofNat (Text.valueIn 8 used), true) :: others,
        ("warning: the ambiguous octal escape \\" ++ String.ofList digits ++
          " is being\n\tinterpreted as the 2-byte sequence \\0" ++ String.ofList used ++ ", " ++
          String.ofList (digits.drop 2)) :: doubts)
    else
      let (others, doubts) := signs fuel (rest.drop (digits.length - 1))
      ((Char.ofNat (Text.valueIn 8 digits), true) :: others, doubts)
  | fuel + 1, c :: rest =>
    let (others, doubts) := signs fuel rest
    ((c, false) :: others, doubts)

/-- An octet as complaints show it. -/
def shown (c : Char) : String :=
  if c == '\\' then "\\\\"
  else if Quoted.isShown c then c.toString
  else String.ofList (Quoted.escaped c)

/-- Octets as complaints show them. -/
def shownAll (signs : List Sign) : String :=
  String.join (signs.map fun sign => shown sign.1)

/-- The signs in front of a mark that is followed by a closing bracket, and those behind that. -/
def upToMark (mark : Char) : List Sign → Option (List Sign × List Sign)
  | first :: second :: rest =>
    if first == (mark, false) && second == (']', false) then some ([], rest)
    else (upToMark mark (second :: rest)).map fun (inner, rest) => (first :: inner, rest)
  | _ => none

/-- Whether a star, digits and a closing bracket come next. -/
def endsRepetition : List Sign → Bool
  | ('*', false) :: rest =>
    (rest.dropWhile fun sign => sign.1.isDigit).head? == some (']', false)
  | _ => false

/-- The most that a repetition can ask for. -/
def repetitionLimit : Nat := 0xFFFFFFFFFFFFFFFE

/-- Reads a repetition behind its opening bracket, if there is one. -/
def repetition? (signs : List Sign) : Except String (Option (Part × List Sign)) :=
  match signs with
  | (c, _) :: ('*', false) :: rest =>
    let count := rest.takeWhile fun sign => sign.1 != ']' && !sign.2
    match rest.drop count.length with
    | (']', false) :: rest =>
      if count.isEmpty then .ok (some (.repeated c none, rest))
      else
        let digits := count.map Prod.fst
        let base := if digits.head? == some '0' then 8 else 10
        let value := Text.valueIn base digits
        let isValid := digits.all (if base = 8 then Text.isOctalDigit else Char.isDigit)
        if !isValid || repetitionLimit < value then
          .error ("invalid repeat count " ++ Quoted.plain (shownAll count) ++
            " in [c*n] construct")
        else
          .ok (some (.repeated c (if value = 0 then none else some value), rest))
    | _ => .ok none
  | _ => .ok none

/-- Reads a class behind its opening bracket, if there is one. -/
def class? (signs : List Sign) : Except String (Option (Part × List Sign)) :=
  match signs with
  | (mark, false) :: rest =>
    if !(mark == ':' || mark == '=') then .ok none
    else
      match upToMark mark rest with
      | none => .ok none
      | some (inner, behind) =>
        let text := String.ofList (inner.map Prod.fst)
        if mark == ':' then
          if inner.isEmpty then .error "missing character class name '[::]'"
          else if (Regex.classNamed? text).isSome then .ok (some (.named text, behind))
          else if endsRepetition rest then .ok none
          else .error ("invalid character class " ++ Quoted.plain (shownAll inner))
        else
          match inner with
          | [] => .error "missing equivalence class character '[==]'"
          | [(c, _)] => .ok (some (.equivalent c, behind))
          | _ =>
            if endsRepetition rest then .ok none
            else
              .error (shownAll inner ++ ": equivalence class operand must be a single character")
  | _ => .ok none

/-- Reads the parts of a sequence. The fuel bounds their number. -/
def parts : Nat → List Sign → Except String (List Part)
  | 0, _ => .ok []
  | fuel + 1, signs => do
    match signs with
    | first :: second :: third :: rest =>
      if first == ('[', false) then
        if let some (part, rest) ← class? (second :: third :: rest) then
          return part :: (← parts fuel rest)
        if let some (part, rest) ← repetition? (second :: third :: rest) then
          return part :: (← parts fuel rest)
      if second == ('-', false) then
        if third.1 < first.1 then
          throw ("range-endpoints of '" ++ shown first.1 ++ "-" ++ shown third.1 ++
            "' are in reverse collating sequence order")
        return .range first.1 third.1 :: (← parts fuel rest)
      return .single first.1 :: (← parts fuel (second :: third :: rest))
    | _ => return signs.map fun sign => .single sign.1

/-- All octets. -/
def octets : List Char :=
  (List.range 256).map Char.ofNat

/-- The octets of a class. -/
def members (name : String) : List Char :=
  match Regex.classNamed? name with
  | some isMember => octets.filter isMember
  | none => []

/-- The case that a part is about, as a whole class. -/
def Part.case? : Part → Option Bool
  | .named "upper" => some true
  | .named "lower" => some false
  | _ => none

/-- The octets of a part, where a repetition goes no further than a limit. One that goes on as long
as is needed is left out. -/
def Part.octets (limit : Nat) : Part → List Char
  | .single c => [c]
  | .range first last => (List.range (last.toNat + 1 - first.toNat)).map fun offset =>
      Char.ofNat (first.toNat + offset)
  | .named name => members name
  | .equivalent c => [c]
  | .repeated _ none => []
  | .repeated c (some count) => List.replicate (min limit count) c

/-- How many octets a part has. -/
def Part.size : Part → Nat
  | .repeated _ count => count.getD 0
  | part => (part.octets 0).length

/-- How many octets parts have together. -/
def sizeOf (parts : List Part) : Nat :=
  (parts.map Part.size).foldl (· + ·) 0

/-- Whether a part is repeated as often as is needed. -/
def isFlexible (part : Part) : Bool :=
  match part with
  | .repeated _ none => true
  | _ => false

/-- The parts with the one that is repeated as often as is needed repeated a number of times. -/
def settle (count : Nat) (parts : List Part) : List Part :=
  parts.map fun part =>
    match part with
    | .repeated c none => .repeated c (some count)
    | part => part

/-! ## Tables -/

/-- What becomes of each octet. -/
abbrev Table := Array Char

/-- The table that leaves all octets as they are. -/
def identity : Table :=
  octets.toArray

/-- The entry of a table for an octet. -/
def Table.look (table : Table) (c : Char) : Char :=
  table.getD c.toNat c

/-- The octets of sequences in pairs. Where a whole case is asked for in the second sequence, the
first one has to have a whole case too. The fuel bounds the number of parts and of octets. -/
def pairs : Nat → List Part → List Part → Option (List (Char × Char))
  | 0, _, _ => some []
  | fuel + 1, first, second =>
    match first, second with
    | _, [] => some []
    | part :: rest, other :: others =>
      match other.case?, part.case? with
      | some toUpper, some isUpper =>
        let change : List (Char × Char) :=
          if toUpper && !isUpper then (members "lower").map fun c => (c, c.toUpper)
          else if !toUpper && isUpper then (members "upper").map fun c => (c, c.toLower)
          else []
        (pairs fuel rest others).map (change ++ ·)
      | some _, none => if part.size = 0 then pairs fuel rest second else none
      | none, _ =>
        let size := min part.size other.size
        if part.size = 0 then pairs fuel rest second
        else if other.size = 0 then pairs fuel first others
        else
          let remove (part : Part) : List Part :=
            if part.size = size then []
            else
              match part with
              | .repeated c (some count) => [.repeated c (some (count - size))]
              | _ => ((part.octets 0).drop size).map .single
          let here := List.zip ((part.octets size).take size) ((other.octets size).take size)
          (pairs fuel (remove part ++ rest) (remove other ++ others)).map (here ++ ·)
    | [], other :: _ => if other.case?.isSome then none else some []

/-- The least fuel for pairs. -/
def pairLimit (first second : List Part) : Nat :=
  2 * (first.length + second.length) + 1024

/-- The last octet of a sequence, with which it can be continued. -/
def lastOf : List Part → Option Char
  | [] => none
  | parts =>
    match parts.getLast? with
    | some (.range _ last) => some last
    | some (.single c) | some (.equivalent c) | some (.repeated c _) => some c
    | _ => none

/-- How the octets are treated. -/
structure Treatment where
  table : Table := identity
  deleted : Array Bool := #[]
  squeezed : Array Bool := #[]

/-- Which octets are in a sequence, or which are not. -/
def membership (isComplement : Bool) (parts : List Part) : Array Bool :=
  let marked := parts.foldl
    (fun (marks : Array Bool) part =>
      match part with
      | .repeated c _ => marks.setIfInBounds c.toNat true
      | _ => (part.octets 0).foldl (fun marks c => marks.setIfInBounds c.toNat true) marks)
    (Array.replicate 256 false)
  if isComplement then marked.map (!·) else marked

/-- Treats octets. The state is the octet that has been squeezed last. -/
def Treatment.apply (treatment : Treatment) (before : Option Char) (text : String) :
    Option Char × String :=
  let (before, output) := text.foldl
    (fun (state : Option Char × List Char) c =>
      if treatment.deleted.getD c.toNat false then state
      else
        let c := treatment.table.look c
        if treatment.squeezed.getD c.toNat false then
          if state.1 == some c then state else (some c, c :: state.2)
        else
          (none, c :: state.2))
    (before, [])
  (before, String.ofList output.reverse)

/-! ## The program -/

/-- The table that sends the octets of one sequence to those of another one. -/
def tableOf (isComplement truncates : Bool) (first second : List Part) : Except String Table := do
  let outside := octets.filter fun c => !(membership false first).getD c.toNat false
  let size := if isComplement then outside.length else sizeOf first
  let second := settle (size - sizeOf second) second
  let isNamed (part : Part) : Bool :=
    match part with
    | .named _ => true
    | _ => false
  if second.any fun part => part matches .equivalent _ then
    throw "[=c=] expressions may not appear in string2 when translating"
  if second.any fun part => isNamed part && part.case?.isNone then
    throw ("when translating, the only character classes that may appear in\n" ++
      "string2 are 'upper' and 'lower'")
  let source := if isComplement then outside.map Part.single else first
  let limit := pairLimit source second
  if !isComplement && (pairs limit first second).isNone then
    throw "misaligned [:upper:] and/or [:lower:] construct"
  let missing := size - sizeOf second
  let mut target := second
  if 0 < missing && !truncates then
    match second.getLast?, lastOf second with
    | none, _ => throw "when not truncating set1, string2 must be non-empty"
    | some _, none =>
      throw ("when translating with string1 longer than string2,\n" ++
        "the latter string must not end with a character class")
    | some _, some c => target := second ++ [.repeated c (some missing)]
  if isComplement && first.any isNamed then
    let all := target.flatMap (Part.octets size)
    if !(sizeOf target = size && all.all fun c => some c == all.head?) then
      throw ("when translating with complemented character classes,\n" ++
        "string2 must map all characters in the domain to one")
  let found :=
    if isComplement then some (List.zip outside (target.flatMap (Part.octets size)))
    else pairs limit first target
  return (found.getD []).foldl
    (fun (table : Table) (c, goal) => table.setIfInBounds c.toNat goal) identity

/-- Reads a sequence, and complains if it makes no sense. -/
def sequence (text : String) : Task (List Part) := do
  let (signs, doubts) := signs (text.length + 1) text.toList
  for doubt in doubts do
    Task.warn doubt
  match parts (signs.length + 1) signs with
  | .ok parts => return parts
  | .error complaint => Task.fail complaint

/-- The treatment that options and sequences ask for. -/
def treatment (isComplement deletes squeezes truncates : Bool) (first : List Part)
    (second : Option (List Part)) : Except String Treatment := do
  if first.any isFlexible then
    throw "the [c*] repeat construct may not appear in string1"
  let flexible := ((second.getD []).filter isFlexible).length
  if 1 < flexible then
    throw "only one [c*] repeat construct may appear in string2"
  match second, deletes with
  | none, true => return { deleted := membership isComplement first }
  | none, false => return { squeezed := membership isComplement first }
  | some second, true =>
    if 0 < flexible then
      throw "the [c*] construct may appear in string2 only when translating"
    return { deleted := membership isComplement first, squeezed := membership false second }
  | some second, false =>
    let table ← tableOf isComplement truncates first second
    return { table := table, squeezed := if squeezes then membership false second else #[] }

/-- Complains about the number of sequences. -/
def failCount {α : Type} (complaint explanation : String) : Task α := do
  Task.warn complaint
  if !explanation.isEmpty then
    let _ ← Acting.send 2 (explanation ++ "\n")
  Task.suggestHelp
  Task.leave 1

/-- Replaces, deletes or squeezes octets. -/
def translate (arguments : List String) : Task Unit := do
  let table :=
    { ofLists "AcCdst"
        (flags [("complement", "c"), ("delete", "d"), ("squeeze-repeats", "s"),
          ("truncate-set1", "t")]) with
      mayFollow := false }
  let given ← Task.options table arguments
  let deletes := given.has "d"
  let squeezes := given.has "s"
  let count := given.operands.length
  let least := if deletes == squeezes then 2 else 1
  let most := if deletes && !squeezes then 1 else 2
  if count < least then
    if count = 0 then
      failCount "missing operand" ""
    failCount ("missing operand after " ++ Quoted.plain (given.operands.getLastD ""))
      (if squeezes then "Two strings must be given when both deleting and squeezing repeats."
        else "Two strings must be given when translating.")
  if most < count then
    failCount ("extra operand " ++ Quoted.plain (given.operands.getD most ""))
      (if count = 2 then
        "Only one string may be given when deleting without squeezing repeats." else "")
  let first ← sequence (given.operands.headD "")
  let second ← (given.operands[1]?).mapM sequence
  match treatment (given.has "c" || given.has "C") deletes squeezes (given.has "t") first second with
  | .error complaint => Task.fail complaint
  | .ok treatment =>
    let read ← Task.eachPiece 0 none fun before piece => do
      let (before, text) := treatment.apply before piece
      Task.write text
      return (before, true)
    if let .error fault := read then
      Task.fail ("read error: " ++ fault.wording)

end Runbook.Machine.Program.Translation
