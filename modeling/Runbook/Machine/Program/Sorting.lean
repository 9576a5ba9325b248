import Runbook.Machine.Calendar
import Runbook.Machine.Program.Columns
import Runbook.Machine.Real
import Runbook.Machine.Version

/-!
# Sorting lines

The programs that put lines in order, and those that compare lines which are in order: `sort` with
its keys, `uniq` and `comm`.
-/

namespace Runbook.Machine.Program.Sorting

open OptionTable

/-! ## Keys -/

/-- How keys are compared. -/
structure Manner where
  skipsStart : Bool := false
  skipsEnd : Bool := false
  dictionary : Bool := false
  folds : Bool := false
  general : Bool := false
  human : Bool := false
  printable : Bool := false
  month : Bool := false
  numeric : Bool := false
  reversed : Bool := false
  version : Bool := false
  deriving Repr, DecidableEq

/-- The manner with one more letter, which may be about the start or the end of a key. -/
def Manner.with? (manner : Manner) (forStart forEnd : Bool) (letter : Char) : Option Manner :=
  match letter with
  | 'b' => some { manner with
      skipsStart := manner.skipsStart || forStart, skipsEnd := manner.skipsEnd || forEnd }
  | 'd' => some { manner with dictionary := true }
  | 'f' => some { manner with folds := true }
  | 'g' => some { manner with general := true }
  | 'h' => some { manner with human := true }
  | 'i' => some { manner with printable := true }
  | 'M' => some { manner with month := true }
  | 'n' => some { manner with numeric := true }
  | 'r' => some { manner with reversed := true }
  | 'V' => some { manner with version := true }
  | _ => none

/-- The letters of a manner that exclude each other, if too many were given. -/
def Manner.conflict? (manner : Manner) : Option String :=
  let others := manner.version || manner.dictionary || manner.printable
  let count := ([manner.numeric, manner.general, manner.human, manner.month, others].filter id).length
  if count < 2 then none
  else
    some (String.ofList
      ([(manner.dictionary, 'd'), (manner.folds, 'f'), (manner.general, 'g'), (manner.human, 'h'),
        (manner.printable && !manner.dictionary, 'i'), (manner.month, 'M'), (manner.numeric, 'n'),
        (manner.version, 'V')].filterMap fun (isGiven, letter) =>
          if isGiven then some letter else none))

/-- A part of a line by which it is sorted. -/
structure Key where
  /-- The number of fields in front, and of characters in front within the first field. -/
  firstField : Nat := 0
  firstChar : Nat := 0
  /-- The number of the last field, or of those in front of it if some characters of it belong to the
  key, and the number of these. -/
  lastField : Option Nat := none
  lastChar : Nat := 0
  manner : Manner := {}
  deriving Repr, DecidableEq

/-- Whether a character separates fields if none is named. -/
def isGap (c : Char) : Bool :=
  c == ' ' || c == '\t' || c == '\n'

/-- What is left behind so many fields. -/
def skipFields (separator : Option Char) : Nat → List Char → List Char
  | 0, cs => cs
  | count + 1, cs =>
    match separator with
    | some c => skipFields separator count ((cs.dropWhile (· != c)).drop 1)
    | none => skipFields separator count ((cs.dropWhile isGap).dropWhile (!isGap ·))

/-- What is left behind the last of so many fields. A sign that ends it is left too. -/
def skipToEnd (separator : Option Char) : Nat → List Char → List Char
  | 0, cs => cs
  | count + 1, cs =>
    match separator with
    | some c =>
      let rest := cs.dropWhile (· != c)
      if count = 0 then rest else skipToEnd separator count (rest.drop 1)
    | none => skipToEnd separator count ((cs.dropWhile isGap).dropWhile (!isGap ·))

/-- The number of characters in front of the end of a key. -/
def endOf (separator : Option Char) (key : Key) (line : List Char) : Nat :=
  match key.lastField with
  | none => line.length
  | some last =>
    if key.lastChar = 0 then line.length - (skipToEnd separator last line).length
    else
      let behind := skipFields separator (last - 1) line
      let behind := if key.manner.skipsEnd then behind.dropWhile isGap else behind
      min line.length (line.length - behind.length + key.lastChar)

/-- The part of a line that a key names. -/
def Key.part (key : Key) (separator : Option Char) (line : List Char) : List Char :=
  let start := skipFields separator key.firstField line
  let start := if key.manner.skipsStart then start.dropWhile isGap else start
  let start := start.drop key.firstChar
  let first := line.length - start.length
  start.take (endOf separator key line - first)

/-! ## Comparing -/

/-- Compares texts octet by octet. -/
def compareTexts : List Char → List Char → Ordering
  | [], [] => .eq
  | [], _ => .lt
  | _, [] => .gt
  | c :: cs, d :: ds =>
    match compare c.toNat d.toNat with
    | .eq => compareTexts cs ds
    | order => order

/-- A decimal number without an exponent: whether it is negative, the digits in front of the point
and those behind it. What follows is left over. -/
def decimal (cs : List Char) : Bool × List Char × List Char × List Char :=
  let cs := cs.dropWhile isGap
  let (isNegative, cs) :=
    match cs with
    | '-' :: rest => (true, rest)
    | _ => (false, cs)
  let whole := cs.takeWhile Char.isDigit
  let rest := cs.drop whole.length
  let (fraction, rest) :=
    match rest with
    | '.' :: rest =>
      let fraction := rest.takeWhile Char.isDigit
      (fraction, rest.drop fraction.length)
    | _ => ([], rest)
  (isNegative, whole, fraction, rest)

/-- Compares the decimal numbers at the beginning of texts. -/
def compareDecimals (first second : List Char) : Ordering :=
  let value (cs : List Char) (places : Nat) : Int :=
    let (isNegative, whole, fraction, _) := decimal cs
    let digits := whole ++ fraction ++ List.replicate (places - fraction.length) '0'
    let size : Int := Text.decimalValue digits
    if isNegative then -size else size
  let places (cs : List Char) : Nat := (decimal cs).2.2.1.length
  let most := max (places first) (places second)
  compare (value first most) (value second most)

/-- Compares numbers with units behind them, where the sign and the unit come before the number. -/
def compareHuman (first second : List Char) : Ordering :=
  let order (cs : List Char) : Int :=
    let (isNegative, whole, fraction, rest) := decimal cs
    if (whole ++ fraction).all (· == '0') then 0
    else
      let power : Int :=
        match rest.head? with
        | some 'k' => 1
        | some c => (("KMGTPEZYRQ".toList.findIdx? (· == c)).map fun index => (index : Int) + 1).getD 0
        | none => 0
      if isNegative then -power else power
  match compare (order first) (order second) with
  | .eq => compareDecimals first second
  | order => order

/-- Compares floating-point numbers, where what is no number comes first. -/
def compareReals (first second : List Char) : Ordering :=
  let read (cs : List Char) : Option Real :=
    (Real.read? Real.extended (cs.dropWhile isGap)).map Prod.fst
  let rank (value : Option Real) : Nat :=
    match value with
    | none => 0
    | some ⟨_, .notANumber⟩ => 1
    | some ⟨true, .infinite⟩ => 2
    | some ⟨_, .finite _ _⟩ => 3
    | some ⟨false, .infinite⟩ => 4
  let (one, other) := (read first, read second)
  match compare (rank one) (rank other) with
  | .eq =>
    match one.bind Real.parts?, other.bind Real.parts? with
    | some one, some other => compare (Real.difference one other) 0
    | _, _ => .eq
  | order => order

/-- The number of the month at the beginning of a text, or zero. -/
def monthOf (cs : List Char) : Nat :=
  let name := String.ofList (((cs.dropWhile isGap).take 3).map Char.toLower)
  match Calendar.months.findIdx? fun month => month.toLower == name with
  | some index => index + 1
  | none => 0

/-- Compares texts in a manner. -/
def Manner.compare (manner : Manner) (first second : List Char) : Ordering :=
  let isCounted (c : Char) : Bool :=
    if manner.dictionary then c.isAlphanum || isGap c
    else !manner.printable || Quoted.isShown c
  let prepare (cs : List Char) : List Char :=
    let cs := cs.filter isCounted
    if manner.folds then cs.map Char.toUpper else cs
  let (one, other) := (prepare first, prepare second)
  let order :=
    if manner.numeric then compareDecimals one other
    else if manner.general then compareReals one other
    else if manner.human then compareHuman one other
    else if manner.month then Ord.compare (monthOf one) (monthOf other)
    else if manner.version then Version.compareNames one other
    else compareTexts one other
  if manner.reversed then order.swap else order

/-- How lines are put in order. -/
structure Arrangement where
  keys : List Key := []
  manner : Manner := {}
  separator : Option Char := none
  isStable : Bool := false
  isUnique : Bool := false

/-- Compares lines by keys. -/
def compareByKeys (separator : Option Char) (first second : List Char) : List Key → Ordering
  | [] => .eq
  | key :: rest =>
    match key.manner.compare (key.part separator first) (key.part separator second) with
    | .eq => compareByKeys separator first second rest
    | order => order

/-- Compares lines. -/
def Arrangement.compare (arrangement : Arrangement) (first second : List Char) : Ordering :=
  match compareByKeys arrangement.separator first second arrangement.keys with
  | .eq =>
    if !arrangement.keys.isEmpty && (arrangement.isStable || arrangement.isUnique) then .eq
    else
      let order := compareTexts first second
      if arrangement.manner.reversed then order.swap else order
  | order => order

/-- Whether a line may stand in front of another one. -/
def Arrangement.inOrder (arrangement : Arrangement) (first second : List Char) : Bool :=
  arrangement.compare first second != .gt

/-- The lines without those that are equal to the one in front of them. -/
def Arrangement.distinct (arrangement : Arrangement) : List (List Char) → List (List Char)
  | [] => []
  | line :: rest =>
    let (kept, _) := rest.foldl
      (fun (state : List (List Char) × List Char) next =>
        if arrangement.compare state.2 next == .eq then state else (next :: state.1, next))
      ([line], line)
    kept.reverse

/-! ## Reading keys -/

/-- Complains about the specification of a key. -/
def failKey {α : Type} (what text : String) : Task α :=
  Task.fail (what ++ ": invalid field specification " ++ Quoted.plain text)

/-- A number at the beginning of characters, which has to be there. -/
def countAt (what : String) (cs : List Char) : Task (Nat × List Char) := do
  let digits := cs.takeWhile Char.isDigit
  if digits.isEmpty then
    Task.fail (what ++ ": invalid count at start of " ++ Quoted.plain (String.ofList cs))
  return (Text.decimalValue digits, cs.drop digits.length)

/-- The letters at the beginning of characters that tell how a key is compared. -/
def lettersAt (forStart forEnd : Bool) (manner : Manner) : List Char → Manner × List Char
  | [] => (manner, [])
  | c :: rest =>
    match manner.with? forStart forEnd c with
    | some manner => lettersAt forStart forEnd manner rest
    | none => (manner, c :: rest)

/-- Reads the specification of a key. -/
def keyOf (text : String) : Task Key := do
  let (field, rest) ← countAt "invalid number at field start" text.toList
  if field = 0 then
    failKey "field number is zero" text
  let (char, rest) ←
    match rest with
    | '.' :: rest => do
      let (char, rest) ← countAt "invalid number after '.'" rest
      if char = 0 then
        failKey "character offset is zero" text
      pure (char - 1, rest)
    | _ => pure (0, rest)
  let (manner, rest) := lettersAt true false {} rest
  let key : Key := { firstField := field - 1, firstChar := char, manner := manner }
  let (key, rest) ←
    match rest with
    | ',' :: rest => do
      let (last, rest) ← countAt "invalid number after ','" rest
      if last = 0 then
        failKey "field number is zero" text
      let (lastChar, rest) ←
        match rest with
        | '.' :: rest => countAt "invalid number after '.'" rest
        | _ => pure (0, rest)
      let (manner, rest) := lettersAt false true key.manner rest
      pure ({ key with lastField := some last, lastChar := lastChar, manner := manner }, rest)
    | _ => pure (key, rest)
  if !rest.isEmpty then
    failKey "stray character in field spec" text
  return key

/-! ## Sorting -/

/-- Merges lines that are in order with others. The fuel bounds their number. -/
def merge (arrangement : Arrangement) : Nat → List (List Char) → List (List Char) → List (List Char)
  | 0, first, second => first ++ second
  | _, [], second => second
  | _, first, [] => first
  | fuel + 1, line :: rest, other :: others =>
    if arrangement.inOrder line other then line :: merge arrangement fuel rest (other :: others)
    else other :: merge arrangement fuel (line :: rest) others

/-- The number of the first line that is not in order, and the line. -/
def disorder? (arrangement : Arrangement) : Nat → List (List Char) → Option (Nat × List Char)
  | number, first :: second :: rest =>
    let isFine :=
      if arrangement.isUnique then arrangement.compare first second == .lt else arrangement.inOrder first second
    if isFine then disorder? arrangement (number + 1) (second :: rest) else some (number + 1, second)
  | _, _ => none

/-- The lines of a file. -/
def linesOf (mark : Char) (text : String) : List (List Char) :=
  let (lines, rest) := Task.splitLines mark text.toList
  lines ++ if rest.isEmpty then [] else [rest]

/-- Sorts lines. -/
def sort (arguments : List String) : Task Unit := do
  modify fun state => { state with failure := 2 }
  let table := ofLists "bcCdfghik:mMno:rRsS:t:T:uVz"
    (flags [("ignore-leading-blanks", "b"), ("dictionary-order", "d"), ("ignore-case", "f"),
      ("general-numeric-sort", "g"), ("human-numeric-sort", "h"), ("ignore-nonprinting", "i"),
      ("merge", "m"), ("month-sort", "M"), ("numeric-sort", "n"), ("reverse", "r"),
      ("random-sort", "R"), ("stable", "s"), ("unique", "u"), ("version-sort", "V"),
      ("zero-terminated", "z"), ("debug", "debug")] ++
      valued [("key", "k"), ("output", "o"), ("buffer-size", "S"), ("field-separator", "t"),
        ("temporary-directory", "T"), ("parallel", "parallel"), ("sort", "sort"),
        ("batch-size", "batch-size"), ("files0-from", "files0-from")] ++
      [{ name := "check", arity := .optional, key := "c" }])
  let given ← Task.options table arguments
  let mut manner : Manner := {}
  let mut keys : List Key := []
  let mut separator : Option Char := none
  for (option, value) in given.options do
    let text := value.getD ""
    match option with
    | "k" => keys := (← keyOf text) :: keys
    | "t" =>
      match text.toList with
      | [] => Task.fail "empty tab"
      | [c] => separator := some c
      | ['\\', '0'] => separator := some '\x00'
      | _ => Task.fail ("multi-character tab " ++ Quoted.plain text)
    | "sort" =>
      let word ← Task.choose "--sort"
        [["general-numeric"], ["human-numeric"], ["month"], ["numeric"], ["random"], ["version"]]
        text
      let letter :=
        match word with
        | "general-numeric" => 'g'
        | "human-numeric" => 'h'
        | "month" => 'M'
        | "numeric" => 'n'
        | _ => 'V'
      manner := (manner.with? true true letter).getD manner
    | _ =>
      if let [letter] := option.toList then
        manner := (manner.with? true true letter).getD manner
  let inherits (key : Key) : Key :=
    if key.manner == {} then { key with manner := manner } else key
  let settled :=
    if keys.isEmpty then
      (if { manner with reversed := false } == {} then [] else [Key.mk 0 0 none 0 manner])
    else
      keys.reverse.map inherits
  for key in settled do
    if let some letters := key.manner.conflict? then
      Task.fail ("options '-" ++ letters ++ "' are incompatible")
  let arrangement : Arrangement :=
    { keys := settled
      manner := manner
      separator := separator
      isStable := given.has "s"
      isUnique := given.has "u" }
  let mark := if given.has "z" then '\x00' else '\n'
  let operands := filesOf given.operands
  let checks := given.has "c" || given.has "C"
  if checks then
    if let extra :: _ := operands.drop 1 then
      Task.fail ("extra operand " ++ Quoted.plain extra ++ " not allowed with -" ++
        (if given.has "C" then "C" else "c"))
  for path in operands do
    if path != "-" then
      if let .error fault ← fileAt path then
        Task.fail ("cannot read: " ++ Quoted.file path ++ ": " ++ fault.wording)
  let mut files : List (List (List Char)) := []
  for path in operands do
    match ← Task.readFile path with
    | .error fault => Task.fail ("read failed: " ++ Quoted.file path ++ ": " ++ fault.wording)
    | .ok text => files := linesOf mark text :: files
  if checks then
    if let some (number, line) := disorder? arrangement 1 files.flatten then
      let isSilent := given.has "C" ||
        ["quiet", "silent"].contains ((given.value? "c").getD "diagnose-first")
      if !isSilent then
        Task.warn (Quoted.file (operands.headD "-") ++ ":" ++ toString number ++ ": disorder: " ++
          String.ofList line)
      Task.leave 1
    return ()
  let lines :=
    if given.has "m" then
      files.reverse.foldl (fun merged lines =>
        merge arrangement (merged.length + lines.length) merged lines) []
    else
      files.reverse.flatten.mergeSort arrangement.inOrder
  let lines := if arrangement.isUnique then arrangement.distinct lines else lines
  let print : Task Unit := do
    for line in lines do
      Task.write (String.ofList line ++ mark.toString)
  match given.value? "o" with
  | none => print
  | some path =>
    match ← Acting.openPath path { writes := true, creates := true, truncates := true } with
    | .error fault => Task.fail ("open failed: " ++ Quoted.file path ++ ": " ++ fault.wording)
    | .ok number =>
      let text := String.join (lines.map fun line => String.ofList line ++ mark.toString)
      let _ ← Acting.send number text
      Acting.close number
where
  /-- Whether there is a file at a path. -/
  fileAt (path : String) : Task (Except OsError Nat) :=
    Acting.observe fun self host => host.files.find (host.directoryOf self) path true

/-! ## Repeated lines -/

/-- A line, and how many lines like it follow each other. -/
abbrev Group := List (List Char)

/-- Lines in groups of those that are alike. -/
def groups (alike : List Char → List Char → Bool) : List (List Char) → List Group
  | [] => []
  | line :: rest =>
    match groups alike rest with
    | (next :: others) :: more =>
      if alike line next then (line :: next :: others) :: more else [line] :: (next :: others) :: more
    | more => [line] :: more

/-- The part of a line behind so many fields and characters. -/
def behind (fields chars : Nat) (line : List Char) : List Char :=
  let isBlank (c : Char) : Bool := c == ' ' || c == '\t' || c == '\n'
  let rec skip : Nat → List Char → List Char
    | 0, cs => cs
    | count + 1, cs => skip count ((cs.dropWhile isBlank).dropWhile (!isBlank ·))
  (skip fields line).drop chars

/-- A number that an option gives. -/
def sizeOf (what : String) (text : Option String) : Task (Option Nat) := do
  match text with
  | none => return none
  | some text =>
    match Text.natural? (text.toList.dropWhile (· == ' ')) with
    | some size => return some size
    | none => Task.fail (text ++ ": invalid number of " ++ what)

/-- A number in front of a line. -/
def counted (count : Nat) (line : String) : String :=
  let digits := toString count
  String.ofList (List.replicate (7 - digits.length) ' ') ++ digits ++ " " ++ line

/-- Prints lines without those that repeat the one in front of them. -/
def uniq (arguments : List String) : Task Unit := do
  let table := ofLists "cdDf:is:uw:z"
    (flags [("count", "c"), ("repeated", "d"), ("ignore-case", "i"), ("unique", "u"),
      ("zero-terminated", "z")] ++
      valued [("skip-fields", "f"), ("skip-chars", "s"), ("check-chars", "w")] ++
      [{ name := "all-repeated", arity := .optional, key := "D" },
        { name := "group", arity := .optional, key := "group" }])
  let given ← Task.options table arguments
  let fields := (← sizeOf "fields to skip" (given.value? "f")).getD 0
  let chars := (← sizeOf "bytes to skip" (given.value? "s")).getD 0
  let limit ← sizeOf "bytes to compare" (given.value? "w")
  let method ← (given.value? "D").mapM
    (Task.choose "--all-repeated" [["none"], ["prepend"], ["separate"]])
  let grouping ←
    if !given.has "group" then pure none
    else do
      let word ← Task.choose "--group" [["prepend"], ["append"], ["separate"], ["both"]]
        ((given.value? "group").getD "separate")
      pure (some word)
  if let extra :: _ := given.operands.drop 2 then
    Task.failExtra extra
  if grouping.isSome && ["c", "d", "D", "u"].any given.has then
    Task.failUsage "--group is mutually exclusive with -c/-d/-D/-u"
  if given.has "D" && given.has "c" then
    Task.failUsage "printing all duplicated lines and repeat counts is meaningless"
  let mark := if given.has "z" then '\x00' else '\n'
  let keyOf (line : List Char) : List Char :=
    let part := behind fields chars line
    let part := match limit with
      | some count => part.take count
      | none => part
    if given.has "i" then part.map Char.toLower else part
  let path := given.operands.headD "-"
  match ← Task.openInput path with
  | .error fault => Task.fail (Quoted.file path ++ ": " ++ fault.wording)
  | .ok number =>
    match ← Acting.receiveAll number with
    | .error fault => Task.fail ("error reading " ++ Quoted.plain path ++ ": " ++ fault.wording)
    | .ok text =>
      let found := groups (fun first second => keyOf first == keyOf second) (linesOf mark text)
      let shown (group : Group) : List String :=
        let first := String.ofList (group.headD [])
        let isRepeated := 1 < group.length
        if given.has "D" then
          if isRepeated && !given.has "u" then group.map String.ofList else []
        else if grouping.isSome then group.map String.ofList
        else if (isRepeated && given.has "u") || (!isRepeated && given.has "d") then []
        else if given.has "c" then [counted group.length first]
        else [first]
      let blocks := (found.map shown).filter (!·.isEmpty)
      let style := (grouping <|> method).getD "none"
      let block (lines : List String) : String :=
        String.join (lines.map fun line => line ++ mark.toString)
      let texts := blocks.map block
      let gap := mark.toString
      let whole :=
        match style with
        | "separate" => gap.intercalate texts
        | "prepend" => String.join (texts.map (gap ++ ·))
        | "append" => String.join (texts.map (· ++ gap))
        | "both" => if texts.isEmpty then "" else gap ++ String.join (texts.map (· ++ gap))
        | _ => String.join texts
      match given.operands[1]? with
      | none | some "-" => Task.write whole
      | some path =>
        match ← Acting.openPath path { writes := true, creates := true, truncates := true } with
        | .error fault => Task.fail (Quoted.file path ++ ": " ++ fault.wording)
        | .ok number =>
          let _ ← Acting.send number whole
          Acting.close number

/-! ## Comparing sorted files -/

/-- What comparing has found out. -/
structure Comparison where
  /-- How many lines only the first file has, only the second one, and both. -/
  first : Nat := 0
  second : Nat := 0
  both : Nat := 0
  seenUnpaired : Bool := false
  /-- Whether it was said that a file is not in order. -/
  complained : Bool × Bool := (false, false)

/-- How lines are shown. -/
structure Showing where
  first : Bool
  second : Bool
  both : Bool
  separator : String
  mark : Char
  checksAlways : Bool
  checksNever : Bool

/-- Compares sorted lines. The lines in front of those to come are given latest first. The fuel bounds
the number of lines. -/
def compareSorted (showing : Showing) :
    Nat → List (List Char) → List (List Char) → List (List Char) → List (List Char) → Comparison →
      Task Comparison
  | 0, _, _, _, _, found => return found
  | fuel + 1, past, lines, pastOthers, others, found => do
    let print (columns : Nat) (line : List Char) : Task Unit :=
      Task.write (String.join (List.replicate columns showing.separator) ++ String.ofList line ++
        showing.mark.toString)
    let order : Option Ordering :=
      match lines, others with
      | [], [] => none
      | [], _ => some .gt
      | _, [] => some .lt
      | line :: _, other :: _ => some (compareTexts line other)
    match order with
    | none => return found
    | some order =>
      let count (shown : Bool) : Nat := if shown then 1 else 0
      let mut found := found
      match order with
      | .eq =>
        found := { found with both := found.both + 1 }
        if showing.both then
          print (count showing.first + count showing.second) (others.headD [])
      | .lt =>
        found := { found with first := found.first + 1, seenUnpaired := true }
        if showing.first then
          print 0 (lines.headD [])
      | .gt =>
        found := { found with second := found.second + 1, seenUnpaired := true }
        if showing.second then
          print (count showing.first) (others.headD [])
      let check (isFirst : Bool) (past rest : List (List Char)) (found : Comparison) :
          Task Comparison := do
        let pair :=
          match rest, past with
          | next :: _, before :: _ => some (before, next)
          | [], next :: before :: _ => some (before, next)
          | _, _ => none
        let isDone := if isFirst then found.complained.1 else found.complained.2
        match pair with
        | some (before, next) =>
          if (found.seenUnpaired || showing.checksAlways) && !showing.checksNever && !isDone &&
              compareTexts before next == .gt then
            let message := "file " ++ (if isFirst then "1" else "2") ++ " is not in sorted order"
            if showing.checksAlways then
              Task.fail message
            Task.warn message
            return { found with
              complained := if isFirst then (true, found.complained.2)
                else (found.complained.1, true) }
          else
            return found
        | none => return found
      let mut past := past
      let mut lines := lines
      let mut pastOthers := pastOthers
      let mut others := others
      if order != .gt then
        past := lines.take 1 ++ past.take 1
        lines := lines.drop 1
        found ← check true past lines found
      if order != .lt then
        pastOthers := others.take 1 ++ pastOthers.take 1
        others := others.drop 1
        found ← check false pastOthers others found
      compareSorted showing fuel past lines pastOthers others found

/-- Compares two sorted files line by line. -/
def comm (arguments : List String) : Task Unit := do
  let given ← Task.options
    (ofLists "123z"
      (flags [("check-order", "check"), ("nocheck-order", "nocheck"), ("total", "total"),
        ("zero-terminated", "z")] ++ valued [("output-delimiter", "output-delimiter")])) arguments
  match given.operands with
  | [] => Task.failMissing
  | [path] => Task.failUsage ("missing operand after " ++ Quoted.plain path)
  | _ :: _ :: extra :: _ => Task.failExtra extra
  | [path, other] =>
    let mark := if given.has "z" then '\x00' else '\n'
    let read (path : String) : Task (List (List Char)) := do
      match ← Task.readFile path with
      | .ok text => return linesOf mark text
      | .error fault => Task.fail (Quoted.file path ++ ": " ++ fault.wording)
    let lines ← read path
    let others ← read other
    let showing : Showing :=
      { first := !given.has "1"
        second := !given.has "2"
        both := !given.has "3"
        separator := (given.value? "output-delimiter").getD "\t"
        mark := mark
        checksAlways := given.last? ["check", "nocheck"] == some "check"
        checksNever := given.last? ["check", "nocheck"] == some "nocheck" }
    let found ← compareSorted showing (lines.length + others.length + 1) [] lines [] others {}
    if given.has "total" then
      Task.write (showing.separator.intercalate
        [toString found.first, toString found.second, toString found.both, "total"] ++
          mark.toString)
    if found.complained.1 || found.complained.2 then
      Task.fail "input is not in sorted order"

end Runbook.Machine.Program.Sorting
