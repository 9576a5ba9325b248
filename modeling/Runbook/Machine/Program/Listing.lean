import Runbook.Machine.Program.Entries
import Runbook.Machine.Shell.Pattern
import Runbook.Machine.Version

/-!
# Listing directories

The program that prints the names in directories, in several layouts and orders, with what is known
about the files if that is asked for.
-/

namespace Runbook.Machine.Program.Listing

open OptionTable

/-- Which names of a directory are left out. -/
inductive Hidden where
  /-- Those that begin with a point. -/
  | pointed
  /-- Those of the directory itself and of the one above it. -/
  | own
  | none
  deriving Repr, DecidableEq

/-- How names are laid out. -/
inductive Shape where
  | lines
  | long
  | commas
  | down
  | across
  deriving Repr, DecidableEq

/-- Which kinds of files get a mark behind their names. -/
inductive Marking where
  | none
  | directories
  | kinds
  | all
  deriving Repr, DecidableEq

/-- How names are quoted. -/
inductive Quotation where
  | literal
  | escape
  | doubleQuotes
  | singleQuotes
  | shell
  | shellAlways
  deriving Repr, DecidableEq

/-- What a listing looks like. -/
structure Style where
  hidden : Hidden := .pointed
  shape : Shape := .lines
  marking : Marking := .none
  quotation : Quotation := .literal
  order : String := "name"
  reversed : Bool := false
  directoriesFirst : Bool := false
  recursive : Bool := false
  /-- Whether directories themselves are listed. -/
  isFlat : Bool := false
  /-- Whether all links are followed, or those that are arguments. -/
  follows : Bool := false
  followsArguments : Bool := false
  numbers : Bool := false
  sizes : Bool := false
  owner : Bool := true
  group : Bool := true
  numeric : Bool := false
  /-- The base of the units in which sizes are told, if they are. -/
  units : Option Nat := none
  width : Nat := 80
  tab : Nat := 8
  questions : Bool := false
  timeStyle : String := "locale"
  /-- The patterns of names that are always left out, and those that are left out like hidden ones.
  -/
  ignored : List String := []
  hidePatterns : List String := []
  ending : String := "\n"

/-- A file that is listed. -/
structure Entry where
  name : String
  number : Nat
  file : File
  /-- Where it leads, if it is a link, and what is there. -/
  target : Option (String × Option File) := none
  blocks : Nat := 0
  size : Nat := 0
  /-- How many names it has. -/
  links : Nat := 1

/-! ## Looking at files -/

/-- How many units of 1024 octets a file takes. -/
def blocksOf (kind : FileKind) (size : Nat) : Nat :=
  match kind with
  | .directory _ _ => 4
  | .regular _ | .program _ => (size + 4095) / 4096 * 4
  | _ => 0

/-- What is known about a file. -/
def entryAt (follows : Bool) (path name : String) : Task (Except OsError Entry) := do
  match ← fileAt path follows with
  | .error fault => return .error fault
  | .ok (number, file) =>
    let target ←
      match file.kind with
      | .link target => do
        let found ← fileAt path true
        pure (some (target, found.toOption.map Prod.snd))
      | _ => pure none
    let (size, links) ← Acting.observe fun _ host =>
      (host.files.sizeOf number, host.files.linkCount number)
    return .ok ⟨name, number, file, target, blocksOf file.kind size, size, links⟩

/-- What is known about a file that is an argument. -/
def argumentAt (style : Style) (path : String) : Task (Except OsError Entry) := do
  if style.follows then
    entryAt true path path
  else
    let followed ← entryAt true path path
    let followsDirectories := !style.isFlat && style.marking ≠ .all && style.shape ≠ .long
    match followed with
    | .ok entry =>
      if style.followsArguments || (followsDirectories && isDirectoryKind entry.file.kind) then
        return .ok entry
      else
        entryAt false path path
    | .error fault =>
      if fault == .notFound || fault == .tooManyLinks then entryAt false path path
      else return .error fault

/-- Whether a name of a directory is left out. -/
def Style.omits (style : Style) (name : String) : Bool :=
  let isMatch (pattern : String) : Bool :=
    (pattern.startsWith "." || !name.startsWith ".") &&
      Shell.Pattern.fits (Shell.Pattern.items pattern.toList) name.toList
  let isHidden :=
    match style.hidden with
    | .none => false
    | .own => name == "." || name == ".."
    | .pointed => name.startsWith "." || style.hidePatterns.any isMatch
  isHidden || style.ignored.any isMatch

/-! ## Order -/

/-- The part of a name from its last point on. -/
def extension (name : String) : String :=
  let cs := name.toList.reverse
  let last := cs.takeWhile (· != '.')
  if last.length = cs.length then "" else String.ofList ('.' :: last.reverse)

/-- Whether an entry comes before another one by a measure, or by name where that is the same. -/
def byMeasure (measure : Entry → Nat) (first second : Entry) : Bool :=
  let (before, after) := (measure first, measure second)
  before < after || (before == after && first.name ≤ second.name)

/-- Whether an entry comes no later than another one. -/
def Style.inOrder (style : Style) (first second : Entry) : Bool :=
  let greatest : Nat := Nat.pow 2 64
  match style.order with
  | "none" => true
  | "time" => byMeasure (fun entry => greatest - entry.file.modified) first second
  | "size" => byMeasure (fun entry => greatest - entry.size) first second
  | "width" => byMeasure (fun entry => entry.name.length) first second
  | "extension" =>
    let (before, after) := (extension first.name, extension second.name)
    before < after || (before == after && first.name ≤ second.name)
  | "version" =>
    match Version.compareNames first.name.toList second.name.toList with
    | .lt => true
    | .eq => first.name ≤ second.name
    | .gt => false
  | _ => first.name ≤ second.name

/-- Whether an entry is a directory, or a link to one. -/
def leadsToDirectory (entry : Entry) : Bool :=
  isDirectoryKind entry.file.kind ||
    match entry.target with
    | some (_, some file) => isDirectoryKind file.kind
    | _ => false

/-- Entries in the order of a style. -/
def Style.sort (style : Style) (entries : List Entry) : List Entry :=
  let sorted :=
    if style.reversed && style.order != "none" then
      entries.mergeSort fun first second => style.inOrder second first
    else
      entries.mergeSort style.inOrder
  if style.directoriesFirst then
    sorted.filter leadsToDirectory ++ sorted.filter (!leadsToDirectory ·)
  else
    sorted

/-! ## Texts -/

/-- The name of an entry as it is quoted. -/
def Style.quoted (style : Style) (name : String) : String :=
  let mapped (own : Char → Bool) : String :=
    String.ofList (name.toList.flatMap fun c =>
      if own c then ['\\', c] else if Quoted.isShown c then [c] else Quoted.escaped c)
  match style.quotation with
  | .literal =>
    if style.questions then name.map fun c => if Quoted.isShown c then c else '?' else name
  | .escape => mapped fun c => c == '\\' || c == ' '
  | .doubleQuotes => "\"" ++ mapped (fun c => c == '\\' || c == '"') ++ "\""
  | .singleQuotes => Quoted.plain name
  | .shell => Quoted.whereNeeded name
  | .shellAlways => Quoted.always name

/-- The mark behind the name of a file of a kind. -/
def Style.mark (style : Style) (file : File) : String :=
  let isMarked := style.marking == .kinds || style.marking == .all
  match file.kind with
  | .directory _ _ => if style.marking == .none then "" else "/"
  | .link _ => if isMarked then "@" else ""
  | .queue _ => if isMarked then "|" else ""
  | .regular _ | .program _ =>
    if style.marking == .all && file.permissions &&& 0x49 != 0 then "*" else ""
  | .device _ => ""

/-- A size in the greatest unit that fits, rounded up. -/
def inUnits (base size : Nat) : String :=
  let letters := if base = 1000 then "kMGTPEZY" else "KMGTPEZY"
  let rec go (unit : Nat) : List Char → String
    | [] => toString (size / unit)
    | letter :: rest =>
      let unit := unit * base
      let tenths := (size * 10 + unit - 1) / unit
      let ones := (size + unit - 1) / unit
      if tenths < 100 then
        toString (tenths / 10) ++ "." ++ toString (tenths % 10) ++ letter.toString
      else if ones < base || rest.isEmpty then toString ones ++ letter.toString
      else go unit rest
  if size < base then toString size else go 1 letters.toList

/-- A size as it is told. -/
def Style.sizeText (style : Style) (size : Nat) : String :=
  match style.units with
  | some base => inUnits base size
  | none => toString size

/-- A number of blocks as it is told. -/
def Style.blocksText (style : Style) (blocks : Nat) : String :=
  match style.units with
  | some base => inUnits base (blocks * 1024)
  | none => toString blocks

/-- A text with blanks in front of it. -/
def rightAligned (width : Nat) (text : String) : String :=
  String.ofList (List.replicate (width - text.length) ' ') ++ text

/-- Two digits. -/
def twoDigits (number : Nat) : String :=
  (if number < 10 then "0" else "") ++ toString number

/-- A time as it is told, given what time it is. -/
def Style.timeText (style : Style) (now time : Nat) : String :=
  let seconds := time / secondMicros
  let (year, month, day) := Calendar.dayOf (seconds / Calendar.daySeconds)
  let hour := seconds % Calendar.daySeconds / 3600
  let minute := seconds % 3600 / 60
  let clock := twoDigits hour ++ ":" ++ twoDigits minute
  let date := toString year ++ "-" ++ twoDigits month ++ "-" ++ twoDigits day
  let isRecent := time < now && now < time + 15778476 * secondMicros
  match style.timeStyle with
  | "full-iso" =>
    let micros := toString (time % secondMicros)
    let digits := String.ofList (List.replicate (6 - micros.length) '0') ++ micros ++ "000"
    date ++ " " ++ clock ++ ":" ++ twoDigits (seconds % 60) ++ "." ++ digits ++ " +0000"
  | "long-iso" => date ++ " " ++ clock
  | "iso" =>
    if isRecent then (date.drop 5).toString ++ " " ++ clock else date ++ " "
  | _ =>
    let day := Calendar.months.getD (month - 1) "" ++ " " ++ rightAligned 2 (toString day) ++ " "
    day ++ (if isRecent then clock else " " ++ toString year)

/-- The letter for the kind of a file. -/
def kindLetter : FileKind → String
  | .directory _ _ => "d"
  | .link _ => "l"
  | .queue _ => "p"
  | .device _ => "c"
  | _ => "-"

/-- What stands in front of the name of an entry in every layout. -/
structure Front where
  number : String
  blocks : String

/-- What stands in front of the names of entries, filled up to the same width if that is asked for.
-/
def Style.fronts (style : Style) (isAligned : Bool) (entries : List Entry) : List String :=
  let fronts := entries.map fun entry =>
    Front.mk (toString entry.number) (style.blocksText entry.blocks)
  let widest (column : Front → String) : Nat :=
    if isAligned then (fronts.map fun front => (column front).length).foldl max 0 else 0
  let numberWidth := widest Front.number
  let blockWidth := widest Front.blocks
  fronts.map fun front =>
    (if style.numbers then rightAligned numberWidth front.number ++ " " else "") ++
      (if style.sizes then rightAligned blockWidth front.blocks ++ " " else "")

/-! ## Layouts -/

/-- The name of an entry with its mark. -/
def Style.cell (style : Style) (entry : Entry) : String :=
  style.quoted entry.name ++ style.mark entry.file

/-- The lines of entries with everything that is known about them. -/
def Style.longLines (style : Style) (now : Nat) (entries : List Entry) : List String :=
  let widest (column : Entry → String) : Nat :=
    (entries.map fun entry => (column entry).length).foldl max 0
  let links (entry : Entry) : String := toString entry.links
  let linkWidth := widest links
  let size (entry : Entry) : String := style.sizeText entry.size
  let sizeWidth := widest size
  let user := if style.numeric then "0 " else "root "
  (entries.zip (style.fronts true entries)).map fun (entry, front) =>
    front ++ kindLetter entry.file.kind ++ permissionText entry.file.permissions ++ " " ++
      rightAligned linkWidth (links entry) ++ " " ++
      (if style.owner then user else "") ++ (if style.group then user else "") ++
      rightAligned sizeWidth (size entry) ++ " " ++ style.timeText now entry.file.modified ++ " " ++
      style.quoted entry.name ++
      match entry.target with
      | some (target, file) =>
        " -> " ++ style.quoted target ++ (file.map style.mark).getD ""
      | none => style.mark entry.file

/-- The widths of columns if there are a number of them, and whether they fit. -/
def Style.columnWidths (style : Style) (lengths : Array Nat) (count : Nat) : Array Nat × Bool :=
  let rows := (lengths.size + count - 1) / count
  let widths := lengths.zipIdx.foldl
    (fun (widths : Array Nat) (length, index) =>
      let column := if style.shape == .down then index / rows else index % count
      let length := length + if column + 1 = count then 0 else 2
      widths.modify column (max length))
    (Array.replicate count 3)
  (widths, style.width = 0 || widths.foldl (· + ·) 0 < style.width)

/-- The greatest number of columns that fit, and their widths. The fuel is how many are tried. -/
def Style.columns (style : Style) (lengths : Array Nat) : Nat → Array Nat
  | 0 => #[]
  | count + 1 =>
    let (widths, fits) := style.columnWidths lengths (count + 1)
    if fits || count = 0 then widths else style.columns lengths count

/-- Blanks and tabulators from one position in a line to another one. The fuel bounds the distance.
-/
def Style.indent (style : Style) : Nat → Nat → Nat → String
  | 0, _, _ => ""
  | fuel + 1, from', goal =>
    if goal ≤ from' then ""
    else if style.tab ≠ 0 && (from' + 1) / style.tab < goal / style.tab then
      "\t" ++ style.indent fuel (from' + style.tab - from' % style.tab) goal
    else
      " " ++ style.indent fuel (from' + 1) goal

/-- The lines of cells in columns. -/
def Style.columnLines (style : Style) (cells : List String) : List String :=
  let all := cells.toArray
  let lengths := all.map String.length
  let most := if style.width = 0 then all.size else min all.size (max 1 (style.width / 3))
  let widths := style.columns lengths most
  let count := widths.size
  let rows := (all.size + count - 1) / count
  (List.range rows).map fun row =>
    let indices := (List.range count).map fun column =>
      if style.shape == .down then column * rows + row else row * count + column
    let shown := indices.filterMap fun index => all[index]?
    let rec go (position start : Nat) : List (String × Nat) → String
      | [] => ""
      | (cell, width) :: rest =>
        style.indent (start - position) position start ++ cell ++
          go (start + cell.length) (start + width) rest
    go 0 0 (shown.zip widths.toList)

/-- The text of cells with commas between them. -/
def Style.commaText (style : Style) (cells : List String) : String :=
  let rec go (position : Nat) : List String → String
    | [] => ""
    | cell :: rest =>
      if style.width = 0 || position + cell.length + 2 < style.width then
        ", " ++ cell ++ go (position + 2 + cell.length) rest
      else
        "," ++ style.ending ++ cell ++ go cell.length rest
  match cells with
  | [] => ""
  | cell :: rest => cell ++ go cell.length rest ++ style.ending

/-- Prints entries. -/
def print (style : Style) (entries : List Entry) : Task Unit := do
  let now ← Acting.observe fun _ host => host.clock
  let isAligned := style.shape ≠ .commas
  let cells := (entries.zip (style.fronts isAligned entries)).map fun (entry, front) =>
    front ++ style.cell entry
  let writeLines (lines : List String) : Task Unit := do
    for line in lines do
      Task.write (line ++ style.ending)
  match style.shape with
  | .lines => writeLines cells
  | .long => writeLines (style.longLines now entries)
  | .commas => Task.write (style.commaText cells)
  | .down | .across => writeLines (style.columnLines cells)

/-! ## Directories -/

/-- The entries of a directory at a path that are not left out. -/
def entriesOf (style : Style) (path : String) : Task (Except OsError (List Entry)) := do
  match ← fileAt path true with
  | .error fault => return .error fault
  | .ok (number, file) =>
    if !isDirectoryKind file.kind then
      return .error .notADirectory
    let names ← Acting.observe fun _ host => host.files.namesIn number
    let own := if style.hidden == .none then [".", ".."] else []
    let mut entries : List Entry := []
    for name in own ++ names do
      if !style.omits name then
        let path := inside path name
        let found ←
          match ← entryAt style.follows path name with
          | .ok entry => pure (.ok entry)
          | .error _ => entryAt false path name
        if let .ok entry := found then
          entries := entry :: entries
    return .ok entries.reverse

/-- Lists directories, the first one of which may be the first thing that is printed. The fuel bounds
their number. -/
def listDirectories (style : Style) (named : Bool) : Nat → Bool → List String → Task Unit
  | 0, _, _ => return ()
  | _, _, [] => return ()
  | fuel + 1, isFirst, path :: rest => do
    match ← entriesOf style path with
    | .error fault =>
      Task.warn ("cannot open directory " ++ Quoted.always path ++ ": " ++ fault.wording)
      Task.setStatus 2
      listDirectories style named fuel isFirst rest
    | .ok entries =>
      let isNamed := named || style.recursive
      if isNamed then
        Task.write ((if isFirst then "" else "\n") ++ style.quoted path ++ ":\n")
      let entries := style.sort entries
      if style.shape == .long || style.sizes then
        let total := (entries.map Entry.blocks).foldl (· + ·) 0
        Task.write ("total " ++ style.blocksText total ++ style.ending)
      print style entries
      let deeper :=
        if !style.recursive then []
        else
          (entries.filter fun entry => isDirectoryKind entry.file.kind &&
            entry.name != "." && entry.name != "..").map fun entry => inside path entry.name
      listDirectories style true fuel (isFirst && !isNamed) (deeper ++ rest)

/-! ## The program -/

/-- The options. -/
def table : OptionTable :=
  ofLists "abcdfghiklmnopqrstuvw:xABCDFGHI:LNQRST:UXZ1"
    (flags [("all", "a"), ("escape", "b"), ("directory", "d"), ("dired", "D"),
      ("full-time", "full-time"), ("group-directories-first", "directories-first"),
      ("human-readable", "h"), ("inode", "i"), ("kibibytes", "k"), ("numeric-uid-gid", "n"),
      ("no-group", "G"), ("hide-control-chars", "q"), ("reverse", "r"), ("size", "s"),
      ("almost-all", "A"), ("ignore-backups", "B"), ("file-type", "file-type"), ("si", "si"),
      ("dereference-command-line", "H"),
      ("dereference-command-line-symlink-to-dir", "dereference-directories"),
      ("dereference", "L"), ("literal", "N"), ("quote-name", "Q"), ("recursive", "R"),
      ("show-control-chars", "show-control-chars"), ("zero", "zero"), ("context", "Z"),
      ("author", "author")] ++
      valued [("width", "w"), ("hide", "hide"), ("indicator-style", "indicator-style"),
        ("ignore", "I"), ("quoting-style", "quoting-style"), ("format", "format"),
        ("sort", "sort"), ("tabsize", "T"), ("time", "time"), ("time-style", "time-style"),
        ("block-size", "block-size")] ++
      [{ name := "classify", arity := .optional, key := "F" },
        { name := "color", arity := .optional, key := "color" },
        { name := "hyperlink", arity := .optional, key := "hyperlink" }])

/-- The answers to whether something is done. -/
def whether : List (List String) :=
  [["always", "yes", "force"], ["never", "no", "none"], ["auto", "tty", "if-tty"]]

/-- A number that an option gives. -/
def numberOf (what text : String) : Task Nat := do
  match Text.natural? text.toList with
  | some number => return number
  | none => Task.fail ("invalid " ++ what ++ ": " ++ Quoted.plain text)

/-- The style after one more option. -/
def withOption (style : Style) (key : String) (value : Option String) : Task Style := do
  let text := value.getD ""
  match key with
  | "a" => return { style with hidden := .none }
  | "A" => return { style with hidden := .own }
  | "f" => return { style with
      hidden := .none, order := "none", shape := if style.shape == .long then .lines else style.shape
      sizes := false }
  | "b" => return { style with quotation := .escape }
  | "Q" => return { style with quotation := .doubleQuotes }
  | "N" => return { style with quotation := .literal }
  | "quoting-style" =>
    let word ← Task.choose "--quoting-style"
      [["literal"], ["shell"], ["shell-always"], ["shell-escape"], ["shell-escape-always"], ["c"],
        ["c-maybe"], ["escape"], ["locale"], ["clocale"]] text
    let quotation : Quotation :=
      match word with
      | "literal" => .literal
      | "shell" | "shell-escape" => .shell
      | "shell-always" | "shell-escape-always" => .shellAlways
      | "escape" => .escape
      | "locale" => .singleQuotes
      | _ => .doubleQuotes
    return { style with quotation := quotation }
  | "d" => return { style with isFlat := true }
  | "R" => return { style with recursive := true }
  | "L" => return { style with follows := true, followsArguments := false }
  | "H" => return { style with followsArguments := true, follows := false }
  | "i" => return { style with numbers := true }
  | "s" => return { style with sizes := true }
  | "r" => return { style with reversed := true }
  | "h" => return { style with units := some 1024 }
  | "si" => return { style with units := some 1000 }
  | "k" => return { style with units := none }
  | "q" => return { style with questions := true }
  | "show-control-chars" => return { style with questions := false }
  | "l" => return { style with shape := .long }
  | "n" => return { style with shape := .long, numeric := true }
  | "g" => return { style with shape := .long, owner := false }
  | "o" => return { style with shape := .long, group := false }
  | "G" => return { style with group := false }
  | "full-time" => return { style with shape := .long, timeStyle := "full-iso" }
  | "m" => return { style with shape := .commas }
  | "C" => return { style with shape := .down }
  | "x" => return { style with shape := .across }
  | "1" => return if style.shape == .long then style else { style with shape := .lines }
  | "zero" => return { style with
      ending := "\x00", quotation := .literal
      shape := if style.shape == .long then .long else .lines }
  | "format" =>
    let word ← Task.choose "--format"
      [["verbose", "long"], ["commas"], ["horizontal", "across"], ["vertical"], ["single-column"]]
      text
    let shape : Shape :=
      match word with
      | "verbose" => .long
      | "commas" => .commas
      | "horizontal" => .across
      | "vertical" => .down
      | _ => .lines
    return { style with shape := shape }
  | "t" => return { style with order := "time" }
  | "S" => return { style with order := "size" }
  | "X" => return { style with order := "extension" }
  | "U" => return { style with order := "none" }
  | "v" => return { style with order := "version" }
  | "sort" =>
    let word ← Task.choose "--sort"
      [["none"], ["time"], ["size"], ["extension"], ["version"], ["width"]] text
    return { style with order := word }
  | "time" =>
    let _ ← Task.choose "--time"
      [["atime", "access", "use"], ["ctime", "status"], ["mtime", "modification"],
        ["birth", "creation"]] text
    return style
  | "p" => return { style with marking := .directories }
  | "file-type" => return { style with marking := .kinds }
  | "F" =>
    let word ← if value.isNone then pure "always" else Task.choose "--classify" whether text
    return if word == "always" then { style with marking := .all } else style
  | "color" =>
    let _ ← if value.isNone then pure "always" else Task.choose "--color" whether text
    return style
  | "hyperlink" =>
    let _ ← if value.isNone then pure "always" else Task.choose "--hyperlink" whether text
    return style
  | "indicator-style" =>
    let word ← Task.choose "--indicator-style" [["none"], ["slash"], ["file-type"], ["classify"]] text
    let marking : Marking :=
      match word with
      | "none" => .none
      | "slash" => .directories
      | "file-type" => .kinds
      | _ => .all
    return { style with marking := marking }
  | "w" => return { style with width := ← numberOf "line width" text }
  | "T" => return { style with tab := ← numberOf "tab size" text }
  | "I" => return { style with ignored := text :: style.ignored }
  | "B" => return { style with ignored := "*~" :: ".*~" :: style.ignored }
  | "hide" => return { style with hidePatterns := text :: style.hidePatterns }
  | "directories-first" => return { style with directoriesFirst := true }
  | "time-style" => return { style with timeStyle := text }
  | "block-size" =>
    match Quantity.read "EgGkKmMPQRtTYZ0" text with
    | .ok _ => return style
    | .error _ =>
      Task.fail ("invalid --block-size argument " ++ Quoted.plain text)
  | _ => return style

/-- Lists files and directories. -/
def list (arguments : List String) : Task Unit := do
  modify fun state => { state with failure := 2 }
  let given ← Task.options table arguments
  let style ← given.options.foldlM (fun style (key, value) => withOption style key value)
    ({} : Style)
  let style :=
    if given.has "t" || given.has "l" || style.order != "name" then style
    else if given.has "c" || given.has "u" then { style with order := "time" }
    else style
  let style := if style.isFlat then { style with recursive := false } else style
  let operands := if given.operands.isEmpty then ["."] else given.operands
  let mut entries : List Entry := []
  for path in operands do
    match ← argumentAt style path with
    | .ok entry => entries := entry :: entries
    | .error fault =>
      Task.err ("cannot access " ++ Quoted.always path ++ ": " ++ fault.wording)
  let sorted := style.sort entries.reverse
  let isListed (entry : Entry) : Bool := !style.isFlat && isDirectoryKind entry.file.kind
  let files := sorted.filter (!isListed ·)
  let directories := sorted.filter isListed
  if !files.isEmpty then
    print style files
    if !directories.isEmpty then
      Task.write "\n"
  let named := !files.isEmpty || 1 < operands.length
  listDirectories style named depthLimit true (directories.map Entry.name)

end Runbook.Machine.Program.Listing
