import Runbook.Machine.Shell.Memory

/-!
# Fields

What an expansion yields is a row of cells, of which some parts may be divided into fields. The
octets that divide are given by a variable. Blanks among them count as one together, and those at
the ends do not count at all.
-/

namespace Runbook.Machine.Shell

/-- A cell of an expanded word. -/
inductive Cell where
  | plain (c : Char)
  /-- A character without any meaning of its own. -/
  | escaped (c : Char)
  /-- The beginning or the end of a quotation. -/
  | mark
  deriving Repr, DecidableEq

/-- The character of a cell. -/
def Cell.char? : Cell → Option Char
  | .plain c | .escaped c => some c
  | .mark => none

/-- The text of cells. -/
def textOf (cells : List Cell) : String :=
  String.ofList (cells.filterMap Cell.char?)

/-- The pattern that cells make. A backslash that is not escaped itself takes away the meaning of
the next character. -/
def patternOf : Bool → List Cell → List Char
  | _, [] => []
  | afterBackslash, .mark :: rest => patternOf afterBackslash rest
  | afterBackslash, .plain c :: rest => c :: patternOf (c == '\\' && !afterBackslash) rest
  | afterBackslash, .escaped c :: rest =>
    if afterBackslash then c :: patternOf false rest else '\\' :: c :: patternOf false rest

/-- A part of a row of cells that may be divided. -/
structure Region where
  first : Nat
  last : Nat
  /-- Whether it is divided between parameters only. -/
  isQuoted : Bool := false
  deriving Repr, DecidableEq

/-- The character that stands between parameters. -/
def parameterEnd : Char := '\x00'

/-- Blanks in the sense of division, and the end of a parameter. -/
def isFieldBlank (c : Char) : Bool :=
  c == ' ' || c == '\t' || c == '\n' || c == parameterEnd

namespace Division

/-- The state of a division. -/
structure Progress where
  /-- Where the current field starts. -/
  start : Nat := 0
  /-- Whether the last field was ended by a blank, so that another character may still end it. -/
  afterBlank : Bool := false
  /-- Where the last field ends, if not at the end of everything. -/
  cut : Option Nat := none
  /-- How many fields may still be cut off, if that is limited. -/
  left : Option Nat
  fields : List (Nat × Nat) := []
  /-- Whether the last region was divided between parameters only. -/
  isQuoted : Bool := false

/-- The progress with the character of a cell. -/
def step (separators : List Char) (region : Region) (afterQuoted : Bool) (progress : Progress)
    (index : Nat) (cell : Cell) : Progress :=
  let c := (cell.char?).getD '\x01'
  let separates := c == parameterEnd || (!region.isQuoted && separators.contains c)
  let separates := separates && cell != .mark
  let isBlank := separates && isFieldBlank c
  if progress.left = some 0 then
    if isBlank then
      { progress with cut := some (progress.cut.getD index) }
    else
      { progress with
        cut := if separates && progress.afterBlank then progress.cut else none
        afterBlank := false }
  else
    let continued := progress.afterBlank
    let start :=
      if !continued then progress.start else if separates then index + 1 else index
    let progress := { progress with start := start }
    if continued && isBlank then
      progress
    else
      let separates := separates && !continued
      if separates then
        let afterBlank := if afterQuoted || region.isQuoted then false else isBlank
        if index = start && afterBlank then
          { progress with start := index + 1, afterBlank := false }
        else if progress.left = some 1 then
          { progress with left := some 0, cut := some index, afterBlank := afterBlank }
        else
          { progress with
            left := progress.left.map (· - 1)
            fields := (start, index) :: progress.fields
            start := index + 1
            afterBlank := afterBlank }
      else
        { progress with afterBlank := false }

/-- The progress with the cells of a region, from an index on. -/
def overCells (separators : List Char) (region : Region) (afterQuoted : Bool) :
    Nat → List Cell → Progress → Progress
  | _, [], progress => progress
  | index, cell :: rest, progress =>
    overCells separators region afterQuoted (index + 1) rest
      (step separators region afterQuoted progress index cell)

/-- The progress with all regions. -/
def overRegions (separators : List Char) (cells : Array Cell) :
    List Region → Progress → Progress
  | [], progress => progress
  | region :: rest, progress =>
    let afterQuoted := progress.isQuoted
    let progress := { progress with afterBlank := false, isQuoted := region.isQuoted }
    overRegions separators cells rest
      (overCells separators region afterQuoted region.first
        (cells.extract region.first region.last).toList progress)

end Division

/-- The fields of a row of cells. With a limit, the last field holds everything that is left. -/
def fieldsOf (separators : List Char) (limit : Option Nat) (cells : Array Cell)
    (regions : List Region) : List (List Cell) :=
  let progress := Division.overRegions separators cells regions { left := limit }
  let field (first last : Nat) : List Cell := (cells.extract first last).toList
  let found := progress.fields.reverse.map fun (first, last) => field first last
  if progress.isQuoted then
    found ++ [field progress.start cells.size]
  else
    let last := field progress.start (progress.cut.getD cells.size)
    if last.isEmpty then found else found ++ [last]

end Runbook.Machine.Shell
