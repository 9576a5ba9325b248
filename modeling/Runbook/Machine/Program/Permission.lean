import Runbook.Text.Number

/-!
# Permissions in arguments

Permission bits are given as an octal number, or as changes: whose permissions are meant, whether
they are added, taken away or set, and which they are.
-/

namespace Runbook.Machine

/-- Which permissions a change is about. -/
inductive Permitted where
  | bits (bits : Nat)
  /-- Execution, but only where somebody may execute already. -/
  | bitsOrSearch (bits : Nat)
  /-- Whatever one kind of owner has. -/
  | copied (bits : Nat)
  deriving Repr, DecidableEq

/-- A change of permission bits. -/
structure PermissionChange where
  operator : Char
  /-- The bits of the owners that are named, or none if nobody is. -/
  affected : Nat
  permitted : Permitted
  /-- The bits that are named. -/
  mentioned : Nat
  deriving Repr, DecidableEq

namespace PermissionChange

/-- All permission bits. -/
def all : Nat := 0xFFF

/-- The bits for a change of whoever executes a file. -/
def setIds : Nat := 0xC00

/-- The bits for execution. -/
def execution : Nat := 0x49

/-- The bits of an owner. -/
def ownerBits? : Char → Option Nat
  | 'u' => some 0x9C0
  | 'g' => some 0x438
  | 'o' => some 0x207
  | 'a' => some all
  | _ => none

/-- The bits of a permission for everybody. -/
def permissionBits? : Char → Option Nat
  | 'r' => some 0x124
  | 'w' => some 0x92
  | 'x' | 'X' => some execution
  | 's' => some setIds
  | 't' => some 0x200
  | _ => none

/-- The changes behind the owners, up to a comma. The fuel bounds their number. -/
def operations (affected : Nat) : Nat → List Char → Option (List PermissionChange × List Char)
  | 0, _ => none
  | fuel + 1, cs => do
    match cs with
    | operator :: rest =>
      if !(operator == '+' || operator == '-' || operator == '=') then
        none
      let (permitted, value, rest) ←
        match rest with
        | 'u' :: rest => some (Permitted.copied 0x1C0, 0x1C0, rest)
        | 'g' :: rest => some (Permitted.copied 0x38, 0x38, rest)
        | 'o' :: rest => some (Permitted.copied 0x7, 0x7, rest)
        | _ =>
          let digits := rest.takeWhile Text.isOctalDigit
          if !digits.isEmpty then
            let value := Text.valueIn 8 digits
            if affected != 0 || all < value then none
            else some (Permitted.bits value, value, rest.drop digits.length)
          else
            let letters := rest.takeWhile fun c => (permissionBits? c).isSome
            let plain := (letters.filter (· != 'X')).filterMap permissionBits?
            let value := plain.foldl (· ||| ·) 0
            let permitted :=
              if letters.contains 'X' then Permitted.bitsOrSearch value else .bits value
            some (permitted, value, rest.drop letters.length)
      let change : PermissionChange :=
        { operator := operator
          affected := affected
          permitted := permitted
          mentioned := if affected = 0 then value else affected &&& value }
      match rest with
      | [] | ',' :: _ => some ([change], rest)
      | _ =>
        let (others, rest) ← operations affected fuel rest
        some (change :: others, rest)
    | [] => none

/-- The changes that letters and signs describe. The fuel bounds the number of commas. -/
def clauses : Nat → List Char → Option (List PermissionChange)
  | 0, _ => none
  | fuel + 1, cs => do
    let owners := cs.takeWhile fun c => (ownerBits? c).isSome
    let affected := (owners.filterMap ownerBits?).foldl (· ||| ·) 0
    let (changes, rest) ← operations affected (cs.length + 1) (cs.drop owners.length)
    match rest with
    | ',' :: rest => return changes ++ (← clauses fuel rest)
    | _ => return changes

/-- The changes that a text describes. -/
def read? (text : String) : Option (List PermissionChange) :=
  let cs := text.toList
  if (cs.head?.map Text.isOctalDigit) == some true then
    let value := Text.valueIn 8 cs
    if !cs.all Text.isOctalDigit || all < value then none
    else
      some
        [{ operator := '='
           affected := all
           permitted := .bits value
           mentioned := if cs.length < 5 then (value &&& setIds) ||| 0x3FF else all }]
  else
    clauses (cs.length + 1) cs

/-- Permission bits after a change. -/
def apply (isDirectory : Bool) (mask bits : Nat) (change : PermissionChange) : Nat :=
  let omitted := (if isDirectory then setIds else 0) &&& (all ^^^ change.mentioned)
  let value :=
    match change.permitted with
    | .bits value => value
    | .bitsOrSearch value =>
      if bits &&& execution != 0 || isDirectory then value ||| execution else value
    | .copied owner =>
      let had := bits &&& owner
      let spread (sample : Nat) : Nat := if had &&& sample != 0 then sample else 0
      spread 0x124 ||| spread 0x92 ||| spread execution
  let reach := if change.affected = 0 then all ^^^ mask else change.affected
  let value := value &&& reach &&& (all ^^^ omitted)
  match change.operator with
  | '=' =>
    let kept := (if change.affected = 0 then 0 else all ^^^ change.affected) ||| omitted
    (bits &&& kept) ||| value
  | '+' => bits ||| value
  | _ => bits &&& (all ^^^ value)

/-- Permission bits after changes. -/
def applyAll (isDirectory : Bool) (mask : Nat) (changes : List PermissionChange) (bits : Nat) : Nat :=
  changes.foldl (apply isDirectory mask) (bits &&& all)

end PermissionChange

/-- Permission bits in letters. -/
def permissionText (bits : Nat) : String :=
  let triple (shift special : Nat) (both alone : Char) : List Char :=
    let own := bits >>> shift
    [if own &&& 4 != 0 then 'r' else '-', if own &&& 2 != 0 then 'w' else '-',
      if bits &&& special != 0 then (if own &&& 1 != 0 then both else alone)
      else if own &&& 1 != 0 then 'x' else '-']
  String.ofList (triple 6 0x800 's' 'S' ++ triple 3 0x400 's' 'S' ++ triple 0 0x200 't' 'T')

end Runbook.Machine
