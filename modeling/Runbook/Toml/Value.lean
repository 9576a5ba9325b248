/-!
# Document values

The tree that a TOML document describes. A table is a list of keys with their values, and its keys
ascend, however they were written.
-/

namespace Runbook.Toml

/-- A value. Floating-point numbers and moments in time keep their spelling. -/
inductive Value where
  | text (value : String)
  | integer (value : Int)
  | float (spelling : String)
  /-- A number that is too large to be held. -/
  | excessive (spelling : String)
  | boolean (value : Bool)
  | moment (spelling : String)
  | array (items : List Value)
  | table (entries : List (String × Value))
  deriving Repr

mutual

/-- Whether a value can be held together with everything in it. -/
def Value.fits : Value → Bool
  | .excessive _ => false
  | .array items => itemsFit items
  | .table entries => entriesFit entries
  | _ => true

/-- Whether all items of an array can be held. -/
def itemsFit : List Value → Bool
  | [] => true
  | item :: rest => item.fits && itemsFit rest

/-- Whether all entries of a table can be held. -/
def entriesFit : List (String × Value) → Bool
  | [] => true
  | (_, value) :: rest => value.fits && entriesFit rest

end

end Runbook.Toml
