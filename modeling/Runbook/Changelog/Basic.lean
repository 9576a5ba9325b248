import Runbook.Encoding
import Runbook.Mode

/-!
# Declared changelogs

A changelog as its author wrote it, with every absent key at its default. Nothing here has been
checked yet.
-/

namespace Runbook

/-- The settings of a changelog. -/
structure Settings where
  encoding : OutputEncoding := .utf8
  mode : ExecutionMode := .live
  deriving Repr, DecidableEq

/-- A command as declared. -/
structure CommandEntry where
  executable : Option String := none
  args : List String := []
  os : Option String := none
  timeout : Option String := none
  deriving Repr, DecidableEq

/-- A change set as declared. -/
structure ChangeSetEntry where
  id : String := ""
  author : String := ""
  comment : Option String := none
  files : List String := []
  command : Option CommandEntry := none
  deriving Repr, DecidableEq

/-- A changelog as declared. -/
structure Changelog where
  settings : Settings := {}
  entries : List ChangeSetEntry := []
  deriving Repr, DecidableEq

end Runbook
