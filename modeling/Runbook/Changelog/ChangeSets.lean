import Runbook.ChangeSet
import Runbook.Changelog.Basic
import Runbook.Path

/-!
# The change sets of a changelog

Declared entries become change sets: the list of operating systems is split up, and the paths of
files are taken to be relative to a base directory.
-/

namespace Runbook

/-- The command that an entry declares. -/
def CommandEntry.toCommand (entry : CommandEntry) : Command where
  executable := entry.executable.getD ""
  args := entry.args
  os := entry.os.bind OsFilter.ofText
  timeout := entry.timeout

/-- The change set that an entry declares. -/
def ChangeSetEntry.toChangeSet (entry : ChangeSetEntry) (base : String) : ChangeSet where
  id := entry.id
  author := entry.author
  comment := entry.comment
  files := entry.files.map (Path.join base)
  command := entry.command.map CommandEntry.toCommand

/-- The change sets of a changelog, in the order of declaration. -/
def Changelog.changeSets (changelog : Changelog) (base : String) : List ChangeSet :=
  changelog.entries.map fun entry => entry.toChangeSet base

end Runbook
