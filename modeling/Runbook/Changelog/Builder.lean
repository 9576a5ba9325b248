import Runbook.Changelog.Validation

/-!
# Building changelogs

Changelogs can be put together step by step instead of being read. Scalar settings are replaced by
the latest step, lists grow at the end, and `Changelog.build` insists on a changelog without
problems.
-/

namespace Runbook

namespace CommandEntry

/-- A command with an executable and nothing else. -/
def running (executable : String) : CommandEntry :=
  { executable := some executable }

/-- A command that lacks its executable. -/
def withoutExecutable : CommandEntry := {}

/-- The command with one more argument. -/
def arg (entry : CommandEntry) (value : String) : CommandEntry :=
  { entry with args := entry.args ++ [value] }

/-- The command limited to a list of operating systems. -/
def onOs (entry : CommandEntry) (names : String) : CommandEntry :=
  { entry with os := some names }

/-- The command with a timeout. -/
def within (entry : CommandEntry) (timeout : String) : CommandEntry :=
  { entry with timeout := some timeout }

end CommandEntry

namespace ChangeSetEntry

/-- A change set with an identity and nothing else. -/
def identified (id author : String) : ChangeSetEntry :=
  { id := id, author := author }

/-- The change set with a comment. -/
def commented (entry : ChangeSetEntry) (comment : String) : ChangeSetEntry :=
  { entry with comment := some comment }

/-- The change set with one more file. -/
def file (entry : ChangeSetEntry) (path : String) : ChangeSetEntry :=
  { entry with files := entry.files ++ [path] }

/-- The change set with a command. -/
def executing (entry : ChangeSetEntry) (command : CommandEntry) : ChangeSetEntry :=
  { entry with command := some command }

end ChangeSetEntry

namespace Changelog

/-- The changelog with one more change set. -/
def changeSet (changelog : Changelog) (entry : ChangeSetEntry) : Changelog :=
  { changelog with entries := changelog.entries ++ [entry] }

/-- The changelog in another mode. -/
def inMode (changelog : Changelog) (mode : ExecutionMode) : Changelog :=
  { changelog with settings := { changelog.settings with mode := mode } }

/-- The changelog with another output encoding. -/
def encoded (changelog : Changelog) (encoding : OutputEncoding) : Changelog :=
  { changelog with settings := { changelog.settings with encoding := encoding } }

/-- The complaint of a build that comes to a changelog with problems. -/
def buildComplaint (problems : Problems) : String :=
  "Failed to build valid changelog from builder: Validation(ValidationErrors \x7b errors: " ++
    Text.quoteList problems.messages ++ " \x7d)"

/-- The accepted changelog, or the complaint. -/
def build (changelog : Changelog) : Except String Accepted :=
  if sound : changelog.problems.messages = [] then
    .ok ⟨changelog, sound⟩
  else
    .error (buildComplaint changelog.problems)

end Changelog

end Runbook
