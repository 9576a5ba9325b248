import Runbook.Machine.Program.Columns
import Runbook.Machine.Program.Editing
import Runbook.Machine.Program.Entries
import Runbook.Machine.Program.Evaluation
import Runbook.Machine.Program.Format
import Runbook.Machine.Program.Launching
import Runbook.Machine.Program.Listing
import Runbook.Machine.Program.Reading
import Runbook.Machine.Program.Reshaping
import Runbook.Machine.Program.Script
import Runbook.Machine.Program.Search
import Runbook.Machine.Program.Sequence
import Runbook.Machine.Program.Sorting
import Runbook.Machine.Program.Transfer
import Runbook.Machine.Program.Translate
import Runbook.Machine.Scheduler
import Runbook.Machine.Shell.Start

/-!
# Programs

The programs of a machine by their names.
-/

namespace Runbook.Machine.Program

/-- The programs that do what a task says, given their arguments. -/
def tasks : List (String × (List String → Task Unit)) :=
  [("[", Condition.test true), ("basename", basename), ("cat", cat), ("chgrp", chown),
    ("chmod", chmod), ("chown", chown), ("comm", Sorting.comm), ("cp", Transfer.copy),
    ("cut", Columns.cut), ("dir", Listing.list), ("dirname", dirname), ("echo", Format.echo),
    ("egrep", Search.searchExtended), ("env", env), ("expand", Reshaping.expand),
    ("expr", Expression.expr), ("false", fun _ => Task.leave 1), ("fgrep", Search.searchFixed),
    ("fold", Reshaping.fold), ("grep", Search.search), ("head", head), ("id", identify),
    ("ln", ln), ("ls", Listing.list), ("mkdir", mkdir), ("mv", Transfer.move), ("nice", nice),
    ("nl", Reshaping.number), ("nohup", nohup), ("paste", Columns.paste), ("printenv", printenv),
    ("printf", Format.printf), ("pwd", pwd), ("readlink", readlink), ("realpath", realpath),
    ("rev", Reshaping.reverse), ("rm", rm), ("rmdir", rmdir), ("sed", Editing.edit),
    ("seq", Sequence.sequence), ("sleep", sleep), ("sort", Sorting.sort), ("tac", tac),
    ("tail", tail), ("tee", tee), ("test", Condition.test false), ("timeout", timeout),
    ("touch", touch), ("tr", Translation.translate), ("true", fun _ => return ()),
    ("truncate", truncate), ("tty", tty), ("uname", uname), ("unexpand", Reshaping.unexpand),
    ("uniq", Sorting.uniq), ("wc", wc), ("whoami", whoami), ("yes", yes)]

/-- The names under which the shell is known. -/
def shellNames : List String := ["sh", "dash"]

/-- The names of all programs. -/
def names : List String :=
  shellNames ++ tasks.map Prod.fst

/-- The course of a program with a name. -/
def load : Loader := fun name argv environment =>
  match tasks.lookup name with
  | some task => Task.course (task (argv.drop 1)) argv environment
  | none => Shell.course argv environment

end Runbook.Machine.Program
