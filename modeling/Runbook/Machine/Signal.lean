/-!
# Signals

The numbers and names of signals, what they do to a process that does not care, and the report on a
process that one of them ended.
-/

namespace Runbook.Machine

/-- The names of the ordinary signals, from number 1 on, with the report on a process that one of
them ended. A signal without a name is shown by its number. -/
def ordinarySignals : List (String × String) :=
  [("HUP", "Hangup"), ("INT", "Interrupt"), ("QUIT", "Quit"), ("ILL", "Illegal instruction"),
    ("TRAP", "Trace/breakpoint trap"), ("ABRT", "Aborted"), ("BUS", "Bus error"),
    ("FPE", "Floating point exception"), ("KILL", "Killed"), ("USR1", "User defined signal 1"),
    ("SEGV", "Segmentation fault"), ("USR2", "User defined signal 2"), ("PIPE", "Broken pipe"),
    ("ALRM", "Alarm clock"), ("TERM", "Terminated"), ("16", "Stack fault"),
    ("CHLD", "Child exited"), ("CONT", "Continued"), ("STOP", "Stopped (signal)"),
    ("TSTP", "Stopped"), ("TTIN", "Stopped (tty input)"), ("TTOU", "Stopped (tty output)"),
    ("URG", "Urgent I/O condition"), ("XCPU", "CPU time limit exceeded"),
    ("XFSZ", "File size limit exceeded"), ("VTALRM", "Virtual timer expired"),
    ("PROF", "Profiling timer expired"), ("WINCH", "Window changed"), ("IO", "I/O possible"),
    ("PWR", "Power failure"), ("SYS", "Bad system call")]

/-- The first and the last of the signals that programs may give a meaning of their own. -/
def realTimeFirst : Nat := 34

/-- The signal with the greatest number. -/
def signalLast : Nat := 64

/-- The name of a signal without the letters in front of it. -/
def signalName (number : Nat) : String :=
  if number = 0 then "0"
  else
    match ordinarySignals[number - 1]? with
    | some (name, _) => name
    | none =>
      if number < realTimeFirst then toString number
      else if number = realTimeFirst then "RTMIN"
      else if number = signalLast then "RTMAX"
      else if number < 50 then "RTMIN+" ++ toString (number - realTimeFirst)
      else "RTMAX-" ++ toString (signalLast - number)

/-- The report on a process that a signal ended. -/
def signalReport (number : Nat) : String :=
  match ordinarySignals[number - 1]? with
  | some (_, report) => report
  | none => "Real-time signal " ++ toString (number - realTimeFirst)

/-- The number of a signal with a name that stands behind the letters for signals. -/
def signalNamed? (name : String) : Option Nat :=
  (List.range (signalLast + 1)).find? fun number =>
    number != 0 && (signalName number).toLower == name.toLower

/-- What a signal does to a process that has made no arrangement for it. -/
inductive SignalEffect where
  | ends
  | stops
  | continues
  | nothing
  deriving Repr, DecidableEq

/-- The effect of a signal. -/
def signalEffect (number : Nat) : SignalEffect :=
  if number = 18 then .continues
  else if number = 0 || number = 17 || number = 23 || number = 28 then .nothing
  else if 19 ≤ number && number ≤ 22 then .stops
  else .ends

/-- The numbers of the signals that are spoken of. -/
def signalChild : Nat := 17

/-- The signal that nothing withstands. -/
def signalKill : Nat := 9

/-- The signal for writing where nobody reads. -/
def signalPipe : Nat := 13

/-- The signal that asks a process to end. -/
def signalTerminate : Nat := 15

/-- The signal that stops a process at any rate. -/
def signalStop : Nat := 19

/-- The status that stands for the end by a signal. -/
def signalStatus (number : Nat) : Nat := 128 + number

end Runbook.Machine
