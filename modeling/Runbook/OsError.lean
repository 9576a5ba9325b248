/-!
# Errors of the operating system

The ways in which opening, reading or starting something can fail, with the wording that messages
show.
-/

namespace Runbook

/-- Why the operating system, or the check in front of a system call, refused a request. -/
inductive OsError where
  | notPermitted
  | notFound
  | noSuchProcess
  | interrupted
  | noSuchDevice
  | argumentListTooLong
  | notExecutable
  | badDescriptor
  | noChild
  | permissionDenied
  | busy
  | alreadyExists
  | crossDevice
  | notADirectory
  | isADirectory
  | invalidArgument
  | noSpace
  | illegalSeek
  | brokenPipe
  | nameTooLong
  | notEmpty
  | tooManyLinks
  | nulInPath
  | nulInArgument
  | notUtf8
  | other (text : String)
  deriving Repr, DecidableEq

namespace OsError

/-- What went wrong, with the number of the error unless it comes from a check in front of a system
call. -/
def description : OsError → String × Option Nat
  | .notPermitted => ("Operation not permitted", some 1)
  | .notFound => ("No such file or directory", some 2)
  | .noSuchProcess => ("No such process", some 3)
  | .interrupted => ("Interrupted system call", some 4)
  | .noSuchDevice => ("No such device or address", some 6)
  | .argumentListTooLong => ("Argument list too long", some 7)
  | .notExecutable => ("Exec format error", some 8)
  | .badDescriptor => ("Bad file descriptor", some 9)
  | .noChild => ("No child processes", some 10)
  | .permissionDenied => ("Permission denied", some 13)
  | .busy => ("Device or resource busy", some 16)
  | .alreadyExists => ("File exists", some 17)
  | .crossDevice => ("Invalid cross-device link", some 18)
  | .notADirectory => ("Not a directory", some 20)
  | .isADirectory => ("Is a directory", some 21)
  | .invalidArgument => ("Invalid argument", some 22)
  | .noSpace => ("No space left on device", some 28)
  | .illegalSeek => ("Illegal seek", some 29)
  | .brokenPipe => ("Broken pipe", some 32)
  | .nameTooLong => ("File name too long", some 36)
  | .notEmpty => ("Directory not empty", some 39)
  | .tooManyLinks => ("Too many levels of symbolic links", some 40)
  | .nulInPath => ("file name contained an unexpected NUL byte", none)
  | .nulInArgument => ("nul byte found in provided data", none)
  | .notUtf8 => ("stream did not contain valid UTF-8", none)
  | .other text => (text, none)

/-- What went wrong, without a number. -/
def wording (fault : OsError) : String :=
  fault.description.1

/-- The wording of an error, with its number. -/
def message (fault : OsError) : String :=
  match fault.description with
  | (text, some number) => text ++ " (os error " ++ toString number ++ ")"
  | (text, none) => text

end OsError

end Runbook
