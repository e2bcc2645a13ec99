import PipeShell.Errno

/-!
# Failures while a line runs

A process that runs a part of a line and meets an `ExecError` reports it and ends.
-/

namespace PipeShell

/-- Why a part of a line cannot be run. -/
inductive ExecError
  | openFailed (file : Bytes) (cause : Errno)
  | bindFailed (cause : Errno)
  | pipeFailed (cause : Errno)
  | execFailed (program : Bytes) (cause : Errno)
  | forkFailed (cause : Errno)
  | waitFailed (cause : Errno)
deriving DecidableEq, Repr

namespace ExecError

/-- The error of the system call that failed. -/
def cause : ExecError → Errno
  | openFailed _ e | bindFailed e | pipeFailed e | execFailed _ e | forkFailed e | waitFailed e => e

/-- What could not be done. -/
def subject : ExecError → Bytes
  | openFailed file _ => Bytes.ofString "could not open file " ++ Utf8.scrub file
  | bindFailed _ => Bytes.ofString "failed to bind files"
  | pipeFailed _ => Bytes.ofString "failed to establish pipe"
  | execFailed program _ => Bytes.ofString "could not execute " ++ Utf8.scrub program
  | forkFailed _ => Bytes.ofString "fork failed"
  | waitFailed _ => Bytes.ofString "wait failed"

/-- The text that reports the error. -/
def message (e : ExecError) : Bytes :=
  e.subject ++ Bytes.ofString (": " ++ e.cause.message)

end ExecError

end PipeShell
