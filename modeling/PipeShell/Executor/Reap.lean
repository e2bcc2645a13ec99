import PipeShell.Executor.Error
import PipeShell.Machine.Basic

/-!
# Reaping

A process that waits for a child keeps waiting until the child has ended, whatever interrupts it
meanwhile, and turns the end into one number: the exit code, or 128 and the number of the signal
that killed the child. Signals without a name (those above 31) cannot be told apart, and waiting
then fails although the child is gone.
-/

namespace PipeShell

namespace Reap

/-- The name of a signal, for the signals that have one. -/
def signalName? (signal : Nat) : Option String :=
  ["SIGHUP", "SIGINT", "SIGQUIT", "SIGILL", "SIGTRAP", "SIGABRT", "SIGBUS", "SIGFPE", "SIGKILL",
   "SIGUSR1", "SIGSEGV", "SIGUSR2", "SIGPIPE", "SIGALRM", "SIGTERM", "SIGSTKFLT", "SIGCHLD",
   "SIGCONT", "SIGSTOP", "SIGTSTP", "SIGTTIN", "SIGTTOU", "SIGURG", "SIGXCPU", "SIGXFSZ",
   "SIGVTALRM", "SIGPROF", "SIGWINCH", "SIGIO", "SIGPWR", "SIGSYS"][signal - 1]?.filter
     fun _ => signal != 0

/-- The number for the end of a process. -/
def code (status : ExitStatus) : Except ExecError Nat :=
  match status with
  | .exited code => .ok code
  | .signaled signal =>
    match signalName? signal with
    | some _ => .ok (128 + signal)
    | none => .error (.waitFailed .invalid)

/-- What one answer to waiting decides; `none` means to wait again. -/
def verdict? : WaitReply → Option (Except ExecError Nat)
  | .ended status => some (code status)
  | .failed e => some (.error (.waitFailed e))
  | .changed | .interrupted => none

/-- The journal's words for a child whose end could be told. -/
def record? (child : Pid) : WaitReply → Option Bytes
  | .ended (.exited code) =>
    some (Bytes.ofString
      ("回收子进程 " ++ toString (Pid.number child) ++ ", code=" ++ toString code))
  | .ended (.signaled signal) =>
    (signalName? signal).map fun name =>
      Bytes.ofString ("回收子进程 " ++ toString (Pid.number child) ++ ", signal=" ++ name)
  | _ => none

end Reap

end PipeShell
