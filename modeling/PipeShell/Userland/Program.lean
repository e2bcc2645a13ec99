import PipeShell.Executor.Task
import PipeShell.Machine.Calling

/-!
# Writing programs

A `Routine` is what a program does from some point on: it ends, or makes a request and goes on with
the answer. Programs are written as computations of type `Program α`, which is a routine still
waiting for what follows it. Loops take a bound, since a routine ends on every run.
-/

namespace PipeShell

/-- What a program does from some point on. -/
inductive Routine
  | halt (code : Nat)
  | call (c : Call) (next : c.Reply → Routine)
  | fork (child : Routine) (next : Except Errno Pid → Routine)
  | exec (argv : List Bytes) (refused : Errno → Routine)
  | execFile (path : Bytes) (argv : List Bytes) (refused : Errno → Routine)
  | wait (child : Pid) (next : WaitReply → Routine)
  | poll (child : Pid) (next : Option WaitReply → Routine)
  | kill (target : Nat) (signal : Nat) (next : Except Errno Unit → Routine)

namespace Routine

/-- The first action of a routine. -/
def action : Routine → Action Routine
  | halt code => .halt code
  | call c next => .call c next
  | fork child next => .fork child next
  | exec argv refused => .exec argv refused
  | execFile path argv refused => .execFile path argv refused
  | wait child next => .wait child next
  | poll child next => .poll child next
  | kill target signal next => .kill target signal next

end Routine

/-- A computation of a program that gives an `α`. -/
def Program (α : Type) := (α → Routine) → Routine

namespace Program

instance : Monad Program where
  pure a := fun next => next a
  bind p f := fun next => p fun a => f a next

/-- The whole of a program that gives its exit code. -/
def routine (p : Program Nat) : Routine := p .halt

instance : Calling Program where
  call c := fun next => .call c next

/-! ## Output -/

section Output

variable {m : Type → Type} [Monad m] [Calling m]

/-- Writes to standard output or error; a tool does nothing about a failure. -/
def put (fd : Fd) (message : Bytes) : m Unit := do
  let _ ← Calling.writeAll fd message
  return ()

/-- Writes a line to standard error; a tool does nothing about a failure. -/
def warn (message : Bytes) : m Unit := put Fd.stderr (message ++ [0x0A])

end Output

/-! ## Requests that are no calls -/

/-- Ends the program at once. -/
def exit {α : Type} (code : Nat) : Program α := fun _ => .halt code

/-- Creates a process that runs `child` and ends with its exit code. A program that cannot do so
ends with code 2. -/
def fork (child : Program Nat) : Program Pid := fun next =>
  .fork child.routine fun
    | .ok process => next process
    | .error _ => (warn (Bytes.ofString "sh: 0: Cannot fork") : Program Unit) fun _ => .halt 2

/-- Becomes another program; gives the reason if that is refused. -/
def exec (argv : List Bytes) : Program Errno := fun next => .exec argv next

/-- Becomes the program that a path names; gives the reason if that is refused. -/
def execFile (path : Bytes) (argv : List Bytes) : Program Errno :=
  fun next => .execFile path argv next

/-- Asks whether a child has ended; `none` while it runs. -/
def poll (child : Pid) : Program (Option WaitReply) := fun next => .poll child next

/-- Waits for a child to end. -/
def wait (child : Pid) : Program WaitReply := fun next => .wait child next

/-- Sends a signal to the process that goes by a number. -/
def kill (target : Nat) (signal : Nat) : Program (Except Errno Unit) :=
  fun next => .kill target signal next

/-- Ends a tool that has `out` left to write: the exit code is `code`, or `onFailure` if the output
cannot be written. -/
def finish (tool : Bytes) (out : Bytes) (code onFailure : Nat) : Program Nat := do
  match ← Calling.writeAll Fd.stdout out with
  | .ok () => return code
  | .error e =>
    warn (tool ++ Bytes.ofString (": write error: " ++ e.systemText))
    return onFailure

end Program

end PipeShell
