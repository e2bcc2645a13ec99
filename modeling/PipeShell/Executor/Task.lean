import PipeShell.Executor.Control

/-!
# Tasks

The processes of the shell's machine are of three kinds: those that run a part of a line, the
programs that they became, and those that are moved from outside, such as the shell itself. How
programs behave is a parameter (`Userland`): any state space with any actions will do.
-/

namespace PipeShell

/-- The programs that can be started, and how they behave. -/
structure Userland where
  State : Type
  action : State → Action State
  start : Image → State

/-- What a process is about. -/
inductive Task (σ : Type)
  /-- Moved from outside. -/
  | attended
  | executing (c : Control)
  | program (state : σ)
deriving Repr

/-- How tasks behave among the programs of `U`, for a shell that is run by `ex`. -/
def Task.dynamics (U : Userland) (ex : Executor) : Dynamics (Task U.State) where
  action
    | .attended => .rest
    | .executing c => (c.action ex).map .executing
    | .program state => (U.action state).map .program
  start image := .program (U.start image)

end PipeShell
