import PipeShell.Executor.Task
import PipeShell.Machine.Work
import PipeShell.Shell.Request

/-!
# Sessions

A session handles one line after the other. `Session.handle` is what happens to one line: it may
change the directory, it may start a process that runs the line and wait for it, and it leaves a
status. The shell's own process opens nothing and is never replaced. It ends in the middle of a line
if it cannot print a message, or cannot create a process.
-/

namespace PipeShell

/-- Whether a session goes on after a line. -/
inductive Flow
  | goOn
  | leave
deriving DecidableEq, Repr

/-- How a session runs processes. -/
structure Runner (U : Userland) where
  executor : Executor
  /-- The path that a text stands for in an environment: a tilde at its start stands for the home
  directory. -/
  expand : Environment → Bytes → Bytes
  /-- Which process moves next. -/
  policy : Machine.Policy (Task U.State)
  /-- The bound on the steps that one line may take. -/
  fuel : Nat

/-- Prints a line to standard error. -/
def Runner.warn {U : Userland} (r : Runner U) (message : Bytes) : Work (Task U.State) Unit :=
  r.executor.console.printLine Fd.stderr message

namespace Session

open Calling (call note)

variable {U : Userland}

/-- The status of a line that is refused. -/
def refusedStatus : Nat := 2

/-- The status of a failure of the shell itself. -/
def failedStatus : Nat := 1

/-! ## Built-in commands -/

/-- The path that stands for the home directory. -/
def homePath : Bytes := [0x7E]

/-- The path that is meant: the home directory for the empty path. -/
def destination (path : Bytes) : Bytes := if path.isEmpty then homePath else path

/-- A path with the home directory filled in. Only a path that is a text is expanded. -/
def expandHome (expand : Environment → Bytes → Bytes) (environment : Environment) (path : Bytes) :
    Bytes :=
  if Utf8.isValid path then expand environment path else path

/-- The directory that a path means. -/
def target (expand : Environment → Bytes → Bytes) (environment : Environment) (path : Bytes) :
    Bytes :=
  expandHome expand environment (destination path)

/-- The complaint about a directory that cannot be entered. -/
def cdComplaint (path : Bytes) (e : Errno) : Bytes :=
  Bytes.ofString "tinysh: cd: cannot change directory to " ++
    Utf8.scrub (destination path) ++ Bytes.ofString (": " ++ e.message)

/-- Goes to a directory; gives the status. -/
def changeDirectory (r : Runner U) (path : Bytes) : Work (Task U.State) Nat := do
  let environment ← call .environment
  let directory := target r.expand environment path
  match ← call (.changeDirectory directory) with
  | .ok () =>
    note .debug (Bytes.ofString "切换目录: " ++ Utf8.scrub directory)
    return 0
  | .error e =>
    r.warn (cdComplaint path e)
    return failedStatus

/-! ## Running a line -/

/-- The journal's words for a line about to be run. -/
def runRecord (t : Command) : Bytes :=
  Bytes.ofString "执行: " ++ t.display ++ Bytes.ofString (" (" ++ toString t.stageCount ++ " 个阶段)")

/-- Waits for a child again and again, at most `fuel` times, until an answer decides what became of
it; gives that answer and what it decides. -/
def ask {κ : Type} (wait : Work κ WaitReply) :
    (fuel : Nat) → Work κ (WaitReply × Except ExecError Nat)
  | 0 => .stuck
  | fuel + 1 => do
    let reply ← wait
    match Reap.verdict? reply with
    | none => ask wait fuel
    | some result => return (reply, result)

/-- Takes the end of a child, once it has ended, as a number. -/
def reap (r : Runner U) (child : Pid) : Work (Task U.State) (Except ExecError Nat) := do
  let (reply, result) ←
    ask (Work.wait (Task.dynamics U r.executor) r.policy r.fuel child) (r.fuel + 1)
  if let some record := Reap.record? child reply then
    note .trace record
  return result

/-- Takes the end of the process that runs a line; gives the status. -/
def conclude (r : Runner U) (child : Pid) : Work (Task U.State) Nat := do
  match ← reap r child with
  | .ok code =>
    note .debug (Bytes.ofString
      ("命令结束, pid=" ++ toString (Pid.number child) ++ " code=" ++ toString code))
    return code
  | .error e =>
    note .error
      (Bytes.ofString ("回收子进程 " ++ toString (Pid.number child) ++ " 失败: ") ++ e.message)
    return failedStatus

/-- Reports a failure and ends the shell. -/
def fail {α : Type} (r : Runner U) (e : ExecError) : Work (Task U.State) α := do
  note .error e.message
  r.executor.console.print Fd.stderr (Control.complaint e)
  note .trace (Control.exitRecord Control.failureCode)
  Work.exit Control.failureCode

/-- Runs a tree in a process of its own; gives the status. -/
def run (r : Runner U) (t : Command) : Work (Task U.State) Nat := do
  note .debug (runRecord t)
  match ← Work.fork (.executing (.run t)) with
  | .ok child =>
    note .trace (Control.forkRecord child)
    conclude r child
  | .error e => fail r (.forkFailed e)

/-! ## Lines -/

/-- The journal's words for a line that is refused. -/
def refusalRecord (e : SyntaxError) (line : Bytes) : Bytes :=
  Bytes.ofString "语法错误: " ++ e.message ++ Bytes.ofString " (" ++
    Text.Quoted.encode (Utf8.scrub line) ++ Bytes.ofString ")"

/-- Does what a line asks for; gives whether the session goes on, and the status. -/
def serve (r : Runner U) (line : Bytes) (status : Nat) :
    Request → Work (Task U.State) (Flow × Nat)
  | .leave => return (.leave, status)
  | .changeDirectory path => do return (.goOn, ← changeDirectory r path)
  | .refused e => do
    note .warn (refusalRecord e line)
    r.warn (Bytes.ofString "tinysh: syntax error: " ++ e.message)
    return (.goOn, refusedStatus)
  | .run t => do
    note .debug (Bytes.ofString "解析结果: " ++ t.dump)
    return (.goOn, ← run r t)

/-- Handles a line in a session whose last status is `status`. -/
def handle (r : Runner U) (line : Bytes) (status : Nat) : Work (Task U.State) (Flow × Nat) :=
  serve r line status (Request.ofLine line)

end Session

end PipeShell
