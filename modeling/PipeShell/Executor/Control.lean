import PipeShell.Command.Dump
import PipeShell.Executor.Console
import PipeShell.Executor.Reap

/-!
# Running a command tree

A process that runs a part of a line is in a `Control` state, and `Control.action` is what it does
there. It starts in `Control.run t` and never returns: it ends, or is replaced by a program.

* A redirection opens its file on the lowest free descriptor and binds it to standard input or
  output (`Control.bind`, `Control.release`).
* A pipe makes two processes, each of which closes the end that it does not need before it binds the
  other (`Control.forkLeft`, `Control.forkRight`, `Control.leave`). Their parent closes both ends
  and waits for the left one, then for the right one (`Control.closeEnds`, `Control.waitLeft`,
  `Control.waitRight`), and succeeds whatever became of them.
* A process that cannot create another ends the shell as well (`Control.stranded`).
* A failure is written to the journal and to standard error, and ends the process with code 1
  (`Control.complain`, `Control.printing`), or with `Console.alarmCode` if it cannot be written
  (`Control.alarm`).
-/

namespace PipeShell

/-- The descriptor that a redirection binds. -/
def Direction.fd : Direction → Fd
  | input => Fd.stdin
  | output => Fd.stdout

/-- How the file of a redirection is opened. -/
def Direction.flags : Direction → OpenFlags
  | input => .reading
  | output => .writing

/-- The two ends of a pipe in the process that made it. -/
structure PipeEnds where
  readEnd : Fd
  writeEnd : Fd
deriving DecidableEq, Repr

/-- What the processes that run a line know of the shell. -/
structure Executor where
  /-- The permissions for files that redirections create. -/
  redirectMode : Mode
  /-- The process of the shell. -/
  shell : Pid
  console : Console

/-- Where a process that runs a part of a line stands. -/
inductive Control
  /-- At the beginning of a tree. -/
  | run (t : Command)
  /-- About to write a record to the journal. -/
  | noting (level : Level) (message : Bytes) (next : Control)
  /-- About to report a failure on standard error. -/
  | complain (e : ExecError)
  /-- With pieces of the report to be written. -/
  | printing (pieces : List Bytes)
  /-- With pieces to be written of the report that printing failed. -/
  | alarm (pieces : List Bytes)
  /-- After a process could not be created. -/
  | stranded (cause : Errno)
  /-- About to end. -/
  | exit (code : Nat)
  /-- About to become a program. -/
  | launch (argv : List Bytes)
  /-- With a descriptor to be moved to `target`, to go on with `t`. -/
  | bind (fd target : Fd) (t : Command)
  /-- After copying the descriptor to its target, or failing to; it is to be closed. -/
  | release (fd : Fd) (copied : Except Errno Unit) (t : Command)
  /-- With a descriptor to be closed before `kept` is moved to `target`. -/
  | leave (unneeded kept target : Fd) (t : Command)
  /-- With a new pipe, before the left side is started. -/
  | forkLeft (ends : PipeEnds) (left right : Command)
  /-- Before the right side is started. -/
  | forkRight (ends : PipeEnds) (left : Pid) (right : Command)
  /-- With both sides started and the ends of the pipe to be closed. -/
  | closeEnds (ends : List Fd) (left right : Pid)
  | waitLeft (left right : Pid)
  | waitRight (leftCode : Option Nat) (right : Pid)
  /-- With both sides ended. -/
  | connected (leftCode rightCode : Option Nat)
deriving Repr

namespace Control

/-! ## Ending -/

/-- The journal's words for the end of a process. -/
def exitRecord (code : Nat) : Bytes := Bytes.ofString ("进程退出, code=" ++ toString code)

/-- Ends the process. -/
def terminate (code : Nat) : Control := noting .trace (exitRecord code) (exit code)

/-- The exit code of a process that failed. -/
def failureCode : Nat := 1

/-- Reports a failure and ends the process. -/
def fail (e : ExecError) : Control := noting .error e.message (complain e)

/-- The line that reports a failure. -/
def complaint (e : ExecError) : Bytes :=
  Bytes.ofString "tinysh: " ++ e.message ++ [0x0A]

/-- Where a process goes on after an answer to writing a piece of its report. -/
def afterPiece (console : Console) (piece : Bytes) (rest : List Bytes)
    (reply : Except Errno Nat) : Control :=
  match Console.left piece reply with
  | .ok piece => printing (piece :: rest)
  | .error e => alarm (console.alarm Fd.stderr e)

/-- Where a process goes on after an answer to writing a piece of its last report: nothing is done
about a failure. -/
def afterAlarm (piece : Bytes) (rest : List Bytes) (reply : Except Errno Nat) : Control :=
  match Console.left piece reply with
  | .ok piece => alarm (piece :: rest)
  | .error _ => exit Console.alarmCode

/-- The signal that asks a process to end. -/
def endSignal : Nat := 15

/-- Where a process that could not create another goes on after it sent the shell a signal. -/
def afterSignal (shell : Pid) (cause : Errno) : Except Errno Unit → Control
  | .ok () => fail (.forkFailed cause)
  | .error e =>
    noting .error
      (Bytes.ofString ("无法结束 shell 进程 " ++ toString (Pid.number shell) ++ ": " ++ e.message))
      (fail (.forkFailed cause))

/-! ## Single steps -/

/-- Where a process goes on that has `fd` to move to `target`: nothing is left to do when it is
there already. -/
def settle (fd target : Fd) (t : Command) : Control :=
  if fd = target then run t else bind fd target t

/-- Where a process goes on after opening the file of a redirection. -/
def afterOpen (t : Command) (file : Bytes) (direction : Direction) : Except Errno Fd → Control
  | .error e => fail (.openFailed file e)
  | .ok fd =>
    noting .debug
      (Bytes.ofString "重定向 " ++ [direction.symbol, 0x20] ++ Utf8.scrub file ++
        Bytes.ofString (" -> fd " ++ toString direction.fd))
      (settle fd direction.fd t)

/-- Where a process goes on after closing a descriptor that it has copied. -/
def afterRelease (copied : Except Errno Unit) (t : Command) (closed : Except Errno Unit) :
    Control :=
  let next := match copied with
    | .ok () => run t
    | .error e => fail (.bindFailed e)
  match closed with
  | .ok () => next
  | .error e => noting .warn (Bytes.ofString ("关闭描述符失败: " ++ e.message)) next

/-- Where a process goes on after making a pipe. -/
def afterPipe (left right : Command) : Except Errno (Fd × Fd) → Control
  | .error e => fail (.pipeFailed e)
  | .ok (readEnd, writeEnd) => forkLeft ⟨readEnd, writeEnd⟩ left right

/-- The journal's words for a new process. -/
def forkRecord (child : Pid) : Bytes :=
  Bytes.ofString ("fork 子进程 " ++ toString (Pid.number child))

/-- Where a process goes on after creating another. -/
def afterFork (next : Pid → Control) : Except Errno Pid → Control
  | .ok child => noting .trace (forkRecord child) (next child)
  | .error e => stranded e

/-- The journal's words for what became of a stage, and its code, `none` if there is none. -/
def stageResult (stage : Pid) : Except ExecError Nat → Level × Bytes × Option Nat
  | .ok code =>
    (.debug, Bytes.ofString ("管道阶段 " ++ toString (Pid.number stage) ++ " 退出, code=" ++
      toString code), some code)
  | .error e =>
    (.warn, Bytes.ofString ("回收管道阶段 " ++ toString (Pid.number stage) ++ " 失败: ") ++ e.message,
      none)

/-- Where a process goes on after an answer to waiting for a stage: it waits again, or takes the
stage's code. -/
def afterWait (again : Control) (stage : Pid) (next : Option Nat → Control) (reply : WaitReply) :
    Control :=
  match Reap.verdict? reply with
  | none => again
  | some result =>
    let (level, message, code) := stageResult stage result
    match Reap.record? stage reply with
    | some reaped => noting .trace reaped (noting level message (next code))
    | none => noting level message (next code)

/-- Whether the words can be handed to a program: none of them holds NUL. -/
def isPassable (argv : List Bytes) : Bool := argv.all fun w => !w.contains 0

/-- Where a process goes on that has a list of words to run: an empty one succeeds at once. -/
def execute (argv : List Bytes) : Control :=
  match argv with
  | [] => terminate 0
  | program :: _ =>
    if isPassable argv then
      noting .debug (Bytes.ofString "执行外部命令: " ++ dumpWords argv) (launch argv)
    else fail (.execFailed program .invalid)

/-- The word that names the program. -/
def programOf (argv : List Bytes) : Bytes := argv.headD []

/-! ## Actions -/

/-- What a process does in a state. -/
def action (ex : Executor) : Control → Action Control
  | run (.exec argv) => .goOn (execute argv)
  | run (.redirect t file direction) =>
    .call (.openFile file direction.flags ex.redirectMode) (afterOpen t file direction)
  | run (.pipe left right) => .call .makePipe (afterPipe left right)
  | noting level message next => .call (.note level message) fun _ => next
  | complain e => .goOn (printing (ex.console.pieces Fd.stderr (complaint e)))
  | printing [] => .goOn (terminate failureCode)
  | printing ([] :: rest) => .goOn (printing rest)
  | printing ((b :: bs) :: rest) =>
    .call (.write Fd.stderr (b :: bs)) (afterPiece ex.console (b :: bs) rest)
  | alarm [] => .goOn (exit Console.alarmCode)
  | alarm ([] :: rest) => .goOn (alarm rest)
  | alarm ((b :: bs) :: rest) => .call (.write Fd.stderr (b :: bs)) (afterAlarm (b :: bs) rest)
  | stranded cause => .kill (Pid.number ex.shell) endSignal (afterSignal ex.shell cause)
  | exit code => .halt code
  | launch argv => .exec argv fun e => fail (.execFailed (programOf argv) e)
  | bind fd target t => .call (.duplicate fd target) fun copied => release fd copied t
  | release fd copied t => .call (.close fd) (afterRelease copied t)
  | leave unneeded kept target t => .call (.close unneeded) fun _ => settle kept target t
  | forkLeft ends left right =>
    .fork (leave ends.readEnd ends.writeEnd Fd.stdout left)
      (afterFork fun child => forkRight ends child right)
  | forkRight ends left right =>
    .fork (leave ends.writeEnd ends.readEnd Fd.stdin right)
      (afterFork fun child => closeEnds [ends.readEnd, ends.writeEnd] left child)
  | closeEnds [] left right => .goOn (waitLeft left right)
  | closeEnds (fd :: fds) left right => .call (.close fd) fun _ => closeEnds fds left right
  | waitLeft left right =>
    .wait left (afterWait (waitLeft left right) left fun code => waitRight code right)
  | waitRight leftCode right =>
    .wait right (afterWait (waitRight leftCode right) right (connected leftCode))
  | connected _ _ => .goOn (terminate 0)

end Control

end PipeShell
