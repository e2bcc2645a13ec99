import PipeShell.Settings.Load
import PipeShell.Shell.LineSource
import PipeShell.Shell.Session
import PipeShell.Shell.Conversation

/-!
# The program

`CommandLine.run` is the whole program with a script on standard input: it loads the settings,
opens the journal, and handles the lines of the script. It gives an exit code: 0, whatever became of
the lines, or 1 if it could not start or could not read on. What it gets from outside is its
`Surroundings`.
-/

namespace PipeShell

namespace CommandLine

open Calling (call note)

variable {U : Userland}

/-- Opens the null device under standard numbers that are closed; `n` of them are left to look at,
the last of which is 2. -/
def openStandard {m : Type → Type} [Monad m] [Calling m] : Nat → m Unit
  | 0 => return ()
  | n + 1 => do
    if let .error _ ← call (.statusFd (2 - n)) then
      let flags : OpenFlags := ⟨true, true, false, false, false, false, false⟩
      let _ ← call (.openFile (Bytes.ofString "/dev/null") flags 0)
    openStandard n

/-- What the program has from the packages that it is built with, and from the machine. -/
structure Surroundings (U : Userland) where
  /-- Whether it was built with assertions. -/
  debug : Bool
  /-- Sets the variables of the variable file of a name. -/
  loader : Bytes → Work (Task U.State) Unit
  console : Console
  /-- The date. -/
  date : Bytes
  /-- The time of day at a moment of the clock. -/
  stamp : Nat → Bytes
  /-- How processes are run for a shell. -/
  runner : Executor → Runner U

/-- The name of the journal's file. -/
def journalFile (settings : Settings) (date : Bytes) : Bytes :=
  Path.join settings.journalDirectory (settings.name ++ 0x5F :: date ++ Bytes.ofString ".log")

/-- Opens the journal. Programs do not see its descriptor. -/
def openJournal (w : Surroundings U) (settings : Settings) :
    Work (Task U.State) (Except StartError Unit) := do
  let threshold := Threshold.ofName settings.journalLevel
  match ← Settings.makeDirectories settings.journalDirectory with
  | .error e => return .error (.system e)
  | .ok () =>
    let flags := { OpenFlags.appending with closeOnExec := true }
    match ← call (.openFile (journalFile settings w.date) flags 0o666) with
    | .error e => return .error (.system e)
    | .ok fd =>
      Work.keepJournal threshold fd w.stamp
      note .debug (Bytes.ofString ("日志级别设置为: " ++ threshold.label))
      return .ok ()

/-- A session that reads a script from standard input, in a state that is its last status. -/
def script (r : Runner U) : Batch (StateT Nat (Work (Task U.State))) Errno where
  next := (LineSource.next : Work (Task U.State) _)
  handle line := fun status => Session.handle r line status

/-- The text that reports why the program ends. -/
def failureText (e : StartError) : Bytes := Bytes.ofString "Error: " ++ e.dump ++ [0x0A]

/-- Reports why the program ends, and gives its exit code. Nothing is done about a failure to
report it. -/
def fail (console : Console) (e : StartError) : Work (Task U.State) Nat := do
  let _ ← Console.writePieces Fd.stderr (console.pieces Fd.stderr (failureText e))
  return 1

/-- Handles the lines of the script. -/
def session (r : Runner U) : Work (Task U.State) Nat := do
  note .debug (Bytes.ofString "初始化 tinysh, interactive=false")
  let (ending, status) ← (script r).run r.fuel 0
  match ending with
  | .unfinished => .stuck
  | .failed e => fail r.executor.console (.system e)
  | .left | .endOfInput =>
    note .debug (Bytes.ofString ("退出 tinysh, last_status=" ++ toString status))
    return 0

/-- The whole program. -/
def run (w : Surroundings U) : Work (Task U.State) Nat := do
  openStandard 3
  match ← Settings.load w.loader w.debug with
  | .error e => fail w.console e
  | .ok settings =>
    match ← openJournal w settings with
    | .error e => fail w.console e
    | .ok () =>
      note .debug (Bytes.ofString "配置加载成功 " ++ Utf8.scrub settings.directory)
      session (w.runner ⟨settings.redirectMode, ← Work.self, w.console⟩)

end CommandLine

end PipeShell
