import PipeShell.Settings.Dotenv
import PipeShell.Shell.CommandLine
import PipeShell.Shell.Home
import PipeShell.Userland.Standard

/-!
# The executable

Runs the script on standard input on a machine of its own, with the standard programs and a home
directory, and shows what it wrote. The working directory starts out empty.
-/

namespace PipeShell

namespace Executable

/-- The working directory of the first process. -/
def workPath : Bytes := Bytes.ofString "/home/user"

/-- The environment of the first process. -/
def environment : Environment :=
  [("PATH", "/usr/bin:/bin"), ("HOME", "/home/user")].map fun (name, value) =>
    (Bytes.ofString name, Bytes.ofString value)

/-- The bound on the steps of a line and on the number of lines. -/
def fuel : Nat := 100000000

/-- A machine whose first process has `input` as its standard input; also where its standard output
and error go. -/
def boot (input : Bytes) : Machine (Task Userland.standard.State) × NodeId × NodeId :=
  let fs := FileSystem.standard.place FileSystem.root workPath fun parent =>
    .directory 0o755 parent []
  let n := fs.nodes.length
  let fs : FileSystem := ⟨fs.nodes ++ [.file 0o600 input, .file 0o600 [], .file 0o600 []]⟩
  let descriptions : List Description :=
    [⟨.node n, true, false, false, 0⟩, ⟨.node (n + 1), false, true, true, 0⟩,
     ⟨.node (n + 2), false, true, true, 0⟩]
  let descriptors : DescriptorTable := ⟨[some ⟨0, false⟩, some ⟨1, false⟩, some ⟨2, false⟩]⟩
  let directory := fs.directoryAt workPath
  let context : Context :=
    { descriptors
      limit := 1024
      directory
      umask := 0o022
      environment
      dispositions := [(pipeSignal, .ignored)]
      pending := []
      opening := none
      wakes := none }
  (⟨⟨fs, descriptions, [], [], .silent, 0⟩, [⟨0, context, .active .attended⟩], []⟩, n + 1, n + 2)

/-- The report that printing failed. -/
def alarm (fd : Fd) (e : Option Errno) : Bytes :=
  let reason := match e with
    | some e => StartError.systemMessage e
    | none => Bytes.ofString "failed to write whole buffer"
  Bytes.ofString ("failed printing to " ++ if fd = Fd.stdout then "stdout: " else "stderr: ") ++
    reason ++ [0x0A]

/-- Texts are written as a whole. -/
def console : Console := ⟨fun _ text => [text], fun fd e => [alarm fd e]⟩

/-- How processes are run: the oldest that can move does. -/
def runner (executor : Executor) : Runner Userland.standard where
  executor
  expand := Home.expand (Bytes.ofString "/root")
  policy := Machine.oldestFirst (Task.dynamics Userland.standard executor)
  fuel

/-- What the program is run with. The clock of the machine stands for the time of day. -/
def surroundings : CommandLine.Surroundings Userland.standard where
  debug := true
  loader := Dotenv.load
  console
  date := Bytes.ofString "1970-01-01"
  stamp clock := Bytes.ofString (toString clock)
  runner

/-- What a script writes to standard output and error, and its exit code. -/
def run (input : Bytes) : Option (Bytes × Bytes × Nat) :=
  let (m, out, err) := boot input
  let shown (m : Machine (Task Userland.standard.State)) (code : Nat) :=
    ((m.store.files.content? out).getD [], (m.store.files.content? err).getD [], code)
  match CommandLine.run surroundings 0 m with
  | .finished code m | .ended (.exited code) m => some (shown m code)
  | .ended (.signaled signal) m => some (shown m (128 + signal))
  | .stuck => none

end Executable

end PipeShell

def main : IO UInt32 := do
  let stdin ← IO.getStdin
  let input ← stdin.readBinToEnd
  match PipeShell.Executable.run input.toList with
  | none => return 1
  | some (out, err, code) =>
    (← IO.getStdout).write ⟨out.toArray⟩
    (← IO.getStderr).write ⟨err.toArray⟩
    return UInt32.ofNat code
