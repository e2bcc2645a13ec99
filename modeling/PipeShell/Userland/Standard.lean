import PipeShell.Machine.Layout
import PipeShell.Userland.Script.Start
import PipeShell.Userland.Tool.Cat
import PipeShell.Userland.Tool.Condition
import PipeShell.Userland.Tool.Count
import PipeShell.Userland.Tool.Environment
import PipeShell.Userland.Tool.Expression
import PipeShell.Userland.Tool.Fields
import PipeShell.Userland.Tool.Join
import PipeShell.Userland.Tool.Lines
import PipeShell.Userland.Tool.Link
import PipeShell.Userland.Tool.Portion
import PipeShell.Userland.Tool.Print
import PipeShell.Userland.Tool.Series
import PipeShell.Userland.Tool.Sort
import PipeShell.Userland.Tool.Translate
import PipeShell.Userland.Tool.Uniq

/-!
# The standard programs

`Userland.standard` is the set of programs that the machine comes with, and `FileSystem.standard`
the files that it starts with: the programs under `/bin` and `/usr/bin`, the devices, and a few
directories.
-/

namespace PipeShell

namespace Tool

/-- The programs by name that know the name they were called by, and then the words after it. -/
def table : List (String × (Bytes → List Bytes → Program Nat)) :=
  [("[", bracket), ("basename", basename), ("cat", cat), ("chmod", chmod), ("comm", comm),
   ("cp", cp), ("cut", cut), ("dir", dir), ("dirname", dirname), ("echo", echo), ("env", env),
   ("expand", expand), ("expr", expr), ("factor", factor), ("false", fun _ _ => return 1),
   ("fold", fold), ("head", head), ("join", join), ("link", link), ("ln", ln), ("ls", ls),
   ("mkdir", mkdir), ("mkfifo", mkfifo), ("mv", mv), ("nice", nice), ("nl", nl),
   ("nohup", nohup), ("paste", paste), ("printenv", printenv), ("printf", printf), ("pwd", pwd),
   ("readlink", readlink), ("realpath", realpath), ("rev", rev), ("rm", rm), ("rmdir", rmdir),
   ("seq", seq), ("sleep", sleep), ("sort", sort), ("tac", tac), ("tail", tail), ("tee", tee),
   ("test", test), ("touch", touch), ("tr", tr), ("true", fun _ _ => return 0),
   ("unexpand", unexpand), ("uniq", uniq), ("unlink", unlink), ("wc", wc), ("yes", yes),
   ("sh", fun self words => Script.sh (self :: words)),
   ("dash", fun self words => Script.sh (self :: words))]

/-- The program of a name. -/
def byName? (name : Bytes) : Option (Bytes → List Bytes → Program Nat) :=
  (table.find? fun t => text t.1 == name).map (·.2)

end Tool

/-- The standard programs. -/
def Userland.standard : Userland where
  State := Routine
  action := Routine.action
  start image :=
    match Tool.byName? image.program with
    | some program => (program (image.argv.headD []) image.argv.tail).routine
    | none => .halt 127

/-- The symbolic links that the machine starts with, each with the path that it holds. -/
def FileSystem.links : List (String × String) :=
  [("/dev/fd", "/proc/self/fd"), ("/dev/stdin", "/proc/self/fd/0"),
   ("/dev/stdout", "/proc/self/fd/1"), ("/dev/stderr", "/proc/self/fd/2")]

/-- The files that the machine starts with. -/
def FileSystem.standard : FileSystem :=
  let programs (fs : FileSystem) (dir : String) : FileSystem :=
    Tool.table.foldl (fun fs (name, _) =>
      fs.place root (Bytes.ofString (dir ++ name)) fun _ => .program 0o755 (Bytes.ofString name)) fs
  let fs := programs (programs empty "/bin/") "/usr/bin/"
  let fs := fs.place root (Bytes.ofString "/dev/null") fun _ => .nullDevice
  let fs := fs.place root (Bytes.ofString "/dev/zero") fun _ => .zeroDevice
  let fs := fs.place root (Bytes.ofString "/dev/full") fun _ => .fullDevice
  let fs := fs.place root (Bytes.ofString "/proc/self/fd") .descriptorList
  let fs := (fs.freeze (Bytes.ofString "/proc/self")).freeze (Bytes.ofString "/proc")
  let fs := links.foldl (fun fs (name, target) =>
    fs.place root (Bytes.ofString name) fun _ => .symlink (Bytes.ofString target)) fs
  ["/etc", "/home", "/root", "/tmp", "/var"].foldl
    (fun fs name => fs.place root (Bytes.ofString name) fun parent => .directory 0o755 parent []) fs

end PipeShell
