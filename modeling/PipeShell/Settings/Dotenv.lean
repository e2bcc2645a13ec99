import PipeShell.Machine.Work
import PipeShell.Settings.EnvFile
import PipeShell.Text.Path

/-!
# A loader of variable files

`Dotenv.load` is the loader of the executable: it reads the variable file of the working directory
or of the nearest directory above it.
-/

namespace PipeShell.Dotenv

open Calling

variable {κ : Type}

/-- The variable file in a directory or the nearest directory above it; `fuel` bounds the depth. -/
def find (name : Bytes) : (fuel : Nat) → Bytes → Work κ (Option Bytes)
  | 0, _ => return none
  | fuel + 1, directory => do
    let candidate := Path.join directory name
    let above : Work κ (Option Bytes) :=
      match Path.parent? directory with
      | some parent => find name fuel parent
      | none => return none
    match ← call (.status candidate) with
    | .ok status => if status.kind = .regular then return some candidate else above
    | .error e => if e = .noEntry then above else return none

/-- The exit code when a variable gets a value that no variable can have. -/
def refusedCode : Nat := 101

/-- Sets the variables of the lines of a variable file up to the first that cannot be read.
Variables that are set already stay as they are; `known` are the values of the lines before. -/
def applyLines (known : Environment) : List Bytes → Work κ Unit
  | [] => return ()
  | line :: lines => do
    if !Utf8.isValid line then return ()
    let environment ← call .environment
    let lookup (name : List Char) : List Char :=
      let name := Utf8.encode name
      let value := (Environment.search? environment name).filter Utf8.isValid
      Utf8.chars ((value.orElse fun _ => known.get? name).getD [])
    match EnvFile.line lookup (Utf8.chars line) with
    | .blank => applyLines known lines
    | .refused => return ()
    | .setting name value =>
      let name := Utf8.encode name
      let value := Utf8.encode value
      if (Environment.text? environment name).isNone then
        if value.contains 0 then Work.exit refusedCode
        call (.setEnvironment (environment.set name value))
      applyLines (known.set name value) lines

/-- Sets the variables of the variable file of a name, if there is one. -/
def load (name : Bytes) : Work κ Unit := do
  let .ok directory ← call .currentDirectory | return ()
  let some path ← find name (directory.length + 1) directory | return ()
  let .ok fd ← openForReading path | return ()
  let (data, _) ← readAll fd
  close fd
  applyLines [] (Text.textLines data)

end PipeShell.Dotenv
