import PipeShell.Machine.Environment

/-!
# Home directories

A path that is `~` or starts with `~/` begins at the home directory. `Home.expand` is how the
executable understands such paths.
-/

namespace PipeShell.Home

/-- The home directory that the value of `HOME` means; `otherwise` is that of a user whose
environment does not say. -/
def ofVariable (otherwise : Bytes) (home : Option Bytes) : Bytes :=
  match home with
  | some [] | none => otherwise
  | some home => home

/-- The path with the home directory filled in. A home directory that is no text leaves the path as
it is. -/
def expand (otherwise : Bytes) (environment : Environment) (path : Bytes) : Bytes :=
  let home := ofVariable otherwise (environment.get? (Bytes.ofString "HOME"))
  if !Utf8.isValid home then path
  else match path with
    | [0x7E] => home
    | 0x7E :: 0x2F :: rest => home ++ 0x2F :: rest
    | path => path

end PipeShell.Home
