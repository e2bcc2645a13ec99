import PipeShell.Command.Parse
import PipeShell.Text.Blank

/-!
# What a line asks for

A line is one of two built-in commands, or a command tree to be run by a process of its own, or
refused. Which of these it is depends on the line alone (`Request.ofLine`).
-/

namespace PipeShell

/-- What a line asks the shell to do. -/
inductive Request
  /-- To end the session. -/
  | leave
  /-- To go to a directory; empty for the home directory. -/
  | changeDirectory (path : Bytes)
  | refused (e : SyntaxError)
  | run (t : Command)
deriving DecidableEq, Repr

namespace Request

/-- The line that ends a session, white space around it apart. -/
def exitWord : Bytes := Bytes.ofString "exit"

/-- What follows `cd` and a space at the start of a line. -/
def afterCd? (line : Bytes) : Option Bytes :=
  match line with
  | 0x63 :: 0x64 :: 0x20 :: rest => some rest
  | _ => none

/-- What a line asks for. The built-in commands are looked for first. -/
def ofLine (line : Bytes) : Request :=
  if Text.trimAscii line = exitWord then leave
  else match afterCd? line with
    | some rest => changeDirectory (Text.trimAscii rest)
    | none =>
      match Command.parse line with
      | .ok t => run t
      | .error e => refused e

end Request

end PipeShell
