import PipeShell.Text.Utf8

/-!
# The commands of the interpreter

`Builtin.all` lists the commands that run in the process of the interpreter, with what makes some of
them different from programs.
-/

namespace PipeShell.Script

/-- A command of the interpreter. -/
structure Builtin where
  name : String
  /-- Whether settings before it last and its faults end the script. -/
  special : Bool
  /-- Whether words that look like settings are treated as such. -/
  assigns : Bool
deriving Repr, DecidableEq

namespace Builtin

/-- The commands whose settings last and whose faults end the script. -/
def specials : List Builtin :=
  [".", ":", "break", "continue", "eval", "exec", "exit", "return", "set", "shift", "times",
   "trap", "unset"].map fun name => ⟨name, true, false⟩

/-- Special commands that take settings as words. -/
def setters : List Builtin := ["export", "local", "readonly"].map fun name => ⟨name, true, true⟩

/-- The other commands. -/
def ordinary : List Builtin :=
  ["[", "bg", "cd", "chdir", "command", "echo", "false", "fg", "getopts", "hash", "jobs", "kill",
   "printf", "pwd", "read", "test", "true", "type", "ulimit", "umask", "unalias", "wait"].map
    fun name => ⟨name, false, false⟩

/-- All commands of the interpreter. -/
def all : List Builtin := ⟨"alias", false, true⟩ :: specials ++ setters ++ ordinary

/-- The command of a name. -/
def find? (name : Bytes) : Option Builtin := all.find? fun b => Bytes.ofString b.name == name

end Builtin

end PipeShell.Script
