import PipeShell.Text.Utf8

/-!
# Environment variables

The variables of a process in the order in which they were set first.
-/

namespace PipeShell

/-- Names and values of variables; of a name that stands twice the first counts. -/
abbrev Environment := List (Bytes × Bytes)

namespace Environment

/-- The value of a variable. -/
def get? (env : Environment) (name : Bytes) : Option Bytes := env.lookup name

/-- The value of a variable if it is a text. A value that is not valid UTF-8 counts as none. -/
def text? (env : Environment) (name : Bytes) : Option Bytes :=
  (env.get? name).filter Utf8.isValid

/-- A variable as a process hands it on: name and value with an equals sign between. -/
def entry (v : Bytes × Bytes) : Bytes := v.1 ++ 0x3D :: v.2

/-- What follows a text and an equals sign in the first entry that starts with them. A text that
holds an equals sign finds the rest of a value so. -/
def search? (env : Environment) (text : Bytes) : Option Bytes :=
  let start := text ++ [0x3D]
  (env.find? fun v => start.isPrefixOf (entry v)).map fun v => (entry v).drop start.length

/-- The environment without a variable. -/
def unset (env : Environment) (name : Bytes) : Environment := env.filter fun v => v.1 != name

/-- The environment with a variable set. -/
def set (env : Environment) (name value : Bytes) : Environment :=
  if (env.get? name).isSome then env.map fun v => if v.1 == name then (name, value) else v
  else env ++ [(name, value)]

end Environment

end PipeShell
