import PipeShell.Text.Alphanumeric
import PipeShell.Text.Blank
import PipeShell.Text.Split

/-!
# Variable files

A variable file has a line `NAME=value` for each variable. `EnvFile.line` reads one line: the value
may be quoted, a backslash escapes, and outside apostrophes `$NAME` and `$` with a braced name stand
for the value of another variable. What such a name stands for is asked of `lookup`.
-/

namespace PipeShell.EnvFile

/-! ## Values -/

/-- Whether a `$` was read, and how its name is delimited. -/
inductive Naming
  | off
  /-- The name ends before the first character that is no letter or digit. -/
  | bare
  /-- The name stands between braces. -/
  | braced
deriving DecidableEq, Repr

/-- How far the value of a line was read; `name` and `out` are reversed. -/
structure State where
  strong : Bool
  weak : Bool
  escaped : Bool
  /-- Whether the value has ended and only blanks and a comment may follow. -/
  ended : Bool
  naming : Naming
  name : List Char
  out : List Char
deriving Repr

/-- The beginning of a value. -/
def State.start : State := ⟨false, false, false, false, .off, [], []⟩

/-- What reading one more character of a value leads to. -/
inductive Step
  | more (s : State)
  /-- The rest of the line is a comment. -/
  | comment
  | refused

/-- The state with the value of the name that was read put out. -/
def State.substitute (lookup : List Char → List Char) (s : State) : State :=
  { s with out := (lookup s.name.reverse).reverse ++ s.out, name := [] }

/-- A character after a backslash. -/
def escapedStep (s : State) (c : Char) : Step :=
  if ['\\', '\'', '"', '$', ' '].contains c then
    .more { s with escaped := false, out := c :: s.out }
  else if c = 'n' then .more { s with escaped := false, out := '\n' :: s.out }
  else .refused

/-- A character while a name is read. -/
def namingStep (lookup : List Char → List Char) (s : State) (c : Char) : State :=
  if Text.isAlphanumeric c then { s with name := c :: s.name }
  else if s.naming = .braced then
    if c = '\x7d' then { s.substitute lookup with naming := .off }
    else { s with name := c :: s.name }
  else if c = '\x7b' && s.name.isEmpty then { s with naming := .braced }
  else
    let s := s.substitute lookup
    if c = '$' then { s with naming := .bare } else { s with naming := .off, out := c :: s.out }

/-- Reads one character of a value. -/
def step (lookup : List Char → List Char) (s : State) (c : Char) : Step :=
  if s.ended then
    if c = ' ' || c = '\t' then .more s else if c = '#' then .comment else .refused
  else if s.escaped then escapedStep s c
  else if s.strong then
    .more (if c = '\'' then { s with strong := false } else { s with out := c :: s.out })
  else if s.naming ≠ .off then .more (namingStep lookup s c)
  else if c = '$' then .more { s with naming := .bare }
  else if s.weak then
    .more (if c = '"' then { s with weak := false }
      else if c = '\\' then { s with escaped := true }
      else { s with out := c :: s.out })
  else
    .more (if c = '\'' then { s with strong := true }
      else if c = '"' then { s with weak := true }
      else if c = '\\' then { s with escaped := true }
      else if c = ' ' || c = '\t' then { s with ended := true }
      else { s with out := c :: s.out })

/-- The value that a state stands for at the end of the line; `none` if something is not closed. -/
def State.value? (lookup : List Char → List Char) (s : State) : Option (List Char) :=
  if s.naming = .braced || s.strong || s.weak then none
  else some (s.substitute lookup).out.reverse

/-- The value that a text spells from a state on. -/
def valueFrom (lookup : List Char → List Char) (s : State) : List Char → Option (List Char)
  | [] => s.value? lookup
  | c :: cs =>
    match step lookup s c with
    | .more s => valueFrom lookup s cs
    | .comment => s.value? lookup
    | .refused => none

/-! ## Lines -/

/-- What a line is. -/
inductive Line
  | blank
  | setting (name value : List Char)
  | refused
deriving Repr

/-- Whether a character can stand in the name of a variable. -/
def isNameChar (c : Char) : Bool := Text.isAsciiAlphanumeric c || c = '_' || c = '.'

/-- Whether a character can start the name of a variable. -/
def isNameStart (c : Char) : Bool :=
  (Text.isAsciiAlphanumeric c && !(0x30 ≤ c.toNat && c.toNat ≤ 0x39)) || c = '_'

/-- The name that a text starts with, and the rest without the white space it starts with. -/
def nameAt (cs : List Char) : Option (List Char × List Char) :=
  match cs with
  | c :: _ =>
    if isNameStart c then
      some (cs.takeWhile isNameChar, (cs.dropWhile isNameChar).dropWhile Text.isBlankChar)
    else none
  | [] => none

/-- The name of the variable that a line sets, and what follows the equals sign. The word `export`
may stand before the name. -/
def settingAt (cs : List Char) : Option (List Char × List Char) := do
  let (name, rest) ← nameAt cs
  match rest with
  | '=' :: rest => return (name, rest)
  | rest =>
    if name ≠ "export".toList then failure
    let (name, rest) ← nameAt rest
    match rest with
    | '=' :: rest => return (name, rest)
    | _ => failure

/-- Whether nothing is left of a line but a comment. -/
def isOver (cs : List Char) : Bool := cs.isEmpty || cs.head? == some '#'

/-- Reads a line. -/
def line (lookup : List Char → List Char) (cs : List Char) : Line :=
  let cs := (Text.trimEnd cs).dropWhile Text.isBlankChar
  if isOver cs then .blank
  else match settingAt cs with
    | none => .refused
    | some (name, rest) =>
      let rest := rest.dropWhile Text.isBlankChar
      if isOver rest then .setting name []
      else match valueFrom lookup .start rest with
        | some value => .setting name value
        | none => .refused

end PipeShell.EnvFile
