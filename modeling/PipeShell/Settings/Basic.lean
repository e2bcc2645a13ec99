import PipeShell.Journal
import PipeShell.Text.Blank
import PipeShell.Text.Path

/-!
# Settings

The `Settings` of a session come from environment variables; what is not set has a default below the
configuration directory. `Settings.parseMode` reads the permissions for new files.
-/

namespace PipeShell

/-- The keys that line editing is done with. -/
inductive EditMode
  | emacs
  | vi
deriving DecidableEq, Repr

namespace EditMode

/-- The name of an edit mode. -/
def label : EditMode → String
  | emacs => "Emacs"
  | vi => "Vi"

/-- The edit mode that a setting names, whatever the case of its letters; any other text means
`vi`. -/
def ofName (name : Bytes) : EditMode :=
  if name.map Threshold.lowerByte == Bytes.ofString "emacs" then emacs else vi

end EditMode

/-- What the environment decides about a session. -/
structure Settings where
  /-- The name under which the shell keeps its files. -/
  name : Bytes
  directory : Bytes
  theme : Bytes
  historyFile : Bytes
  editorMode : Bytes
  journalLevel : Bytes
  journalDirectory : Bytes
  /-- The permissions for files that a redirection creates, before the mask. -/
  redirectMode : Nat
deriving Repr

namespace Settings

/-- The name of the shell. -/
def shellName : Bytes := Bytes.ofString "tinysh"

/-- The permissions for new files if none are set. -/
def defaultMode : Nat := 0o644

/-- The configuration directory: below the home directory, or below the temporary directory if
there is none. -/
def directoryFor (home : Option Bytes) (temporary : Bytes) : Bytes :=
  match home with
  | some home => Path.join home (Bytes.ofString ".config/tinysh")
  | none => Path.join temporary shellName

/-- The settings if no variable is set. -/
def defaults (directory : Bytes) : Settings where
  name := shellName
  directory
  theme := Bytes.ofString "default"
  historyFile := Path.join directory (Bytes.ofString ".tinysh_history")
  editorMode := Bytes.ofString "vi"
  journalLevel := Bytes.ofString "info"
  journalDirectory := Path.join directory (Bytes.ofString "logs")
  redirectMode := defaultMode

/-- The edit mode of a session. -/
def editMode (s : Settings) : EditMode := .ofName s.editorMode

/-! ## Modes -/

/-- The greatest mode; each of its bits is a permission. -/
def maxMode : Nat := 0o7777

/-- A text without the marks `0o` at its start, however many there are. -/
def dropOctalMarks : List Char → List Char
  | '0' :: 'o' :: rest => dropOctalMarks rest
  | rest => rest

/-- A text without one plus sign at its start. -/
def dropSign : List Char → List Char
  | '+' :: rest => rest
  | rest => rest

/-- The product of two numbers, if it has 32 bits. -/
def checkedMul (a b : UInt32) : Option UInt32 :=
  if a.toNat * b.toNat < UInt32.size then some (a * b) else none

/-- The sum of two numbers, if it has 32 bits. -/
def checkedAdd (a b : UInt32) : Option UInt32 :=
  if a.toNat + b.toNat < UInt32.size then some (a + b) else none

/-- The number that a character stands for as an octal digit. -/
def octalDigit? (c : Char) : Option UInt32 :=
  if '0' ≤ c && c ≤ '7' then some (c.val - '0'.val) else none

/-- The number that octal digits write behind those of `n`; none if a character is no digit or the
number does not have 32 bits. -/
def octalFrom (n : UInt32) : List Char → Option UInt32
  | [] => some n
  | c :: digits => do
    let shifted ← checkedMul n 8
    let n ← checkedAdd shifted (← octalDigit? c)
    octalFrom n digits

/-- The number that octal digits write, at least one. -/
def octal? (digits : List Char) : Option UInt32 :=
  if digits.isEmpty then none else octalFrom 0 digits

/-- The mode that a text writes in octal: white space around it, marks `0o` and a plus sign are
passed over, and at least one digit is needed. -/
def parseMode (value : List Char) : Option Nat := do
  let bits ← octal? (dropSign (dropOctalMarks (Text.trim value)))
  if maxMode < bits.toNat then none else some (bits.toNat &&& maxMode)

end Settings

end PipeShell
