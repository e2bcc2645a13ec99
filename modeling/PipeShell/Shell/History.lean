import PipeShell.Machine.Calling
import PipeShell.Text.Blank

/-!
# The history

The lines entered in interactive sessions. A `History` keeps the last hundred of them and leaves out
empty lines, lines that start with white space, and a line equal to the one before it. Its file
starts with the line `#V2` and has one entry a line, backslashes and line feeds being escaped
(`History.encodeEntry`, `History.decodeEntry`); a file that starts otherwise is taken as it is.
-/

namespace PipeShell

/-- The lines entered before. -/
structure History where
  /-- The entries, the oldest first. -/
  entries : List Bytes
  /-- How many entries were added since the history was last loaded or saved. -/
  fresh : Nat
deriving DecidableEq, Repr

namespace History

/-- A history without entries. -/
def empty : History := ⟨[], 0⟩

/-- The greatest number of entries. -/
def capacity : Nat := 100

/-- Whether a line is left out: it is empty or starts with white space. -/
def startsBlank (line : Bytes) : Bool :=
  match Utf8.chars line with
  | [] => true
  | c :: _ => Text.isBlankChar c

/-- The entries with one more; the oldest goes if there are too many. -/
def push (entries : List Bytes) (line : Bytes) : List Bytes :=
  (if entries.length = capacity then entries.drop 1 else entries) ++ [line]

/-- The history after a line is offered to it. -/
def add (h : History) (line : Bytes) : History :=
  if startsBlank line || h.entries.getLast? == some line then h
  else
    let entries := push h.entries line
    ⟨entries, min (h.fresh + 1) entries.length⟩

/-! ## The file -/

/-- The first line of a history file. -/
def version : Bytes := Bytes.ofString "#V2"

/-- An entry as the file has it. -/
def encodeEntry : Bytes → Bytes
  | [] => []
  | 0x5C :: rest => 0x5C :: 0x5C :: encodeEntry rest
  | 0x0A :: rest => 0x5C :: 0x6E :: encodeEntry rest
  | b :: rest => b :: encodeEntry rest

/-- The entry that a line of the file writes; `none` if a backslash escapes nothing known. -/
def decodeEntry : Bytes → Option Bytes
  | [] => some []
  | 0x5C :: 0x6E :: rest => (decodeEntry rest).map (0x0A :: ·)
  | 0x5C :: 0x5C :: rest => (decodeEntry rest).map (0x5C :: ·)
  | 0x5C :: _ => none
  | b :: rest => (decodeEntry rest).map (b :: ·)

/-- The content of the history file. -/
def encode (h : History) : Bytes :=
  version ++ 0x0A :: h.entries.flatMap fun entry => encodeEntry entry ++ [0x0A]

/-- The entry that a line of a file stands for; one that cannot be decoded is taken as it is. -/
def entryOf (escaped : Bool) (line : Bytes) : Bytes :=
  if escaped then (decodeEntry line).getD line else line

/-- Adds the lines of a file up to the first that is no text. Gives whether there is none such. -/
def addLines (escaped : Bool) (h : History) : List Bytes → History × Bool
  | [] => (h, true)
  | line :: lines =>
    if !Utf8.isValid line then (h, false)
    else if line.isEmpty then addLines escaped h lines
    else addLines escaped (h.add (entryOf escaped line)) lines

/-- The history with the lines of a file added. If all of them are texts, nothing in the history
counts as new any more. -/
def addFile (h : History) (lines : List Bytes) : History × Bool :=
  let (h, complete) := match lines with
    | first :: lines =>
      if first == version then addLines true h lines else addLines false h (first :: lines)
    | [] => (h, true)
  (if complete then { h with fresh := 0 } else h, complete)

/-! ## Loading and saving -/

open Calling

variable {m : Type → Type} [Monad m] [Calling m]

/-- Why a history cannot be loaded or saved. -/
inductive Failure
  | system (cause : Errno)
  /-- The file holds bytes that are no text. -/
  | notText
deriving DecidableEq, Repr

/-- The permissions of a history file. -/
def fileMode : Mode := 0o600

/-- Adds the entries of a file. -/
def load (h : History) (path : Bytes) : m (History × Except Failure Unit) := do
  match ← openForReading path with
  | .error e => return (h, .error (.system e))
  | .ok fd =>
    let (data, error) ← readAll fd
    close fd
    let (h, complete) := h.addFile (Text.textLines data)
    match error with
    | some e => return (h, .error (.system e))
    | none => return (h, if complete then .ok () else .error .notText)

/-- Writes the entries to a file if some of them are new. -/
def save (h : History) (path : Bytes) : m (History × Except Failure Unit) := do
  if h.entries.isEmpty || h.fresh = 0 then return (h, .ok ())
  match ← call (.openFile path { OpenFlags.writing with closeOnExec := true } fileMode) with
  | .error e => return (h, .error (.system e))
  | .ok fd =>
    let _ ← call (.setMode fd fileMode)
    let written ← writeAll fd h.encode
    close fd
    match written with
    | .error e => return (h, .error (.system e))
    | .ok () => return ({ h with fresh := 0 }, .ok ())

end History

end PipeShell
