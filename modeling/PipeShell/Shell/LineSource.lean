import PipeShell.Machine.Work
import PipeShell.Text.Blank
import PipeShell.Text.Grapheme
import PipeShell.Text.Split

/-!
# Reading lines of input

`LineSource.next` reads standard input byte by byte and never beyond the line it gives, so that the
programs that the line starts find the rest. `LineSource.nextText` reads ahead in blocks; it is for
interactive sessions, where lines are texts and a backspace takes back the character before it.
-/

namespace PipeShell.LineSource

open Calling (call)

variable {κ : Type}

/-! ## One byte at a time -/

/-- A line without one carriage return at its end. -/
def stripReturn (line : Bytes) : Bytes :=
  if line.getLast? = some 0x0D then line.dropLast else line

/-- The line that ends with the input after some bytes; none if there are no bytes. -/
def lastLine (bytes : Bytes) : Option Bytes :=
  if bytes.isEmpty then none else some (stripReturn bytes)

/-- Reads a line of which `seen` was read already, last byte first; at most `fuel` bytes more. -/
def nextFrom : Nat → (seen : Bytes) → Work κ (Except Errno (Option Bytes))
  | 0, _ => .stuck
  | fuel + 1, seen => do
    match ← call (.read Fd.stdin 1) with
    | .error e => return .error e
    | .ok [] => return .ok (lastLine seen.reverse)
    | .ok (b :: _) =>
      if b = 0x0A then return .ok (some (stripReturn seen.reverse)) else nextFrom fuel (b :: seen)

/-- Reads a line: the bytes up to the next line feed, without it and without one carriage return
before it; none at the end of the input. A last line need not be terminated. -/
def next : Work κ (Except Errno (Option Bytes)) := do
  let bound ← Work.volume
  nextFrom (bound + 2) []

/-! ## In blocks -/

/-- What reading a line of text gives. -/
inductive Text
  | line (text : Bytes)
  | endOfInput
  | failed (cause : Errno)
  /-- The line is no text. -/
  | notText
deriving DecidableEq, Repr

/-- The number of bytes that are read ahead at most. -/
def aheadLimit : Nat := 8192

/-- Reads a block; a closed standard input counts as ended. -/
def block : Work κ (Except Errno Bytes) := do
  match ← call (.read Fd.stdin aheadLimit) with
  | .error e => return if e = .badDescriptor then .ok [] else .error e
  | .ok bytes => return .ok bytes

/-- Reads up to and including the next line feed, or up to the end; gives that and what was read
ahead. -/
def upToFeed : Nat → (ahead : Bytes) → Work κ (Except Errno (Bytes × Bytes))
  | 0, _ => .stuck
  | fuel + 1, ahead => do
    let before := ahead.takeWhile (· != 0x0A)
    match ahead.drop before.length with
    | feed :: rest => return .ok (before ++ [feed], rest)
    | [] =>
      match ← block with
      | .error e => return .error e
      | .ok [] => return .ok (before, [])
      | .ok more =>
        return (← upToFeed fuel more).map fun (line, rest) => (before ++ line, rest)

/-- A line without its line feed and, if it has one, a carriage return before it. -/
def chomp (line : Bytes) : Bytes :=
  if line.getLast? = some 0x0A then stripReturn line.dropLast else line

/-- The backspace. -/
def backspace : List Char := ['\x08']

/-- The text that is left, as bytes with the last one first, when every backspace takes back the
cluster before it. The sizes of the clusters that are left, last one first, are kept in a byte each,
so of a cluster of 256 bytes or more only the remainder of its size is taken back. -/
def takeBack (kept : Bytes) (sizes : List UInt8) : List (List Char) → Bytes
  | [] => kept
  | part :: parts =>
    if part = backspace then
      match sizes with
      | [] => takeBack kept [] parts
      | size :: sizes => takeBack (kept.drop size.toNat) sizes parts
    else
      let bytes := Utf8.encode part
      takeBack (bytes.reverse ++ kept) (bytes.length.toUInt8 :: sizes) parts

/-- A text in which every backspace has taken back what a reader takes for the character before
it. -/
def withoutBackspaces (line : Bytes) : Bytes :=
  (takeBack [] [] (PipeShell.Text.Grapheme.clusters (Utf8.chars line))).reverse

/-- Reads a line of text; gives it and what was read ahead. -/
def nextText (ahead : Bytes) : Work κ (Text × Bytes) := do
  let bound ← Work.volume
  match ← upToFeed (bound + 2) ahead with
  | .error e => return (.failed e, [])
  | .ok ([], ahead) => return (.endOfInput, ahead)
  | .ok (line, ahead) =>
    if Utf8.isValid line then return (.line (withoutBackspaces (chomp line)), ahead)
    else return (.notText, ahead)

end PipeShell.LineSource
