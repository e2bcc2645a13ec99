import PipeShell.Text.Utf8

/-!
# Plain text

A record of the journal is one line of plain text: control characters and the control sequences of
terminals are left out of it, white space apart. `Text.plain` is what is left of a text. A control
sequence starts with the escape character; how it goes on and where it ends depends on the byte
after that (`Mode`).
-/

namespace PipeShell.Text

namespace Plain

/-- What the bytes read so far leave open. -/
inductive Mode
  | ground
  /-- Inside a character, with this many bytes to come. -/
  | character (missing : Nat)
  /-- After the escape character. -/
  | escape
  /-- After the escape character and bytes that only qualify what follows. -/
  | qualified
  /-- In a sequence that ends with a letter. -/
  | sequence
  /-- In a title, which ends with the bell. -/
  | title
  /-- At the start of a string for the device. -/
  | device
  /-- In the numbers at the start of a string for the device. -/
  | deviceNumbers
  /-- After the bytes that qualify a string for the device. -/
  | deviceQualified
  /-- In a string that is not for display. -/
  | string
deriving DecidableEq, Repr

/-- The number of bytes after the first byte of a character; `none` if no character starts with
it. -/
def following? (b : UInt8) : Option Nat :=
  if 0xC2 ≤ b && b ≤ 0xDF then some 1
  else if 0xE0 ≤ b && b ≤ 0xEF then some 2
  else if 0xF0 ≤ b && b ≤ 0xF4 then some 3
  else none

/-- White space that is kept. -/
def isKept (b : UInt8) : Bool := b == 0x09 || b == 0x0A || b == 0x0C || b == 0x0D

/-- Whether a byte is a control that acts without ending a sequence. -/
def isControl (b : UInt8) : Bool := b < 0x20

/-- What a byte does in a mode: the mode after it, and whether it is shown. -/
def react (mode : Mode) (b : UInt8) : Mode × Bool :=
  if b == 0x1B then (.escape, false)
  else if b == 0x18 || b == 0x1A then (.ground, false)
  else match mode with
    | .ground | .character _ =>
      if isControl b then (mode, isKept b)
      else if b < 0x7F then (mode, true)
      else match following? b with
        | some n => (.character n, true)
        | none => (mode, false)
    | .escape =>
      if isControl b then (.escape, isKept b)
      else if b < 0x30 then (.qualified, false)
      else if b == 0x5B then (.sequence, false)
      else if b == 0x5D then (.title, false)
      else if b == 0x50 then (.device, false)
      else if b == 0x58 || b == 0x5E || b == 0x5F then (.string, false)
      else if b < 0x7F then (.ground, false)
      else (.escape, false)
    | .qualified =>
      if isControl b then (.qualified, isKept b)
      else if b < 0x30 || 0x7F ≤ b then (.qualified, false)
      else (.ground, false)
    | .sequence =>
      if isControl b then (.sequence, isKept b)
      else if b < 0x40 || 0x7F ≤ b then (.sequence, false)
      else (.ground, false)
    | .title => (if b == 0x07 then .ground else .title, false)
    | .device =>
      if isControl b || 0x7F ≤ b then (.device, false)
      else if b < 0x30 then (.deviceQualified, false)
      else if b < 0x40 then (.deviceNumbers, false)
      else (.string, false)
    | .deviceNumbers =>
      if isControl b || 0x7F ≤ b then (.deviceNumbers, false)
      else if b < 0x30 then (.deviceQualified, false)
      else if b < 0x3C then (.deviceNumbers, false)
      else (.string, false)
    | .deviceQualified =>
      if b < 0x30 || 0x7F ≤ b then (.deviceQualified, false) else (.string, false)
    | .string => (if b == 0x9C then .ground else .string, false)

/-- What a byte does while text is being shown: white space that interrupts a sequence does not end
it, and the sequence goes on at the next byte that is not shown. -/
def display (mode : Mode) (b : UInt8) : Mode × Bool :=
  match mode with
  | .character n => (if n ≤ 1 then .ground else .character (n - 1), true)
  | mode =>
    match react .ground b with
    | (.ground, shown) => (if b == 0x18 || b == 0x1A then .ground else mode, shown)
    | (next, shown) => (next, shown)

/-- The bytes that are shown; `showing` tells whether the byte before was. -/
def scan : Mode → (showing : Bool) → Bytes → Bytes
  | _, _, [] => []
  | mode, true, b :: rest =>
    match display mode b with
    | (mode, true) => b :: scan mode true rest
    | (mode, false) => scan (react mode b).1 false rest
  | mode, false, b :: rest =>
    match react mode b with
    | (mode, true) => b :: scan mode true rest
    | (mode, false) => scan mode false rest

end Plain

/-- The text without control characters and control sequences. -/
def plain (text : Bytes) : Bytes := Plain.scan .ground false text

end PipeShell.Text
