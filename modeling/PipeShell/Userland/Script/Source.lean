import PipeShell.Userland.Script.Token

/-!
# The text that is read

A `Source` is the text of a script that is still to be read, and what the reader has to remember
between tokens. Texts of aliases are read before the rest of the script (`Source.inserted`).
`Source.next?` takes one byte; where the text ends before the script does, reading starves and is
tried again when there is more (`Halt.starved`).
-/

namespace PipeShell.Script

/-- Why reading stops. -/
inductive Halt
  /-- The text is no script. -/
  | fault (line : Nat) (message : Bytes)
  /-- The text goes on, but the rest of it is not there yet. -/
  | starved
deriving Repr

/-- The text of an alias that is being read. -/
structure Insertion where
  name : Bytes
  rest : Bytes
  /-- Whether the text ends in a blank, so that the word after it can be an alias too. -/
  endsBlank : Bool
deriving Repr

/-- A text of the script that a redirection asks for. -/
structure Awaited where
  number : Nat
  /-- The line that ends the text. -/
  mark : Bytes
  /-- Whether tabs at the start of lines are left out. -/
  indented : Bool
  /-- Whether parameters and the like are replaced in it. -/
  replaced : Bool
deriving Repr

/-- How the next token is read. -/
structure Manner where
  /-- Whether line ends before it are passed over. -/
  newlines : Bool
  keywords : Bool
  aliases : Bool
  /-- Whether it is the mark that ends a text. -/
  mark : Bool
deriving Repr

namespace Manner

/-- A word as it is. -/
def plain : Manner := ⟨false, false, false, false⟩

/-- The start of a command. -/
def command : Manner := ⟨false, true, true, false⟩

/-- The start of a command that may stand on a later line. -/
def later : Manner := ⟨true, true, true, false⟩

end Manner

/-- The rest of a script. -/
structure Source where
  rest : Bytes
  /-- Texts of aliases that come before the rest, innermost first. -/
  inserted : List Insertion
  line : Nat
  /-- Whether the script ends where the rest does. -/
  final : Bool
  /-- The aliases and what they stand for. -/
  aliases : List (Bytes × Bytes)
  manner : Manner
  /-- The token that was read last. -/
  last : Token
  /-- Whether the last token is still to be dealt with. -/
  held : Bool
  /-- The texts that come after the line that is being read. -/
  awaited : List Awaited
  texts : Texts
  /-- How many texts were asked for. -/
  count : Nat

/-- What reads a part of a script. -/
abbrev Reading := StateT Source (Except Halt)

namespace Source

/-- The source of a text from its first line on. -/
def ofText (aliases : List (Bytes × Bytes)) (final : Bool) (line : Nat) (text : Bytes) : Source :=
  ⟨text, [], line, final, aliases, .plain, .newline, false, [], [], 0⟩

/-- Takes a byte; `none` is the end of the script. -/
def next? (s : Source) : List Insertion → Except Halt (Option UInt8 × Source)
  | [] =>
    match s.rest with
    | b :: rest => .ok (some b, { s with rest, inserted := [] })
    | [] => if s.final then .ok (none, { s with inserted := [] }) else .error .starved
  | i :: inserted =>
    match i.rest with
    | b :: rest => .ok (some b, { s with inserted := { i with rest } :: inserted })
    | [] =>
      let manner := if i.endsBlank then { s.manner with aliases := true } else s.manner
      next? { s with manner } inserted

/-- The source with a byte before it. -/
def unread (s : Source) (b : UInt8) : Source :=
  match s.inserted with
  | i :: inserted => { s with inserted := { i with rest := b :: i.rest } :: inserted }
  | [] => { s with rest := b :: s.rest }

end Source

namespace Reading

/-- The bound of loops that end where the text does. -/
def patience : Nat := 1000000000000

/-- Gives up because the text is no script. -/
def fail {α : Type} (message : Bytes) : Reading α := fun s => .error (.fault s.line message)

/-- Takes a byte. -/
def next : Reading (Option UInt8) := fun s => s.next? s.inserted

/-- Puts a byte back. -/
def unread : Option UInt8 → Reading Unit
  | some b => modify (·.unread b)
  | none => pure ()

/-- Notes the end of a line. -/
def countLine : Reading Unit := modify fun s => { s with line := s.line + 1 }

/-- Takes a byte; a backslash at the end of a line and the line end are passed over. -/
def nextJoined : Nat → Reading (Option UInt8)
  | 0 => next
  | fuel + 1 => do
    let c ← next
    if c != some 0x5C then return c
    let d ← next
    if d == some 0x0A then
      countLine
      nextJoined fuel
    else
      unread d
      return c

/-- Takes a byte, lines that go on being joined. -/
def nextByte : Reading (Option UInt8) := nextJoined patience

/-- Takes the bytes for which a test holds, no lines being joined. -/
def run (p : UInt8 → Bool) : Reading Bytes := fun s =>
  match s.inserted with
  | [] =>
    let (found, rest) := s.rest.span p
    .ok (found, { s with rest })
  | i :: inserted =>
    let (found, rest) := i.rest.span p
    .ok (found, { s with inserted := { i with rest } :: inserted })

end Reading

end PipeShell.Script
