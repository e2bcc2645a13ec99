import PipeShell.Text.Utf8

/-!
# Names in the messages of tools

Tools quote the names of files in their messages so that a shell would read them back: between
apostrophes where a byte means something to a shell, and with octal escapes for bytes outside ASCII
(`Shown.quoted`, `Shown.plain`). Other words stand between apostrophes as they are
(`Shown.marked`).
-/

namespace PipeShell.Shown

/-- Bytes that a message shows as themselves. -/
def isVisible (b : UInt8) : Bool := 0x20 ≤ b && b < 0x7F

/-- The three octal digits of a byte after a backslash. -/
def octal (b : UInt8) : Bytes :=
  let digit (n : Nat) : UInt8 := UInt8.ofNat (0x30 + n % 8)
  [0x5C, digit (b.toNat / 64), digit (b.toNat / 8), digit b.toNat]

/-- A byte that is not visible, as it is written between `$'` and an apostrophe. -/
def escape (b : UInt8) : Bytes :=
  if b == 0x07 then [0x5C, 0x61]
  else if b == 0x08 then [0x5C, 0x62]
  else if b == 0x09 then [0x5C, 0x74]
  else if b == 0x0A then [0x5C, 0x6E]
  else if b == 0x0B then [0x5C, 0x76]
  else if b == 0x0C then [0x5C, 0x66]
  else if b == 0x0D then [0x5C, 0x72]
  else octal b

/-- The name between apostrophes; runs of bytes that are not visible stand between `$'` and an
apostrophe. `visible` tells which kind of run is open. -/
def quotedFrom : (visible : Bool) → Bytes → Bytes
  | _, [] => [0x27]
  | true, b :: rest =>
    if b == 0x27 then [0x27, 0x5C, 0x27, 0x27] ++ quotedFrom true rest
    else if isVisible b then b :: quotedFrom true rest
    else [0x27, 0x24, 0x27] ++ escape b ++ quotedFrom false rest
  | false, b :: rest =>
    if b == 0x27 then [0x27, 0x5C, 0x27, 0x27] ++ quotedFrom true rest
    else if isVisible b then [0x27, 0x27, b] ++ quotedFrom true rest
    else escape b ++ quotedFrom false rest

/-- Bytes that mean something to a shell even between double quotes, or to another reader. -/
def needsApostrophes : Bytes := Bytes.ofString "!\"#$&()*;<=>?[\\^`\x7b|\x7d~"

/-- The name between quotes. One that holds an apostrophe stands between double quotes, if nothing
after its first byte means anything there; if it does not, and ends in a byte that is not visible,
it starts as if a run of such bytes were open. -/
def quoted (name : Bytes) : Bytes :=
  let isPlain (b : UInt8) : Bool := isVisible b && !needsApostrophes.contains b
  let isPlainStart := match name.head? with
    | some b => isPlain b || b == 0x23 || b == 0x7E
    | none => true
  if name.contains 0x27 && isPlainStart && name.tail.all isPlain then 0x22 :: name ++ [0x22]
  else 0x27 :: quotedFrom (!name.contains 0x27 || (name.getLast?).all isVisible) name

/-- Bytes that make quotes necessary. -/
def needsQuotes : Bytes := (Bytes.ofString " !\"$&'()*;<=>?[\\^`|:")

/-- The name, between quotes only where a byte makes that necessary: anywhere in it, at its start,
or if the byte is all there is. -/
def plain (name : Bytes) : Bytes :=
  let plainStart := match name.head? with
    | some b => !([0x23, 0x7E] : Bytes).contains b
    | none => false
  let brace := name == [0x7B] || name == [0x7D]
  if plainStart && !brace && name.all fun b => isVisible b && !needsQuotes.contains b then name
  else quoted name

/-- A word of the arguments between apostrophes, with escapes inside them. -/
def marked (word : Bytes) : Bytes :=
  0x27 :: (word.flatMap fun b =>
    if b == 0x27 || b == 0x5C then [0x5C, b] else if isVisible b then [b] else escape b) ++ [0x27]

end PipeShell.Shown
