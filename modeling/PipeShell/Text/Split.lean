import PipeShell.Text.Utf8

/-!
# Splitting byte strings

`Text.splitOn` cuts a byte string at every occurrence of a byte; `Text.lines` are the parts that
line feeds end, the last of which may be unterminated. `Text.textLines` also takes a carriage return
off the terminated ones.
-/

namespace PipeShell.Text

/-- The parts of a byte string between the occurrences of `sep`; one more than there are
occurrences. -/
def splitOn (sep : UInt8) (bs : Bytes) : List Bytes :=
  bs.foldr (fun b parts =>
    if b == sep then [] :: parts
    else match parts with
      | [] => [[b]]
      | part :: parts => (b :: part) :: parts) [[]]

/-- The lines of a text without their line feeds. A last line that is not terminated counts when
it is not empty. -/
def lines (bs : Bytes) : List Bytes :=
  let parts := splitOn 0x0A bs
  if parts.getLast? == some [] then parts.dropLast else parts

/-- The lines of a text, without a carriage return before the line feed. -/
def textLines (data : Bytes) : List Bytes :=
  let terminated := data.count 0x0A
  (lines data).zipIdx.map fun (line, i) =>
    if i < terminated && line.getLast? == some 0x0D then line.dropLast else line

/-- The parts of a byte string joined by `sep`. -/
def joinWith (sep : Bytes) (parts : List Bytes) : Bytes := (parts.intersperse sep).flatten

end PipeShell.Text
