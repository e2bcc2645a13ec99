import PipeShell.Text.Utf8
import PipeShell.Text.Unprintable

/-!
# Quoted texts

A quoted text stands between double quotes on one line, and shows what a plain text would hide:
`Quoted.encode` writes quotes, backslashes and the usual controls with a backslash, characters
that cannot be seen by their number, and bytes that are no character as `\xHH`.
-/

namespace PipeShell.Text.Quoted

/-- The lower-case hexadecimal digits of a number. -/
def hexLower (n : Nat) : Bytes := Bytes.ofString (String.ofList (Nat.toDigits 16 n))

/-- The two upper-case hexadecimal digits of a byte. -/
def hexByte (b : UInt8) : Bytes :=
  let digit (n : Nat) : UInt8 := UInt8.ofNat (if n < 10 then 0x30 + n else 0x37 + n)
  [digit (b.toNat / 16), digit (b.toNat % 16)]

/-- A character as it stands between the quotes. -/
def encodeChar (c : Char) : Bytes :=
  match c with
  | '\x00' => Bytes.ofString "\\0"
  | '\t' => Bytes.ofString "\\t"
  | '\n' => Bytes.ofString "\\n"
  | '\r' => Bytes.ofString "\\r"
  | '"' => Bytes.ofString "\\\""
  | '\\' => Bytes.ofString "\\\\"
  | c =>
    if isUnprintable c then Bytes.ofString "\\u\x7b" ++ hexLower c.toNat ++ Bytes.ofString "\x7d"
    else String.utf8EncodeChar c

/-- A piece of a byte string as it stands between the quotes. -/
def encodePiece (p : Utf8.Piece) : Bytes :=
  if p.wellFormed then encodeChar p.char
  else p.bytes.flatMap fun b => Bytes.ofString "\\x" ++ hexByte b

/-- The byte string between quotes. -/
def encode (bs : Bytes) : Bytes := 0x22 :: (Utf8.pieces bs).flatMap encodePiece ++ [0x22]

end PipeShell.Text.Quoted
