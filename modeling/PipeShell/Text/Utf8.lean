/-!
# UTF-8 byte strings

Lines, words, file names and file contents are byte strings (`Bytes`), and nothing promises that
they are valid UTF-8. `Utf8.pieces` cuts a byte string into well-formed characters and into the
longest prefixes of ill-formed ones. Everything else is read off that cut: `Utf8.isValid`, the
characters of a text (`Utf8.chars`), and `Utf8.scrub`, which is how a byte string is shown in a
message: each ill-formed piece becomes U+FFFD.
-/

namespace PipeShell

/-- Lines, words, file names and file contents. -/
abbrev Bytes := List UInt8

/-- The UTF-8 bytes of a text. -/
def Bytes.ofString (s : String) : Bytes := s.toUTF8.toList

/-- The decimal digits of a number. -/
def Bytes.ofNat (n : Nat) : Bytes := Bytes.ofString (toString n)

namespace Utf8

/-! ## Cutting a byte string -/

/-- A maximal part of a byte string that is one character or the beginning of none. -/
structure Piece where
  /-- The bytes of the part, never empty. -/
  bytes : Bytes
  /-- Whether they are the encoding of a character. -/
  wellFormed : Bool
deriving DecidableEq, Repr

/-- How many of the first `n` bytes continue a character, the first of them between `lo` and
`hi`. -/
def continuation (lo hi : UInt8) : Nat → Bytes → Nat
  | 0, _ => 0
  | _ + 1, [] => 0
  | n + 1, b :: rest => if lo ≤ b && b ≤ hi then continuation 0x80 0xBF n rest + 1 else 0

/-- What may follow the first byte of a character: the range of the second byte and the number of
bytes after the first. Overlong forms, surrogates and numbers above U+10FFFF are left out. -/
def tailOf (b : UInt8) : Option (UInt8 × UInt8 × Nat) :=
  if b < 0x80 then some (0x80, 0xBF, 0)
  else if b < 0xC2 then none
  else if b < 0xE0 then some (0x80, 0xBF, 1)
  else if b == 0xE0 then some (0xA0, 0xBF, 2)
  else if b == 0xED then some (0x80, 0x9F, 2)
  else if b < 0xF0 then some (0x80, 0xBF, 2)
  else if b == 0xF0 then some (0x90, 0xBF, 3)
  else if b < 0xF4 then some (0x80, 0xBF, 3)
  else if b == 0xF4 then some (0x80, 0x8F, 3)
  else none

/-- The bytes after the first one `b` that belong to its piece, and whether they complete it. -/
def extent (b : UInt8) (rest : Bytes) : Nat × Bool :=
  match tailOf b with
  | none => (0, false)
  | some (lo, hi, n) =>
    let k := continuation lo hi n rest
    (k, k == n)

/-- The parts of a byte string, in order. -/
def pieces : Bytes → List Piece
  | [] => []
  | b :: rest =>
    let e := extent b rest
    ⟨b :: rest.take e.1, e.2⟩ :: pieces (rest.drop e.1)
termination_by bs => bs.length
decreasing_by
  simp only [List.length_drop, List.length_cons]
  omega

/-! ## Validity and display -/

/-- Whether the bytes are the UTF-8 encoding of a text. -/
def isValid (bs : Bytes) : Bool := (pieces bs).all (·.wellFormed)

/-- The encoding of U+FFFD, which stands for bytes that are no character. -/
def replacement : Bytes := [0xEF, 0xBF, 0xBD]

/-- A piece as a message shows it. -/
def Piece.shown (p : Piece) : Bytes := if p.wellFormed then p.bytes else replacement

/-- The bytes as a message shows them: every ill-formed piece becomes U+FFFD. -/
def scrub (bs : Bytes) : Bytes := (pieces bs).flatMap Piece.shown

/-! ## Characters -/

/-- The bits that a byte after the first one adds to a code point. -/
def pushBits (n : Nat) (b : UInt8) : Nat := n * 64 + (b.toNat % 64)

/-- The code point that a well-formed piece encodes. -/
def codePoint : Bytes → Nat
  | [] => 0
  | b :: rest =>
    let high := if b < 0x80 then b.toNat
      else if b < 0xE0 then b.toNat % 32
      else if b < 0xF0 then b.toNat % 16
      else b.toNat % 8
    rest.foldl pushBits high

/-- The character of a piece; U+FFFD for one that is ill-formed. -/
def Piece.char (p : Piece) : Char :=
  if p.wellFormed then Char.ofNat (codePoint p.bytes) else '\uFFFD'

/-- The characters of a byte string, one U+FFFD for each ill-formed piece. -/
def chars (bs : Bytes) : List Char := (pieces bs).map Piece.char

/-- The UTF-8 bytes of a list of characters. -/
def encode (cs : List Char) : Bytes := cs.flatMap String.utf8EncodeChar

end Utf8

end PipeShell
