import PipeShell.Text.Utf8

/-!
# White space

Three notions of white space meet in this shell. The tokens of a line are separated by
`Token.isBlank`. Built-in commands are recognised after trimming `isAsciiBlank`, which has the form
feed and lacks the vertical tab. Settings and the history look at characters and use the Unicode
property White_Space (`isBlankChar`).
-/

namespace PipeShell

namespace Text

/-- Space, tab, line feed, form feed and carriage return. -/
def isAsciiBlank (b : UInt8) : Bool :=
  b == 0x20 || b == 0x09 || b == 0x0A || b == 0x0C || b == 0x0D

/-- The list without the elements at both ends that satisfy `p`. -/
def trimBy {α : Type} (p : α → Bool) (l : List α) : List α :=
  (((l.dropWhile p).reverse).dropWhile p).reverse

/-- A line without the ASCII white space at both ends. -/
def trimAscii (line : Bytes) : Bytes := trimBy isAsciiBlank line

/-- The ranges of the Unicode property White_Space. -/
def blankRanges : List (Nat × Nat) :=
  [(0x09, 0x0D), (0x20, 0x20), (0x85, 0x85), (0xA0, 0xA0), (0x1680, 0x1680), (0x2000, 0x200A),
   (0x2028, 0x2029), (0x202F, 0x202F), (0x205F, 0x205F), (0x3000, 0x3000)]

/-- Whether a character has the Unicode property White_Space. -/
def isBlankChar (c : Char) : Bool :=
  blankRanges.any fun r => r.1 ≤ c.toNat && c.toNat ≤ r.2

/-- A text without the white space at both ends. -/
def trim (cs : List Char) : List Char := trimBy isBlankChar cs

/-- A text without the white space at its end. -/
def trimEnd (cs : List Char) : List Char := (cs.reverse.dropWhile isBlankChar).reverse

/-- Whether a text holds nothing but white space. -/
def isBlank (cs : List Char) : Bool := cs.all isBlankChar

end Text

end PipeShell
