import PipeShell.Text.Utf8

/-!
# Tokens of a command line

A line is read from left to right, and all that the reader keeps is the part not yet consumed.
`Token.next` takes one token off it; `Token.peek` and `Token.atEnd` look ahead, which consumes
blanks and nothing else. Words are plain runs of bytes: there is no quoting and no escape.
-/

namespace PipeShell

/-- A token of a command line. -/
inductive Token
  | word (bytes : Bytes)
  | pipe
  | less
  | greater
  /-- The end of the line. -/
  | done
deriving DecidableEq, Repr

namespace Token

/-! ## Classes of bytes -/

/-- Space, tab, carriage return, line feed and vertical tab separate words. -/
def isBlank (b : UInt8) : Bool :=
  b == 0x20 || b == 0x09 || b == 0x0D || b == 0x0A || b == 0x0B

/-- The token that a symbol stands for. -/
def symbol? (b : UInt8) : Option Token :=
  if b == 0x7C then some pipe
  else if b == 0x3C then some less
  else if b == 0x3E then some greater
  else none

/-- Words are made of the bytes that are neither blanks nor symbols. -/
def isWordByte (b : UInt8) : Bool := !isBlank b && (symbol? b).isNone

/-- How a token is spelled on a line. -/
def spelling : Token → Bytes
  | word w => w
  | pipe => [0x7C]
  | less => [0x3C]
  | greater => [0x3E]
  | done => []

/-- A token as an error message names it. -/
def describe : Token → Bytes
  | done => Bytes.ofString "end of input"
  | t => 0x60 :: Utf8.scrub t.spelling ++ [0x60]

/-! ## Reading tokens -/

/-- The line without the blanks it starts with. -/
def skipBlanks (line : Bytes) : Bytes := line.dropWhile isBlank

/-- The first token of a line and the rest, from which leading blanks are removed. -/
def next (line : Bytes) : Token × Bytes :=
  match skipBlanks line with
  | [] => (done, [])
  | b :: rest =>
    match symbol? b with
    | some t => (t, skipBlanks rest)
    | none => (word (b :: rest.takeWhile isWordByte), skipBlanks (rest.dropWhile isWordByte))

/-- Whether the first byte that is no blank is one of `symbols`, and the line from that byte on. -/
def peek (symbols : Bytes) (line : Bytes) : Bool × Bytes :=
  match skipBlanks line with
  | [] => (false, [])
  | b :: rest => (symbols.contains b, b :: rest)

/-- Whether only blanks are left, and the line without its leading blanks. -/
def atEnd (line : Bytes) : Bool × Bytes := ((skipBlanks line).isEmpty, skipBlanks line)

theorem length_skipBlanks_le (line : Bytes) : (skipBlanks line).length ≤ line.length :=
  (List.dropWhile_sublist isBlank).length_le

/-- Every token but the end takes at least one byte off the line. -/
theorem length_next_lt {line : Bytes} (h : (next line).1 ≠ done) :
    (next line).2.length < line.length := by
  have hs := length_skipBlanks_le line
  unfold next at h ⊢
  split at h
  · exact absurd rfl h
  · next b rest he =>
    rw [he] at hs
    simp only [List.length_cons] at hs
    split
    · exact Nat.lt_of_le_of_lt (length_skipBlanks_le rest) hs
    · have hd := (List.dropWhile_sublist isWordByte (l := rest)).length_le
      exact Nat.lt_of_le_of_lt (Nat.le_trans (length_skipBlanks_le _) hd) hs

theorem length_next_le (line : Bytes) : (next line).2.length ≤ line.length := by
  by_cases h : (next line).1 = done
  · unfold next at h ⊢
    split
    · exact Nat.zero_le _
    · next b rest he =>
      have hs := length_skipBlanks_le line
      rw [he] at hs
      simp only [List.length_cons] at hs
      split
      · exact Nat.le_trans (length_skipBlanks_le rest) (by omega)
      · have hd := (List.dropWhile_sublist isWordByte (l := rest)).length_le
        exact Nat.le_trans (Nat.le_trans (length_skipBlanks_le _) hd) (by omega)
  · exact Nat.le_of_lt (length_next_lt h)

theorem length_peek_le (symbols line : Bytes) : (peek symbols line).2.length ≤ line.length := by
  have hs := length_skipBlanks_le line
  unfold peek
  split
  · exact Nat.zero_le _
  · next b rest he => rw [he] at hs; exact hs

/-- Where looking ahead finds a symbol, the next token is that symbol's. -/
theorem next_ne_done_of_peek {symbols line : Bytes} (h : (peek symbols line).1 = true) :
    (next line).1 ≠ done := by
  cases he : skipBlanks line with
  | nil => simp [peek, he] at h
  | cons b rest =>
    simp only [next, he]
    split
    · next t ht =>
      unfold symbol? at ht
      repeat' split at ht
      all_goals simp_all
      all_goals subst ht
      all_goals simp
    · simp

/-- The tokens of a line up to and including its end. -/
def all (line : Bytes) : List Token :=
  if _h : (next line).1 = done then [done] else (next line).1 :: all (next line).2
termination_by line.length
decreasing_by exact length_next_lt _h

end Token

end PipeShell
