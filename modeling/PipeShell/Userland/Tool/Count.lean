import PipeShell.Userland.Tool.Cat

/-!
# Counting

`wc` counts the lines, words and bytes of its inputs and measures their longest lines.
`Counts.Progress.read` counts a text from a state on; a word is begun by a byte that can be seen.
-/

namespace PipeShell.Tool

open Calling (call)
open Printing

/-! ## Counts -/

/-- What is counted in a text. -/
structure Counts where
  lines : Nat
  words : Nat
  bytes : Nat
  /-- The columns of the longest line. -/
  longest : Nat
deriving DecidableEq, Repr

namespace Counts

/-- The counts of nothing. -/
def none : Counts := ⟨0, 0, 0, 0⟩

/-- The counts of two texts together. -/
def add (a b : Counts) : Counts :=
  ⟨a.lines + b.lines, a.words + b.words, a.bytes + b.bytes, max a.longest b.longest⟩

/-- Where counting is: what was counted, the column, and whether a word has begun. -/
structure Progress where
  counts : Counts
  column : Nat
  inWord : Bool

/-- Nothing was counted. -/
def Progress.start : Progress := ⟨none, 0, false⟩

/-- The progress after the end of a line. -/
def Progress.endLine (p : Progress) : Progress :=
  { p with
    counts := { p.counts with longest := max p.counts.longest p.column }
    column := 0
    inWord := false }

/-- The progress after a byte. -/
def Progress.next (p : Progress) (b : UInt8) : Progress :=
  let p := { p with counts := { p.counts with bytes := p.counts.bytes + 1 } }
  if b == 0x0A then { p.endLine with
    counts := { p.endLine.counts with lines := p.counts.lines + 1 } }
  else if b == 0x0D || b == 0x0C then p.endLine
  else if b == 0x09 then { p with column := p.column + (8 - p.column % 8), inWord := false }
  else if b == 0x20 then { p with column := p.column + 1, inWord := false }
  else if b == 0x0B then { p with inWord := false }
  else if Shown.isVisible b then
    { counts := if p.inWord then p.counts else { p.counts with words := p.counts.words + 1 }
      column := p.column + 1
      inWord := true }
  else p

/-- The progress after a text. -/
def Progress.read (p : Progress) (data : Bytes) : Progress := data.foldl Progress.next p

end Counts

/-! ## wc -/

/-- Which counts are shown. -/
structure CountChoice where
  lines : Bool
  words : Bool
  chars : Bool
  bytes : Bool
  longest : Bool

namespace CountChoice

/-- The counts that options ask for. -/
def ofArguments (a : Arguments) : CountChoice :=
  if a.hasAny ["l", "w", "m", "c", "L"] then ⟨a.has "l", a.has "w", a.has "m", a.has "c", a.has "L"⟩
  else ⟨true, true, false, true, false⟩

/-- The counts that are shown, in order. -/
def chosen (c : CountChoice) (counts : Counts) : List Nat :=
  (if c.lines then [counts.lines] else []) ++ (if c.words then [counts.words] else []) ++
    (if c.chars then [counts.bytes] else []) ++ (if c.bytes then [counts.bytes] else []) ++
    (if c.longest then [counts.longest] else [])

/-- How many counts are shown. -/
def size (c : CountChoice) : Nat := (c.chosen .none).length

/-- Whether only the number of bytes is shown. -/
def isSize (c : CountChoice) : Bool :=
  c.bytes && !c.lines && !c.words && !c.chars && !c.longest

/-- A line of counts, each at the right of a column of a width. -/
def line (c : CountChoice) (width : Nat) (counts : Counts) (name : Option Bytes) : Bytes :=
  Text.joinWith [0x20] ((c.chosen counts).map fun n => rightAligned width (Bytes.ofNat n)) ++
    (match name with
      | some name => 0x20 :: (if name.contains 0x0A then Shown.plain name else name)
      | none => []) ++ [0x0A]

end CountChoice

/-- The total size of the inputs that are files, and the least width of columns, which is seven if
there is an input of another kind. -/
def inputSizes : List Bytes → Program (Nat × Nat)
  | [] => return (0, 1)
  | name :: names => do
    let status ← if name == dash then (·.map (·.1)) <$> call (.statusFd Fd.stdin)
      else call (.status name)
    let (total, least) ← inputSizes names
    match status with
    | .ok s => return if s.kind == .regular then (total + s.size, least) else (total, 7)
    | .error _ => return (total, least)

/-- The width of the columns. -/
def countWidth (choice : CountChoice) (names : List Bytes) : Program Nat := do
  if names.length == 1 && choice.size == 1 then return 1
  let (total, least) ← inputSizes names
  return max (Bytes.ofNat total).length least

/-- The number of bytes that are left in an open file, if its size tells it. The size of a file that
fills its last page is not trusted. -/
def sizeLeft? (fd : Fd) : Program (Option Nat) := do
  match ← call (.statusFd fd) with
  | .error _ => return none
  | .ok (status, offset) =>
    return if status.kind == .regular && status.size % 4096 != 0 then some (status.size - offset)
      else none

/-- Counts an open file. -/
def countFile (choice : CountChoice) (fd : Fd) : Printing (Counts × Option Errno) := do
  let known ← if choice.isSize then lift (sizeLeft? fd) else pure none
  match known with
  | some n => return (⟨0, 0, n, 0⟩, none)
  | none =>
    let (p, e) ← eachBlock fd Calling.blockSize (fun (p : Counts.Progress) block =>
      return (p.read block, true)) Calling.patience .start
    return (p.endLine.counts, e)

variable (self : Bytes)

/-- Prints a line at once. -/
def printLine (line : Bytes) : Printing Unit := do
  print line
  let _ ← flush
  return ()

/-- Counts the inputs; gives the counts of all of them and whether all went well. -/
def countInputs (choice : CountChoice) (width : Nat) (named : Bool) (total : Counts)
    (fine : Bool) : List Bytes → Printing (Counts × Bool)
  | [] => return (total, fine)
  | name :: names => do
    match ← lift (openInput name) with
    | .error e =>
      complain (complaint self (Shown.plain name) e)
      countInputs choice width named total false names
    | .ok fd =>
      let (counts, e) ← countFile choice fd
      if let some e := e then
        complain (complaint self (if named then Shown.plain name else inputName dash) e)
      printLine (choice.line width counts (if named then some name else none))
      lift (closeInput name fd)
      countInputs choice width named (total.add counts) (fine && e.isNone) names

/-- Counts the lines, words and bytes of its inputs. -/
def wc (args : List Bytes) : Program Nat :=
  withArguments self
    [flag "c" "bytes", flag "l" "lines", flag "L" "max-line-length", flag "m" "chars",
      flag "w" "words"] 1 args fun a =>
  Printing.toProgram self 1 do
    let choice := CountChoice.ofArguments a
    let names := inputs a.operands
    let width ← lift (countWidth choice names)
    let (total, fine) ← countInputs self choice width (!a.operands.isEmpty) .none true names
    if 1 < names.length then printLine (choice.line width total (some (text "total")))
    closeStdin self dash 1 names
    return if fine then 0 else 1

end PipeShell.Tool
