import PipeShell.Userland.Tool.Printing

/-!
# Fields of lines

`cut` shows chosen bytes or fields of each line, which a list of `Span`s says, and `paste` puts the
lines of its inputs side by side.
-/

namespace PipeShell.Tool

open Calling (call)
open Printing

/-! ## Spans -/

/-- Positions from one to another, counted from one; all from the first on if there is no last. -/
structure Span where
  first : Nat
  last : Option Nat
deriving DecidableEq, Repr

namespace Span

/-- Whether a position is in the span. -/
def contains (s : Span) (n : Nat) : Bool := s.first ≤ n && s.last.all (n ≤ ·)

/-- How positions are called in messages. -/
structure Wording where
  fromOne : String
  range : String
  tooLarge : String
  value : String

/-- Positions of bytes. -/
def byteWording : Wording :=
  ⟨"byte/character positions are numbered from 1", "invalid byte or character range",
    "byte/character offset ", "invalid byte/character position "⟩

/-- Positions of fields. -/
def fieldWording : Wording :=
  ⟨"fields are numbered from 1", "invalid field range", "field number ", "invalid field value "⟩

/-- The number that digits write, which must not be too large. -/
def number (w : Wording) (digits : Bytes) : Except Bytes Nat :=
  let n := Format.natOf digits
  if Format.wordCount - 1 ≤ n then
    .error (text w.tooLarge ++ Shown.marked digits ++ text " is too large")
  else .ok n

/-- The span that a part of a list writes; `rest` is the list from the part on. -/
def read (w : Wording) (part rest : Bytes) : Except Bytes Span := do
  let left := part.takeWhile Format.isDigit
  let n ← number w left
  match part.drop left.length with
  | [] => if n == 0 then .error (text w.fromOne) else return ⟨n, some n⟩
  | 0x2D :: right =>
    if !left.isEmpty && n == 0 then .error (text w.fromOne)
    let digits := right.takeWhile Format.isDigit
    let m ← number w digits
    match right.drop digits.length with
    | [] =>
      if left.isEmpty && digits.isEmpty then .error (text "invalid range with no endpoint: -")
      let first := if left.isEmpty then 1 else n
      if digits.isEmpty then return ⟨first, none⟩
      if m < first then .error (text "invalid decreasing range")
      return ⟨first, some m⟩
    | 0x2D :: _ => .error (text w.range)
    | _ => .error (text w.value ++ Shown.marked (rest.drop (left.length + 1 + digits.length)))
  | _ => .error (text w.value ++ Shown.marked (rest.drop left.length))

/-- The spans that the parts of a list write; `rest` is the list from the first of them on. -/
def readAll (w : Wording) : List Bytes → Bytes → Except Bytes (List Span)
  | [], _ => .ok []
  | part :: parts, rest => do
    let span ← read w part rest
    return span :: (← readAll w parts (rest.drop (part.length + 1)))

/-- The spans in order, those that meet joined to one; the last one that was reached comes first
in `done`. -/
def merge : (done : List Span) → List Span → List Span
  | done, [] => done.reverse
  | [], s :: spans => merge [s] spans
  | d :: done, s :: spans =>
    if d.last.all (s.first ≤ ·) then
      let last := match d.last, s.last with
        | some a, some b => some (max a b)
        | _, _ => none
      merge ({ d with last } :: done) spans
    else merge (s :: d :: done) spans

/-- The positions that are in none of the spans, from a position on. -/
def complement : Nat → List Span → List Span
  | next, [] => [⟨next, none⟩]
  | next, s :: spans =>
    let gap : List Span := if next < s.first then [⟨next, some (s.first - 1)⟩] else []
    match s.last with
    | none => gap
    | some last => gap ++ complement (last + 1) spans

/-- The spans that a list writes, which commas or blanks separate. -/
def ofList (w : Wording) (inverted : Bool) (word : Bytes) : Except Bytes (List Span) := do
  let commas := word.map fun b => if b == 0x20 || b == 0x09 then 0x2C else b
  let spans ← readAll w (Text.splitOn 0x2C commas) word
  let sorted := spans.mergeSort fun a b => a.first ≤ b.first
  let merged := merge [] sorted
  return if inverted then complement 1 merged else merged

end Span

/-! ## cut -/

/-- What `cut` is asked for. -/
structure CutRequest where
  inFields : Bool
  spans : List Span
  tab : UInt8
  /-- What separates the parts that are shown; by default fields are separated as they were. -/
  separator : Option Bytes
  /-- Whether lines without a separator are left out. -/
  onlySeparated : Bool
  ending : UInt8

namespace CutRequest

/-- The bytes of a line in the spans, each span by itself. -/
def pieces (spans : List Span) (line : Bytes) : List Bytes :=
  (spans.map fun s =>
    let rest := line.drop (s.first - 1)
    match s.last with
    | some last => rest.take (last + 1 - s.first)
    | none => rest).filter fun piece => !piece.isEmpty

/-- What is shown of a line. -/
def shown (r : CutRequest) (line : Bytes) : Bytes :=
  if r.inFields then
    let fields := Text.splitOn r.tab line
    if fields.length == 1 then if r.onlySeparated then [] else line ++ [r.ending]
    else
      let kept := (fields.zipIdx 1).filter fun f => r.spans.any (·.contains f.2)
      Text.joinWith (r.separator.getD [r.tab]) (kept.map (·.1)) ++ [r.ending]
  else Text.joinWith (r.separator.getD []) (pieces r.spans line) ++ [r.ending]

/-- The request that options make, or what is wrong with them. -/
def ofArguments (a : Arguments) : Except Bytes CutRequest := do
  let lists := a.options.filter fun o => ["b", "c", "f"].contains o.1
  if 1 < lists.length then .error (text "only one list may be specified")
  if (a.words "d").any fun word => 1 < word.length then
    .error (text "the delimiter must be a single character")
  match lists with
  | [] => .error (text "you must specify a list of bytes, characters, or fields")
  | (key, word) :: _ =>
    let inFields := key == "f"
    if a.has "d" && !inFields then
      .error (text "an input delimiter may be specified only when operating on fields")
    if a.has "s" && !inFields then
      .error (text "suppressing non-delimited lines makes sense\n\tonly when operating on fields")
    let wording := if inFields then Span.fieldWording else Span.byteWording
    let spans ← Span.ofList wording (a.has "complement") (word.getD [])
    return {
      inFields, spans
      tab := match a.word? "d" with
        | some word => word.headD 0
        | none => 0x09
      separator := (a.word? "output-delimiter").map fun word => if word.isEmpty then [0] else word
      onlySeparated := a.has "s"
      ending := if a.has "z" then 0 else 0x0A }

end CutRequest

variable (self : Bytes)

/-- Shows what `change` makes of the lines of an open input; gives whether all went well. -/
def changeLines (ending : UInt8) (change : Bytes → Bytes) (name : Bytes) (fd : Fd) :
    Printing Bool := do
  let step (_ : Unit) (line : Bytes) : Unit × Bytes := ((), change line)
  let (_, e) ← eachLine fd ending step step ()
  if let some e := e then complain (complaint self (Shown.plain name) e)
  return e.isNone

/-- Shows the inputs as `body` does, one after the other. -/
def showInputs (operands : List Bytes) (body : Bytes → Fd → Printing Bool) : Printing Nat := do
  let names := inputs operands
  let fine ← eachInput self (fun name e => complaint self (Shown.plain name) e) body names
  closeStdin self dash 1 names
  return if fine then 0 else 1

/-- Shows parts of the lines of its inputs. -/
def cut (args : List Bytes) : Program Nat :=
  withArguments self
    [taking "b" "bytes", taking "c" "characters", taking "f" "fields", taking "d" "delimiter",
      flag "n" "", flag "s" "only-delimited", flag "z" "zero-terminated", flag "" "complement",
      taking "" "output-delimiter"] 1 args fun a =>
  match CutRequest.ofArguments a with
  | .error fault => misuse self 1 fault
  | .ok r => Printing.toProgram self 1
      (showInputs self a.operands (changeLines self r.ending r.shown))

/-! ## paste -/

/-- The separators that a word lists, each of which is a byte or nothing; an error says that the
word ends in the middle of one. -/
def separatorList : Bytes → Except Unit (List Bytes)
  | [] => .ok []
  | [0x5C] => .error ()
  | 0x5C :: b :: rest => do
    let separator : Bytes :=
      if b == 0x30 then []
      else if b == 0x62 then [0x08]
      else if b == 0x66 then [0x0C]
      else if b == 0x6E then [0x0A]
      else if b == 0x72 then [0x0D]
      else if b == 0x74 then [0x09]
      else if b == 0x76 then [0x0B]
      else [b]
    return separator :: (← separatorList rest)
  | b :: rest => do return [b] :: (← separatorList rest)

/-- Texts with separators between them, the list of which is used again and again. -/
def interleave (separators : List Bytes) (parts : List Bytes) : Bytes :=
  let between := parts.length - 1
  let cycle := if separators.isEmpty then List.replicate between [] else
    ((List.replicate (between / separators.length + 1) separators).flatten).take between
  match parts with
  | [] => []
  | first :: rest => first ++ ((cycle.zip rest).flatMap fun (s, part) => s ++ part)

/-- The lines of a text, without their ends. -/
def contentLines (ending : UInt8) (data : Bytes) : List Bytes :=
  let parts := Text.splitOn ending data
  if parts.getLast? == some [] then parts.dropLast else parts

/-- An input of `paste`. -/
inductive PasteSource
  /-- Standard input, which is there once. -/
  | shared
  /-- A file with the lines to come. -/
  | apart (lines : List Bytes)

/-- The next line of each input, if there is one, and the inputs and the lines of standard input
after it. -/
def nextRow : List PasteSource → List Bytes → List (Option Bytes) × List PasteSource × List Bytes
  | [], standard => ([], [], standard)
  | .shared :: sources, standard =>
    let (row, sources, rest) := nextRow sources standard.tail
    (standard.head? :: row, .shared :: sources, rest)
  | .apart lines :: sources, standard =>
    let (row, sources, rest) := nextRow sources standard
    (lines.head? :: row, .apart lines.tail :: sources, rest)

/-- Shows the lines of the inputs side by side; `fuel` bounds their number. -/
def pasteRows (separators : List Bytes) (ending : UInt8) :
    Nat → List PasteSource → List Bytes → Printing Unit
  | 0, _, _ => return ()
  | fuel + 1, sources, standard => do
    let (row, sources, standard) := nextRow sources standard
    if row.any Option.isSome then
      print (interleave separators (row.map fun line => line.getD []) ++ [ending])
      pasteRows separators ending fuel sources standard

/-- The lines of an input that is open, and whether reading went well. -/
def linesOfOpen (ending : UInt8) (name : Bytes) (fd : Fd) : Printing (List Bytes × Bool) := do
  let (data, e) ← Printing.content fd
  if let some e := e then complain (complaint self (Shown.plain name) e)
  return (contentLines ending data, e.isNone)

/-- The inputs as they are opened. One that takes the place of standard input makes it impossible to
read that as well. -/
def openSources (names : List Bytes) : Printing (List (Bytes × Fd)) := do
  let opened ← names.mapM fun name => do
    if name == dash then return (name, Fd.stdin)
    match ← call (.openFile name .reading 0) with
    | .error e => give 1 (complaint self (Shown.plain name) e)
    | .ok fd => return (name, fd)
  if names.contains dash && opened.any fun s => s.1 != dash && s.2 == Fd.stdin then
    give 1 (self ++ text ": standard input is closed")
  return opened

/-- The inputs with their lines, and whether reading went well. -/
def pasteSources (ending : UInt8) (fine : Bool) :
    List (Bytes × Fd) → Printing (List PasteSource × Bool)
  | [] => return ([], fine)
  | (name, fd) :: inputs => do
    let (source, read) ← if name == dash then pure (.shared, true) else do
      let (lines, read) ← linesOfOpen self ending name fd
      lift (Calling.close fd)
      pure (PasteSource.apart lines, read)
    let (sources, fine) ← pasteSources ending (fine && read) inputs
    return (source :: sources, fine)

/-- The number of lines of an input that is no other one's. -/
def PasteSource.count : PasteSource → Nat
  | shared => 0
  | apart lines => lines.length

/-- Puts lines side by side: those of different inputs, or those of each input. -/
def paste (args : List Bytes) : Program Nat :=
  withArguments self
    [taking "d" "delimiters", flag "s" "serial", flag "z" "zero-terminated"] 1 args fun a =>
  let word := (a.word? "d").getD [0x09]
  match separatorList (if word.isEmpty then text "\\0" else word) with
  | .error () => refuse self 1
      (text "delimiter list ends with an unescaped backslash: " ++ word)
  | .ok separators =>
    let ending : UInt8 := if a.has "z" then 0 else 0x0A
    Printing.toProgram self 1 do
      if a.has "s" then
        showInputs self a.operands fun name fd => do
          let (data, e) ← Printing.content fd
          print (interleave separators (contentLines ending data) ++ [ending])
          if let some e := e then complain (complaint self (Shown.plain name) e)
          return e.isNone
      else
        let names := inputs a.operands
        let opened ← openSources self names
        let (standard, fine) ← if names.contains dash then linesOfOpen self ending dash Fd.stdin
          else pure ([], true)
        let (sources, fine) ← pasteSources self ending fine opened
        let count := sources.foldl (fun n s => n + s.count) (standard.length + 1)
        pasteRows separators ending count sources standard
        closeStdin self dash 1 names
        return if fine then 0 else 1

end PipeShell.Tool
