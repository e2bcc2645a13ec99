import PipeShell.Userland.Tool.Cat
import PipeShell.Userland.Tool.Fields
import PipeShell.Userland.Tool.Quantity
import PipeShell.Userland.Tool.Regex

/-!
# The layout of lines

`fold` breaks long lines, `expand` and `unexpand` replace tabs by spaces and the other way round,
`nl` numbers lines, `tac` turns their order round and `rev` the order of the bytes in each.
-/

namespace PipeShell.Tool

open Calling (call)
open Printing

variable (self : Bytes)

/-- What is wrong with a number that has to be between one and a greatest one. -/
def checkPositive (subject : String) (greatest : Nat) (word : Bytes) : Option (Bytes × Bool) :=
  match Quantity.read "" word with
  | .error fault => some (Quantity.complaint subject word fault, false)
  | .ok n =>
    if n == 0 then
      some (text (subject ++ ": ") ++ Shown.marked word ++ text ": Numerical result out of range",
        false)
    else if greatest < n then some (Quantity.complaint subject word .tooLarge, false)
    else none

/-! ## fold -/

/-- The column after a byte. -/
def columnAfter (inBytes : Bool) (column : Nat) (b : UInt8) : Nat :=
  if inBytes then column + 1
  else if b == 0x08 then column - 1
  else if b == 0x0D then 0
  else if b == 0x09 then column + (8 - column % 8)
  else column + 1

/-- What `fold` is asked for. -/
structure FoldRequest where
  width : Nat
  inBytes : Bool
  /-- Whether lines are broken after blanks if they have some. -/
  atBlanks : Bool

namespace FoldRequest

/-- The column after a text. -/
def columnOf (r : FoldRequest) (line : Bytes) : Nat := line.foldl (columnAfter r.inBytes) 0

/-- The line at hand and what was put out, both in reverse, after a byte came that is no line feed;
`fuel` bounds the number of breaks. -/
def push (r : FoldRequest) (b : UInt8) : Nat → (line out : Bytes) → Bytes × Bytes
  | 0, line, out => (b :: line, out)
  | fuel + 1, line, out =>
    if columnAfter r.inBytes (r.columnOf line.reverse) b ≤ r.width then (b :: line, out)
    else
      let tail := line.takeWhile fun c => c != 0x20 && c != 0x09
      if r.atBlanks && tail.length < line.length then
        r.push b fuel tail (0x0A :: (line.drop tail.length ++ out))
      else if line.isEmpty then ([b], out)
      else r.push b fuel [] (0x0A :: (line ++ out))

/-- The line at hand and what is put out when a text comes. -/
def next (r : FoldRequest) (line : Bytes) (data : Bytes) : Bytes × Bytes :=
  let (line, out) := data.foldl (fun (line, out) b =>
    if b == 0x0A then ([], 0x0A :: (line ++ out))
    else r.push b (line.length + 2) line out) (line, [])
  (line, out.reverse)

end FoldRequest

/-- Breaks lines that are too long. -/
def fold (args : List Bytes) : Program Nat :=
  let digit (d : Char) : Known := ⟨String.singleton d, "", .mayWord⟩
  withChecked self
    ([flag "b" "bytes", flag "s" "spaces", taking "w" "width"] ++ "0123456789".toList.map digit)
    false 1 (fun key word =>
      let number := if key == "w" then word else text key ++ word
      if key == "b" || key == "s" then none
      else checkPositive "invalid number of columns" (Quantity.greatest - 9) number) args fun a =>
  let width := match (a.options.filter fun o => o.1 != "b" && o.1 != "s").getLast? with
    | some (key, word) =>
      Format.natOf ((if key == "w" then [] else text key) ++ word.getD [])
    | none => 80
  let r : FoldRequest := ⟨width, a.has "b", a.has "s"⟩
  Printing.toProgram self 1 <| showInputs self a.operands fun name fd => do
    let (line, e) ← eachBlock fd Calling.blockSize (fun line block => do
      let (line, out) := r.next line block
      print out
      return (line, true)) Calling.patience []
    print line.reverse
    if let some e := e then complain (complaint self (Shown.plain name) e)
    return e.isNone

/-! ## Tab stops -/

/-- The columns where tabs end: some fixed ones, and after them multiples of a width, or multiples
counted from the last fixed one. -/
structure TabStops where
  fixed : List Nat
  multiples : Option Nat
  steps : Option Nat

namespace TabStops

/-- The next stop after a column, if there is one. -/
def next? (t : TabStops) (column : Nat) : Option Nat :=
  let after (from_ width : Nat) : Nat := column + (width - (column - from_) % width)
  match t.fixed, t.multiples, t.steps with
  | [], none, none => some (after 0 8)
  | [width], none, none => some (after 0 width)
  | fixed, multiples, steps =>
    (fixed.find? (column < ·)).orElse fun _ =>
      (multiples.map (after 0)).orElse fun _ => steps.map (after (fixed.getLastD 0))

/-- The stops that words list, before which `t` was read. -/
def read (t : TabStops) (word : Bytes) : Except Bytes TabStops :=
  let parts := Text.splitOn 0x2C (word.map fun b => if b == 0x20 || b == 0x09 then 0x2C else b)
  let rec go (t : TabStops) (rest : Bytes) : List Bytes → Except Bytes TabStops
    | [] => .ok t
    | part :: parts =>
      let digits := part.dropWhile fun b => b == 0x2F || b == 0x2B
      let sign := if digits.length < part.length then part.head? else none
      let number := digits.takeWhile Format.isDigit
      let n := Format.natOf number
      if number.length < digits.length then
        .error (text "tab size contains invalid character(s): " ++
          Shown.marked (rest.drop (part.length - digits.length + number.length)))
      else
        let t := if number.isEmpty then t
          else match sign with
            | some 0x2F => { t with multiples := some n }
            | some _ => { t with steps := some n }
            | none => { t with fixed := t.fixed ++ [n] }
        go t (rest.drop (part.length + 1)) parts
  go t word parts

/-- What is wrong with the stops. -/
def fault? (t : TabStops) : Option Bytes :=
  if t.fixed.contains 0 then some (text "tab size cannot be 0")
  else if (t.fixed.zip t.fixed.tail).any fun (a, b) => b ≤ a then
    some (text "tab sizes must be ascending")
  else none

/-- The stops that options ask for. -/
def ofArguments (a : Arguments) : Except Bytes TabStops := do
  let lists := a.options.filterMap fun o =>
    if o.1 == "t" then o.2
    else if (text o.1).all Format.isDigit && !o.1.isEmpty then some (text o.1 ++ o.2.getD [])
    else none
  let t ← lists.foldlM read ⟨[], none, none⟩
  let t := { t with
    multiples := t.multiples.filter (· != 0)
    steps := t.steps.filter (· != 0) }
  match t.fault? with
  | some fault => .error fault
  | none => return t

/-- The options that both tools know besides their own. -/
def options : List Known :=
  taking "t" "tabs" :: "0123456789".toList.map fun d => ⟨String.singleton d, "", .mayWord⟩

end TabStops

/-- A line with spaces in place of tabs, or only of those that no other byte comes before. -/
def expandLine (stops : TabStops) (initial : Bool) (line : Bytes) : Bytes :=
  let (out, _) := line.foldl (fun (out, column, converts) b =>
    if !converts then (b :: out, column, false)
    else if b == 0x09 then
      let next := (stops.next? column).getD (column + 1)
      (List.replicate (next - column) 0x20 ++ out, next, true)
    else
      let column := if b == 0x08 then column - 1 else column + 1
      (b :: out, column, !initial || b == 0x20)) ([], 0, true)
  out.reverse

/-- Where replacing blanks by tabs is in a line. -/
structure UnexpandProgress where
  out : Bytes
  column : Nat
  converts : Bool
  /-- The blanks that wait to be replaced. -/
  pending : Bytes
  /-- Whether the first of them came right before a tab stop. -/
  early : Bool
  afterBlank : Bool

namespace UnexpandProgress

/-- The progress with what waits and a byte put out. -/
def emit (p : UnexpandProgress) (all blank : Bool) (pending : Bytes) (b : UInt8) :
    UnexpandProgress :=
  let pending := if 1 < pending.length && p.early then 0x09 :: pending.tail else pending
  { p with
    out := b :: (pending.reverse ++ p.out)
    converts := p.converts && (all || blank)
    pending := []
    early := p.early && pending.isEmpty
    afterBlank := blank }

/-- The progress after a byte. -/
def next (stops : TabStops) (all : Bool) (p : UnexpandProgress) (b : UInt8) : UnexpandProgress :=
  let blank := b == 0x20 || b == 0x09
  if !p.converts then { p with out := b :: p.out }
  else if blank then
    match stops.next? p.column with
    | none => { p with converts := false }.emit all blank p.pending b
    | some stop =>
      if b == 0x09 then
        let pending : Bytes := if p.pending.isEmpty then [] else 0x09 :: p.pending.tail
        { p with column := stop }.emit all blank (pending.take (if p.early then 1 else 0)) b
      else
        let column := p.column + 1
        if p.afterBlank && column == stop then
          let pending : Bytes := 0x09 :: p.pending.tail
          { p with column }.emit all blank (pending.take (if p.early then 1 else 0)) 0x09
        else
          { p with
            column
            pending := p.pending ++ [b]
            early := p.early || column == stop
            afterBlank := true }
  else
    let column := if b == 0x08 then p.column - 1 else p.column + 1
    { p with column }.emit all blank p.pending b

/-- The start of a line. -/
def start : UnexpandProgress := ⟨[], 0, true, [], false, true⟩

end UnexpandProgress

/-- A line with tabs in place of blanks, or only of those that no other byte comes before. -/
def unexpandLine (stops : TabStops) (all : Bool) (line : Bytes) : Bytes :=
  let p := line.foldl (UnexpandProgress.next stops all) .start
  let pending := if 1 < p.pending.length && p.early then 0x09 :: p.pending.tail else p.pending
  (pending.reverse ++ p.out).reverse

/-- Shows what `change` makes of lines; only those that end with a line feed get one. -/
def retab (change : TabStops → Arguments → Bytes → Bytes) (own : List Known) (args : List Bytes) :
    Program Nat :=
  withArguments self (own ++ TabStops.options) 1 args fun a =>
  match TabStops.ofArguments a with
  | .error fault => refuse self 1 fault
  | .ok stops => Printing.toProgram self 1 <| showInputs self a.operands fun name fd => do
    let (_, e) ← eachLine fd 0x0A (fun _ line => ((), change stops a line ++ [0x0A]))
      (fun _ line => ((), change stops a line)) ()
    if let some e := e then complain (complaint self (Shown.plain name) e)
    return e.isNone

/-- Puts spaces in place of tabs. -/
def expand (args : List Bytes) : Program Nat :=
  retab self (fun stops a => expandLine stops (a.has "i")) [flag "i" "initial"] args

/-- Puts tabs in place of blanks. -/
def unexpand (args : List Bytes) : Program Nat :=
  retab self (fun stops a => unexpandLine stops
      (a.options.any (fun o => o.1 != "first-only") && !a.has "first-only"))
    [flag "a" "all", flag "" "first-only"] args

/-! ## nl -/

/-- Which lines get numbers. -/
inductive NumberStyle
  | all
  | filled
  | none
  | matching (r : Regex)

/-- How a number is put in its column. -/
inductive NumberFormat
  | left
  | right
  | zeros
deriving DecidableEq, Repr

/-- What `nl` is asked for. -/
structure NumberRequest where
  header : NumberStyle
  body : NumberStyle
  footer : NumberStyle
  /-- The two bytes that mark sections, which are written several times. -/
  mark : Bytes
  first : Int
  step : Int
  /-- How many empty lines count as one. -/
  joined : Nat
  keeps : Bool
  separator : Bytes
  width : Nat
  format : NumberFormat

namespace NumberRequest

/-- What `nl` does if it is not asked for anything. -/
def usual : NumberRequest :=
  ⟨.none, .filled, .none, text "\\:", 1, 1, 1, false, [0x09], 6, .right⟩

/-- The style that a word names. -/
def readStyle (section_ : String) (word : Bytes) : Except (Bytes × Bool) NumberStyle :=
  match word with
  | 0x61 :: _ => .ok .all
  | 0x74 :: _ => .ok .filled
  | 0x6E :: _ => .ok .none
  | 0x70 :: source =>
    match Regex.read source with
    | .ok (r, _) => .ok (.matching r)
    | .error fault => .error (text fault.message, false)
  | _ => .error (text ("invalid " ++ section_ ++ " numbering style: ") ++ Shown.marked word, true)

/-- An integer that a word writes. -/
def readInt (subject : String) (word : Bytes) : Except (Bytes × Bool) Int :=
  match Format.intOf? word with
  | some n => .ok n
  | none => .error (text (subject ++ ": ") ++ Shown.marked word, false)

/-- A positive number that a word writes. -/
def readPositive (subject : String) (word : Bytes) : Except (Bytes × Bool) Nat :=
  match checkPositive subject 0x7FFFFFFF word with
  | some fault => .error fault
  | none => .ok (Format.natOf (word.dropWhile fun b => !Format.isDigit b))

/-- The request with one more option. -/
def withOption (r : NumberRequest) (option : String × Option Bytes) :
    Except (Bytes × Bool) NumberRequest := do
  let word := option.2.getD []
  match option.1 with
  | "h" => return { r with header := ← readStyle "header" word }
  | "b" => return { r with body := ← readStyle "body" word }
  | "f" => return { r with footer := ← readStyle "footer" word }
  | "v" => return { r with first := ← readInt "invalid starting line number" word }
  | "i" => return { r with step := ← readInt "invalid line number increment" word }
  | "p" => return { r with keeps := true }
  | "l" => return { r with joined := ← readPositive "invalid line number of blank lines" word }
  | "s" => return { r with separator := word }
  | "w" => return { r with width := ← readPositive "invalid line number field width" word }
  | "d" => return { r with mark := if word.length == 1 then word ++ r.mark.drop 1 else word }
  | "n" =>
    if word == text "ln" then return { r with format := .left }
    else if word == text "rn" then return { r with format := .right }
    else if word == text "rz" then return { r with format := .zeros }
    else .error (text "invalid line numbering format: " ++ Shown.marked word, true)
  | _ => return r

/-- A number in its column, with the separator after it. -/
def number (r : NumberRequest) (n : Int) : Bytes :=
  let digits := Bytes.ofNat n.natAbs
  let sign : Bytes := if n < 0 then [0x2D] else []
  let padding (b : UInt8) : Bytes := List.replicate (r.width - sign.length - digits.length) b
  (match r.format with
    | .left => sign ++ digits ++ padding 0x20
    | .right => padding 0x20 ++ sign ++ digits
    | .zeros => sign ++ padding 0x30 ++ digits) ++ r.separator

/-- Where numbering is: the style at hand, the next number, and the empty lines before. -/
structure Progress where
  style : NumberStyle
  next : Int
  empty : Nat

/-- The style of the section that a line starts, if it starts one. -/
def section? (r : NumberRequest) (line : Bytes) : Option NumberStyle :=
  if r.mark.length < 2 then none
  else if line == r.mark ++ r.mark ++ r.mark then some r.header
  else if line == r.mark ++ r.mark then some r.body
  else if line == r.mark then some r.footer
  else none

/-- A line as it is shown, without its end. -/
def shown (r : NumberRequest) (p : Progress) (line : Bytes) : Progress × Bytes :=
  match r.section? line with
  | some style => ({ p with style, next := if r.keeps then p.next else r.first }, [])
  | none =>
    let blanks := List.replicate (r.width + r.separator.length) 0x20
    let numbered (p : Progress) : Progress × Bytes :=
      ({ p with next := p.next + r.step }, r.number p.next ++ line)
    let plain (p : Progress) : Progress × Bytes := (p, blanks ++ line)
    match p.style with
    | .none => plain p
    | .filled => if line.isEmpty then plain p else numbered p
    | .matching regex => if (regex.search? line).isSome then numbered p else plain p
    | .all =>
      if r.joined ≤ 1 then numbered p
      else if !line.isEmpty || p.empty + 1 == r.joined then numbered { p with empty := 0 }
      else plain { p with empty := p.empty + 1 }

end NumberRequest

/-- Numbers the lines of the inputs from some progress on. -/
def numberInputs (r : NumberRequest) (p : NumberRequest.Progress) (fine : Bool) :
    List Bytes → Printing Bool
  | [] => return fine
  | name :: names => do
    match ← lift (openInput name) with
    | .error e =>
      complain (complaint self (Shown.plain name) e)
      numberInputs r p false names
    | .ok fd =>
      let step (p : NumberRequest.Progress) (line : Bytes) : NumberRequest.Progress × Bytes :=
        let (p, out) := r.shown p line
        (p, out ++ [0x0A])
      let (p, e) ← eachLine fd 0x0A step step p
      if let some e := e then complain (complaint self (Shown.plain name) e)
      lift (closeInput name fd)
      numberInputs r p (fine && e.isNone) names

/-- Numbers the lines of its inputs. -/
def nl (args : List Bytes) : Program Nat :=
  withArguments self
    [taking "h" "header-numbering", taking "b" "body-numbering", taking "f" "footer-numbering",
      taking "v" "starting-line-number", taking "i" "line-increment", flag "p" "no-renumber",
      taking "l" "join-blank-lines", taking "s" "number-separator", taking "w" "number-width",
      taking "n" "number-format", taking "d" "section-delimiter"] 1 args fun a =>
  match a.options.foldlM NumberRequest.withOption .usual with
  | .error (fault, true) => misuse self 1 fault
  | .error (fault, false) => refuse self 1 fault
  | .ok r => Printing.toProgram self 1 do
    let names := inputs a.operands
    let fine ← numberInputs self r ⟨r.body, r.first, 0⟩ true names
    closeStdin self dash 1 names
    return if fine then 0 else 1

/-! ## tac and rev -/

/-- The places where a separator starts, the last one first; separators do not overlap. `place` is
that of the text, whose bytes come in reverse, as those of the separator do. -/
def separatorsBack (separator : Bytes) : Nat → (place : Nat) → Bytes → List Nat
  | 0, _, _ | _, _, [] => []
  | fuel + 1, place, b :: rest =>
    if separator.isPrefixOf (b :: rest) then
      let place := place - separator.length
      place :: separatorsBack separator fuel place ((b :: rest).drop separator.length)
    else separatorsBack separator fuel (place - 1) rest

/-- The parts between separators, the last one first, each with the separator after it, or before
it. -/
def partsBack (separator : Bytes) (before : Bool) (data : Bytes) : List Bytes :=
  let places := separatorsBack separator.reverse (data.length + 1) data.length data.reverse
  let cuts := if before then places else places.map (· + separator.length)
  let (parts, rest) := cuts.foldl (fun (parts, rest) cut =>
    (rest.drop cut :: parts, rest.take cut)) (([] : List Bytes), data)
  (rest :: parts).reverse

/-- Shows the parts of its inputs last one first. -/
def tac (args : List Bytes) : Program Nat :=
  withArguments self [flag "b" "before", flag "r" "regex", taking "s" "separator"] 1 args fun a =>
  let separator := match a.word? "s" with
    | some [] => [0]
    | some word => word
    | none => [0x0A]
  Printing.toProgram self 1 do
    let names := inputs a.operands
    let refused (name : Bytes) (e : Errno) : Bytes :=
      complaint self (text "failed to open " ++ Shown.quoted name ++ text " for reading") e
    let fine ← eachInput self refused (fun name fd => do
      let (data, e) ← Printing.content fd
      match e with
      | some e =>
        let shown := if name == dash then inputName name else Shown.plain name
        complain (complaint self (shown ++ text ": read error") e)
        return false
      | none =>
        print (partsBack separator (a.has "b") data).flatten
        return true) names
    closeStdin self dash 1 names
    return if fine then 0 else 1

/-- Shows the lines of its inputs with the bytes of each in reverse. In its complaints about inputs
it leaves out the directory that its name was called with. -/
def rev (args : List Bytes) : Program Nat :=
  withArguments self [flag "V" "", flag "h" ""] 1 args fun a =>
  let name := ((FileSystem.components self).getLast?).getD self
  Printing.toProgram self 1 do
    let refused (input : Bytes) (e : Errno) : Bytes :=
      complaint name (text "cannot open " ++ input) e
    let fine ← eachInput self refused (fun input fd => do
      let (n, e) ← eachLine fd 0x0A (fun n line => (n + 1, line.reverse ++ [0x0A]))
        (fun n line => (n + 1, line.reverse)) 0
      if let some e := e then
        let input := if input == dash then text "stdin" else input
        complain (complaint name (input ++ text ": " ++ Bytes.ofNat n) e)
      return e.isNone) (inputs a.operands)
    return if fine then 0 else 1

end PipeShell.Tool
