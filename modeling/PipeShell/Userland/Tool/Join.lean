import PipeShell.Userland.Tool.Order
import PipeShell.Userland.Tool.Printing

/-!
# Two sorted inputs side by side

`comm` tells which lines two inputs have in common, and `join` puts lines together that agree in a
field. Both read their inputs in step and complain about lines that are out of order
(`OrderCheck`).
-/

namespace PipeShell.Tool

open Calling (call)
open Printing

/-- When lines that are out of order are a matter of complaint. -/
inductive OrderCheck
  | never
  /-- Once a line was found that the other input does not have; the tool goes on. -/
  | lenient
  | strict
deriving DecidableEq, Repr

/-- The check that options ask for. -/
def OrderCheck.ofArguments (a : Arguments) : OrderCheck :=
  match a.last? ["check-order", "nocheck-order"] with
  | some ("check-order", _) => .strict
  | some _ => .never
  | none => .lenient

variable (self : Bytes)

/-- The lines of an input; the tool ends if it cannot be read. -/
def linesOfInput (ending : UInt8) (readFault : Bytes) (name : Bytes) : Printing (List Bytes) := do
  match ← lift (openInput name) with
  | .error e => give 1 (complaint self (Shown.plain name) e)
  | .ok fd =>
    let (data, error) ← Printing.content fd
    lift (closeInput name fd)
    if let some e := error then give 1 (complaint self readFault e)
    let parts := Text.splitOn ending data
    return if parts.getLast? == some [] then parts.dropLast else parts

/-- Ends a tool that has not two operands. -/
def withTwo (operands : List Bytes) (body : Bytes → Bytes → Program Nat) : Program Nat :=
  match operands with
  | [] => missingOperand self
  | [name] => misuse self 1 (text "missing operand after " ++ Shown.marked name)
  | [first, second] => body first second
  | _ :: _ :: extra :: _ => extraOperand self 1 extra

/-! ## comm -/

/-- What `comm` shows. -/
structure CommRequest where
  onlyFirst : Bool
  onlySecond : Bool
  both : Bool
  separator : Bytes
  total : Bool
  check : OrderCheck
  ending : UInt8

namespace CommRequest

/-- What options ask for. -/
def ofArguments (a : Arguments) : CommRequest where
  onlyFirst := !a.has "1"
  onlySecond := !a.has "2"
  both := !a.has "3"
  separator := match a.word? "output-delimiter" with
    | some [] => [0]
    | some word => word
    | none => [0x09]
  total := a.has "total"
  check := .ofArguments a
  ending := if a.has "z" then 0 else 0x0A

/-- A line in its column. -/
def shown (r : CommRequest) (order : Ordering) (line : Bytes) : Bytes :=
  let second : Bytes := if r.onlyFirst then r.separator else []
  let third : Bytes := second ++ if r.onlySecond then r.separator else []
  match order with
  | .lt => if r.onlyFirst then line ++ [r.ending] else []
  | .gt => if r.onlySecond then second ++ line ++ [r.ending] else []
  | .eq => if r.both then third ++ line ++ [r.ending] else []

end CommRequest

/-- One of the inputs of `comm`: the lines to come, and those before, the last one first. -/
structure CommSide where
  before : List Bytes
  rest : List Bytes
  complained : Bool

/-- Where `comm` is. -/
structure CommProgress where
  first : CommSide
  second : CommSide
  /-- Whether a line was found that only one input has. -/
  unpaired : Bool
  counts : Nat × Nat × Nat

/-- Goes on to the next line of an input and looks whether it is in order; at the end the last two
lines are looked at once more. -/
def CommSide.step (r : CommRequest) (unpaired : Bool) (number : String) (side : CommSide) :
    Printing CommSide := do
  let side := { side with before := side.rest.take 1 ++ side.before.take 1, rest := side.rest.tail }
  let pair := match side.rest, side.before with
    | next :: _, last :: _ => some (last, next)
    | [], last :: earlier :: _ => some (earlier, last)
    | _, _ => none
  let checks := r.check == .strict || (r.check == .lenient && unpaired)
  match pair with
  | some (a, b) =>
    if checks && !side.complained && Order.bytes a b == .gt then
      complain (self ++ text (": file " ++ number ++ " is not in sorted order"))
      if r.check == .strict then quit 1
      return { side with complained := true }
    return side
  | none => return side

/-- Shows the lines of both inputs; `fuel` bounds their number. -/
def commLines (r : CommRequest) : Nat → CommProgress → Printing CommProgress
  | 0, p => return p
  | fuel + 1, p => do
    let order? : Option Ordering := match p.first.rest, p.second.rest with
      | [], [] => none
      | _, [] => some .lt
      | [], _ => some .gt
      | a :: _, b :: _ => some (Order.bytes a b)
    match order? with
    | none => return p
    | some order =>
      let line := (if order == .lt then p.first.rest else p.second.rest).headD []
      print (r.shown order line)
      let (n, m, k) := p.counts
      let counts := match order with
        | .lt => (n + 1, m, k)
        | .gt => (n, m + 1, k)
        | .eq => (n, m, k + 1)
      let unpaired := p.unpaired || order != .eq
      let first ← if order == .gt then pure p.first else p.first.step self r unpaired "1"
      let second ← if order == .lt then pure p.second else p.second.step self r unpaired "2"
      commLines r fuel ⟨first, second, unpaired, counts⟩

/-- Shows which lines two sorted inputs have in common. -/
def comm (args : List Bytes) : Program Nat :=
  withArguments self
    [flag "1" "", flag "2" "", flag "3" "", flag "z" "zero-terminated", flag "" "total",
      flag "" "check-order", flag "" "nocheck-order", taking "" "output-delimiter"] 1 args fun a =>
  withTwo self a.operands fun first second => Printing.toProgram self 1 do
    let r := CommRequest.ofArguments a
    let lines1 ← linesOfInput self r.ending (Shown.plain first) first
    let lines2 ← linesOfInput self r.ending (Shown.plain second) second
    let p ← commLines self r (lines1.length + lines2.length + 1)
      ⟨⟨[], lines1, false⟩, ⟨[], lines2, false⟩, false, (0, 0, 0)⟩
    if r.total then
      let (n, m, k) := p.counts
      print (Text.joinWith r.separator
        [Bytes.ofNat n, Bytes.ofNat m, Bytes.ofNat k, text "total"] ++ [r.ending])
    if p.first.complained || p.second.complained then
      give 1 (self ++ text ": input is not in sorted order")
    return 0

/-! ## join -/

/-- A field of the output of `join`: the field that the lines agree in, or one of an input. -/
inductive JoinField
  | shared
  | ofFirst (field : Nat)
  | ofSecond (field : Nat)
deriving DecidableEq, Repr

/-- What `join` is asked for. -/
structure JoinRequest where
  field1 : Nat
  field2 : Nat
  /-- Which lines are shown that the other input has no partner for. -/
  lone1 : Bool
  lone2 : Bool
  pairs : Bool
  /-- What is written for fields that are empty. -/
  filler : Bytes
  /-- The byte that separates fields; a line end if lines have one field. -/
  tab : Option UInt8
  format : Option (List JoinField)
  /-- Whether all lines are given as many fields as the first ones. -/
  uniform : Bool
  ignoresCase : Bool
  headers : Bool
  check : OrderCheck
  ending : UInt8

/-- A line with its fields. -/
structure JoinLine where
  line : Bytes
  fields : List Bytes

namespace JoinRequest

/-- The fields between blanks. Blanks at the end are followed by an empty field. -/
def blankFields (line : Bytes) : List Bytes :=
  let parts := (line.dropWhile Order.isBlank).splitBy fun a b => Order.isBlank a == Order.isBlank b
  let words := parts.filter fun part => !part.any Order.isBlank
  if words.isEmpty then []
  else if line.getLast?.any Order.isBlank then words ++ [[]]
  else words

/-- A line with its fields. -/
def split (r : JoinRequest) (line : Bytes) : JoinLine :=
  ⟨line, if line.isEmpty then []
    else match r.tab with
      | none => blankFields line
      | some 0x0A => [line]
      | some tab => Text.splitOn tab line⟩

/-- What counts of a line. -/
def key (r : JoinRequest) (field : Nat) (line : JoinLine) : Bytes :=
  let found := line.fields.getD field []
  if r.ignoresCase then Binary.capitals found else found

/-- A field as it is written. -/
def fieldText (r : JoinRequest) (line : Option JoinLine) (field : Nat) : Bytes :=
  let found := match line with
    | some line => line.fields.getD field []
    | none => []
  if found.isEmpty then r.filler else found

/-- A line of output for lines that go together, one of which may be missing; `counts` are the
numbers of fields that the first lines have. -/
def joined (r : JoinRequest) (counts : Nat × Nat) (line1 line2 : Option JoinLine) : Bytes :=
  let shared := match line1 with
    | some line => r.fieldText (some line) r.field1
    | none => r.fieldText line2 r.field2
  let others (line : Option JoinLine) (field count : Nat) : List Bytes :=
    let count := if r.uniform then count
      else match line with
        | some line => line.fields.length
        | none => 0
    ((List.range count).filter (· != field)).map (r.fieldText line)
  let fields := match r.format with
    | some format => format.map fun f => match f with
      | .shared => shared
      | .ofFirst field => r.fieldText line1 field
      | .ofSecond field => r.fieldText line2 field
    | none => shared :: (others line1 r.field1 counts.1 ++ others line2 r.field2 counts.2)
  Text.joinWith [r.tab.getD 0x20] fields ++ [r.ending]

end JoinRequest

/-- One of the inputs of `join`. -/
structure JoinSide where
  name : Bytes
  field : Nat
  /-- The lines to come, the first of which is at hand. -/
  rest : List JoinLine
  /-- The number of the line at hand. -/
  number : Nat
  complained : Bool

/-- Goes on to the next line of an input and looks whether it is in order. -/
def JoinSide.step (r : JoinRequest) (unpaired : Bool) (side : JoinSide) : Printing JoinSide := do
  let checks := r.check == .strict || (r.check == .lenient && unpaired)
  let next := { side with rest := side.rest.tail, number := side.number + 1 }
  match side.rest with
  | a :: b :: _ =>
    let falls := Order.bytes (r.key side.field a) (r.key side.field b) == .gt
    if checks && !side.complained && falls then
      complain (self ++ text ": " ++ side.name ++ text ":" ++ Bytes.ofNat next.number ++
        text ": is not sorted: " ++ b.line)
      if r.check == .strict then quit 1
      return { next with complained := true }
    return next
  | _ => return next

/-- Goes over the lines of an input that have a key; gives them. -/
def JoinSide.group (r : JoinRequest) (unpaired : Bool) (key : Bytes) :
    Nat → JoinSide → List JoinLine → Printing (JoinSide × List JoinLine)
  | 0, side, found => return (side, found.reverse)
  | fuel + 1, side, found =>
    match side.rest with
    | line :: _ => do
      if r.key side.field line == key then
        group r unpaired key fuel (← side.step self r unpaired) (line :: found)
      else return (side, found.reverse)
    | [] => return (side, found.reverse)

/-- Shows the lines that are left when the other input has ended. -/
def JoinSide.finish (r : JoinRequest) (unpaired shown : Bool) (write : JoinLine → Bytes) :
    Nat → JoinSide → Printing JoinSide
  | 0, side => return side
  | fuel + 1, side =>
    match side.rest with
    | [] => return side
    | line :: _ => do
      if shown then print (write line)
      finish r unpaired shown write fuel (← side.step self r unpaired)

/-- Joins the lines of two inputs; gives the inputs when one of them has ended, and whether a line
was found that has no partner. `fuel` bounds the number of lines. -/
def joinLines (r : JoinRequest) (counts : Nat × Nat) :
    Nat → (unpaired : Bool) → JoinSide → JoinSide → Printing (Bool × JoinSide × JoinSide)
  | 0, unpaired, first, second => return (unpaired, first, second)
  | fuel + 1, unpaired, first, second => do
    match first.rest, second.rest with
    | a :: _, b :: _ =>
      match Order.bytes (r.key r.field1 a) (r.key r.field2 b) with
      | .lt =>
        if r.lone1 then print (r.joined counts (some a) none)
        joinLines r counts fuel true (← first.step self r unpaired) second
      | .gt =>
        if r.lone2 then print (r.joined counts none (some b))
        joinLines r counts fuel true first (← second.step self r unpaired)
      | .eq =>
        let key := r.key r.field1 a
        let (first, group1) ← first.group self r unpaired key (first.rest.length + 1) []
        let (second, group2) ← second.group self r unpaired key (second.rest.length + 1) []
        if r.pairs then
          for line1 in group1 do
            for line2 in group2 do print (r.joined counts (some line1) (some line2))
        joinLines r counts fuel unpaired first second
    | _, _ => return (unpaired, first, second)

/-- The number of a field, counted from zero. -/
def joinFieldNumber (word : Bytes) : Except Bytes Nat :=
  let n := Format.natOf word
  if word.isEmpty || !word.all Format.isDigit || n == 0 then
    .error (text "invalid field number: " ++ Shown.marked word)
  else .ok (n - 1)

/-- A field of the output as a word names it. -/
def joinField (word : Bytes) : Except Bytes JoinField :=
  match word with
  | [0x30] => .ok .shared
  | 0x30 :: _ => .error (text "invalid field specifier: " ++ Shown.marked word)
  | 0x31 :: 0x2E :: rest => .ofFirst <$> joinFieldNumber rest
  | 0x32 :: 0x2E :: rest => .ofSecond <$> joinFieldNumber rest
  | 0x31 :: _ | 0x32 :: _ => .error (text "invalid field specifier: " ++ Shown.marked word)
  | _ => .error (text "invalid file number in field spec: " ++ Shown.marked word)

/-- The request with one more option. -/
def JoinRequest.withOption (r : JoinRequest) (option : String × Option Bytes) :
    Except Bytes JoinRequest := do
  let word := option.2.getD []
  match option.1 with
  | "a" | "v" =>
    let pairs := r.pairs && option.1 == "a"
    if word == text "1" then return { r with lone1 := true, pairs }
    else if word == text "2" then return { r with lone2 := true, pairs }
    else .error (text "invalid field number: " ++ Shown.marked word)
  | "1" => return { r with field1 := ← joinFieldNumber word }
  | "2" => return { r with field2 := ← joinFieldNumber word }
  | "j" =>
    let field ← joinFieldNumber word
    return { r with field1 := field, field2 := field }
  | "e" => return { r with filler := word }
  | "i" => return { r with ignoresCase := true }
  | "header" => return { r with headers := true }
  | "z" => return { r with ending := 0 }
  | "o" =>
    if word == text "auto" then return { r with uniform := true }
    let words := (Text.splitOn 0x2C (word.map fun b => if Order.isBlank b then 0x2C else b))
    let fields ← words.mapM joinField
    return { r with format := some ((r.format.getD []) ++ fields) }
  | "t" =>
    match word with
    | [] => return { r with tab := some 0x0A }
    | [b] => return { r with tab := some b }
    | word =>
      if word == text "\\0" then return { r with tab := some 0 }
      else .error (text "multi-character tab " ++ Shown.marked word)
  | _ => return r

/-- Joins the lines of two sorted inputs that agree in a field. -/
def join (args : List Bytes) : Program Nat :=
  withArguments self
    [taking "a" "", taking "e" "", flag "i" "ignore-case", taking "j" "", taking "o" "",
      taking "t" "", taking "v" "", taking "1" "", taking "2" "", flag "z" "zero-terminated",
      flag "" "check-order", flag "" "nocheck-order", flag "" "header"] 1 args fun a => do
  let start : JoinRequest :=
    ⟨0, 0, false, false, true, [], none, none, false, false, false, .ofArguments a, 0x0A⟩
  match a.options.foldlM JoinRequest.withOption start with
  | .error fault => refuse self 1 fault
  | .ok r => withTwo self a.operands fun name1 name2 => Printing.toProgram self 1 do
    if name1 == dash && name2 == dash then
      give 1 (self ++ text ": both files cannot be standard input")
    let lines1 ← linesOfInput self r.ending (text "read error") name1
    let lines2 ← linesOfInput self r.ending (text "read error") name2
    let first : JoinSide := ⟨name1, r.field1, lines1.map r.split, 1, false⟩
    let second : JoinSide := ⟨name2, r.field2, lines2.map r.split, 1, false⟩
    let width (side : JoinSide) : Nat := match side.rest with
      | line :: _ => line.fields.length
      | [] => 0
    let counts := (width first, width second)
    let headed := r.headers && !(first.rest.isEmpty && second.rest.isEmpty)
    if headed then print (r.joined counts first.rest.head? second.rest.head?)
    let behind (side : JoinSide) : JoinSide :=
      if headed && !side.rest.isEmpty then
        { side with rest := side.rest.tail, number := side.number + 1 }
      else side
    let fuel := lines1.length + lines2.length + 1
    let (unpaired, first, second) ← joinLines self r counts fuel false (behind first)
      (behind second)
    let first ← first.finish self r unpaired r.lone1 (fun line => r.joined counts (some line) none)
      fuel
    let second ← second.finish self r unpaired r.lone2
      (fun line => r.joined counts none (some line)) fuel
    if first.complained || second.complained then
      give 1 (self ++ text ": input is not in sorted order")
    return 0

end PipeShell.Tool
