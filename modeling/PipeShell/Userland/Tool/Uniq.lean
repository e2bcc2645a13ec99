import PipeShell.Userland.Tool.Cat
import PipeShell.Userland.Tool.Order

/-!
# Equal lines in a row

`uniq` shows of equal lines in a row the first one, all of them or none. It reads line by line:
`UniqRequest.next` says what is shown when a line comes after those before it, and
`UniqRequest.finish` what is shown at the end.
-/

namespace PipeShell.Tool

open Calling (call)
open Printing

/-- Where groups of lines are separated. -/
inductive GroupMark
  | never
  | before
  | after
  | between
  | around
deriving DecidableEq, Repr

/-- What `uniq` is asked for. -/
structure UniqRequest where
  counts : Bool
  /-- Whether lines are shown that are not repeated. -/
  single : Bool
  /-- Whether the last line of a group is shown. -/
  last : Bool
  /-- Whether the lines of a group before the last are shown. -/
  earlier : Bool
  mark : GroupMark
  /-- Whether all lines are shown in groups. -/
  groups : Bool
  skipFields : Nat
  skipBytes : Nat
  /-- How many bytes of a line count. -/
  width : Option Nat
  ignoresCase : Bool
  ending : UInt8

namespace UniqRequest

/-- Each line once. -/
def usual : UniqRequest :=
  ⟨false, true, true, false, .never, false, 0, 0, none, false, 0x0A⟩

/-- The line without fields at its start. -/
def skipFieldsOf : Nat → Bytes → Bytes
  | 0, line => line
  | n + 1, line =>
    skipFieldsOf n ((line.dropWhile Order.isBlank).dropWhile fun b => !Order.isBlank b)

/-- What counts of a line. -/
def key (r : UniqRequest) (line : Bytes) : Bytes :=
  let rest := (skipFieldsOf r.skipFields line).drop r.skipBytes
  let rest := match r.width with
    | some n => rest.take n
    | none => rest
  if r.ignoresCase then Binary.capitals rest else rest

/-- The lines that were read: the last one with what counts of it, how many equal lines came right
before it, and whether a group of repeated lines ended. -/
structure Progress where
  line : Bytes
  key : Bytes
  earlier : Nat
  grouped : Bool

/-- A line as it is shown. -/
def shown (r : UniqRequest) (line : Bytes) (earlier : Nat) : Bytes :=
  (if r.counts then rightAligned 7 (Bytes.ofNat (earlier + 1)) ++ [0x20] else []) ++ line ++
    [r.ending]

/-- What is shown of a line when another one comes that is no repetition of it. -/
def finish (r : UniqRequest) (p : Progress) : Bytes :=
  if if p.earlier == 0 then r.single else r.last then r.shown p.line p.earlier else []

/-- What is shown when a line comes. -/
def next (r : UniqRequest) (p : Progress) (line : Bytes) : Progress × Bytes :=
  let key := r.key line
  if key == p.key then
    let marked := p.earlier == 0 && (r.mark == .before || (r.mark == .between && p.grouped))
    let mark : Bytes := if marked then [r.ending] else []
    if r.earlier then
      ({ p with line, earlier := p.earlier + 1 }, mark ++ r.shown p.line p.earlier)
    else ({ p with earlier := p.earlier + 1 }, mark)
  else (⟨line, key, 0, p.grouped || p.earlier != 0⟩, r.finish p)

/-- What is shown when a line comes and all lines are shown in groups. -/
def nextInGroups (r : UniqRequest) (p : Option Bytes) (line : Bytes) : Option Bytes × Bytes :=
  let key := r.key line
  let mark : Bytes := match p with
    | none => if r.mark == .before || r.mark == .around then [r.ending] else []
    | some previous => if previous == key then [] else [r.ending]
  (some key, mark ++ line ++ [r.ending])

/-- What is shown after all lines that are shown in groups. -/
def finishGroups (r : UniqRequest) (p : Option Bytes) : Bytes :=
  if p.isSome && (r.mark == .after || r.mark == .around) then [r.ending] else []

/-! ## Options -/

/-- A place of marks by its name, which may be cut short. -/
def mark? (names : List (String × GroupMark)) (word : Bytes) : Option GroupMark :=
  (names.find? fun n => word.isPrefixOf (text n.1)).map (·.2)

/-- The places of marks between groups of repeated lines. -/
def repeatMarks : List (String × GroupMark) :=
  [("none", .never), ("prepend", .before), ("separate", .between)]

/-- The places of marks between groups. -/
def groupMarks : List (String × GroupMark) :=
  [("prepend", .before), ("append", .after), ("separate", .between), ("both", .around)]

/-- The request with one more option. -/
def withOption (r : UniqRequest) (option : String × Option Bytes) : UniqRequest :=
  let word := option.2.getD []
  let number := Format.natOf word
  match option.1 with
  | "c" => { r with counts := true }
  | "d" => { r with single := false }
  | "D" => { r with
      single := false
      earlier := true
      mark := match option.2 with
        | some word => (mark? repeatMarks word).getD .never
        | none => .never }
  | "u" => { r with last := false }
  | "group" => { r with
      groups := true
      mark := match option.2 with
        | some word => (mark? groupMarks word).getD .between
        | none => .between }
  | "f" => { r with skipFields := number }
  | "s" => { r with skipBytes := number }
  | "w" => { r with width := some number }
  | "i" => { r with ignoresCase := true }
  | "z" => { r with ending := 0 }
  | digit => { r with skipFields := 10 * r.skipFields + Format.natOf (text digit) }

/-- What is wrong with an option. -/
def check (key : String) (word : Bytes) : Option (Bytes × Bool) :=
  let subject := match key with
    | "f" => "invalid number of fields to skip"
    | "s" => "invalid number of bytes to skip"
    | "w" => "invalid number of bytes to compare"
    | _ => ""
  let digits := if word.head? == some 0x2B then word.tail else word
  if subject.isEmpty || (!digits.isEmpty && digits.all Format.isDigit) then none
  else some (word ++ text (": " ++ subject), false)

/-- The options of `uniq`. -/
def options : List Known :=
  [flag "c" "count", flag "d" "repeated", flag "D" "", ⟨"D", "all-repeated", .mayWord⟩,
    ⟨"", "group", .mayWord⟩, taking "f" "skip-fields", taking "s" "skip-chars",
    taking "w" "check-chars", flag "i" "ignore-case", flag "u" "unique",
    flag "z" "zero-terminated"] ++ letters "0123456789"

end UniqRequest

/-! ## uniq -/

variable (self : Bytes)

/-- Shows the lines of standard input as they are asked for; gives whether reading failed. -/
def uniqLines (r : UniqRequest) : Printing (Option Errno) := do
  if r.groups then
    let (p, e) ← eachLine Fd.stdin r.ending r.nextInGroups r.nextInGroups none
    print (r.finishGroups p)
    return e
  else
    let next (p : Option UniqRequest.Progress) (line : Bytes) :
        Option UniqRequest.Progress × Bytes :=
      match p with
      | none => (some ⟨line, r.key line, 0, false⟩, [])
      | some p =>
        let (p, out) := r.next p line
        (some p, out)
    let (p, e) ← eachLine Fd.stdin r.ending next next none
    if let some p := p then print (r.finish p)
    return e

/-- Puts a file in the place of a standard one; ends the tool if it cannot be opened. -/
def replaceStandard (name : Bytes) (flags : OpenFlags) (target : Fd) : Printing Unit := do
  if name == dash then return ()
  match ← lift (openAside name flags 0o666) with
  | .error e => give 1 (complaint self (Shown.plain name) e)
  | .ok fd =>
    let _ ← call (.duplicate fd target)
    lift (Calling.close fd)

/-- Shows equal lines that follow each other once, or as options ask for. -/
def uniq (args : List Bytes) : Program Nat :=
  withChecked self UniqRequest.options false 1 UniqRequest.check args fun a => do
  let isOld (word : Bytes) : Bool :=
    word.head? == some 0x2B && 1 < word.length && word.tail.all Format.isDigit
  let r := a.options.foldl UniqRequest.withOption .usual
  let r := match (a.operands.filter isOld).getLast? with
    | some word => { r with skipBytes := Format.natOf word.tail }
    | none => r
  let names := a.operands.filter fun word => !isOld word
  if let some word := names[2]? then return ← extraOperand self 1 word
  if r.groups && (r.counts || !r.single || !r.last) then
    return ← misuse self 1 (text "--group is mutually exclusive with -c/-d/-D/-u")
  if r.counts && r.earlier then
    return ← misuse self 1
      (text "printing all duplicated lines and repeat counts is meaningless")
  Printing.toProgram self 1 do
    let name := names.headD dash
    replaceStandard self name .reading Fd.stdin
    replaceStandard self (names.getD 1 dash) .writing Fd.stdout
    if (← uniqLines r).isSome then
      give 1 (self ++ text ": error reading " ++ Shown.quoted name)
    return 0

end PipeShell.Tool
