import PipeShell.Userland.Tool.Printing
import PipeShell.Userland.Tool.Quantity

/-!
# Beginnings and ends

`head` and `tail` show a portion of each input, which a `PortionRequest` describes: a number of
lines or bytes at the near end, or all but a number of them at the other end. Both go back over what
they read and did not show, so that it is left to the next reader.
-/

namespace PipeShell.Tool

open Calling (call)
open Printing

/-- What is asked of a tool that shows portions. -/
structure PortionRequest where
  inBytes : Bool
  count : Nat
  /-- Whether the count says what is left out: at the end for beginnings, and at the start, from one
  on, for ends. -/
  lessening : Bool
  /-- Whether inputs get headings; by default they do if there are several. -/
  headings : Option Bool
  ending : UInt8

namespace PortionRequest

/-- Ten lines. -/
def usual : PortionRequest := ⟨false, 10, false, none, 0x0A⟩

/-- The request with the count of an option. -/
def withCount (r : PortionRequest) (inBytes : Bool) (less : UInt8) (word : Bytes) :
    PortionRequest :=
  let signed := word.head? == some less
  let digits := if word.head? == some 0x2D then word.tail else word
  { r with
    inBytes
    lessening := if less == 0x2D then signed else r.lessening || signed
    count := match Quantity.read Quantity.commonUnits digits with
      | .ok n => n
      | .error _ => 0 }

/-- The request with one more option; a count that starts with `less` says what is left out. -/
def withOption (less : UInt8) (r : PortionRequest) (option : String × Option Bytes) :
    PortionRequest :=
  let word := option.2.getD []
  match option.1 with
  | "c" => r.withCount true less word
  | "n" => r.withCount false less word
  | "q" => { r with headings := some false }
  | "v" => { r with headings := some true }
  | "z" => { r with ending := 0 }
  | _ => r

/-- The options that both tools know. -/
def options : List Known :=
  [taking "c" "bytes", taking "n" "lines", flag "q" "quiet", flag "q" "silent", flag "v" "verbose",
    flag "z" "zero-terminated"] ++ letters "0123456789"

/-- What is wrong with an option; `stray` says it of a digit. -/
def check (stray : String) (help : Bool) (key : String) (word : Bytes) : Option (Bytes × Bool) :=
  let digits := if word.head? == some 0x2D then word.tail else word
  if key == "c" then
    Quantity.check Quantity.commonUnits "invalid number of bytes" digits
  else if key == "n" then
    Quantity.check Quantity.commonUnits "invalid number of lines" digits
  else if key.length == 1 && (text key).all Format.isDigit then
    some (text (stray ++ " -- " ++ key), help)
  else none

end PortionRequest

/-! ## Parts of a text -/

/-- The length of the first `n` lines of a text, and how many of them it has. -/
def lineExtent (ending : UInt8) (n : Nat) (data : Bytes) : Nat × Nat :=
  if n == 0 then (0, 0)
  else
    let (length, seen, _) := data.foldl (fun (length, seen, done) b =>
      if done then (length, seen, true)
      else
        let seen := if b == ending then seen + 1 else seen
        (length + 1, seen, seen == n)) (0, 0, false)
    (length, seen)

/-- The length of the last `n` lines of a text. One that does not end counts as well. -/
def lastExtent (ending : UInt8) (n : Nat) (data : Bytes) : Nat :=
  let lengths := (Text.splitOn ending data).map fun line => line.length + 1
  let lengths := match lengths.reverse with
    | last :: others => if last == 1 then others else (last - 1) :: others
    | [] => []
  (lengths.take n).foldl (· + ·) 0

variable (self : Bytes)

/-- Prints bytes of a portion, and ends the tool if they cannot be written. -/
def printPortion (data : Bytes) : Printing Unit :=
  printOr 1 (self ++ text ": error writing 'standard output'") data

/-! ## Beginnings -/

/-- Shows the first `n` lines of an open file, reading no more blocks than they need and going back
over what follows them. -/
def headLines (fd : Fd) (ending : UInt8) : Nat → Nat → Printing (Option Errno)
  | 0, _ | _, 0 => return none
  | fuel + 1, n => do
    match ← call (.read fd 8192) with
    | .error e => return some e
    | .ok [] => return none
    | .ok block =>
      let (length, seen) := lineExtent ending n block
      if seen == n then
        let _ ← call (.rewind fd (block.length - length))
        printPortion self (block.take length)
        return none
      else
        printPortion self block
        headLines fd ending fuel (n - seen)

/-- Shows the first `n` bytes of an open file. -/
def headBytes (fd : Fd) : Nat → Nat → Printing (Option Errno)
  | 0, _ | _, 0 => return none
  | fuel + 1, n => do
    match ← call (.read fd (min n 8192)) with
    | .error e => return some e
    | .ok [] => return none
    | .ok block =>
      printPortion self block
      headBytes fd fuel (n - block.length)

/-- Shows all of an open file but its last lines or bytes. -/
def headLess (fd : Fd) (extent : Bytes → Nat) : Printing (Option Errno) := do
  let (data, e) ← Printing.content fd
  let less := min (extent data) data.length
  printPortion self (data.take (data.length - less))
  let _ ← call (.rewind fd less)
  return e

/-- Shows the beginning of an open file. -/
def showHead (r : PortionRequest) (fd : Fd) : Printing (Option Errno) :=
  match r.inBytes, r.lessening with
  | false, false => headLines self fd r.ending Calling.patience r.count
  | true, false => headBytes self fd Calling.patience r.count
  | false, true => headLess self fd (lastExtent r.ending r.count)
  | true, true => headLess self fd fun _ => r.count

/-! ## Ends -/

/-- Shows an open file from some place on; `skip` tells how much of a block comes before it, and
what to skip after the block, or nothing once the place was reached. -/
def tailFrom (fd : Fd) (skip : Nat → Bytes → Nat × Nat) (n : Nat) : Printing (Option Errno) := do
  let (_, e) ← eachBlock fd 8192 (fun n block => do
    let (length, n) := if n == 0 then (0, 0) else skip n block
    printPortion self (block.drop length)
    return (n, true)) Calling.patience n
  return e

/-- Shows the end of an open file. -/
def showTail (r : PortionRequest) (fd : Fd) : Printing (Option Errno) := do
  if r.lessening then
    if r.inBytes then
      tailFrom self fd (fun n block => (min n block.length, n - block.length)) (r.count - 1)
    else
      tailFrom self fd (fun n block =>
        let (length, seen) := lineExtent r.ending n block
        (length, n - seen)) (r.count - 1)
  else
    let (data, e) ← Printing.content fd
    if e.isSome then return e
    let length := if r.inBytes then r.count else lastExtent r.ending r.count data
    printPortion self (data.drop (data.length - length))
    return none

/-! ## The tools -/

/-- What a tool that shows portions calls an input. -/
def portionTitle (name : Bytes) : Bytes := if name == dash then text "standard input" else name

/-- Shows portions of the inputs, each under a heading if there are several. -/
def portions (shown : Fd → Printing (Except Bytes (Option Errno))) (headings : Bool) :
    (first : Bool) → (fine : Bool) → List Bytes → Printing Bool
  | _, fine, [] => return fine
  | first, fine, name :: names => do
    match ← lift (openInput name) with
    | .error e =>
      complain (complaint self (text "cannot open " ++ inputName name ++ text " for reading") e)
      portions shown headings first false names
    | .ok fd =>
      if headings then
        print ((if first then [] else [0x0A]) ++ text "==> " ++ portionTitle name ++
          text " <==\n")
      let fine ← match ← shown fd with
        | .ok none => pure fine
        | .ok (some e) => do
          complain (complaint self (text "error reading " ++ inputName name) e)
          pure false
        | .error fault => do
          complain (self ++ text ": " ++ fault)
          pure false
      lift (closeInput name fd)
      portions shown headings false fine names

/-- Shows portions of the inputs that operands name. -/
def showPortions (r : PortionRequest) (operands : List Bytes)
    (shown : Fd → Printing (Except Bytes (Option Errno))) : Program Nat :=
  Printing.toProgram self 1 do
    let names := inputs operands
    let fine ← portions self shown (r.headings.getD (1 < names.length)) true true names
    closeStdin self dash 1 names
    return if fine then 0 else 1

/-- The request that a first word such as `-5k` makes, or the letter in it that has no meaning. -/
def oldHead (letters : Bytes) (r : PortionRequest) : Except UInt8 PortionRequest :=
  letters.foldlM (fun r letter =>
    match letter with
    | 0x63 => .ok { r with inBytes := true }
    | 0x62 => .ok { r with inBytes := true, count := r.count * 512 }
    | 0x6B => .ok { r with inBytes := true, count := r.count * 1024 }
    | 0x6D => .ok { r with inBytes := true, count := r.count * 1024 * 1024 }
    | 0x6C => .ok { r with inBytes := false }
    | 0x71 => .ok { r with headings := some false }
    | 0x76 => .ok { r with headings := some true }
    | 0x7A => .ok { r with ending := 0 }
    | letter => .error letter) r

/-- Shows the beginnings of its inputs. -/
def head (args : List Bytes) : Program Nat :=
  let run (base : PortionRequest) (words : List Bytes) : Program Nat :=
    withChecked self (PortionRequest.options ++ [flag "" "-presume-input-pipe"]) false 1
      (PortionRequest.check "invalid trailing option" true) words fun a =>
        let r := a.options.foldl (PortionRequest.withOption 0x2D) base
        showPortions self r a.operands fun fd => .ok <$> showHead self r fd
  match args with
  | (0x2D :: first :: rest) :: words =>
    if Format.isDigit first then
      let digits := (first :: rest).takeWhile Format.isDigit
      let base := { PortionRequest.usual with count := Format.natOf digits }
      match oldHead ((first :: rest).drop digits.length) base with
      | .ok base => run base words
      | .error letter => misuse self 1 (text "invalid trailing option -- " ++ [letter])
    else run .usual args
  | _ => run .usual args

/-- The request that a first word such as `+5` or `-5c` makes of `tail`. -/
def oldTail? (word : Bytes) : Option PortionRequest :=
  let read (lessening : Bool) (rest : Bytes) : Option PortionRequest :=
    let digits := rest.takeWhile Format.isDigit
    let count := if digits.isEmpty then 10 else Format.natOf digits
    let units := rest.drop digits.length
    let units := if units.getLast? == some 0x66 then units.dropLast else units
    match units with
    | [] | [0x6C] => some ⟨false, count, lessening, none, 0x0A⟩
    | [0x63] => some ⟨true, count, lessening, none, 0x0A⟩
    | [0x62] => some ⟨true, count * 512, lessening, none, 0x0A⟩
    | _ => none
  match word with
  | 0x2B :: rest => read true rest
  | [0x2D] | [0x2D, 0x63] => none
  | 0x2D :: rest => read false rest
  | _ => none

/-- The request that the first word makes in the old way and the words after it, if there are not
too many of them. -/
def oldTailWords? : List Bytes → Option (PortionRequest × List Bytes)
  | [word] => (oldTail? word).map (·, [])
  | [word, name] =>
    if name.head? == some 0x2D && 1 < name.length && name != text "--" then none
    else (oldTail? word).map (·, [name])
  | [word, dashes, name] => if dashes == text "--" then (oldTail? word).map (·, [dashes, name])
    else none
  | _ => none

/-- Shows the ends of its inputs. -/
def tail (args : List Bytes) : Program Nat :=
  let run (base : PortionRequest) (words : List Bytes) : Program Nat :=
    withChecked self
      (PortionRequest.options ++ [flag "f" "", flag "F" "", ⟨"", "follow", .mayWord⟩,
        flag "" "retry", taking "s" "sleep-interval", taking "" "pid",
        taking "" "max-unchanged-stats"]) false 1
      (PortionRequest.check "option used in invalid context" false) words fun a => do
        let r := a.options.foldl (PortionRequest.withOption 0x2B) base
        if r.count == 0 && !r.lessening then return 0
        showPortions self r a.operands fun fd => do
          match ← call (.statusFd fd) with
          | .error e => return .error (text ("cannot fstat 'standard input': " ++ e.systemText))
          | .ok _ => return .ok (← showTail self r fd)
  match oldTailWords? args with
  | some (base, words) => run base words
  | none => run .usual args

end PipeShell.Tool
