import PipeShell.Userland.Tool.Printing

/-!
# Numbers in a row

`seq` writes numbers from one to another, `factor` takes numbers apart, `yes` writes words again and
again, and `sleep` lets time go by. `SeriesOperand.read` reads an operand of `seq` together with the
number of its digits, from which the digits of the output are chosen.
-/

namespace PipeShell.Tool

open Calling (call)
open Printing

variable (self : Bytes)

/-! ## Operands of seq -/

/-- An operand of `seq`. -/
structure SeriesOperand where
  value : Binary
  /-- The columns that the number takes. -/
  width : Int
  /-- The digits after the point, if they can be told. -/
  places : Option Nat

namespace SeriesOperand

/-- The number one. -/
def one : SeriesOperand := ⟨.finite false 1 0, 1, some 0⟩

/-- The integer that starts a text. -/
def leadingInt (word : Bytes) : Int :=
  let (negative, digits) := Format.signAt word
  let n : Int := Format.natOf (digits.takeWhile Format.isDigit)
  if negative then -n else n

/-- The columns of a decimal number and the digits after its point. -/
def layout (word : Bytes) : Int × Nat :=
  let whole := word.takeWhile (· != 0x2E)
  let pointed := whole.length < word.length
  let isExponent (b : UInt8) : Bool := b == 0x65 || b == 0x45
  let fraction := ((word.drop (whole.length + 1)).takeWhile fun b => !isExponent b).length
  let places : Nat := if pointed then fraction else 0
  let width : Int := word.length +
    (if !pointed then 0
    else if fraction == 0 then -1
    else if whole.isEmpty || !(whole.getLast?.any Format.isDigit) then 1
    else 0)
  match word.findIdx? isExponent with
  | none => (width, places)
  | some i =>
    let exponent := leadingInt (word.drop (i + 1))
    let width := width - (word.length - i : Nat)
    if exponent < 0 then
      let extra : Int := if !pointed || i == whole.length + 1 then 1 else 0
      (width + extra - exponent, places + exponent.natAbs)
    else
      let left := places - exponent.toNat
      let extra : Int := if pointed && left == 0 && fraction != 0 then -1 else 0
      (width + extra + (exponent - min (fraction : Int) exponent), left)

/-- Reads an operand. -/
def read (word : Bytes) : Except Bytes SeriesOperand :=
  let found := Binary.read .extended word
  let overflow := match found.value with
    | .infinite _ => found.outOfRange
    | _ => false
  if found.width != word.length || found.width == 0 || overflow then
    .error (text "invalid floating point argument: " ++ Shown.marked word)
  else match found.value with
    | .notNumber _ =>
      .error (text "invalid 'not-a-number' argument: " ++ Shown.marked word)
    | value =>
      let bare := word.dropWhile fun b => Format.isSpace b || b == 0x2B
      let hexadecimal := bare.any fun b => b == 0x78 || b == 0x58
      let infinite := match value with
        | .infinite _ => true
        | _ => false
      if hexadecimal || infinite then
        .ok ⟨value, 0, if bare.contains 0x2E || bare.contains 0x70 then none else some 0⟩
      else
        let (width, places) := layout bare
        .ok ⟨value, width, some places⟩

end SeriesOperand

/-! ## The format -/

/-- A format with one directive, and what stands before and after it. -/
structure SeriesFormat where
  before : Bytes
  spec : Format.Spec
  kind : UInt8
  after : Bytes

namespace SeriesFormat

/-- A number as the format writes it, without what stands around it. -/
def number (f : SeriesFormat) (x : Binary) : Bytes := f.spec.real .extended f.kind x

/-- A number as the format writes it. -/
def write (f : SeriesFormat) (x : Binary) : Bytes := f.before ++ f.number x ++ f.after

/-- The format of numbers with so many digits after the point, and zeros in front up to a width. -/
def fixed (width places : Nat) : SeriesFormat :=
  ⟨[], ⟨false, width != 0, false, false, false, width, some places⟩, 0x66, []⟩

/-- The format of numbers of which nothing is known. -/
def general : SeriesFormat :=
  ⟨[], ⟨false, false, false, false, false, 0, none⟩, 0x67, []⟩

/-- What comes before the first directive of a format, two percent signs being one, and what comes
after its percent sign. -/
def plainPart : Nat → Bytes → Bytes × Option Bytes
  | 0, rest => (rest, none)
  | _, [] => ([], none)
  | fuel + 1, 0x25 :: rest =>
    match rest with
    | 0x25 :: rest =>
      let (before, found) := plainPart fuel rest
      (0x25 :: before, found)
    | rest => ([], some rest)
  | fuel + 1, b :: rest =>
    let (before, found) := plainPart fuel rest
    (b :: before, found)

/-- Reads a format. -/
def read (word : Bytes) : Except Bytes SeriesFormat :=
  let shown := text "format " ++ Shown.marked word
  match plainPart (word.length + 1) word with
  | (_, none) => .error (shown ++ text " has no % directive")
  | (before, some rest) =>
    let flags := rest.takeWhile (text "-+#0 '").contains
    let rest := rest.drop flags.length
    let width := rest.takeWhile Format.isDigit
    let rest := rest.drop width.length
    let (precision, rest) := match rest with
      | 0x2E :: rest =>
        let digits := rest.takeWhile Format.isDigit
        (some (Format.natOf digits), rest.drop digits.length)
      | rest => (none, rest)
    let rest := if rest.head? == some 0x4C then rest.tail else rest
    match rest with
    | [] => .error (shown ++ text " ends in %")
    | kind :: rest =>
      if !(text "efgaEFGA").contains kind then
        .error (shown ++ text " has unknown %" ++ [kind] ++ text " directive")
      else match plainPart (rest.length + 1) rest with
        | (_, some _) => .error (shown ++ text " has too many % directives")
        | (after, none) =>
          .ok ⟨before, ⟨flags.contains 0x2D, flags.contains 0x30, flags.contains 0x2B,
            flags.contains 0x20, flags.contains 0x23, Format.natOf width, precision⟩, kind, after⟩

/-- The format that fits the operands. -/
def fitting (equalWidth : Bool) (first step last : SeriesOperand) : SeriesFormat :=
  match first.places, step.places, last.places with
  | some p, some q, some lastPlaces =>
    let places := max p q
    if !equalWidth then fixed 0 places
    else
      let firstWidth := first.width + (places - p : Int) + (if p == 0 && places != 0 then 1 else 0)
      let lastWidth := last.width + (places - lastPlaces : Int) +
        (if lastPlaces != 0 && places == 0 then -1
        else if lastPlaces == 0 && places != 0 then 1 else 0)
      fixed (max firstWidth lastWidth).toNat places
  | _, _, _ => general

end SeriesFormat

/-! ## seq -/

/-- Prints a piece of a series; the tool ends if that fails. -/
def printSeries (data : Bytes) : Printing Unit := printOr 1 (self ++ text ": write error") data

/-- Prints the natural numbers from one on in steps, up to the last if there is one. -/
def countUp (separator : UInt8) (step : Nat) (last : Option Nat) : Nat → Nat → Printing Unit
  | 0, _ => return ()
  | fuel + 1, n => do
    if last.all (n + step ≤ ·) then
      printSeries self (Bytes.ofNat n ++ [separator])
      countUp separator step last fuel (n + step)
    else printSeries self (Bytes.ofNat n ++ [0x0A])

/-- Whether a number is behind the last one. -/
def isBeyond (step last x : Binary) : Bool := if step.isNegative then x.lt last else last.lt x

/-- Prints numbers from one on; `index` counts them. One that is beyond the last number is printed
if it is written like it, and not like the number before. -/
def printNumbers (f : SeriesFormat) (separator : Bytes) (first step last : Binary) :
    Nat → (index : Nat) → Binary → Printing Unit
  | 0, _, _ => return ()
  | fuel + 1, index, x => do
    printSeries self (f.write x)
    let next := first.add .extended ((Binary.ofInt .extended (index + 1)).multiply .extended step)
    if !isBeyond step last next then
      printSeries self separator
      printNumbers f separator first step last fuel (index + 1) next
    else
      let written := f.number next
      let readBack := Binary.read .extended written
      let equal := readBack.width == written.length && !readBack.value.lt last &&
        !last.lt readBack.value
      if equal && f.number x != written then
        printSeries self (separator ++ f.write next)
      printSeries self [0x0A]

/-- The words with a mark before the first one that is a negative number. -/
def beforeNumbers : List Bytes → List Bytes
  | [] => []
  | word :: words =>
    match word with
    | 0x2D :: b :: rest =>
      if b == 0x2E || Format.isDigit b then text "--" :: word :: words
      else if word == text "--" then word :: words
      else if rest.isEmpty && (b == 0x73 || b == 0x66) ||
          [text "--separator", text "--format"].contains word then
        match words with
        | value :: words => word :: value :: beforeNumbers words
        | [] => [word]
      else word :: beforeNumbers words
    | word => word :: words

/-- Whether a word has digits and nothing else. -/
def isDigits (word : Bytes) : Bool := !word.isEmpty && word.all Format.isDigit

/-- A natural number that a binary number is, if it is one. -/
def naturalOf? : Binary → Option Nat
  | .finite false m e =>
    let value := m * Binary.power 2 e
    if value % Binary.power 2 (-e) == 0 then some (value / Binary.power 2 (-e)) else none
  | _ => none

/-- The greatest step for which numbers are counted one by one. -/
def greatestStep : Nat := 200

/-- The series of natural numbers that operands make, if they make one: first, step and last. -/
def naturalSeries? (first step last : SeriesOperand) : Option (Nat × Nat × Option Nat) := do
  if first.places != some 0 || step.places != some 0 || last.places != some 0 then none
  let n ← naturalOf? first.value
  let d ← naturalOf? step.value
  if d == 0 || greatestStep < d then none
  match last.value with
  | .infinite false => return (n, d, none)
  | value => return (n, d, some (← naturalOf? value))

/-- Writes numbers from one to another. -/
def seq (args : List Bytes) : Program Nat :=
  withChecked self [taking "f" "format", taking "s" "separator", flag "w" "equal-width"] true 1
    (fun _ _ => none) (beforeNumbers args) fun a => do
  let separator := (a.word? "s").getD [0x0A]
  let format : Except Bytes (Option SeriesFormat) := (a.word? "f").mapM SeriesFormat.read
  let count := a.operands.length
  if count == 0 then return ← missingOperand self
  if let some extra := a.operands[3]? then return ← extraOperand self 1 extra
  match format with
  | .error fault => refuse self 1 fault
  | .ok format =>
    if format.isSome && a.has "w" then
      return ← misuse self 1
        (text "format string may not be specified when printing equal width strings")
    let quick := format.isNone && !a.has "w" && separator.length == 1
    let upTo (first step : Nat) (last : Option Nat) : Program Nat :=
      Printing.toProgram self 1 do
        if last.all (first ≤ ·) then
          countUp self (separator.headD 0x0A) step last Calling.patience first
        return 0
    let words := a.operands
    let lastWord := words.getLastD []
    let firstWord := if count == 1 then [0x31] else words.headD []
    let step := if count == 3 then Format.natOf (words.getD 1 []) else 1
    if quick && words.all isDigits && 0 < step && step ≤ greatestStep then
      return ← upTo (Format.natOf firstWord) step (some (Format.natOf lastWord))
    let read (word : Bytes) : Except Bytes SeriesOperand := SeriesOperand.read word
    let operands : Except Bytes (SeriesOperand × SeriesOperand × SeriesOperand) := do
      match words with
      | [last] => return (.one, .one, ← read last)
      | [first, last] =>
        let first ← read first
        return (first, .one, ← read last)
      | first :: step :: last :: _ =>
        let first ← read first
        let increment ← read step
        if increment.value.isZero then
          .error (text "invalid Zero increment value: " ++ Shown.marked step)
        return (first, increment, ← read last)
      | [] => .error []
    match operands with
    | .error fault => misuse self 1 fault
    | .ok (first, step, last) =>
      if quick then
        if let some (n, d, m) := naturalSeries? first step last then return ← upTo n d m
      let f := format.getD (.fitting (a.has "w") first step last)
      Printing.toProgram self 1 do
        if !isBeyond step.value last.value first.value then
          printNumbers self f separator first.value step.value last.value Calling.patience 0
            first.value
        return 0

/-! ## factor -/

/-- The prime factors of a number from `d` on, in order; `fuel` bounds the number of trials. -/
def factors : Nat → (d n : Nat) → List Nat
  | 0, _, n => if n ≤ 1 then [] else [n]
  | fuel + 1, d, n =>
    if n ≤ 1 then []
    else if n < d * d then [n]
    else if n % d == 0 then d :: factors fuel d (n / d)
    else factors fuel (if d == 2 then 3 else d + 2) n

/-- Prints the prime factors of the numbers that words write; gives whether all are numbers. -/
def printFactors (fine : Bool) : List Bytes → Printing Bool
  | [] => return fine
  | word :: words => do
    let digits := word.dropWhile Format.isSpace
    let digits := if digits.head? == some 0x2B then digits.tail else digits
    if isDigits digits then
      let n := Format.natOf digits
      let shown := Bytes.ofNat n ++ 0x3A ::
        (factors Calling.patience 2 n).flatMap (fun f => 0x20 :: Bytes.ofNat f)
      print (shown ++ [0x0A])
      printFactors fine words
    else
      complain (self ++ text ": " ++ Shown.marked word ++ text " is not a valid positive integer")
      printFactors false words

/-- Writes the prime factors of numbers. -/
def factor (args : List Bytes) : Program Nat :=
  withArguments self [flag "h" "exponents"] 1 args fun a => Printing.toProgram self 1 do
  let words ← if !a.operands.isEmpty then pure a.operands
    else do
      let (data, e) ← Printing.content Fd.stdin
      if let some e := e then give 1 (complaint self (text "error reading input") e)
      let spaced := data.map fun b => if Format.isSpace b then 0x20 else b
      pure ((Text.splitOn 0x20 spaced).filter fun word => !word.isEmpty)
  return if ← printFactors self true words then 0 else 1

/-! ## yes -/

/-- Writes a block again and again until that fails. -/
def repeatBlock (block : Bytes) : Nat → Program Nat
  | 0 => return 0
  | fuel + 1 => do
    match ← Calling.writeAll Fd.stdout block with
    | .ok () => repeatBlock block fuel
    | .error e =>
      Program.warn (self ++ text (": standard output: " ++ e.systemText))
      return 1

/-- Writes its words again and again. -/
def yes (args : List Bytes) : Program Nat :=
  withChecked self [] true 1 (fun _ _ => none) args fun a =>
  let words := if a.operands.isEmpty then [[0x79]] else a.operands
  let line := Text.joinWith [0x20] words ++ [0x0A]
  repeatBlock self (List.replicate (8192 / line.length + 1) line).flatten Calling.patience

/-! ## sleep -/

/-- The nanoseconds of the interval that a word writes, with a unit after the number. -/
def interval? (word : Bytes) : Option Nat :=
  let found := Binary.read .double word
  let unit? : Option Nat := match word.drop found.width with
    | [] | [0x73] => some 1
    | [0x6D] => some 60
    | [0x68] => some 3600
    | [0x64] => some 86400
    | _ => none
  if found.width == 0 then none
  else match found.value, unit? with
    | .finite negative m e, some unit =>
      if negative && m != 0 then none
      else some ((m * Binary.power 2 e * unit * 1000000000 + Binary.power 2 (-e) - 1) /
        Binary.power 2 (-e))
    | .infinite false, some _ => some (Nat.pow 10 30)
    | _, _ => none

/-- Lets time go by. -/
def sleep (args : List Bytes) : Program Nat :=
  withArguments self [] 1 args fun a => do
  if a.operands.isEmpty then return ← missingOperand self
  let wrong := a.operands.filter fun word => (interval? word).isNone
  if let some last := wrong.getLast? then
    for word in wrong.dropLast do
      Program.warn (self ++ text ": invalid time interval " ++ Shown.marked word)
    return ← misuse self 1 (text "invalid time interval " ++ Shown.marked last)
  call (.pause ((a.operands.filterMap interval?).foldl (· + ·) 0))
  return 0

end PipeShell.Tool
