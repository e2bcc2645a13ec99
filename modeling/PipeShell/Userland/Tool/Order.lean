import PipeShell.Userland.Binary
import PipeShell.Text.Split

/-!
# Orders of texts

The orders in which tools put texts: by their bytes (`Order.bytes`), by the number at their start
(`Order.numeric`, `Order.general`, and `Order.human` for numbers with a unit), by the month
(`Order.month`) and by version numbers inside (`Order.version`).
-/

namespace PipeShell.Order

/-- The order of byte strings. -/
def bytes : Bytes → Bytes → Ordering
  | [], [] => .eq
  | [], _ => .lt
  | _, [] => .gt
  | a :: as, b :: bs => if a < b then .lt else if b < a then .gt else bytes as bs

/-- Whether a byte separates fields if nothing else does. -/
def isBlank (b : UInt8) : Bool := b == 0x20 || b == 0x09 || b == 0x0A

/-! ## Numbers -/

/-- A decimal number: its sign, the digits before the point without zeros in front, and those after
it without zeros at the end. -/
structure Decimal where
  negative : Bool
  whole : Bytes
  part : Bytes

namespace Decimal

/-- The number that a text starts with, and what follows it. -/
def read (line : Bytes) : Decimal × Bytes :=
  let line := line.dropWhile isBlank
  let (negative, line) := match line with
    | 0x2D :: rest => (true, rest)
    | line => (false, line)
  let digits := line.takeWhile Binary.isDigit
  let rest := line.drop digits.length
  let (part, rest) := match rest with
    | 0x2E :: more =>
      let part := more.takeWhile Binary.isDigit
      (part, more.drop part.length)
    | rest => ([], rest)
  let whole := digits.dropWhile (· == 0x30)
  let part := Binary.withoutZeros part
  (⟨negative && !(whole.isEmpty && part.isEmpty), whole, part⟩, rest)

/-- Whether a number is zero. -/
def isZero (d : Decimal) : Bool := d.whole.isEmpty && d.part.isEmpty

/-- The order of two numbers. -/
def compare (a b : Decimal) : Ordering :=
  let magnitude := (Ord.compare a.whole.length b.whole.length).then
    ((bytes a.whole b.whole).then (bytes a.part b.part))
  match a.negative, b.negative with
  | true, false => .lt
  | false, true => .gt
  | true, true => magnitude.swap
  | false, false => magnitude

end Decimal

/-- The order of the numbers that two texts start with. -/
def numeric (a b : Bytes) : Ordering := (Decimal.read a).1.compare (Decimal.read b).1

/-- The power of a thousand that comes after a number; a negative number has a negative one. -/
def unitPower (line : Bytes) : Int :=
  let (d, rest) := Decimal.read line
  let letters := Bytes.ofString "KMGTPEZY"
  let letter := match rest.head? with
    | some 0x6B => some 0x4B
    | other => other
  match letter.bind fun b => letters.findIdx? (· == b) with
  | some i => if d.isZero then 0 else if d.negative then -(i + 1 : Int) else i + 1
  | none => 0

/-- The order of the numbers with units that two texts start with. -/
def human (a b : Bytes) : Ordering :=
  (compare (unitPower a) (unitPower b)).then (numeric a b)

/-- The order of the numbers that two texts start with, in any notation. Texts without numbers come
first, and then those that say that they are none. -/
def general (a b : Bytes) : Ordering :=
  let rank (r : Binary.Reading) : Nat :=
    if r.width == 0 then 0
    else match r.value with
      | .notNumber _ => 1
      | _ => 2
  let x := Binary.read .extended a
  let y := Binary.read .extended b
  (compare (rank x) (rank y)).then
    (if rank x != 2 then .eq
    else if x.value.lt y.value then .lt
    else if y.value.lt x.value then .gt
    else .eq)

/-- The month that a text starts with, or zero. -/
def monthOf (line : Bytes) : Nat :=
  let name := Binary.capitals ((line.dropWhile isBlank).take 3)
  let months := ["JAN", "FEB", "MAR", "APR", "MAY", "JUN", "JUL", "AUG", "SEP", "OCT", "NOV", "DEC"]
  match months.findIdx? fun month => Bytes.ofString month == name with
  | some i => i + 1
  | none => 0

/-- The order of the months that two texts start with. -/
def month (a b : Bytes) : Ordering := compare (monthOf a) (monthOf b)

/-! ## Versions -/

/-- Whether a byte is a letter. -/
def isLetter (b : UInt8) : Bool := (0x41 ≤ b && b ≤ 0x5A) || (0x61 ≤ b && b ≤ 0x7A)

/-- The rank of a byte of a version: a tilde comes even before the end, and letters before all
other bytes but digits. -/
def versionRank : Option UInt8 → Int
  | none => -1
  | some b =>
    if Binary.isDigit b then 0
    else if isLetter b then b.toNat
    else if b == 0x7E then -2
    else b.toNat + 256

/-- The order of two texts by the bytes that are no digits and the numbers between them; `fuel`
bounds their lengths. -/
def versionParts : Nat → Bytes → Bytes → Ordering
  | 0, _, _ | _, [], [] => .eq
  | fuel + 1, a, b =>
    let isPlain (c : Option UInt8) : Bool := c.any fun b => !Binary.isDigit b
    if isPlain a.head? || isPlain b.head? then
      (compare (versionRank a.head?) (versionRank b.head?)).then (versionParts fuel a.tail b.tail)
    else
      let digits (text : Bytes) : Bytes :=
        (text.dropWhile (· == 0x30)).takeWhile Binary.isDigit
      let rest (text : Bytes) : Bytes := text.dropWhile Binary.isDigit
      (compare (digits a).length (digits b).length).then
        ((bytes (digits a) (digits b)).then (versionParts fuel (rest a) (rest b)))

/-- The length of a file name without the endings that are made of letters, digits and tildes. -/
def stemLength : Nat → Bytes → Nat
  | 0, _ | _, [] => 0
  | fuel + 1, _ :: rest =>
    let isTail (b : UInt8) : Bool := isLetter b || b == 0x7E
    let rec endings : Nat → Bytes → Nat
      | 0, _ => 0
      | fuel + 1, text =>
        match text with
        | 0x2E :: b :: more =>
          if isTail b then
            let width := (more.takeWhile fun b => isTail b || Binary.isDigit b).length
            2 + width + endings fuel (more.drop width)
          else 0
        | _ => 0
    let width := endings (rest.length + 1) rest
    if rest.length ≤ width then 1
    else 1 + width + stemLength fuel (rest.drop width)

/-- The order of file names by the version numbers in them. Hidden names come first. -/
def version (a b : Bytes) : Ordering :=
  let rank (name : Bytes) : Nat :=
    if name.isEmpty then 0
    else if name == [0x2E] then 1
    else if name == [0x2E, 0x2E] then 2
    else if name.head? == some 0x2E then 3
    else 4
  (compare (rank a) (rank b)).then
    (if rank a < 3 then .eq
    else
      let fuel := a.length + b.length + 1
      let stem (name : Bytes) : Bytes := name.take (stemLength (name.length + 1) name)
      (versionParts fuel (stem a) (stem b)).then (versionParts fuel a b))

end PipeShell.Order
