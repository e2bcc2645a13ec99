import PipeShell.Text.Utf8

/-!
# Binary numbers with a bounded mantissa

`Binary.nearest` is the number of a `Precision` that lies next to a fraction; of two that are
equally near the one with an even mantissa is taken. `Binary.read` reads a number from a text. A
number is written with a number of digits in `Binary.fixed`, `Binary.scientific` and
`Binary.general`, all of which round the exact value, and in base sixteen in `Binary.hexadecimal`.
-/

namespace PipeShell

/-- A format of binary numbers. -/
structure Precision where
  /-- The bits of a mantissa. -/
  bits : Nat
  /-- The least exponent of a mantissa that is a whole number. -/
  least : Int
  /-- The greatest exponent of such a mantissa. -/
  greatest : Int
deriving Repr

namespace Precision

/-- The format of numbers in eight bytes. -/
def double : Precision := ⟨53, -1074, 971⟩

/-- The format of numbers in ten bytes. -/
def extended : Precision := ⟨64, -16445, 16320⟩

end Precision

/-- A binary number. -/
inductive Binary
  /-- The product of a mantissa and a power of two. -/
  | finite (negative : Bool) (mantissa : Nat) (exponent : Int)
  | infinite (negative : Bool)
  | notNumber (negative : Bool)
deriving DecidableEq, Repr

namespace Binary

/-- Whether the number has a minus sign. -/
def isNegative : Binary → Bool
  | finite negative .. | infinite negative | notNumber negative => negative

/-- The quotient of two numbers, to the nearest number, a half to the even one. -/
def roundedQuotient (a b : Nat) : Nat :=
  let q := a / b
  let r := 2 * (a % b)
  if b < r || (r == b && q % 2 == 1) then q + 1 else q

/-- The power of a base, for exponents that are not negative. -/
def power (base : Nat) (exponent : Int) : Nat := Nat.pow base exponent.toNat

/-- The number of bits of a number. -/
def bitLength (n : Nat) : Nat := if n == 0 then 0 else n.log2 + 1

/-- The number next to a fraction; the flag tells whether it is outside of the range. -/
def nearest (p : Precision) (negative : Bool) (num den : Nat) : Binary × Bool :=
  if num == 0 then (.finite negative 0 0, false)
  else
    let size : Int := (bitLength num : Int) - bitLength den
    let at' (exponent : Int) : Nat :=
      roundedQuotient (num * power 2 (-exponent)) (den * power 2 exponent)
    let low := max (size - p.bits) p.least
    let low := if num * power 2 (-low) < den * power 2 low * Nat.pow 2 p.bits then low else low + 1
    let m := at' low
    let (m, e) := if m == Nat.pow 2 p.bits then (m / 2, low + 1) else (m, low)
    if p.greatest < e then (.infinite negative, true)
    else
      let exact := m * power 2 e * den == num * power 2 (-e)
      (.finite negative m e, bitLength m < p.bits && !exact)

/-- The number next to an integer. -/
def ofInt (p : Precision) (n : Int) : Binary := (nearest p (n < 0) n.natAbs 1).1

/-! ## Arithmetic -/

/-- The value of a finite number as an integer over a power of two: numerator and exponent. -/
def signed (negative : Bool) (m : Nat) : Int := if negative then -(m : Int) else m

/-- The sum of two numbers. -/
def add (p : Precision) : Binary → Binary → Binary
  | .finite n m e, .finite n' m' e' =>
    let low := min e e'
    let total := signed n m * power 2 (e - low) + signed n' m' * power 2 (e' - low)
    if total == 0 then .finite (n && n') 0 0
    else (nearest p (total < 0) (total.natAbs * power 2 low) (power 2 (-low))).1
  | .notNumber n, _ => .notNumber n
  | _, .notNumber n => .notNumber n
  | .infinite n, .infinite n' => if n == n' then .infinite n else .notNumber true
  | .infinite n, _ => .infinite n
  | _, .infinite n => .infinite n

/-- The product of two numbers. -/
def multiply (p : Precision) : Binary → Binary → Binary
  | .finite n m e, .finite n' m' e' =>
    (nearest p (n != n') (m * m' * power 2 (e + e')) (power 2 (-(e + e')))).1
  | .notNumber n, _ => .notNumber n
  | _, .notNumber n => .notNumber n
  | a, b => .infinite (a.isNegative != b.isNegative)

/-- Whether a number is less than another. -/
def lt : Binary → Binary → Bool
  | .finite n m e, .finite n' m' e' =>
    let low := min e e'
    decide (signed n m * power 2 (e - low) < signed n' m' * power 2 (e' - low))
  | .infinite n, .infinite n' => n && !n'
  | .infinite n, .finite .. => n
  | .finite .., .infinite n => !n
  | _, _ => false

/-- Whether a number is zero. -/
def isZero : Binary → Bool
  | .finite _ m _ => m == 0
  | _ => false

/-! ## Reading -/

/-- Whether a byte is a decimal digit. -/
def isDigit (b : UInt8) : Bool := 0x30 ≤ b && b ≤ 0x39

/-- The value of a digit up to `f`. -/
def digitValue? (b : UInt8) : Option Nat :=
  if isDigit b then some (b.toNat - 0x30)
  else if 0x41 ≤ b && b ≤ 0x46 then some (b.toNat - 0x37)
  else if 0x61 ≤ b && b ≤ 0x66 then some (b.toNat - 0x57)
  else none

/-- The digits of a base at the start of a text. -/
def digitsAt (base : Nat) (text : Bytes) : Bytes :=
  text.takeWhile fun b => (digitValue? b).any (· < base)

/-- The number that digits write. -/
def magnitude (base : Nat) (digits : Bytes) : Nat :=
  digits.foldl (fun n b => n * base + (digitValue? b).getD 0) 0

/-- The power that a letter and digits after it write, and how many bytes spell it. -/
def powerAt (letters : List UInt8) (text : Bytes) : Int × Nat :=
  match text with
  | b :: rest =>
    if !letters.contains b then (0, 0)
    else
      let (negative, sign) := match rest.head? with
        | some 0x2D => (true, 1)
        | some 0x2B => (false, 1)
        | _ => (false, 0)
      let digits := digitsAt 10 (rest.drop sign)
      let n : Int := min (magnitude 10 digits) 1000000
      if digits.isEmpty then (0, 0)
      else (if negative then -n else n, 1 + sign + digits.length)
  | [] => (0, 0)

/-- The exponent of ten beyond which every number is infinite or zero. -/
def farthest : Int := 6000

/-- A text without regard to case. -/
def lower (text : Bytes) : Bytes := text.map fun b => if 0x41 ≤ b && b ≤ 0x5A then b + 0x20 else b

/-- A number in base `base` at the start of a text: its digits before and after the point, the
exponent, and how many bytes spell it. -/
def numeralAt (base : Nat) (letters : List UInt8) (text : Bytes) : Bytes × Bytes × Int × Nat :=
  let whole := digitsAt base text
  let rest := text.drop whole.length
  let part := if rest.head? == some 0x2E then digitsAt base rest.tail else []
  let point := if rest.head? == some 0x2E && !(whole.isEmpty && part.isEmpty) then 1 else 0
  let size := whole.length + point + part.length
  if whole.isEmpty && part.isEmpty then ([], [], 0, 0)
  else
    let (exponent, width) := powerAt letters (text.drop size)
    (whole, part, exponent, size + width)

/-- What reading a number gives. -/
structure Reading where
  value : Binary
  /-- How many bytes spell it; none if there is no number. -/
  width : Nat
  outOfRange : Bool

/-- The number at the start of a text without a sign. -/
def readMagnitude (p : Precision) (negative : Bool) (text : Bytes) : Reading :=
  let start := lower (text.take 8)
  let starts (word : String) : Bool := (Bytes.ofString word).isPrefixOf start
  if starts "infinity" then ⟨.infinite negative, 8, false⟩
  else if starts "inf" then ⟨.infinite negative, 3, false⟩
  else if starts "nan" then
    let inside := match text.drop 3 with
      | 0x28 :: rest =>
        let name := rest.takeWhile fun b => isDigit b || (0x61 ≤ b && b ≤ 0x7A) ||
          (0x41 ≤ b && b ≤ 0x5A) || b == 0x5F
        if (rest.drop name.length).head? == some 0x29 then name.length + 2 else 0
      | _ => 0
    ⟨.notNumber negative, 3 + inside, false⟩
  else
    let hexadecimal :=
      if starts "0x" then numeralAt 16 [0x70, 0x50] (text.drop 2) else ([], [], 0, 0)
    if hexadecimal.2.2.2 != 0 then
      let (whole, part, exponent, width) := hexadecimal
      let m := magnitude 16 (whole ++ part)
      let e := exponent - 4 * part.length
      let far := 20000 + 4 * (whole.length + part.length : Nat)
      if m == 0 then ⟨.finite negative 0 0, width + 2, false⟩
      else if far < e then ⟨.infinite negative, width + 2, true⟩
      else if e < -far then ⟨.finite negative 0 0, width + 2, true⟩
      else
        let (value, outOfRange) := nearest p negative (m * power 2 e) (power 2 (-e))
        ⟨value, width + 2, outOfRange⟩
    else
      let (whole, part, exponent, width) := numeralAt 10 [0x65, 0x45] text
      let m := magnitude 10 (whole ++ part)
      let e := exponent - part.length
      let first := e + (whole.length + part.length : Nat)
      if m == 0 then ⟨.finite negative 0 0, width, false⟩
      else if farthest < first then ⟨.infinite negative, width, true⟩
      else if first < -farthest then ⟨.finite negative 0 0, width, true⟩
      else
        let (value, outOfRange) := nearest p negative (m * power 10 e) (power 10 (-e))
        ⟨value, width, outOfRange⟩

/-- The number at the start of a text. -/
def read (p : Precision) (text : Bytes) : Reading :=
  let rest := text.dropWhile fun b => b == 0x20 || (0x09 ≤ b && b ≤ 0x0D)
  let blanks := text.length - rest.length
  let (negative, sign) := match rest.head? with
    | some 0x2D => (true, 1)
    | some 0x2B => (false, 1)
    | _ => (false, 0)
  let found := readMagnitude p negative (rest.drop sign)
  if found.width == 0 then ⟨.finite false 0 0, 0, false⟩
  else { found with width := found.width + blanks + sign }

/-! ## Writing -/

/-- Digits with zeros before them. -/
def padded (width : Nat) (digits : Bytes) : Bytes :=
  List.replicate (width - digits.length) 0x30 ++ digits

/-- The digits before the point and those after it, the point being left out if there are none and
`pointed` does not ask for it. -/
def joined (pointed : Bool) (whole part : Bytes) : Bytes :=
  if part.isEmpty && !pointed then whole else whole ++ 0x2E :: part

/-- The magnitude with a number of digits after the point. -/
def fixed (pointed : Bool) (places : Nat) (m : Nat) (e : Int) : Bytes :=
  let scaled := roundedQuotient (m * power 2 e * Nat.pow 10 places) (power 2 (-e))
  let digits := padded (places + 1) (Bytes.ofNat scaled)
  joined pointed (digits.take (digits.length - places)) (digits.drop (digits.length - places))

/-- The first `count` digits of a magnitude that is not zero, and the exponent of ten of the first
of them. -/
def firstDigits (count m : Nat) (e : Int) : Bytes × Int :=
  let num := m * power 2 e
  let den := power 2 (-e)
  let guess : Int := ((Bytes.ofNat num).length : Int) - (Bytes.ofNat den).length
  let exponent := if num * power 10 (-guess) < den * power 10 guess then guess - 1 else guess
  let shift := exponent - (count - 1 : Nat)
  let scaled := roundedQuotient (num * power 10 (-shift)) (den * power 10 shift)
  if scaled == Nat.pow 10 count then (Bytes.ofNat (Nat.pow 10 (count - 1)), exponent + 1)
  else (Bytes.ofNat scaled, exponent)

/-- An exponent with a sign and at least two digits. -/
def exponentText (letter : UInt8) (exponent : Int) : Bytes :=
  letter :: (if exponent < 0 then 0x2D else 0x2B) :: padded 2 (Bytes.ofNat exponent.natAbs)

/-- The magnitude with one digit before the point and an exponent. -/
def scientific (pointed : Bool) (letter : UInt8) (places m : Nat) (e : Int) : Bytes :=
  let (digits, exponent) := if m == 0 then (List.replicate (places + 1) 0x30, 0)
    else firstDigits (places + 1) m e
  joined pointed (digits.take 1) (digits.drop 1) ++ exponentText letter exponent

/-- The digits without zeros at the end. -/
def withoutZeros (digits : Bytes) : Bytes := (digits.reverse.dropWhile (· == 0x30)).reverse

/-- The magnitude with a number of digits that matter, in the shorter of the two ways. Zeros at the
end are left out, unless `pointed` asks for them. -/
def general (pointed : Bool) (letter : UInt8) (count m : Nat) (e : Int) : Bytes :=
  let count := max count 1
  let (digits, exponent) := if m == 0 then (List.replicate count 0x30, 0)
    else firstDigits count m e
  if exponent < -4 || (count : Int) ≤ exponent then
    let part := digits.drop 1
    let part := if pointed then part else withoutZeros part
    joined pointed (digits.take 1) part ++ exponentText letter exponent
  else if exponent < 0 then
    let part := List.replicate ((-exponent).toNat - 1) 0x30 ++ digits
    let part := if pointed then part else withoutZeros part
    joined pointed [0x30] part
  else
    let size := exponent.toNat + 1
    let part := digits.drop size
    let part := if pointed then part else withoutZeros part
    joined pointed (digits.take size) part

/-- The digits of a number in base sixteen. -/
def hexDigits (n : Nat) : Bytes := Bytes.ofString (String.ofList (Nat.toDigits 16 n))

/-- The magnitude in base sixteen with an exponent of two. The first digit has as many bits as are
left when the others have four each. -/
def hexadecimal (p : Precision) (pointed : Bool) (places : Option Nat) (m : Nat) (e : Int) :
    Bytes :=
  let others := (p.bits - 1) / 4
  let (m, e) :=
    if m == 0 then (0, -4 * (others : Int))
    else
      let up := p.bits - bitLength m
      let down := min (up : Int) (e - p.least)
      (m * power 2 down, e - down)
  let (m, e, others) := match places with
    | none => (m, e, others)
    | some places =>
      if others ≤ places then
        (m * Nat.pow 16 (places - others), e - 4 * (places - others : Nat), places)
      else
        (roundedQuotient m (Nat.pow 16 (others - places)), e + 4 * (others - places : Nat), places)
  let first := m / Nat.pow 16 others
  let part := padded others (hexDigits (m % Nat.pow 16 others))
  let part := if others == 0 then [] else if places.isNone then withoutZeros part else part
  let exponent := if first == 0 && m == 0 then 0 else e + 4 * others
  Bytes.ofString "0x" ++ joined pointed (hexDigits first) part ++
    [0x70, if exponent < 0 then 0x2D else 0x2B] ++ Bytes.ofNat exponent.natAbs

/-- A text in capital letters. -/
def capitals (text : Bytes) : Bytes :=
  text.map fun b => if 0x61 ≤ b && b ≤ 0x7A then b - 0x20 else b

/-- The magnitude of a number as a directive of a format writes it, which is known by its letter. -/
def written (p : Precision) (kind : UInt8) (pointed : Bool) (places : Option Nat) : Binary → Bytes
  | .infinite _ => Bytes.ofString (if kind < 0x61 then "INF" else "inf")
  | .notNumber _ => Bytes.ofString (if kind < 0x61 then "NAN" else "nan")
  | .finite _ m e =>
    let digits := places.getD 6
    if kind == 0x66 || kind == 0x46 then fixed pointed digits m e
    else if kind == 0x65 || kind == 0x45 then scientific pointed kind digits m e
    else if kind == 0x67 || kind == 0x47 then general pointed (kind - 2) digits m e
    else
      let found := hexadecimal p pointed places m e
      if kind == 0x41 then capitals found else found

end Binary

end PipeShell
