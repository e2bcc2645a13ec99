import PipeShell.Userland.Binary

/-!
# Escapes and formats

`Format.unescape` replaces the backslash escapes of a text, and `Format.print` fills the words of a
`printf` into its format, again and again until all of them are used. Which escapes there are and
how numbers are read differs from command to command (`Format.Manner`).
-/

namespace PipeShell.Format

/-- Whether a byte is a decimal digit. -/
def isDigit (b : UInt8) : Bool := 0x30 ≤ b && b ≤ 0x39

/-- Whether a byte is an octal digit. -/
def isOctal (b : UInt8) : Bool := 0x30 ≤ b && b ≤ 0x37

/-- The value of a hexadecimal digit. -/
def hexValue? (b : UInt8) : Option Nat := Binary.digitValue? b

/-- The number that a list of decimal digits writes. -/
def natOf (digits : Bytes) : Nat := digits.foldl (fun n b => n * 10 + (b.toNat - 0x30)) 0

/-- The integer that a word writes in decimal, with an optional sign. -/
def intOf? (word : Bytes) : Option Int :=
  let read (digits : Bytes) : Option Nat :=
    if !digits.isEmpty && digits.all isDigit then some (natOf digits) else none
  match word with
  | 0x2D :: digits => (read digits).map fun n => -(n : Int)
  | 0x2B :: digits => (read digits).map fun n => (n : Int)
  | digits => (read digits).map fun n => (n : Int)

/-! ## Integers -/

/-- How many numbers a machine word can hold. -/
def wordCount : Nat := 0x10000000000000000

/-- The least of the numbers that a machine word with a sign cannot hold. -/
def signedBound : Nat := 0x8000000000000000

/-- What is wrong with a word that should be a number. -/
inductive NumberFault
  | notNumeric
  /-- It goes on after the number. -/
  | goesOn
  | outOfRange
  /-- It goes on after a byte that stands for its own number. -/
  | afterByte
deriving DecidableEq, Repr

/-- The digits at the start of a word in a base up to sixteen. -/
def digitsAt (base : Nat) (word : Bytes) : List Nat :=
  (word.takeWhile fun b => (hexValue? b).any (· < base)).filterMap hexValue?

/-- The magnitude that a word starts with, and how many bytes spell it: `0x` starts a hexadecimal
number and `0` an octal one. -/
def magnitudeAt (word : Bytes) : Nat × Nat :=
  let read (base skipped : Nat) (word : Bytes) : Nat × Nat :=
    let digits := digitsAt base word
    (digits.foldl (fun n d => n * base + d) 0, skipped + digits.length)
  match word with
  | 0x30 :: x :: more =>
    if (x == 0x78 || x == 0x58) && !(digitsAt 16 more).isEmpty then read 16 2 more
    else read 8 0 word
  | 0x30 :: _ => read 8 0 word
  | _ => read 10 0 word

/-- The sign that a word starts with, and what follows it. -/
def signAt (word : Bytes) : Bool × Bytes :=
  match word with
  | 0x2D :: rest => (true, rest)
  | 0x2B :: rest => (false, rest)
  | rest => (false, rest)

/-- Whether a byte is white space. -/
def isSpace (b : UInt8) : Bool := b == 0x20 || (0x09 ≤ b && b ≤ 0x0D)

/-- The integer between two limits that a word starts with, how many bytes spell it, and whether it
is outside of the limits; one below them counts as `below`. -/
def integerAt (lowest highest below : Int) (word : Bytes) : Int × Nat × Bool :=
  let rest := word.dropWhile isSpace
  let (negative, digits) := signAt rest
  let (n, width) := magnitudeAt digits
  let value : Int := if negative then -n else n
  if width == 0 then (0, 0, false)
  else
    let width := word.length - digits.length + width
    if value < lowest then (below, width, true)
    else if highest < value then (highest, width, true)
    else (value, width, false)

/-! ## Escapes -/

/-- What the text after a backslash stands for. -/
inductive Escaped
  /-- Some bytes, and how many bytes after the backslash spell them. -/
  | bytes (out : Bytes) (width : Nat)
  /-- The end of all output. -/
  | stop
  /-- Nothing: the backslash stands for itself. -/
  | none
  /-- No escape, which ends all output. -/
  | bad (message : Bytes)
deriving Repr

/-- The byte of a one-letter escape. -/
def simpleEscape? (b : UInt8) : Option UInt8 :=
  if b == 0x5C then some 0x5C
  else if b == 0x61 then some 0x07
  else if b == 0x62 then some 0x08
  else if b == 0x66 then some 0x0C
  else if b == 0x6E then some 0x0A
  else if b == 0x72 then some 0x0D
  else if b == 0x74 then some 0x09
  else if b == 0x76 then some 0x0B
  else .none

/-- The number that up to `most` octal digits write, and how many there are. -/
def octalAt (most : Nat) (rest : Bytes) : UInt8 × Nat :=
  let digits := (rest.take most).takeWhile isOctal
  (UInt8.ofNat (digits.foldl (fun n d => n * 8 + (d.toNat - 0x30)) 0), digits.length)

/-- The number that up to `most` hexadecimal digits write, and how many there are. -/
def hexAt (most : Nat) (rest : Bytes) : Nat × Nat :=
  let digits := (rest.take most).takeWhile fun d => (hexValue? d).isSome
  (digits.foldl (fun n d => n * 16 + (hexValue? d).getD 0) 0, digits.length)

/-- Escapes with a letter or up to three octal digits. With `zeroFirst` a zero may come before the
digits. -/
def basicEscape (zeroFirst : Bool) (rest : Bytes) : Escaped :=
  match rest with
  | [] => .none
  | b :: more =>
    match simpleEscape? b with
    | some c => .bytes [c] 1
    | .none =>
      if zeroFirst && b == 0x30 && more.head?.any isOctal then
        let (c, width) := octalAt 3 more
        .bytes [c] (1 + width)
      else if isOctal b then
        let (c, width) := octalAt 3 rest
        .bytes [c] width
      else .none

/-- The escapes of words: those with a letter or digits, and one that ends all output. -/
def wordEscape (rest : Bytes) : Escaped :=
  if rest.head? == some 0x63 then .stop else basicEscape true rest

/-- All escapes: further letters, hexadecimal digits, and the end of all output. -/
def fullEscape (zeroFirst : Bool) (rest : Bytes) : Escaped :=
  match rest with
  | 0x63 :: _ => .stop
  | 0x65 :: _ => .bytes [0x1B] 1
  | 0x78 :: more =>
    let (n, width) := hexAt 2 more
    if width == 0 then .none else .bytes [UInt8.ofNat n] (1 + width)
  | rest => basicEscape zeroFirst rest

/-- The bytes of an escape that names a character, which is written as the escape itself if it is
not an ASCII character; `digits` tells how many digits it takes. -/
def characterEscape (letter : UInt8) (digits : Nat) (rest : Bytes) : Escaped :=
  let (n, width) := hexAt digits rest
  let shown := Bytes.ofString (String.ofList (Nat.toDigits 16 n))
  let zeros (digits : Nat) (text : Bytes) : Bytes :=
    List.replicate (digits - text.length) 0x30 ++ text
  if width < digits then .bad (Bytes.ofString "missing hexadecimal number in escape")
  else if (n ≤ 0x9F && n != 0x24 && n != 0x40 && n != 0x60) || (0xD800 ≤ n && n ≤ 0xDFFF) then
    .bad (Bytes.ofString "invalid universal character name \\" ++ letter :: zeros digits shown)
  else if n < 0x80 then .bytes [UInt8.ofNat n] (1 + width)
  else
    let upper := Bytes.ofString (String.ofList (Nat.toDigits 16 n)).toUpper
    let out := if n < 0x10000 then 0x5C :: 0x75 :: zeros 4 upper
      else 0x5C :: 0x55 :: zeros 8 upper
    .bytes out (1 + width)

/-- The escapes of the formats of the tool `printf`, and with `zeroFirst` of its words. -/
def toolEscape (zeroFirst : Bool) (rest : Bytes) : Escaped :=
  match rest with
  | 0x22 :: _ => .bytes [0x22] 1
  | 0x78 :: more =>
    if (hexAt 2 more).2 == 0 then .bad (Bytes.ofString "missing hexadecimal number in escape")
    else fullEscape zeroFirst rest
  | 0x75 :: more => characterEscape 0x75 4 more
  | 0x55 :: more => characterEscape 0x55 8 more
  | 0x30 :: more =>
    if zeroFirst then
      let (c, width) := octalAt 3 more
      .bytes [c] (1 + width)
    else fullEscape zeroFirst rest
  | rest => fullEscape zeroFirst rest

/-- How the output of escapes and formats ends. -/
inductive Ending
  /-- All of it is there. -/
  | whole
  /-- An escape ended it. -/
  | stopped
  /-- The format ends within a directive. -/
  | unfinished
  /-- A directive does not exist. -/
  | badDirective (shown : Bytes)
  | bad (message : Bytes)
deriving DecidableEq, Repr

/-- The text with its escapes replaced, the bytes before it being `done`, last one first. -/
def escapes (escape : Bytes → Escaped) : Nat → (done : Bytes) → Bytes → Bytes × Ending
  | 0, done, _ => (done, .whole)
  | _, done, [] => (done, .whole)
  | fuel + 1, done, b :: rest =>
    if b == 0x5C then
      match escape rest with
      | .stop => (done, .stopped)
      | .bad message => (done, .bad message)
      | .none => escapes escape fuel (b :: done) rest
      | .bytes out width => escapes escape fuel (out.reverse ++ done) (rest.drop width)
    else escapes escape fuel (b :: done) rest

/-- The text with all its escapes replaced. -/
def unescape (escape : Bytes → Escaped) (text : Bytes) : Bytes × Ending :=
  let (done, ending) := escapes escape (text.length + 1) [] text
  (done.reverse, ending)

/-! ## Directives -/

/-- The width, precision and flags of a directive. -/
structure Spec where
  left : Bool
  zero : Bool
  plus : Bool
  blank : Bool
  /-- Whether the base of a number, or its point, is shown in any case. -/
  based : Bool
  width : Nat
  precision : Option Nat
deriving Repr

/-- The text padded to the width of a directive. -/
def Spec.pad (s : Spec) (text : Bytes) : Bytes :=
  let missing := s.width - text.length
  if s.left then text ++ List.replicate missing 0x20 else List.replicate missing 0x20 ++ text

/-- A number padded to the width of a directive; zeros stand between its sign and its digits. -/
def Spec.padNumber (s : Spec) (zeros : Bool) (sign digits : Bytes) : Bytes :=
  if zeros && s.zero && !s.left then
    sign ++ List.replicate (s.width - sign.length - digits.length) 0x30 ++ digits
  else s.pad (sign ++ digits)

/-- The sign of a number. -/
def Spec.sign (s : Spec) (negative : Bool) : Bytes :=
  if negative then [0x2D] else if s.plus then [0x2B] else if s.blank then [0x20] else []

/-- The digits of a number in a base up to sixteen. -/
def digitsIn (base : Nat) (upper : Bool) (n : Nat) : Bytes :=
  let text := String.ofList (Nat.toDigits base n)
  Bytes.ofString (if upper then text.toUpper else text)

/-- Whether a directive writes integers with a sign. -/
def isSigned (kind : UInt8) : Bool := kind == 0x64 || kind == 0x69

/-- An integer as a directive writes it. -/
def Spec.integer (s : Spec) (kind : UInt8) (value : Int) : Bytes :=
  let base := if kind == 0x6F then 8 else if kind == 0x78 || kind == 0x58 then 16 else 10
  let magnitude := if isSigned kind || 0 ≤ value then value.natAbs else wordCount - value.natAbs
  let digits := if magnitude == 0 && s.precision == some 0 then []
    else digitsIn base (kind == 0x58) magnitude
  let digits := match s.precision with
    | some p => List.replicate (p - digits.length) 0x30 ++ digits
    | none => digits
  let digits := if s.based && base == 8 && digits.head? != some 0x30 then 0x30 :: digits else digits
  let sign : Bytes := if isSigned kind then s.sign (value < 0)
    else if s.based && base == 16 && magnitude != 0 then [0x30, kind] else []
  s.padNumber s.precision.isNone sign digits

/-- A real number as a directive writes it. -/
def Spec.real (s : Spec) (precision : Precision) (kind : UInt8) (value : Binary) : Bytes :=
  let finite := match value with
    | .finite .. => true
    | _ => false
  let digits := value.written precision kind s.based s.precision
  let sign := s.sign value.isNegative
  let marked := finite && (kind == 0x61 || kind == 0x41)
  if marked then s.padNumber true (sign ++ digits.take 2) (digits.drop 2)
  else s.padNumber finite sign digits

/-! ## Formats -/

/-- What differs between the commands that fill formats. -/
structure Manner where
  /-- The escapes of formats. -/
  escape : Bytes → Escaped
  /-- The escapes of words that are printed with them. -/
  wordEscape : Bytes → Escaped
  /-- The real numbers. -/
  precision : Precision
  /-- Whether a quote without a byte after it is a number. -/
  loneQuote : Bool
  /-- Whether it is looked at first that a number is out of range, and then that a word goes on. -/
  rangeFirst : Bool
  /-- Whether flags that mean nothing for a directive are faults. -/
  strict : Bool
  /-- How a word is quoted, if there is a directive for that. -/
  quoted : Option (Bytes → Bytes)

/-- What was filled so far. -/
structure Filling where
  /-- The output, last byte first. -/
  out : Bytes
  /-- The words that are left. -/
  words : List Bytes
  /-- Words that should have been numbers, last one first. -/
  faults : List (Bytes × NumberFault)

namespace Filling

/-- The filling with more output. -/
def put (f : Filling) (bytes : Bytes) : Filling := { f with out := bytes.reverse ++ f.out }

/-- The next word, which may be missing, and the filling without it. -/
def take (f : Filling) : Option Bytes × Filling :=
  (f.words.head?, { f with words := f.words.tail })

/-- The filling with a fault more. -/
def withFault (f : Filling) (word : Bytes) (fault : Option NumberFault) : Filling :=
  match fault with
  | some fault => { f with faults := (word, fault) :: f.faults }
  | none => f

end Filling

/-- What is wrong with a word of which `width` bytes spell a number. -/
def faultOf (m : Manner) (word : Bytes) (width : Nat) (outOfRange : Bool) : Option NumberFault :=
  let goesOn := width < word.length
  if outOfRange && (m.rangeFirst || !goesOn) then some .outOfRange
  else if !goesOn then none
  else if width == 0 then some .notNumeric
  else some .goesOn

/-- The byte that a word stands for if it starts with a quote. -/
def byteOf? (m : Manner) (word : Bytes) : Option (Nat × Option NumberFault) :=
  match word with
  | q :: rest =>
    if q != 0x27 && q != 0x22 then none
    else match rest with
      | [] => if m.loneQuote then some (0, none) else none
      | b :: more =>
        some (b.toNat, if m.rangeFirst && !more.isEmpty then some .afterByte else none)
  | [] => none

/-- The integer that the next word writes. -/
def Filling.integer (f : Filling) (m : Manner) (signed : Bool) : Int × Filling :=
  let (word, f) := f.take
  let word := word.getD []
  match byteOf? m word with
  | some (n, fault) => (n, f.withFault word fault)
  | none =>
    let (value, width, outOfRange) :=
      if signed then integerAt (-signedBound) (signedBound - 1) (-signedBound) word
      else integerAt (1 - wordCount) (wordCount - 1) (wordCount - 1) word
    (value, f.withFault word (faultOf m word width outOfRange))

/-- The real number that the next word writes. -/
def Filling.real (f : Filling) (m : Manner) : Binary × Filling :=
  let (word, f) := f.take
  let word := word.getD []
  match byteOf? m word with
  | some (n, fault) => (.ofInt m.precision n, f.withFault word fault)
  | none =>
    let found := Binary.read m.precision word
    (found.value, f.withFault word (faultOf m word found.width found.outOfRange))

/-- A number of a directive: digits, or a star for the next word. -/
def Filling.count (f : Filling) (m : Manner) (rest : Bytes) : Option Int × Bytes × Filling :=
  match rest with
  | 0x2A :: rest =>
    let (n, f) := f.integer m true
    (some n, rest, f)
  | rest =>
    let digits := rest.takeWhile isDigit
    (if digits.isEmpty then none else some (natOf digits), rest.drop digits.length, f)

/-- A directive without its percent sign: its flags, what is left of the format, and the filling
after the words that it takes for its width and precision. -/
def Filling.spec (f : Filling) (m : Manner) (rest : Bytes) : Spec × Bytes × Filling :=
  let known := Bytes.ofString (if m.strict then "-+ #0'I" else "-+ #0")
  let flags := rest.takeWhile known.contains
  let rest := rest.drop flags.length
  let (width, rest, f) := f.count m rest
  let width := width.getD 0
  let (precision, rest, f) := match rest with
    | 0x2E :: rest =>
      let (precision, rest, f) := f.count m rest
      (some (precision.getD 0), rest, f)
    | rest => (none, rest, f)
  let rest := if m.strict then rest.dropWhile (Bytes.ofString "lLhjtz").contains else rest
  (⟨flags.contains 0x2D || width < 0, flags.contains 0x30, flags.contains 0x2B,
    flags.contains 0x20, flags.contains 0x23, width.natAbs,
    (precision.filter (0 ≤ ·)).map Int.toNat⟩, rest, f)

/-- Whether a directive may have what stands before its letter. -/
def allows (before : Bytes) (kind : UInt8) : Bool :=
  let flags := before.takeWhile (Bytes.ofString "-+ #0'I").contains
  let has (b : UInt8) : Bool := flags.contains b
  let among (s : String) : Bool := (Bytes.ofString s).contains kind
  !((has 0x27 || has 0x49) && among "aAceEosxX") && !(has 0x23 && among "cdisu") &&
    !(has 0x30 && among "cs") && !(before.contains 0x2E && kind == 0x63)

/-- Writes what a directive asks for; `none` if there is no such directive. -/
def Filling.directive? (f : Filling) (m : Manner) (spec : Spec) (kind : UInt8) :
    Option (Filling × Ending) :=
  let among (s : String) : Bool := (Bytes.ofString s).contains kind
  if kind == 0x73 then
    let (word, f) := f.take
    let word := word.getD []
    some (f.put (spec.pad (match spec.precision with
      | some p => word.take p
      | none => word)), .whole)
  else if kind == 0x63 then
    let (word, f) := f.take
    some (f.put (spec.pad [(word.getD []).headD 0]), .whole)
  else if kind == 0x62 && !m.strict then
    let (word, f) := f.take
    let (out, ending) := unescape m.wordEscape (word.getD [])
    some (f.put (spec.pad (match spec.precision with
      | some p => out.take p
      | none => out)), ending)
  else if among "diouxX" then
    let (n, f) := f.integer m (isSigned kind)
    some (f.put (spec.integer kind n), .whole)
  else if among "aAeEfFgG" then
    let (x, f) := f.real m
    some (f.put (spec.real m.precision kind x), .whole)
  else none

/-- Fills words into the format once. -/
def fill (m : Manner) : Nat → Bytes → Filling → Filling × Ending
  | 0, _, f => (f, .whole)
  | _, [], f => (f, .whole)
  | fuel + 1, b :: rest, f =>
    if b == 0x5C then
      match m.escape rest with
      | .stop => (f, .stopped)
      | .bad message => (f, .bad message)
      | .none => fill m fuel rest (f.put [b])
      | .bytes out width => fill m fuel (rest.drop width) (f.put out)
    else if b != 0x25 then fill m fuel rest { f with out := b :: f.out }
    else
      match m.strict, m.quoted, rest with
      | _, _, 0x25 :: rest => fill m fuel rest (f.put [0x25])
      | true, _, 0x62 :: rest =>
        let (word, f) := f.take
        let (out, ending) := unescape m.wordEscape (word.getD [])
        let f := f.put out
        if ending = .whole then fill m fuel rest f else (f, ending)
      | true, some quoted, 0x71 :: rest =>
        let (word, f) := f.take
        fill m fuel rest (match word with
          | some word => f.put (quoted word)
          | none => f)
      | _, _, _ =>
        let (spec, rest', f) := f.spec m rest
        let before := rest.take (rest.length - rest'.length)
        match rest' with
        | [] => (f, if m.strict then .badDirective (0x25 :: before) else .unfinished)
        | kind :: rest' =>
          let found := if m.strict && !allows before kind then none else f.directive? m spec kind
          match found with
          | none => (f, .badDirective (0x25 :: before ++ [kind]))
          | some (f, .whole) => fill m fuel rest' f
          | some (f, ending) => (f, ending)

/-- What filling a format gives. -/
structure Printed where
  out : Bytes
  /-- Words that should have been numbers. -/
  faults : List (Bytes × NumberFault)
  ending : Ending
  /-- The first of the words that the format has no place for. -/
  excess : Option Bytes

/-- Fills words into the format until all are used. -/
def fillAll (m : Manner) (format : Bytes) : Nat → Filling → Printed
  | 0, f => ⟨f.out.reverse, f.faults.reverse, .whole, none⟩
  | fuel + 1, f =>
    let before := f.words.length
    let (f, ending) := fill m (format.length + 1) format f
    if ending = .whole && f.words.length < before && !f.words.isEmpty then
      fillAll m format fuel f
    else
      let excess := if ending = .whole then f.words.head? else none
      ⟨f.out.reverse, f.faults.reverse, ending, excess⟩

/-- Fills all the words into the format. -/
def print (m : Manner) (format : Bytes) (words : List Bytes) : Printed :=
  fillAll m format (words.length + 1) ⟨[], words, []⟩

/-- How the tool `printf` fills formats. -/
def tool (quoted : Bytes → Bytes) : Manner :=
  ⟨toolEscape false, toolEscape true, .extended, false, true, true, some quoted⟩

/-- How the command of the interpreter fills formats. -/
def command : Manner :=
  ⟨basicEscape false, wordEscape, .double, true, false, false, none⟩

end PipeShell.Format
