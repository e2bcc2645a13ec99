import PipeShell.Userland.Tool.Printing

/-!
# Translating bytes

`tr` replaces, deletes or reduces bytes of standard input. A word of it spells a list of `SetPart`s:
bytes, ranges, classes and repeated bytes. What a part stands for is `SetPart.bytes`; a class of
letters keeps its case besides, since one case can be replaced by the other. `Replacement.table` is
what is put in place of each byte.
-/

namespace PipeShell.Tool

open Calling (call)
open Printing

/-! ## Classes -/

/-- The bytes from one to another. -/
def byteRange (lo hi : UInt8) : Bytes :=
  (List.range (hi.toNat + 1 - lo.toNat)).map fun i => UInt8.ofNat (lo.toNat + i)

/-- All bytes. -/
def allBytes : Bytes := (List.range 256).map UInt8.ofNat

/-- Whether a byte is in the class of a name, for the names of classes. -/
def classMember? (name : Bytes) : Option (UInt8 → Bool) :=
  let isUpper (b : UInt8) : Bool := 0x41 ≤ b && b ≤ 0x5A
  let isLower (b : UInt8) : Bool := 0x61 ≤ b && b ≤ 0x7A
  let isAlnum (b : UInt8) : Bool := isUpper b || isLower b || Format.isDigit b
  let isGraph (b : UInt8) : Bool := 0x21 ≤ b && b ≤ 0x7E
  let table : List (String × (UInt8 → Bool)) :=
    [("upper", isUpper), ("lower", isLower), ("digit", Format.isDigit),
      ("alpha", fun b => isUpper b || isLower b), ("alnum", isAlnum),
      ("space", Format.isSpace), ("blank", fun b => b == 0x20 || b == 0x09),
      ("cntrl", fun b => b < 0x20 || b == 0x7F), ("graph", isGraph),
      ("print", fun b => isGraph b || b == 0x20), ("punct", fun b => isGraph b && !isAlnum b),
      ("xdigit", fun b => (Format.hexValue? b).isSome)]
  (table.find? fun c => text c.1 == name).map (·.2)

/-- The case of a class of letters. -/
inductive LetterCase
  | upper
  | lower
deriving DecidableEq, Repr

/-! ## Sets -/

/-- A part of a set of bytes. -/
inductive SetPart
  | byte (b : UInt8)
  | range (lo hi : UInt8)
  | named (name : Bytes)
  /-- The class of all bytes that are equal to one. -/
  | equals (b : UInt8)
  /-- A byte a number of times; without a number, as often as needed. -/
  | repeated (b : UInt8) (times : Option Nat)
deriving DecidableEq, Repr

namespace SetPart

/-- The bytes that a part stands for. -/
def bytes : SetPart → Bytes
  | byte b => [b]
  | range lo hi => byteRange lo hi
  | named name => allBytes.filter ((classMember? name).getD fun _ => false)
  | equals b => [b]
  | repeated b times => List.replicate (times.getD 0) b

/-- The case of a part that is a class of letters. -/
def letterCase? : SetPart → Option LetterCase
  | named name =>
    if name == text "upper" then some .upper
    else if name == text "lower" then some .lower
    else none
  | _ => none

/-- Whether a part is a class. -/
def isClass : SetPart → Bool
  | named _ => true
  | _ => false

/-- Whether a part is the class of all bytes that are equal to one. -/
def isEquals : SetPart → Bool
  | equals _ => true
  | _ => false

/-- Whether a part is repeated as often as needed. -/
def isOpen : SetPart → Bool
  | repeated _ none => true
  | _ => false

end SetPart

/-- How many bytes the parts stand for. -/
def setLength (parts : List SetPart) : Nat :=
  parts.foldl (fun n part => n + part.bytes.length) 0

/-- The bytes that the parts stand for. -/
def setBytes (parts : List SetPart) : Bytes := parts.flatMap SetPart.bytes

/-! ## Reading sets -/

/-- A byte of a word, and whether a backslash came before it. -/
abbrev SetByte := UInt8 × Bool

/-- The bytes of a word without backslashes, and warnings about them; `fuel` bounds their number. -/
def unescapeSet : Nat → Bytes → List SetByte × List Bytes
  | 0, _ | _, [] => ([], [])
  | fuel + 1, 0x5C :: rest =>
    match rest with
    | [] => ([(0x5C, false)],
        [text "warning: an unescaped backslash at end of string is not portable"])
    | b :: more =>
      let digits := (rest.take 3).takeWhile Format.isOctal
      let value := digits.foldl (fun n d => 8 * n + (d.toNat - 0x30)) 0
      if digits.isEmpty then
        let (bytes, warnings) := unescapeSet fuel more
        (((Format.simpleEscape? b).getD b, true) :: bytes, warnings)
      else if value < 256 then
        let (bytes, warnings) := unescapeSet fuel (rest.drop digits.length)
        ((UInt8.ofNat value, true) :: bytes, warnings)
      else
        let (bytes, warnings) := unescapeSet fuel (rest.drop 2)
        ((UInt8.ofNat (value / 8), true) :: bytes,
          (text "warning: the ambiguous octal escape \\" ++ digits ++
            text " is being\n\tinterpreted as the 2-byte sequence \\0" ++ digits.take 2 ++
            text ", " ++ digits.drop 2) :: warnings)
  | fuel + 1, b :: rest =>
    let (bytes, warnings) := unescapeSet fuel rest
    ((b, false) :: bytes, warnings)

/-- A byte as a message shows it. -/
def printable (b : UInt8) : Bytes := if Shown.isVisible b then [b] else Shown.octal b

/-- What stands before the end of a class, which is a byte and a bracket, and what follows it. -/
def untilBracket? (delimiter : UInt8) : List SetByte → Option (Bytes × List SetByte)
  | (b, escaped) :: (c, escaped') :: rest =>
    if b == delimiter && c == 0x5D && !escaped && !escaped' then some ([], rest)
    else (untilBracket? delimiter ((c, escaped') :: rest)).map fun (inside, rest) =>
      (b :: inside, rest)
  | _ => none

/-- Whether a star, digits and a bracket come next. -/
def startsRepeat : List SetByte → Bool
  | (0x2A, false) :: rest =>
    (rest.dropWhile fun b => Format.isDigit b.1).head? == some (0x5D, false)
  | _ => false

/-- The number of repetitions that digits write, in octal if they start with zero. -/
def repeatCount? (digits : Bytes) : Option Nat :=
  let base := if digits.head? == some 0x30 then 8 else 10
  let rest := digits.dropWhile Format.isSpace
  let rest := if rest.head? == some 0x2B then rest.tail else rest
  let inBase (b : UInt8) : Bool := (Format.hexValue? b).any (· < base)
  let n := rest.foldl (fun n b => base * n + (b.toNat - 0x30)) 0
  if rest.isEmpty || !rest.all inBase || Format.wordCount ≤ n then none else some n

/-- A repeated byte after a bracket, and what follows it; an error says that the number is none. -/
def repeatAt? : List SetByte → Option (Except Bytes (SetPart × List SetByte))
  | (b, _) :: (0x2A, false) :: rest =>
    let inside := rest.takeWhile fun c => c.1 != 0x5D && !c.2
    let digits := inside.map (·.1)
    match rest.drop inside.length with
    | (0x5D, false) :: more =>
      if digits.isEmpty then some (.ok (.repeated b none, more))
      else match repeatCount? digits with
        | some 0 => some (.ok (.repeated b none, more))
        | some n => some (.ok (.repeated b (some n), more))
        | none => some (.error (text "invalid repeat count " ++
            Shown.marked (digits.flatMap printable) ++ text " in [c*n] construct"))
    | _ => none
  | _ => none

/-- A class after a bracket, and what follows it; an error says what is wrong with it. -/
def classAt? : List SetByte → Option (Except Bytes (SetPart × List SetByte))
  | (0x3A, false) :: rest =>
    match untilBracket? 0x3A rest with
    | none => none
    | some ([], _) => some (.error (text "missing character class name '[::]'"))
    | some (name, more) =>
      if (classMember? name).isSome then some (.ok (.named name, more))
      else if startsRepeat rest then none
      else some (.error (text "invalid character class " ++
        Shown.marked (name.flatMap printable)))
  | (0x3D, false) :: rest =>
    match untilBracket? 0x3D rest with
    | none => none
    | some ([], _) => some (.error (text "missing equivalence class character '[==]'"))
    | some ([b], more) => some (.ok (.equals b, more))
    | some (name, _) =>
      if startsRepeat rest then none
      else some (.error (name.flatMap printable ++
        text ": equivalence class operand must be a single character"))
  | _ => none

/-- The parts that bytes spell, or what is wrong with them; `fuel` bounds their number. -/
def setParts : Nat → List SetByte → Except Bytes (List SetPart)
  | 0, _ | _, [] => .ok []
  | fuel + 1, first :: rest =>
    let single : Except Bytes (List SetPart) :=
      match rest with
      | (0x2D, false) :: hi :: more =>
        if hi.1 < first.1 then
          .error (text "range-endpoints of '" ++ printable first.1 ++ [0x2D] ++
            printable hi.1 ++ text "' are in reverse collating sequence order")
        else (setParts fuel more).map (.range first.1 hi.1 :: ·)
      | _ => (setParts fuel rest).map (.byte first.1 :: ·)
    if first == (0x5B, false) && 2 ≤ rest.length then
      match (classAt? rest).orElse fun _ => repeatAt? rest with
      | some (.ok (part, more)) => (setParts fuel more).map (part :: ·)
      | some (.error fault) => .error fault
      | none => single
    else single

/-! ## Replacing -/

/-- The parts of a set that are left, each with the bytes of it that are left. -/
abbrev SetCursor := List (Option LetterCase × Bytes)

namespace SetCursor

/-- The cursor at the start of a set. -/
def of (parts : List SetPart) : SetCursor :=
  (parts.map fun part => (part.letterCase?, part.bytes)).filter fun part => !part.2.isEmpty

/-- The byte at a cursor, the case of its part, and the cursor after it. -/
def next : SetCursor → Option UInt8 × Option LetterCase × SetCursor
  | (c, [b]) :: rest => (some b, c, rest)
  | (c, b :: bs) :: rest => (some b, c, (c, bs) :: rest)
  | (_, []) :: rest => (none, none, rest)
  | [] => (none, none, [])

end SetCursor

/-- Which byte is put in place of each byte. -/
abbrev ByteTable := Array UInt8

namespace ByteTable

/-- Every byte is kept. -/
def identity : ByteTable := (List.range 256).toArray.map UInt8.ofNat

/-- The table in which `c` is put in place of `b`. -/
def replacing (t : ByteTable) (b c : UInt8) : ByteTable := t.setIfInBounds b.toNat c

/-- What is put in place of a byte. -/
def get (t : ByteTable) (b : UInt8) : UInt8 := (t[b.toNat]?).getD b

end ByteTable

/-- The table that two sets side by side make; `fuel` bounds the number of bytes in them. -/
def pairTable : Nat → SetCursor → SetCursor → ByteTable → ByteTable
  | 0, _, _, t => t
  | fuel + 1, first, second, t =>
    let (c1, case1, first) := first.next
    let (c2, case2, second) := second.next
    match c1, c2 with
    | some b, some c =>
      let t := match case1, case2 with
        | some .lower, some .upper =>
          (byteRange 0x61 0x7A).foldl (fun t b => t.replacing b (b - 0x20)) t
        | some .upper, some .lower =>
          (byteRange 0x41 0x5A).foldl (fun t b => t.replacing b (b + 0x20)) t
        | _, _ => t.replacing b c
      if case2.isSome then pairTable fuel first.tail second.tail t
      else pairTable fuel first second t
    | _, _ => t

/-- Whether classes of letters stand side by side with classes of letters, and how many bytes the
sets have less if each pair of classes counts once; `fuel` bounds the number of bytes in them. -/
def alignedCases : Nat → (fresh1 fresh2 : Bool) → SetCursor → SetCursor → Nat → Option Nat
  | 0, _, _, _, _, less => some less
  | fuel + 1, fresh1, fresh2, first, second, less =>
    let before1 := first.length
    let before2 := second.length
    let (c1, case1, first) := first.next
    let (c2, case2, second) := second.next
    if fresh2 && case2.isSome && !(fresh1 && case1.isSome) then none
    else if case2.isSome then
      alignedCases fuel true true first.tail second.tail (less + 25)
    else match c1, c2 with
      | some _, some _ => alignedCases fuel (first.length < before1) (second.length < before2)
          first second less
      | _, _ => some less

/-! ## Requests -/

/-- What `tr` is asked for. -/
structure Translation where
  complement : Bool
  deletes : Bool
  squeezes : Bool
  truncates : Bool
  first : List SetPart
  second : Option (List SetPart)

namespace Translation

/-- Whether bytes are replaced. -/
def replaces (t : Translation) : Bool := t.second.isSome && !t.deletes

/-- The bytes of the first set, or all others. -/
def domain (t : Translation) : Bytes :=
  let bytes := setBytes t.first
  if t.complement then allBytes.filter fun b => !bytes.contains b else bytes

/-- The second set with the part that is repeated as often as needed filled in. -/
def filled (t : Translation) (second : List SetPart) : List SetPart :=
  let missing := t.domain.length - setLength second
  second.map fun part => match part with
    | .repeated b none => .repeated b (some missing)
    | part => part

/-- The second set continued with its last byte, so that it is as long as the first, or the reason
why that is impossible. -/
def extended (t : Translation) (missing : Nat) (second : List SetPart) :
    Except String (List SetPart) :=
  if missing == 0 || t.truncates then .ok second
  else match second.getLast? with
    | none => .error "when not truncating set1, string2 must be non-empty"
    | some (.named _) => .error ("when translating with string1 longer than string2,\n" ++
        "the latter string must not end with a character class")
    | some (.byte b) | some (.range _ b) | some (.equals b) | some (.repeated b _) =>
      .ok (second ++ [.repeated b (some missing)])

/-- The request with the second set that is put in place of the first, or the reason why it
cannot be. -/
def aligned (t : Translation) (second : List SetPart) : Except String Translation := do
  if second.any SetPart.isEquals then
    .error "[=c=] expressions may not appear in string2 when translating"
  if second.any fun part => part.isClass && part.letterCase?.isNone then
    .error ("when translating, the only character classes that may appear in\n" ++
      "string2 are 'upper' and 'lower'")
  let fuel := setLength t.first + setLength second + 1
  let less ← if t.complement || !second.any SetPart.isClass then pure 0
    else match alignedCases fuel true true (.of t.first) (.of second) 0 with
      | some less => pure less
      | none => .error "misaligned [:upper:] and/or [:lower:] construct"
  let second ← if setLength second - less < t.domain.length - less then
      t.extended (t.domain.length - setLength second) second
    else pure second
  if t.complement && t.first.any SetPart.isClass &&
      (setLength second != t.domain.length ||
        (setBytes second).any fun b => some b != (setBytes second).head?) then
    .error ("when translating with complemented character classes,\n" ++
      "string2 must map all characters in the domain to one")
  return { t with second := some second }

/-- The request with its sets made ready, or the reason why they do not go together. -/
def checked (t : Translation) : Except String Translation := do
  if t.first.any SetPart.isOpen then
    .error "the [c*] repeat construct may not appear in string1"
  match t.second with
  | none => return t
  | some second =>
    if 1 < second.countP SetPart.isOpen then
      .error "only one [c*] repeat construct may appear in string2"
    if t.replaces then t.aligned (t.filled second)
    else if second.any SetPart.isOpen then
      .error "the [c*] construct may appear in string2 only when translating"
    else return t

/-- What is put in place of bytes. -/
def table (t : Translation) : ByteTable :=
  match t.second with
  | none => .identity
  | some second =>
    if t.complement then
      (t.domain.zip (setBytes second)).foldl (fun table (b, c) => table.replacing b c) .identity
    else
      pairTable (setLength t.first + setLength second + 1) (.of t.first) (.of second) .identity

/-- The bytes that are reduced to one where they follow each other. -/
def reduced (t : Translation) : Bytes :=
  if !t.squeezes then []
  else match t.second with
    | some second => setBytes second
    | none => t.domain

end Translation

/-- Whether each byte is in a set. -/
def memberTable (set : Bytes) : Array Bool :=
  set.foldl (fun table b => table.setIfInBounds b.toNat true) (Array.replicate 256 false)

/-- The text without bytes that follow an equal one and are in a set, the first of which may follow
`last`; and the last byte that is kept. -/
def squeezed (set : Array Bool) (last : Option UInt8) (data : Bytes) : Bytes × Option UInt8 :=
  let (out, last) := data.foldl (fun (out, last) b =>
    if last == some b && (set[b.toNat]?).getD false then (out, last) else (b :: out, some b))
    ([], last)
  (out.reverse, last)

/-! ## tr -/

/-- What is wrong with the number of operands. -/
def operandFault (deletes squeezes : Bool) (sets : List Bytes) : Option Bytes :=
  let needed := if deletes == squeezes then 2 else 1
  let most := if deletes && !squeezes then 1 else 2
  if sets.length < needed then
    some (match sets with
      | [] => text "missing operand"
      | first :: _ => text "missing operand after " ++ Shown.marked first ++
          text ("\nTwo strings must be given when " ++
            (if squeezes then "both deleting and squeezing repeats." else "translating.")))
  else if most < sets.length then
    some (text "extra operand " ++ Shown.marked (sets.getD most []) ++
      (if sets.length == 2 then
        text "\nOnly one string may be given when deleting without squeezing repeats."
      else []))
  else none

variable (self : Bytes)

/-- The set that a word spells; the tool ends if it spells none. -/
def readSet (word : Bytes) : Printing (List SetPart) := do
  let (bytes, warnings) := unescapeSet (word.length + 1) word
  for warning in warnings do complain (self ++ text ": " ++ warning)
  match setParts (bytes.length + 1) bytes with
  | .ok parts => return parts
  | .error fault => give 1 (self ++ text ": " ++ fault)

/-- Replaces, deletes or reduces bytes of standard input. -/
def tr (args : List Bytes) : Program Nat :=
  withChecked self
    [flag "c" "complement", flag "C" "", flag "d" "delete", flag "s" "squeeze-repeats",
      flag "t" "truncate-set1"] true 1 (fun _ _ => none) args fun a =>
  match operandFault (a.has "d") (a.has "s") a.operands with
  | some fault => misuse self 1 fault
  | none => Printing.toProgram self 1 do
    let first ← readSet self (a.operands.headD [])
    let second ← match a.operands.tail with
      | [] => pure none
      | word :: _ => some <$> readSet self word
    match Translation.checked
      ⟨a.hasAny ["c", "C"], a.has "d", a.has "s", a.has "t", first, second⟩ with
    | .error fault => give 1 (self ++ text (": " ++ fault))
    | .ok t =>
      let dropped := memberTable (if t.deletes then t.domain else [])
      let table := if t.replaces then t.table else .identity
      let once := memberTable t.reduced
      let (_, e) ← eachBlock Fd.stdin Calling.blockSize (fun last block => do
        let block := block.filter fun b => !(dropped[b.toNat]?).getD false
        let (out, last) := squeezed once last (block.map table.get)
        printOr 1 (self ++ text ": write error") out
        return (last, true)) Calling.patience none
      if let some e := e then give 1 (complaint self (text "read error") e)
      if let .error e ← call (.close Fd.stdin) then
        give 1 (complaint self (text "standard input") e)
      return 0

end PipeShell.Tool
