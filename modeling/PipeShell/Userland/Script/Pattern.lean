import PipeShell.Text.Utf8

/-!
# Patterns

A pattern is a text in which some bytes stand for others: `?` for one byte, `*` for any number of
them, and brackets for one byte of a set. Bytes that are quoted stand for themselves (`Symbol`).
`Pattern.ofSymbols` reads a pattern, and `Pattern.accepts` decides whether a text matches.
-/

namespace PipeShell.Script

/-- A byte of a pattern that is not read yet. -/
structure Symbol where
  byte : UInt8
  /-- Whether it stands for itself. -/
  quoted : Bool
deriving DecidableEq, Repr

/-- Whether a symbol is a byte that is not quoted. -/
def Symbol.isPlain (s : Symbol) (b : UInt8) : Bool := !s.quoted && s.byte == b

/-- Some of the bytes that a set holds. -/
inductive Members
  | range (first last : UInt8)
  | kind (name : String)
deriving DecidableEq, Repr

/-- A part of a pattern. -/
inductive Element
  | byte (b : UInt8)
  | anyByte
  | anyText
  | set (inverted : Bool) (members : List Members)
deriving DecidableEq, Repr

/-- A pattern. -/
abbrev Pattern := List Element

/-! ## Kinds of bytes -/

/-- The kinds of bytes that sets know. -/
def byteKinds : List (String × (UInt8 → Bool)) :=
  let lower (b : UInt8) : Bool := 0x61 ≤ b && b ≤ 0x7A
  let upper (b : UInt8) : Bool := 0x41 ≤ b && b ≤ 0x5A
  let digit (b : UInt8) : Bool := 0x30 ≤ b && b ≤ 0x39
  let visible (b : UInt8) : Bool := 0x21 ≤ b && b ≤ 0x7E
  [("alnum", fun b => lower b || upper b || digit b), ("alpha", fun b => lower b || upper b),
   ("blank", fun b => b == 0x20 || b == 0x09), ("cntrl", fun b => b < 0x20 || b == 0x7F),
   ("digit", digit), ("graph", visible), ("lower", lower),
   ("print", fun b => visible b || b == 0x20),
   ("punct", fun b => visible b && !(lower b || upper b || digit b)),
   ("space", fun b => b == 0x20 || (0x09 ≤ b && b ≤ 0x0D)), ("upper", upper),
   ("xdigit", fun b => digit b || (0x41 ≤ b && b ≤ 0x46) || (0x61 ≤ b && b ≤ 0x66))]

/-- The value of a byte as a number with a sign. -/
def signedByte (b : UInt8) : Int := if b < 0x80 then b.toNat else (b.toNat : Int) - 256

/-- Whether a byte is one of the members. -/
def Members.holds (b : UInt8) : Members → Bool
  | range first last => signedByte first ≤ signedByte b && signedByte b ≤ signedByte last
  | kind name => ((byteKinds.lookup name).map (· b)).getD false

/-! ## Reading -/

/-- The kind of bytes that is named here, after an opening bracket, and the rest. -/
def kindAt (rest : List Symbol) : Option (String × List Symbol) :=
  match rest with
  | colon :: more =>
    if !colon.isPlain 0x3A then none
    else
      let name := more.takeWhile fun s => !s.isPlain 0x3A
      match more.drop name.length with
      | _ :: bracket :: rest =>
        if !bracket.isPlain 0x5D then none
        else (byteKinds.find? fun k => Bytes.ofString k.1 == name.map (·.byte)).map fun k =>
          (k.1, rest)
      | _ => none
  | [] => none

/-- The members of a set from some point on, and what comes after the set; `none` if the set has no
end. -/
def membersAt : Nat → (first : Bool) → List Symbol → Option (List Members × List Symbol)
  | 0, _, _ => none
  | _, _, [] => none
  | fuel + 1, first, s :: rest =>
    if s.isPlain 0x5D && !first then some ([], rest)
    else
      let goOn (m : Members) (rest : List Symbol) : Option (List Members × List Symbol) :=
        (membersAt fuel false rest).map fun (ms, rest) => (m :: ms, rest)
      match if s.isPlain 0x5B then kindAt rest else none with
      | some (name, rest) => goOn (.kind name) rest
      | none =>
        match rest with
        | dash :: last :: more =>
          if dash.isPlain 0x2D && !last.isPlain 0x5D then goOn (.range s.byte last.byte) more
          else goOn (.range s.byte s.byte) rest
        | _ => goOn (.range s.byte s.byte) rest

/-- The set that starts here, after its opening bracket, and the rest. -/
def setAt (rest : List Symbol) : Option (Element × List Symbol) :=
  let inverted := rest.head?.any (·.isPlain 0x21)
  let rest := if inverted then rest.tail else rest
  (membersAt (rest.length + 1) true rest).map fun (members, rest) => (.set inverted members, rest)

/-- The pattern that symbols spell. -/
def Pattern.ofSymbols : Nat → List Symbol → Pattern
  | 0, _ => []
  | _, [] => []
  | fuel + 1, s :: rest =>
    if s.isPlain 0x3F then .anyByte :: ofSymbols fuel rest
    else if s.isPlain 0x2A then .anyText :: ofSymbols fuel rest
    else if s.isPlain 0x5B then
      match setAt rest with
      | some (element, rest) => element :: ofSymbols fuel rest
      | none => .byte s.byte :: ofSymbols fuel rest
    else .byte s.byte :: ofSymbols fuel rest

/-- The pattern of symbols. -/
def Pattern.of (symbols : List Symbol) : Pattern := .ofSymbols (symbols.length + 1) symbols

/-! ## Matching -/

/-- Whether a byte matches a part of a pattern that stands for one byte. -/
def Element.accepts (b : UInt8) : Element → Bool
  | byte c => b == c
  | anyByte => true
  | anyText => false
  | set inverted members => members.any (·.holds b) != inverted

/-- Whether a test holds for a text or for one of the texts that it ends with. -/
def anyEnd (p : Bytes → Bool) : Bytes → Bool
  | [] => p []
  | b :: text => p (b :: text) || anyEnd p text

/-- Whether a text matches a pattern. -/
def Pattern.accepts : Pattern → Bytes → Bool
  | [], text => text.isEmpty
  | .anyText :: pattern, text => anyEnd (accepts pattern) text
  | element :: pattern, b :: text => element.accepts b && accepts pattern text
  | _ :: _, [] => false

end PipeShell.Script
