import PipeShell.Userland.Script.Builtin.Options

/-!
# Conditions

`Condition.holds` decides the words of `test`: questions about texts, numbers and files, joined by
`-a` and `-o`, negated by `!` and put between parentheses. What a word means depends on the words
around it, so they are read from left to right with the words to come in view.
-/

namespace PipeShell.Script

namespace Condition

open Calling (call)

/-- What a word can mean. -/
inductive Meaning
  | unary (letter : UInt8)
  | binary (operator : String)
  | negation
  | both
  | either
  | opening
  | closing
  | operand
  | missing
deriving DecidableEq, Repr

/-- The letters of questions about one word. -/
def unaryLetters : String := "rwxefdcbpugkstznhOGLS"

/-- The operators between two words. -/
def binaryOperators : List String :=
  ["=", "!=", "<", ">", "-eq", "-ne", "-ge", "-gt", "-le", "-lt", "-nt", "-ot", "-ef"]

/-- What a word means by itself. -/
def meaningOf (word : Bytes) : Meaning :=
  if word == text "!" then .negation
  else if word == text "-a" then .both
  else if word == text "-o" then .either
  else if word == text "(" then .opening
  else if word == text ")" then .closing
  else match binaryOperators.find? fun o => text o == word with
    | some o => .binary o
    | none =>
      match word with
      | [0x2D, letter] =>
        if (text unaryLetters).contains letter then .unary letter else .operand
      | _ => .operand

/-- Whether a word is an operator between two words. -/
def isBinary (word : Bytes) : Bool :=
  match meaningOf word with
  | .binary _ => true
  | _ => false

/-- What the first of the words means where an operand or an operator can stand. -/
def meaning : List Bytes → Meaning
  | [] => .missing
  | word :: rest =>
    match meaningOf word with
    | .unary letter =>
      match rest with
      | [] => .operand
      | [_] => .unary letter
      | next :: _ => if isBinary next then .operand else .unary letter
    | .opening => if rest.isEmpty then .operand else .opening
    | m => m

/-- Leaves because the words are no condition. -/
def malformed {α : Type} (word : Bytes) (message : String) : Script α :=
  fail (if word.isEmpty then text message else word ++ text (": " ++ message))

/-- The number that a word writes. -/
def numberOf (word : Bytes) : Script Int := do
  match decimalOf? word with
  | some n => return n
  | none => badNumber word

/-- The answer to a question about one word. -/
def unaryHolds (letter : UInt8) (word : Bytes) : Script Bool := do
  match letter with
  | 0x7A => return word.isEmpty
  | 0x6E => return !word.isEmpty
  | 0x74 =>
    let _ ← numberOf word
    return false
  | 0x68 | 0x4C =>
    match ← call (.statusOfName word) with
    | .error _ => return false
    | .ok s => return s.kind == .symlink
  | _ =>
    match ← call (.status word) with
    | .error _ => return false
    | .ok s =>
      match letter with
      | 0x72 => return s.mode.mayRead
      | 0x77 => return s.mode.mayWrite
      | 0x78 => return s.mode.maySearch
      | 0x66 => return s.kind == .regular
      | 0x64 => return s.kind == .directory
      | 0x63 => return s.kind == .device
      | 0x62 | 0x53 => return false
      | 0x70 => return s.kind == .pipe
      | 0x75 => return s.mode &&& 0o4000 != 0
      | 0x67 => return s.mode &&& 0o2000 != 0
      | 0x6B => return s.mode &&& 0o1000 != 0
      | 0x73 => return s.kind == .directory || s.size != 0
      | _ => return true

/-- The answer to a question about two words. -/
def binaryHolds (left : Bytes) (operator : String) (right : Bytes) : Script Bool := do
  let compare (p : Int → Int → Bool) : Script Bool := do
    let a ← numberOf left
    return p a (← numberOf right)
  match operator with
  | "=" => return left == right
  | "!=" => return left != right
  | "<" => return left != right && Variables.bytesLe left right
  | ">" => return left != right && Variables.bytesLe right left
  | "-eq" => compare (· == ·)
  | "-ne" => compare (· != ·)
  | "-ge" => compare fun a b => b ≤ a
  | "-gt" => compare fun a b => b < a
  | "-le" => compare fun a b => a ≤ b
  | "-lt" => compare fun a b => a < b
  | "-ef" =>
    match ← call (.status left), ← call (.status right) with
    | .ok a, .ok b => return a.object == b.object
    | _, _ => return false
  | _ => return false

mutual

/-- Decides conditions joined by `-o` at the start of the words, the first of which has a meaning;
gives the words from the last one that was used on. -/
def anyOf (fuel : Nat) (m : Meaning) (words : List Bytes) : Script (Bool × List Bytes) :=
  match fuel with
  | 0 => return (false, words)
  | fuel + 1 => do
    let (a, words) ← allOf fuel m words
    match meaning words.tail with
    | .either =>
      let words := words.drop 2
      let (b, words) ← anyOf fuel (meaning words) words
      return (a || b, words)
    | _ => return (a, words)

/-- Decides conditions joined by `-a`. -/
def allOf (fuel : Nat) (m : Meaning) (words : List Bytes) : Script (Bool × List Bytes) :=
  match fuel with
  | 0 => return (false, words)
  | fuel + 1 => do
    let (a, words) ← negated fuel m words
    match meaning words.tail with
    | .both =>
      let words := words.drop 2
      let (b, words) ← allOf fuel (meaning words) words
      return (a && b, words)
    | _ => return (a, words)

/-- Decides a condition that may be negated. -/
def negated (fuel : Nat) (m : Meaning) (words : List Bytes) : Script (Bool × List Bytes) :=
  match fuel with
  | 0 => return (false, words)
  | fuel + 1 => do
    match m with
    | .negation =>
      let m := meaning words.tail
      let (a, words) ← negated fuel m (if m == .missing then words else words.tail)
      return (!a, words)
    | m => primary fuel m words

/-- Decides a single condition. -/
def primary (fuel : Nat) (m : Meaning) (words : List Bytes) : Script (Bool × List Bytes) :=
  match fuel with
  | 0 => return (false, words)
  | fuel + 1 => do
    match m with
    | .missing => return (false, words)
    | .opening =>
      let inside := words.tail
      match meaning inside with
      | .closing => return (false, inside)
      | m =>
        let (a, words) ← anyOf fuel m inside
        let words := words.tail
        if meaning words != .closing then malformed [] "closing paren expected"
        return (a, words)
    | .unary letter =>
      match words.tail with
      | [] => malformed (words.headD []) "argument expected"
      | word :: rest => return (← unaryHolds letter word, word :: rest)
    | _ =>
      match meaning words.tail with
      | .binary operator =>
        match words.drop 2 with
        | [] => malformed (text operator) "argument expected"
        | right :: rest =>
          return (← binaryHolds (words.headD []) operator right, right :: rest)
      | _ => return (!(words.headD []).isEmpty, words)

end

/-- Decides words, the meaning of the first of which is known. -/
def decide (m : Meaning) (words : List Bytes) : Script Bool := do
  let (holds, words) ← anyOf (8 * words.length + 8) m words
  if 1 < words.length then malformed (words.headD []) "unexpected operator"
  return holds

/-- Whether words are a condition that holds. -/
def holds : Nat → List Bytes → Script Bool
  | 0, _ => return false
  | _, [] => return false
  | fuel + 1, words => do
    let special := words.length == 3 || words.length == 4
    if words.length == 3 && isBinary (words.getD 1 []) then decide .operand words
    else if special && words.head? == some (text "(") && words.getLast? == some (text ")") then
      let inside := words.tail.dropLast
      decide (meaning inside) inside
    else if special && words.head? == some (text "!") then
      return !(← holds fuel words.tail)
    else decide (meaning words) words

end Condition

/-- Decides a condition; the one between brackets needs the second of them. -/
def runTest (name : Bytes) (words : List Bytes) : Script Nat := do
  let words ← if name == text "[" then do
      if (words.getLast?.bind List.head?) != some 0x5D then fail (text "missing ]")
      pure words.dropLast
    else pure words
  return if ← Condition.holds (words.length + 1) words then 0 else 1

end PipeShell.Script
