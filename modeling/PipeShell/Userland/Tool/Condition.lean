import PipeShell.Userland.Tool.Printing

/-!
# Deciding conditions

`test` decides a condition, which its words spell. A few words are told apart by their number
(`Condition.decide`), and more are read as an expression with `-a`, `-o`, `!` and parentheses
(`Condition.either`). A `Condition` is a computation that reads words, and may find that they are no
condition.
-/

namespace PipeShell.Tool

open Calling (call)

/-- A computation that decides a condition from words; `Except` gives what is wrong with them, and
the state holds the words that were not used yet. -/
abbrev Condition := ExceptT Bytes (StateT (List Bytes) Program)

namespace Condition

/-- The words that were not used yet. -/
def words : Condition (List Bytes) := get

/-- Drops words. -/
def skip (n : Nat) : Condition Unit := modify fun words => words.drop n

/-- What is wrong with the words. -/
def wrong {α : Type} (message : Bytes) : Condition α := throw message

/-- A call that is made to decide a condition. -/
def ask (c : Call) : Condition c.Reply := ExceptT.lift (StateT.lift (call c))

/-- Says that there are too few words; `last` is the last one of all. -/
def unfinished {α : Type} (last : Bytes) : Condition α :=
  wrong (text "missing argument after " ++ Shown.marked last)

/-! ## Questions -/

/-- The letters of questions about one word. -/
def unaryLetters : Bytes := text "aerwxNOGfdsScbpLhugkznt"

/-- Whether a word asks about the word after it. -/
def isUnary : Bytes → Bool
  | [0x2D, letter] => unaryLetters.contains letter || letter == 0x6F
  | _ => false

/-- Whether a status has a property that a letter names. -/
def statusHas (letter : UInt8) (s : FileStatus) : Bool :=
  if letter == 0x66 then s.kind == .regular
  else if letter == 0x64 then s.kind == .directory
  else if letter == 0x70 then s.kind == .pipe
  else if letter == 0x63 then s.kind == .device
  else if letter == 0x73 then s.kind == .directory || s.size != 0
  else if letter == 0x72 then s.mode.mayRead
  else if letter == 0x77 then s.mode.mayWrite
  else if letter == 0x78 then s.mode.maySearch
  else if letter == 0x75 then s.mode &&& 0o4000 != 0
  else if letter == 0x67 then s.mode &&& 0o2000 != 0
  else if letter == 0x6B then s.mode &&& 0o1000 != 0
  else ([0x61, 0x65, 0x4F, 0x47, 0x4E] : Bytes).contains letter

/-- The integer that a word writes, without the blanks around it. -/
def integerOf (word : Bytes) : Condition Int := do
  let isBlank (b : UInt8) : Bool := b == 0x20 || b == 0x09
  let stripped := ((word.dropWhile isBlank).reverse.dropWhile isBlank).reverse
  match Format.intOf? stripped with
  | some n => return n
  | none => wrong (text "invalid integer " ++ Shown.marked word)

/-- The answer to a question about one word. -/
def unaryHolds (letter : UInt8) (word : Bytes) : Condition Bool := do
  if letter == 0x6E then return !word.isEmpty
  else if letter == 0x7A then return word.isEmpty
  else if letter == 0x74 then
    let _ ← integerOf word
    return false
  else if letter == 0x68 || letter == 0x4C then
    match ← ask (.statusOfName word) with
    | .error _ => return false
    | .ok s => return s.kind == .symlink
  else match ← ask (.status word) with
    | .error _ => return false
    | .ok s => return statusHas letter s

/-- The comparison of integers that a word names. -/
def comparison? (operator : Bytes) : Option (Int → Int → Bool) :=
  let table : List (String × (Int → Int → Bool)) :=
    [("-eq", (· == ·)), ("-ne", (· != ·)), ("-lt", fun a b => a < b), ("-le", fun a b => a ≤ b),
     ("-gt", fun a b => b < a), ("-ge", fun a b => b ≤ a)]
  (table.find? fun c => text c.1 == operator).map (·.2)

/-- Whether a word asks about the words before and after it. -/
def isBinary (operator : Bytes) : Bool :=
  (comparison? operator).isSome ||
    [text "=", text "!=", text "==", text "-nt", text "-ot", text "-ef"].contains operator

/-- The answer to a question about two words. -/
def binaryHolds (left operator right : Bytes) : Condition Bool := do
  match comparison? operator with
  | some compares =>
    let a ← integerOf left
    let b ← integerOf right
    return compares a b
  | none =>
    if operator == text "!=" then return left != right
    else if operator == text "-ef" then
      match ← ask (.status left), ← ask (.status right) with
      | .ok a, .ok b => return a.object == b.object
      | _, _ => return false
    else if operator == text "-nt" then
      return (← ask (.status left)).isOk && !(← ask (.status right)).isOk
    else if operator == text "-ot" then
      return !(← ask (.status left)).isOk && (← ask (.status right)).isOk
    else return left == right

/-! ## Few words -/

/-- The next word. -/
def next (last : Bytes) : Condition Bytes := do
  match ← words with
  | [] => unfinished last
  | word :: _ =>
    skip 1
    return word

/-- Whether one word holds: it is not empty. -/
def one (last : Bytes) : Condition Bool := do return !(← next last).isEmpty

/-- Whether a question about one word holds. -/
def unary (last : Bytes) : Condition Bool := do
  let operator ← next last
  if !isUnary operator || operator == text "-o" then
    wrong (Shown.marked operator ++ text ": unary operator expected")
  let word ← next last
  unaryHolds (operator.getLastD 0) word

/-- Whether two words hold. -/
def two (last : Bytes) : Condition Bool := do
  let operator := (← words).headD []
  if operator == text "!" then
    skip 1
    return !(← one last)
  else if operator.length == 2 && operator.head? == some 0x2D then
    if isUnary operator then unary last
    else wrong (Shown.marked operator ++ text ": unary operator expected")
  else unfinished last

/-- Whether a question about two words holds. -/
def binary (last : Bytes) : Condition Bool := do
  let left ← next last
  let operator ← next last
  let right ← next last
  binaryHolds left operator right

/-! ## Expressions -/

mutual

/-- Whether the words hold, told apart by their number; `fuel` bounds the depth. -/
def decide (last : Bytes) : Nat → (count : Nat) → Condition Bool
  | 0, _ => return false
  | fuel + 1, count => do
    let rest ← words
    let first := rest.headD []
    if count == 1 then one last
    else if count == 2 then two last
    else if count == 3 then three last fuel
    else if count == 4 && first == text "!" then
      skip 1
      return !(← three last fuel)
    else if count == 4 && first == text "(" && rest[3]? == some (text ")") then
      skip 1
      let value ← two last
      skip 1
      return value
    else either last fuel false

/-- Whether three words hold. -/
def three (last : Bytes) : Nat → Condition Bool
  | 0 => return false
  | fuel + 1 => do
    let rest ← words
    let operator := rest.getD 1 []
    if isBinary operator then binary last
    else if rest.head? == some (text "!") then
      skip 1
      return !(← two last)
    else if rest.head? == some (text "(") && rest[2]? == some (text ")") then
      skip 1
      let value ← one last
      skip 1
      return value
    else if operator == text "-a" || operator == text "-o" then either last fuel false
    else wrong (Shown.marked operator ++ text ": binary operator expected")

/-- Whether one of the terms that `-o` joins holds, or one before them did. -/
def either (last : Bytes) : Nat → (before : Bool) → Condition Bool
  | 0, before => return before
  | fuel + 1, before => do
    let value ← both last fuel true
    if (← words).head? == some (text "-o") then
      skip 1
      either last fuel (before || value)
    else return before || value

/-- Whether all of the terms that `-a` joins hold, and those before them did. -/
def both (last : Bytes) : Nat → (before : Bool) → Condition Bool
  | 0, before => return before
  | fuel + 1, before => do
    let value ← term last fuel
    if (← words).head? == some (text "-a") then
      skip 1
      both last fuel (before && value)
    else return before && value

/-- Whether a term holds. -/
def term (last : Bytes) : Nat → Condition Bool
  | 0 => return false
  | fuel + 1 => do
    let rest ← words
    match rest with
    | [] => unfinished last
    | [0x21] :: more =>
      skip 1
      if more.isEmpty then unfinished last
      return !(← term last fuel)
    | [0x28] :: more =>
      skip 1
      if more.isEmpty then unfinished last
      let inside := (more.drop 1).takeWhile (· != text ")")
      let count := if inside.length < 3 then inside.length + 1
        else if inside.length == 3 && (more[4]?).isSome then 4 else more.length
      let value ← decide last fuel count
      match ← words with
      | [] => wrong (text "')' expected")
      | word :: _ =>
        if word != text ")" then
          wrong (text "')' expected, found " ++ Shown.marked word)
        skip 1
        return value
    | first :: _ =>
      if 3 ≤ rest.length && isBinary (rest.getD 1 []) then binary last
      else if first.length == 2 && first.head? == some 0x2D then unary last
      else one last

end

end Condition

variable (self : Bytes)

/-- Decides the condition that words spell. -/
def decideWords (words : List Bytes) : Program Nat := do
  if words.isEmpty then return 1
  let fuel := 4 * words.length + 8
  let (result, rest) ← (Condition.decide (words.getLastD []) fuel words.length).run.run words
  match result, rest with
  | .error fault, _ => refuse self 2 fault
  | .ok _, extra :: _ => refuse self 2 (text "extra argument " ++ Shown.marked extra)
  | .ok value, [] => return if value then 0 else 1

/-- Decides a condition. -/
def test (args : List Bytes) : Program Nat := decideWords self args

/-- Decides a condition between brackets. -/
def bracket (args : List Bytes) : Program Nat :=
  if args.getLast? != some (text "]") then refuse self 2 (text "missing ']'")
  else decideWords self args.dropLast

end PipeShell.Tool
