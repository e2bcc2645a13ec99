import PipeShell.Userland.Script.Syntax

/-!
# Arithmetic

`Arithmetic.evaluate` reckons out an expression over integers of 64 bits. It is read and evaluated
at once, one lexeme ahead: what a condition leaves out is read as well, but has no effect
(`skipped`). Variables may be set on the way; the settings are given back with the result, also when
the evaluation fails.
-/

namespace PipeShell.Script

namespace Arithmetic

/-- Why an expression has no value. -/
inductive Fault
  | message (text : String)
  /-- A variable whose value is no number. -/
  | illegalNumber (value : Bytes)
  /-- A quotient that is too large for an integer of 64 bits. -/
  | tooLarge
deriving DecidableEq, Repr

/-- A lexeme of an expression. -/
inductive Lexeme
  | finish
  | number (n : Int)
  | variable (name : Bytes)
  | operator (symbol : String)
  | unknown
deriving DecidableEq, Repr

/-! ## Integers of 64 bits -/

/-- How many integers there are. -/
def integerCount : Nat := 0x10000000000000000

/-- The integer of 64 bits that is left of an integer. -/
def wrap (n : Int) : Int := Int.bmod n integerCount

/-- The greatest integer. -/
def greatest : Int := 0x7FFFFFFFFFFFFFFF

/-- The least integer. -/
def least : Int := -0x8000000000000000

/-- The bits of an integer as a natural number. -/
def bitsOf (n : Int) : Nat := (n % (integerCount : Int)).toNat

/-- The integer of a truth value. -/
def truth (b : Bool) : Int := if b then 1 else 0

/-! ## Lexemes -/

/-- The value of a digit up to `f`. -/
def digitValue? (b : UInt8) : Option Nat :=
  if 0x30 ≤ b && b ≤ 0x39 then some (b.toNat - 0x30)
  else if 0x41 ≤ b && b ≤ 0x46 then some (b.toNat - 0x37)
  else if 0x61 ≤ b && b ≤ 0x66 then some (b.toNat - 0x57)
  else none

/-- The digits of a base at the start of a text. -/
def digitsAt (base : Nat) (text : Bytes) : List Nat :=
  (text.takeWhile fun b => (digitValue? b).any (· < base)).filterMap digitValue?

/-- The number at the start of a text, and how many bytes spell it: `0x` starts a number in base
sixteen and `0` one in base eight. -/
def numberAt (text : Bytes) : Nat × Nat :=
  let read (base skipped : Nat) (text : Bytes) : Nat × Nat :=
    let digits := digitsAt base text
    (digits.foldl (fun n d => n * base + d) 0, skipped + digits.length)
  match text with
  | 0x30 :: x :: more =>
    if (x == 0x78 || x == 0x58) && !(digitsAt 16 more).isEmpty then read 16 2 more
    else read 8 0 text
  | 0x30 :: _ => read 8 0 text
  | _ => read 10 0 text

/-- The operators, longer ones first. -/
def operators : List String :=
  ["<<=", ">>=", "==", "!=", "<=", ">=", "<<", ">>", "&&", "||", "*=", "/=", "%=", "+=", "-=",
   "&=", "^=", "|=", "=", "<", ">", "|", "&", "!", "(", ")", "*", "/", "%", "+", "-", "~", "^", "?",
   ":"]

/-- White space between lexemes. -/
def isBlank (b : UInt8) : Bool := b == 0x20 || b == 0x09 || b == 0x0A

/-- The first lexeme of a text, and the rest. -/
def lexeme (text : Bytes) : Lexeme × Bytes :=
  let text := text.dropWhile isBlank
  match text with
  | [] => (.finish, [])
  | b :: _ =>
    if 0x30 ≤ b && b ≤ 0x39 then
      let (n, width) := numberAt text
      (.number (min (n : Int) greatest), text.drop width)
    else if isNameStart b then
      let name := text.takeWhile isNameByte
      (.variable name, text.drop name.length)
    else match operators.find? fun o => (Bytes.ofString o).isPrefixOf text with
      | some o => (.operator o, text.drop o.length)
      | none => (.unknown, text.tail)

/-- The integer that the value of a variable writes; an empty value writes zero. -/
def valueOf? (value : Bytes) : Option Int :=
  let isSpace (b : UInt8) : Bool := b == 0x20 || (0x09 ≤ b && b ≤ 0x0D)
  let rest := value.dropWhile isSpace
  let (negative, rest) := match rest with
    | 0x2D :: rest => (true, rest)
    | 0x2B :: rest => (false, rest)
    | rest => (false, rest)
  let (magnitude, width) := numberAt rest
  let n : Int := if negative then -(magnitude : Int) else magnitude
  if width == 0 then if value.all isSpace then some 0 else none
  else if !(rest.drop width).all isSpace || n < least || greatest < n then none
  else some n

/-! ## Evaluation -/

/-- What is known during an evaluation. -/
structure State where
  rest : Bytes
  /-- The lexeme that was read last. -/
  last : Lexeme
  /-- The settings made so far, last one first. -/
  settings : List (Bytes × Int)
  /-- The values of variables that are not set here. -/
  values : Bytes → Option Bytes

/-- A part of an evaluation. -/
abbrev Evaluation := ExceptT Fault (StateM State)

/-- Fails with a message. -/
def fail {α : Type} (text : String) : Evaluation α := throw (.message text)

/-- Reads a lexeme. -/
def next : Evaluation Lexeme := do
  let s ← get
  let (l, rest) := lexeme s.rest
  set { s with rest, last := l }
  return l

/-- The integer in a variable. -/
def read (name : Bytes) : Evaluation Int := do
  let s ← get
  match s.settings.lookup name with
  | some n => return n
  | none =>
    let value := (s.values name).getD []
    match valueOf? value with
    | some n => return n
    | none => throw (.illegalNumber value)

/-- Whether a lexeme is an operator. -/
def isOperator (symbol : String) (l : Lexeme) : Bool := l == .operator symbol

/-- How loosely an operator between two operands binds. -/
def looseness? : Lexeme → Option Nat
  | .operator o =>
    if ["*", "/", "%"].contains o then some 0
    else if ["+", "-"].contains o then some 1
    else if ["<<", ">>"].contains o then some 2
    else if ["<", ">", "<=", ">="].contains o then some 3
    else if ["==", "!="].contains o then some 4
    else if o == "&" then some 5
    else if o == "^" then some 6
    else if o == "|" then some 7
    else none
  | _ => none

/-- The operator that goes with an assignment; nothing goes with a plain one. -/
def assignment? : Lexeme → Option (Option String)
  | .operator o =>
    if o == "=" then some none
    else if ["<<=", ">>=", "*=", "/=", "%=", "+=", "-=", "&=", "^=", "|="].contains o then
      some (some (o.dropEnd 1).toString)
    else none
  | _ => none

/-- The effect of an operator. -/
def apply (o : String) (a b : Int) : Evaluation Int :=
  let shift := (b % 64).toNat
  match o with
  | "*" => return wrap (a * b)
  | "/" | "%" =>
    if b == 0 then fail "division by zero"
    else if a == least && b == -1 then throw .tooLarge
    else return if o == "/" then Int.tdiv a b else Int.tmod a b
  | "+" => return wrap (a + b)
  | "-" => return wrap (a - b)
  | "<<" => return wrap ((bitsOf a <<< shift : Nat) : Int)
  | ">>" => return a >>> shift
  | "<" => return truth (a < b)
  | ">" => return truth (b < a)
  | "<=" => return truth (a ≤ b)
  | ">=" => return truth (b ≤ a)
  | "==" => return truth (a == b)
  | "!=" => return truth (a != b)
  | "&" => return wrap ((bitsOf a &&& bitsOf b : Nat) : Int)
  | "^" => return wrap ((bitsOf a ^^^ bitsOf b : Nat) : Int)
  | _ => return wrap ((bitsOf a ||| bitsOf b : Nat) : Int)

mutual

/-- An assignment or a condition that starts with a lexeme, the next one not being read. -/
def assignment (fuel : Nat) (start : Lexeme) (skipped : Bool) : Evaluation Int :=
  match fuel with
  | 0 => fail "expecting primary"
  | fuel + 1 => do
    let following ← next
    match start, assignment? following with
    | .variable name, some operator =>
      let result ← assignment fuel (← next) skipped
      if skipped then return result
      let n ← match operator with
        | none => pure result
        | some o => do apply o (← read name) result
      modify fun s => { s with settings := (name, n) :: s.settings }
      return n
    | _, _ => condition fuel start following skipped

/-- A condition that starts with a lexeme, the one after it being read. -/
def condition (fuel : Nat) (start following : Lexeme) (skipped : Bool) : Evaluation Int :=
  match fuel with
  | 0 => fail "expecting primary"
  | fuel + 1 => do
    let test ← either fuel start following skipped
    if !isOperator "?" (← get).last then return test
    let yes ← assignment fuel (← next) (skipped || test == 0)
    if !isOperator ":" (← get).last then fail "expecting ':'"
    let start ← next
    let no ← condition fuel start (← next) (skipped || test != 0)
    return if test != 0 then yes else no

/-- A disjunction. -/
def either (fuel : Nat) (start following : Lexeme) (skipped : Bool) : Evaluation Int :=
  match fuel with
  | 0 => fail "expecting primary"
  | fuel + 1 => do
    let a ← both fuel start following skipped
    if !isOperator "||" (← get).last then return a
    let start ← next
    let b ← either fuel start (← next) (skipped || a != 0)
    return truth (a != 0 || b != 0)

/-- A conjunction. -/
def both (fuel : Nat) (start following : Lexeme) (skipped : Bool) : Evaluation Int :=
  match fuel with
  | 0 => fail "expecting primary"
  | fuel + 1 => do
    let a ← operation fuel start following skipped
    if !isOperator "&&" (← get).last then return a
    let start ← next
    let b ← both fuel start (← next) (skipped || a == 0)
    return truth (a != 0 && b != 0)

/-- Operands with operators between them. -/
def operation (fuel : Nat) (start following : Lexeme) (skipped : Bool) : Evaluation Int :=
  match fuel with
  | 0 => fail "expecting primary"
  | fuel + 1 => do
    let a ← operand fuel start following skipped
    match (← get).last with
    | .operator o =>
      if (looseness? (.operator o)).isNone then return a
      operationFrom fuel a o 8 skipped
    | _ => return a

/-- Goes on after an operand and an operator, as far as operators bind tighter than `limit`. -/
def operationFrom (fuel : Nat) (a : Int) (o : String) (limit : Nat) (skipped : Bool) :
    Evaluation Int :=
  match fuel with
  | 0 => fail "expecting primary"
  | fuel + 1 => do
    let start ← next
    let b ← operand fuel start (← next) skipped
    let own := (looseness? (.operator o)).getD 0
    let b ← match (← get).last with
      | .operator o' =>
        if (looseness? (.operator o')).any (· < own) then operationFrom fuel b o' own skipped
        else pure b
      | _ => pure b
    let a ← if skipped then pure b else apply o a b
    match (← get).last with
    | .operator o' =>
      if (looseness? (.operator o')).any (· < limit) then operationFrom fuel a o' limit skipped
      else return a
    | _ => return a

/-- An operand that starts with a lexeme, the one after it being read. -/
def operand (fuel : Nat) (start following : Lexeme) (skipped : Bool) : Evaluation Int :=
  match fuel with
  | 0 => fail "expecting primary"
  | fuel + 1 => do
    match start with
    | .number n =>
      modify fun s => { s with last := following }
      return n
    | .variable name =>
      modify fun s => { s with last := following }
      if skipped then return 0 else read name
    | .operator "(" =>
      let result ← assignment fuel following skipped
      if !isOperator ")" (← get).last then fail "expecting ')'"
      let _ ← next
      return result
    | .operator "+" => operand fuel following (← next) skipped
    | .operator "-" => return wrap (-(← operand fuel following (← next) skipped))
    | .operator "!" => return truth ((← operand fuel following (← next) skipped) == 0)
    | .operator "~" => return -(← operand fuel following (← next) skipped) - 1
    | _ => fail "expecting primary"

end

/-- The value of an expression, or why it has none, and the settings that it makes, in order. -/
def evaluate (values : Bytes → Option Bytes) (text : Bytes) :
    Except Fault Int × List (Bytes × Int) :=
  let whole : Evaluation Int := do
    let result ← assignment (8 * text.length + 16) (← next) false
    if (← get).last != .finish then fail "expecting EOF"
    return result
  let (result, s) := whole.run ⟨text, .finish, [], values⟩
  (result, s.settings.reverse)

end Arithmetic

end PipeShell.Script
