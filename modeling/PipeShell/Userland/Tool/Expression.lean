import PipeShell.Userland.Tool.Regex
import PipeShell.Userland.Tool.Order
import PipeShell.Userland.Tool.Printing

/-!
# Expressions

`expr` computes the value of an expression, each word of which is an operand or an operator. A value
is a text; one that writes an integer can be computed with. The functions of `Expression` read the
words from the weakest operators to the strongest; what an operator does not need is read without
being computed.
-/

namespace PipeShell.Tool

/-- A computation that reads words; `Except` gives what is wrong, and the state holds the word
before and the words that were not used yet. -/
abbrev Expression := ExceptT Bytes (StateM (Bytes × List Bytes))

namespace Expression

/-! ## Values -/

/-- The integer that a text writes. -/
def integer? (value : Bytes) : Option Int :=
  if value.head? == some 0x2B then none else Format.intOf? value

/-- An integer as a text. -/
def ofInt (n : Int) : Bytes := Bytes.ofString (toString n)

/-- A truth value as a text. -/
def ofBool (b : Bool) : Bytes := if b then [0x31] else [0x30]

/-- Whether a value counts as nothing: it is empty or zero. -/
def isNull (value : Bytes) : Bool :=
  let digits := if value.head? == some 0x2D then value.tail else value
  value.isEmpty || (!digits.isEmpty && digits.all (· == 0x30))

/-! ## Words -/

/-- The next word, which is used. -/
def shift : Expression Bytes := do
  match (← get).2 with
  | [] => throw (text "syntax error: missing argument after " ++ Shown.marked (← get).1)
  | word :: rest =>
    set (word, rest)
    return word

/-- Whether the next word is a given one, which is used then. -/
def takes (word : String) : Expression Bool := do
  if (← get).2.head? == some (text word) then
    let _ ← shift
    return true
  else return false

/-- The first of some words that comes next, which is used then. -/
def takesOne (words : List String) : Expression (Option String) := do
  let next := (← get).2.head?
  match words.find? fun word => next == some (text word) with
  | some word =>
    let _ ← shift
    return some word
  | none => return none

/-- The integer that a value writes. -/
def integer (value : Bytes) : Expression Int :=
  match integer? value with
  | some n => return n
  | none => throw (text "non-integer argument")

/-! ## Texts -/

/-- The part of a text that a pattern matches from its start on: the text of the first group, or
the length if there are no groups. -/
def matched (subject pattern : Bytes) : Expression Bytes :=
  match Regex.read pattern with
  | .error fault => throw (text fault.message)
  | .ok (r, groups) =>
    match r.matchAt? subject.toArray 0 with
    | none => return if groups == 0 then [0x30] else []
    | some found =>
      if groups == 0 then return Bytes.ofNat found.place
      else match found.groups.lookup 1 with
        | some (start, stop) => return (subject.drop start).take (stop - start)
        | none => return []

/-- The place of the first byte of a text that is among others, counted from one. -/
def indexOf (subject members : Bytes) : Bytes :=
  match subject.findIdx? members.contains with
  | some i => Bytes.ofNat (i + 1)
  | none => [0x30]

/-- The part of a text from a place on. -/
def part (subject start length : Bytes) : Bytes :=
  match integer? start, integer? length with
  | some i, some n =>
    if i ≤ 0 || n ≤ 0 then [] else (subject.drop (i.toNat - 1)).take n.toNat
  | _, _ => []

/-! ## Operators -/

/-- The value of two operands with an operator of arithmetic between them. -/
def arithmetic (operator : String) (a b : Bytes) : Expression Bytes := do
  let x ← integer a
  let y ← integer b
  match operator with
  | "+" => return ofInt (x + y)
  | "-" => return ofInt (x - y)
  | "*" => return ofInt (x * y)
  | _ =>
    if y == 0 then throw (text "division by zero")
    return ofInt (if operator == "/" then x.tdiv y else x.tmod y)

/-- Whether a comparison holds. -/
def compares (operator : String) (a b : Bytes) : Bool :=
  let order := match integer? a, integer? b with
    | some x, some y => compare x y
    | _, _ => Order.bytes a b
  match operator with
  | "<" => order == .lt
  | "<=" => order != .gt
  | "=" | "==" => order == .eq
  | "!=" => order != .eq
  | ">=" => order != .lt
  | _ => order == .gt

/-- The operators between two operands, the weakest ones first. -/
def levels : List (List String) :=
  [["<", "<=", "=", "==", "!=", ">=", ">"], ["+", "-"], ["*", "/", "%"], [":"]]

/-- The value of two operands with an operator between them. -/
def apply (operator : String) (a b : Bytes) : Expression Bytes :=
  if operator == ":" then matched a b
  else if ["+", "-", "*", "/", "%"].contains operator then arithmetic operator a b
  else return ofBool (compares operator a b)

/-- The value of operands with operators of one strength between them. -/
def chain (operators : List String) (needed : Bool) (operand : Expression Bytes) :
    Nat → Bytes → Expression Bytes
  | 0, value => return value
  | fuel + 1, value => do
    match ← takesOne operators with
    | none => return value
    | some operator =>
      let other ← operand
      chain operators needed operand fuel
        (← if needed then apply operator value other else pure value)

/-- The value of operands with the operators of some levels between them. -/
def atLevels (needed : Bool) (operand : Expression Bytes) (fuel : Nat) :
    List (List String) → Expression Bytes
  | [] => operand
  | operators :: levels => do
    let value ← atLevels needed operand fuel levels
    chain operators needed (atLevels needed operand fuel levels) fuel value

mutual

/-- The value of an expression; `fuel` bounds the number of words. -/
def either : Nat → (needed : Bool) → Expression Bytes
  | 0, _ => return []
  | fuel + 1, needed => do eitherFrom fuel needed (← both fuel needed)

/-- The value of operands after one, with `|` between them: the first that is not nothing. -/
def eitherFrom : Nat → (needed : Bool) → Bytes → Expression Bytes
  | 0, _, value => return value
  | fuel + 1, needed, value => do
    if ← takes "|" then
      let other ← both fuel (needed && isNull value)
      eitherFrom fuel needed
        (if !isNull value then value else if isNull other then [0x30] else other)
    else return value

/-- The value of operands with `&` between them. -/
def both : Nat → (needed : Bool) → Expression Bytes
  | 0, _ => return []
  | fuel + 1, needed => do bothFrom fuel needed (← atLevels needed (item fuel needed) fuel levels)

/-- The value of operands after one, with `&` between them: the first, if none is nothing. -/
def bothFrom : Nat → (needed : Bool) → Bytes → Expression Bytes
  | 0, _, value => return value
  | fuel + 1, needed, value => do
    if ← takes "&" then
      let inner := needed && !isNull value
      let other ← atLevels inner (item fuel inner) fuel levels
      bothFrom fuel needed (if isNull value || isNull other then [0x30] else value)
    else return value

/-- The value of an operand, or of a function of operands. -/
def item : Nat → (needed : Bool) → Expression Bytes
  | 0, _ => return []
  | fuel + 1, needed => do
    match ← takesOne ["+", "length", "match", "index", "substr", "(", ")"] with
    | some "+" => shift
    | some "length" => return Bytes.ofNat (← item fuel needed).length
    | some "match" =>
      let subject ← item fuel needed
      let pattern ← item fuel needed
      if needed then matched subject pattern else return subject
    | some "index" =>
      let subject ← item fuel needed
      return indexOf subject (← item fuel needed)
    | some "substr" =>
      let subject ← item fuel needed
      let start ← item fuel needed
      return part subject start (← item fuel needed)
    | some "(" =>
      let value ← either fuel needed
      match (← get).2 with
      | [] => throw (text "syntax error: expecting ')' after " ++ Shown.marked (← get).1)
      | word :: _ =>
        if word != text ")" then
          throw (text "syntax error: expecting ')' instead of " ++ Shown.marked word)
        let _ ← shift
        return value
    | some _ => throw (text "syntax error: unexpected ')'")
    | none => shift

end

/-- The value of words, or what is wrong with them. -/
def value (words : List Bytes) : Except Bytes Bytes :=
  let fuel := 8 * words.length + 16
  match (either fuel true).run.run ([], words) with
  | (.error fault, _) => .error fault
  | (.ok _, _, extra :: _) =>
    .error (text "syntax error: unexpected argument " ++ Shown.marked extra)
  | (.ok value, _, []) => .ok value

end Expression

variable (self : Bytes)

/-- Computes the value of an expression. -/
def expr (args : List Bytes) : Program Nat :=
  let words := if args.head? == some (text "--") then args.tail else args
  if words.isEmpty then misuse self 2 (text "missing operand")
  else match Expression.value words with
    | .error fault => refuse self 2 fault
    | .ok value =>
      Program.finish self (value ++ [0x0A]) (if Expression.isNull value then 1 else 0) 3

end PipeShell.Tool
