import PipeShell.Userland.Tool.Arguments

/-!
# Quantities

A quantity is a number with an optional unit after it, such as `5`, `10k` or `2MB`. `Quantity.read`
reads one; a tool says which units it knows.
-/

namespace PipeShell.Tool

namespace Quantity

/-- Why a word is no quantity. -/
inductive Fault
  | malformed
  | tooLarge
deriving DecidableEq, Repr

/-- The greatest quantity. -/
def greatest : Nat := Format.wordCount - 1

/-- The power of a thousand that a letter stands for. -/
def power? (letter : UInt8) : Option Nat :=
  let table : List (String × Nat) :=
    [("kK", 1), ("Mm", 2), ("Gg", 3), ("Tt", 4), ("P", 5), ("E", 6), ("Z", 7), ("Y", 8)]
  (table.find? fun row => (text row.1).contains letter).map (·.2)

/-- The factor that a unit stands for. The letters of a power can be followed by `iB`, or by `B` for
powers of a thousand, if the units of the tool have a `0`. -/
def factor? (units : String) (unit : Bytes) : Option Nat :=
  match unit with
  | [] => some 1
  | letter :: rest =>
    if !(text units).contains letter then none
    else match power? letter, rest with
      | some n, [] => some (Nat.pow 1024 n)
      | some n, rest =>
        if !(text units).contains 0x30 then none
        else if rest == text "iB" then some (Nat.pow 1024 n)
        else if rest == text "B" || rest == text "D" then some (Nat.pow 1000 n)
        else none
      | none, [] => some
        (if letter == 0x62 then 512 else if letter == 0x42 then 1024
          else if letter == 0x77 then 2 else 1)
      | none, _ :: _ => none

/-- The quantity that a word writes. -/
def read (units : String) (word : Bytes) : Except Fault Nat :=
  let rest := word.dropWhile Format.isSpace
  let rest := if rest.head? == some 0x2B then rest.tail else rest
  let digits := rest.takeWhile Format.isDigit
  let unit := rest.drop digits.length
  if digits.isEmpty && (unit.isEmpty || rest.length < word.length) then .error .malformed
  else match factor? units unit with
    | none => .error .malformed
    | some factor =>
      let n := (if digits.isEmpty then 1 else Format.natOf digits) * factor
      if greatest < n then .error .tooLarge else .ok n

/-- What a tool says about a word that is no quantity. -/
def complaint (subject : String) (word : Bytes) (fault : Fault) : Bytes :=
  text (subject ++ ": ") ++ Shown.marked word ++
    (match fault with
      | .malformed => []
      | .tooLarge => text ": Value too large for defined data type")

/-- What is wrong with a word that should be a quantity. -/
def check (units : String) (subject : String) (word : Bytes) : Option (Bytes × Bool) :=
  match read units word with
  | .ok _ => none
  | .error fault => some (complaint subject word fault, false)

/-- The units of tools that count bytes or lines. -/
def commonUnits : String := "bkKmMGTPEZY0"

end Quantity

end PipeShell.Tool
