import PipeShell.Machine.Environment
import PipeShell.Userland.Script.Syntax

/-!
# Variables of scripts

A script has variables of its own, and those that are exported are what programs get to see. They
are a list in the order in which they came to be (`Variables`); `Variables.environment` hands them
on in the order of a table of `tableSize` places, a variable's place being decided by its name
(`place`). `Variables.listing` writes them so that a script would set them again.
-/

namespace PipeShell.Script

/-- A variable of a script. -/
structure Variable where
  name : Bytes
  /-- Nothing if the variable is unset. -/
  value : Option Bytes
  /-- Whether programs see it. -/
  exported : Bool
  readOnly : Bool
  /-- Whether it keeps its place when it is unset. -/
  stays : Bool
deriving DecidableEq, Repr

/-- The variables of a script. -/
abbrev Variables := List Variable

namespace Variables

/-- The variable of a name. -/
def find? (vs : Variables) (name : Bytes) : Option Variable := List.find? (·.name == name) vs

/-- The value of a variable. -/
def value? (vs : Variables) (name : Bytes) : Option Bytes := (vs.find? name).bind (·.value)

/-- The variables with one replaced; a new one comes last. -/
def put (v : Variable) : Variables → Variables
  | [] => [v]
  | w :: vs => if w.name == v.name then v :: vs else w :: put v vs

/-- The variables without one. -/
def remove (name : Bytes) (vs : Variables) : Variables := vs.filter (·.name != name)

/-- The variable of a name, or a new one. -/
def get (vs : Variables) (name : Bytes) : Variable :=
  (vs.find? name).getD ⟨name, none, false, false, false⟩

/-- The variables after one gets a value or loses it; `exported` shows it to programs, which one
that they see already stays in any case. A variable that loses its value is forgotten, unless it is
shown by the same token or keeps its place. -/
def assign (exported : Bool) (name : Bytes) (value : Option Bytes) (vs : Variables) : Variables :=
  let v := vs.get name
  if value.isNone && !exported && !v.stays then vs.remove name
  else put { v with value, exported := exported || v.exported } vs

/-! ## What programs see -/

/-- The number of places in the table of variables. -/
def tableSize : Nat := 39

/-- The place of a name in a table. -/
def placeIn (size : Nat) (name : Bytes) : Nat :=
  (16 * (name.headD 0).toNat + name.foldl (fun n b => n + b.toNat) 0) % size

/-- The place of a variable. -/
def place (name : Bytes) : Nat := placeIn tableSize name

/-- What programs see of a variable. -/
def entry? (v : Variable) : Option (Bytes × Bytes) :=
  if v.exported then v.value.map fun value => (v.name, value) else none

/-- The variables that programs see, by their places. -/
def environment (vs : Variables) : Environment :=
  (List.range tableSize).flatMap fun p =>
    (vs.filter fun v => place v.name == p).filterMap entry?

/-! ## Writing -/

/-- The order of byte strings in which bytes count as numbers. -/
def bytesLe : Bytes → Bytes → Bool
  | [], _ => true
  | _ :: _, [] => false
  | a :: as, b :: bs => if a == b then bytesLe as bs else a < b

/-- A value as a script would write it: between apostrophes, and apostrophes between double
quotes. -/
def inApostrophes : Nat → Bytes → Bytes
  | 0, _ => []
  | fuel + 1, value =>
    let plain := value.takeWhile (· != 0x27)
    let rest := value.drop plain.length
    let apostrophes := rest.takeWhile (· == 0x27)
    let rest := rest.drop apostrophes.length
    let start := 0x27 :: plain ++ [0x27]
    if apostrophes.isEmpty then start
    else
      let start := start ++ 0x22 :: apostrophes ++ [0x22]
      if rest.isEmpty then start else start ++ inApostrophes fuel rest

/-- A value between quotes. -/
def quotedValue (value : Bytes) : Bytes := inApostrophes (value.length + 1) value

/-- Variables in the order of their names, each on a line that would set it again after the words
`start`. -/
def listing (start : Bytes) (vs : Variables) : Bytes :=
  let sorted := vs.mergeSort fun v w => bytesLe v.name w.name
  sorted.flatMap fun v =>
    (if start.isEmpty then [] else start ++ [0x20]) ++ v.name ++
      (match v.value with
        | some value => 0x3D :: quotedValue value
        | none => []) ++ [0x0A]

end Variables

end PipeShell.Script
