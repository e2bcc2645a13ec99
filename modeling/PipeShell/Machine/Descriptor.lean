/-!
# File descriptors

A process reaches its open files through a `DescriptorTable`. Numbers are handed out lowest first
and stay below the process's limit. `DescriptorTable.get` is the view in which the operations are
described: two tables are alike when they agree on every number.
-/

namespace PipeShell

/-- The number under which a process knows an open file. -/
abbrev Fd := Nat

namespace Fd

/-- Standard input. -/
def stdin : Fd := 0

/-- Standard output. -/
def stdout : Fd := 1

/-- Standard error. -/
def stderr : Fd := 2

end Fd

/-- The place of an open file description in the machine's list of them. -/
abbrev DescriptionId := Nat

/-- What stands in a table under a number. -/
structure Descriptor where
  description : DescriptionId
  /-- Whether starting a program closes it. -/
  closeOnExec : Bool
deriving DecidableEq, Repr

/-- The descriptors of a process; the position in the list is the number. -/
structure DescriptorTable where
  slots : List (Option Descriptor)
deriving DecidableEq, Repr

namespace DescriptorTable

/-- The table in which nothing is open. -/
def empty : DescriptorTable := ⟨[]⟩

/-- What is open under a number. -/
def get (t : DescriptorTable) (fd : Fd) : Option Descriptor := (t.slots[fd]?).getD none

/-- The list with `e` at a position, filled up with closed slots where it is too short. -/
def assign : List (Option Descriptor) → Nat → Option Descriptor → List (Option Descriptor)
  | [], 0, e => [e]
  | [], n + 1, e => none :: assign [] n e
  | _ :: slots, 0, e => e :: slots
  | s :: slots, n + 1, e => s :: assign slots n e

/-- The table with one entry replaced. -/
def set (t : DescriptorTable) (fd : Fd) (e : Option Descriptor) : DescriptorTable :=
  ⟨assign t.slots fd e⟩

/-- The position of the first closed slot of a list. -/
def firstFree : List (Option Descriptor) → Nat
  | [] => 0
  | none :: _ => 0
  | some _ :: slots => firstFree slots + 1

/-- The lowest number under which nothing is open. -/
def lowestFree (t : DescriptorTable) : Fd := firstFree t.slots

/-- The lowest number from `least` on under which nothing is open. -/
def lowestFreeFrom (t : DescriptorTable) (least : Fd) : Fd := least + firstFree (t.slots.drop least)

/-- The table with `d` under the lowest free number, if that is below the limit. -/
def allocate (t : DescriptorTable) (limit : Nat) (d : Descriptor) : Option (Fd × DescriptorTable) :=
  if t.lowestFree < limit then some (t.lowestFree, t.set t.lowestFree (some d)) else none

/-- The table that a program starts with. -/
def onExec (t : DescriptorTable) : DescriptorTable :=
  ⟨t.slots.map fun s => s.filter fun d => !d.closeOnExec⟩

/-- The numbers under which something is open, in increasing order. -/
def openFds (t : DescriptorTable) : List Fd :=
  (t.slots.zipIdx.filter (·.1.isSome)).map (·.2)

/-- The descriptions that the table refers to. -/
def held (t : DescriptorTable) : List DescriptionId :=
  t.slots.filterMap fun s => s.map (·.description)

/-! ## Lemmas -/

theorem getD_assign (slots : List (Option Descriptor)) (fd fd' : Nat) (e : Option Descriptor) :
    ((assign slots fd e)[fd']?).getD none = if fd' = fd then e else (slots[fd']?).getD none := by
  induction slots, fd, e using assign.induct generalizing fd' with
  | case1 e => cases fd' <;> simp [assign]
  | case2 n e ih => cases fd' <;> simp_all [assign]
  | case3 s slots e => cases fd' <;> simp [assign]
  | case4 n e s slots ih => cases fd' <;> simp_all [assign]

/-- Replacing an entry changes that entry only. -/
theorem get_set (t : DescriptorTable) (fd fd' : Fd) (e : Option Descriptor) :
    (t.set fd e).get fd' = if fd' = fd then e else t.get fd' :=
  getD_assign t.slots fd fd' e

theorem getD_firstFree (slots : List (Option Descriptor)) :
    (slots[firstFree slots]?).getD none = none := by
  fun_induction firstFree slots <;> simp_all

theorem getD_of_lt_firstFree (slots : List (Option Descriptor)) (i : Nat)
    (h : i < firstFree slots) : (slots[i]?).getD none ≠ none := by
  fun_induction firstFree slots generalizing i with
  | case1 | case2 => omega
  | case3 d slots ih =>
    cases i with
    | zero => simp
    | succ i => simpa using ih i (by omega)

theorem get_lowestFree (t : DescriptorTable) : t.get t.lowestFree = none :=
  getD_firstFree t.slots

/-- Everything below the lowest free number is open. -/
theorem get_ne_none_of_lt_lowestFree (t : DescriptorTable) {fd : Fd} (h : fd < t.lowestFree) :
    t.get fd ≠ none :=
  getD_of_lt_firstFree t.slots fd h

end DescriptorTable

end PipeShell
