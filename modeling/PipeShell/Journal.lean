import PipeShell.Machine.FileSystem
import PipeShell.Text.Plain

/-!
# The journal

The shell and the processes it creates keep a journal of what they do. A record carries a
`Level`; the records up to the journal's threshold go to the end of a file, which all the processes
share.
-/

namespace PipeShell

/-- How important a record is, the most important first. -/
inductive Level
  | error
  | warn
  | info
  | debug
  | trace
deriving DecidableEq, Repr

namespace Level

/-- The position of a level; a threshold admits the levels up to its own position. -/
def rank : Level → Nat
  | error => 1
  | warn => 2
  | info => 3
  | debug => 4
  | trace => 5

/-- The name of a level in a record. -/
def label : Level → String
  | error => "ERROR"
  | warn => "WARN"
  | info => "INFO"
  | debug => "DEBUG"
  | trace => "TRACE"

end Level

/-- The least important level that a journal keeps; `none` keeps nothing. -/
abbrev Threshold := Option Level

namespace Threshold

/-- The name of a threshold. -/
def label : Threshold → String
  | none => "OFF"
  | some level => level.label

/-- An ASCII letter in lower case. -/
def lowerByte (b : UInt8) : UInt8 := if 0x41 ≤ b && b ≤ 0x5A then b + 0x20 else b

/-- The threshold that a setting names, whatever the case of its ASCII letters. Any other text
means `info`. -/
def ofName (name : Bytes) : Threshold :=
  let known : List (String × Threshold) :=
    [("off", none), ("error", some .error), ("warn", some .warn), ("info", some .info),
     ("debug", some .debug), ("trace", some .trace)]
  match known.find? fun k => Bytes.ofString k.1 == name.map lowerByte with
  | some (_, threshold) => threshold
  | none => some .info

/-- Whether a journal with this threshold keeps records of the level. -/
def admits (threshold : Threshold) (level : Level) : Bool :=
  match threshold with
  | none => false
  | some most => level.rank ≤ most.rank

end Threshold

/-- The log of the shell: which records are kept, and the file that they go to. -/
structure Journal where
  threshold : Threshold
  /-- Where the records go; without a file, nothing is kept. -/
  file : Option NodeId
  /-- The time of day as a record shows it, at a moment of the clock. -/
  stamp : Nat → Bytes

namespace Journal

/-- A journal that keeps nothing. -/
def silent : Journal := ⟨none, none, fun _ => []⟩

/-- A record as the file has it. -/
def record (j : Journal) (clock process : Nat) (level : Level) (message : Bytes) : Bytes :=
  Text.plain (Bytes.ofString ("[PID:" ++ toString process ++ "][" ++ level.label ++ "] ") ++
    j.stamp clock ++ Bytes.ofString " - " ++ message ++ [0x0A])

/-- The file that a record of a level goes to, if it is kept. -/
def fileFor (j : Journal) (level : Level) : Option NodeId :=
  if j.threshold.admits level then j.file else none

end Journal

end PipeShell
