import PipeShell.Machine.Call

/-!
# Computations that make calls

Programs and processes that are moved from outside make the same calls. What can be said in calls
alone is written once here, for every kind of computation that is `Calling`. Loops take a bound,
since computations end on every run.
-/

namespace PipeShell

/-- Computations that make calls. -/
class Calling (m : Type → Type) where
  call (c : Call) : m c.Reply

namespace Calling

variable {m : Type → Type} [Monad m] [Calling m]

/-- The bound of loops whose length depends on what other processes do. -/
def patience : Nat := 1000000

/-- The number of bytes that are read at a time. -/
def blockSize : Nat := 32768

/-- Writes bytes in as many calls as it takes, at most `fuel` of them. -/
def writeFrom (fd : Fd) : Nat → Bytes → m (Except Errno Unit)
  | 0, _ => return .ok ()
  | fuel + 1, data =>
    if data.isEmpty then return .ok ()
    else do
      match ← call (.write fd data) with
      | .error e => return .error e
      | .ok taken => writeFrom fd fuel (data.drop taken)

/-- Writes all of `data`. -/
def writeAll (fd : Fd) (data : Bytes) : m (Except Errno Unit) := writeFrom fd (data.length + 1) data

/-- Reads up to the end of a file, at most `fuel` blocks, the `blocks` read before coming first in
reverse. -/
def readFrom (fd : Fd) : Nat → List Bytes → m (Bytes × Option Errno)
  | 0, blocks => return (blocks.reverse.flatten, none)
  | fuel + 1, blocks => do
    match ← call (.read fd blockSize) with
    | .error e => return (blocks.reverse.flatten, some e)
    | .ok [] => return (blocks.reverse.flatten, none)
    | .ok block => readFrom fd fuel (block :: blocks)

/-- Reads up to the end of a file; the bytes read before a failure are given as well. -/
def readAll (fd : Fd) : m (Bytes × Option Errno) := readFrom fd patience []

/-- Opens a file for reading. -/
def openForReading (path : Bytes) : m (Except Errno Fd) := call (.openFile path .reading 0)

/-- Closes a descriptor; nothing is done about a failure. -/
def close (fd : Fd) : m Unit := do
  let _ ← call (.close fd)
  return ()

/-- Writes a record to the journal. -/
def note (level : Level) (message : Bytes) : m Unit := call (.note level message)

end Calling

end PipeShell
