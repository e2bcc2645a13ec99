import PipeShell.Machine.Work

/-!
# Printing

The shell and the processes that run a line print to standard output and error in the way of their
run-time system, which is a parameter (`Console`). A text is written in pieces, and each piece until
all of it is taken; a descriptor that is not open takes everything. When a piece cannot be written
for any other reason, the process reports that and ends with `Console.alarmCode`. Nothing is done
about a failure to write that last report.
-/

namespace PipeShell

/-- How texts are printed. -/
structure Console where
  /-- The pieces in which a text is written to a descriptor. -/
  pieces : Fd → Bytes → List Bytes
  /-- The pieces of the report that printing to a descriptor failed: for a reason, or because
  nothing was taken. -/
  alarm : Fd → Option Errno → List Bytes

namespace Console

/-- The exit code of a process that could not print. -/
def alarmCode : Nat := 101

/-- What is left of a piece after an answer to writing it, or why the printing fails. -/
def left (piece : Bytes) : Except Errno Nat → Except (Option Errno) Bytes
  | .ok 0 => .error none
  | .ok taken => .ok (piece.drop taken)
  | .error e => if e = .badDescriptor then .ok [] else .error (some e)

section Calls

open Calling

variable {m : Type → Type} [Monad m] [Calling m]

/-- Writes a piece in as many calls as it takes, at most `fuel` of them. -/
def writePiece (fd : Fd) : (fuel : Nat) → Bytes → m (Except (Option Errno) Unit)
  | 0, _ => return .ok ()
  | fuel + 1, piece =>
    if piece.isEmpty then return .ok ()
    else do
      match left piece (← call (.write fd piece)) with
      | .error e => return .error e
      | .ok piece => writePiece fd fuel piece

/-- Writes pieces one after the other. Each call takes something, so the length of a piece bounds
its calls. -/
def writePieces (fd : Fd) : List Bytes → m (Except (Option Errno) Unit)
  | [] => return .ok ()
  | piece :: rest => do
    match ← writePiece fd piece.length piece with
    | .error e => return .error e
    | .ok () => writePieces fd rest

end Calls

variable {κ : Type}

/-- Prints a text. -/
def print (console : Console) (fd : Fd) (text : Bytes) : Work κ Unit := do
  match ← writePieces fd (console.pieces fd text) with
  | .ok () => return ()
  | .error e =>
    let _ ← writePieces Fd.stderr (console.alarm fd e)
    Work.exit alarmCode

/-- Prints a line. -/
def printLine (console : Console) (fd : Fd) (text : Bytes) : Work κ Unit :=
  console.print fd (text ++ [0x0A])

end Console

end PipeShell
