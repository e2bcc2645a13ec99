import PipeShell.Userland.Tool.Arguments

/-!
# Tools that print

A tool prints into an `Outlet`, which hands its bytes on in whole blocks: what was printed last
waits until a block is full, a complaint comes, or the tool ends. A tool learns only then that its
output cannot be written, and complains when it ends. `Printing` is the type of computations that
print; `Printing.toProgram` is the whole of a tool. The functions that start with `each` hand the
content of an input to a tool block by block or line by line.
-/

namespace PipeShell.Tool

/-- Standard output as a tool fills it. -/
structure Outlet where
  /-- The bytes that wait, in pieces, the last one first. -/
  waiting : List Bytes
  /-- How many bytes wait. -/
  size : Nat
  /-- Whether bytes were lost since they could not be written. -/
  lost : Bool

namespace Outlet

/-- Nothing was printed. -/
def empty : Outlet := ⟨[], 0, false⟩

/-- The number of bytes in a block. -/
def capacity : Nat := 4096

/-- The bytes that wait. -/
def content (o : Outlet) : Bytes := o.waiting.reverse.flatten

/-- The outlet with more bytes that wait. -/
def push (o : Outlet) (data : Bytes) : Outlet :=
  { o with waiting := data :: o.waiting, size := o.size + data.length }

end Outlet

/-- A computation of a tool that prints. It may end the tool with an exit code. -/
abbrev Printing := ExceptT Nat (StateT Outlet Program)

namespace Printing

instance : Calling Printing where
  call c := ExceptT.lift (StateT.lift (Calling.call c))

/-- A computation of a program in one that prints. -/
def lift {α : Type} (p : Program α) : Printing α := ExceptT.lift (StateT.lift p)

/-- Writes bytes at once; gives the reason if that fails. -/
def deliver (data : Bytes) : Printing (Option Errno) := do
  if data.isEmpty then return none
  match ← Calling.writeAll Fd.stdout data with
  | .ok () => return none
  | .error e =>
    modify fun o => { o with lost := true }
    return some e

/-- Writes what waits. -/
def flush : Printing (Option Errno) := do
  let data := (← get).content
  modify fun o => { o with waiting := [], size := 0 }
  deliver data

/-- Prints bytes; gives the reason if a block cannot be written. -/
def tryPrint (data : Bytes) : Printing (Option Errno) := do
  let o := (← get).push data
  if o.size ≤ Outlet.capacity then
    set o
    return none
  else
    let content := o.content
    let ready := o.size - o.size % Outlet.capacity
    set { o with waiting := [content.drop ready], size := o.size - ready }
    deliver (content.take ready)

/-- Prints bytes. -/
def print (data : Bytes) : Printing Unit := do
  let _ ← tryPrint data
  return ()

/-- Writes a complaint, after what was printed before it. -/
def complain (message : Bytes) : Printing Unit := do
  let _ ← flush
  Program.warn message

/-- Ends the tool. -/
def quit {α : Type} (code : Nat) : Printing α := throw code

/-- Ends the tool with a complaint. -/
def give {α : Type} (code : Nat) (message : Bytes) : Printing α := do
  complain message
  quit code

/-- What was lost before does not count any more. -/
def forgive : Printing Unit := modify fun _ => Outlet.empty

/-- Prints bytes, and ends the tool with an exit code and a complaint if a block cannot be
written. -/
def printOr (code : Nat) (subject : Bytes) (data : Bytes) : Printing Unit := do
  if let some e ← tryPrint data then
    forgive
    give code (subject ++ text (": " ++ e.systemText))

/-- Closes standard output; gives the reason if what was printed could not be written. A file that
was not open does no harm to a tool that printed nothing. -/
def close : Printing (Option (Option Errno)) := do
  let o ← get
  let failure ← flush
  let closed ← Calling.call (.close Fd.stdout)
  let reason := match failure, closed with
    | some e, _ => some e
    | none, .error e => some e
    | none, .ok () => none
  if o.lost || (0 < o.size && reason.isSome) then return some reason
  else match reason with
    | some e => return if e = .badDescriptor then none else some (some e)
    | none => return none

/-- The whole of a tool that prints. Its exit code is `onFailure` if its output cannot be
written. -/
def toProgram (tool : Bytes) (onFailure : Nat) (p : Printing Nat) : Program Nat := do
  let (result, o) ← p.run.run Outlet.empty
  let code := match result with
    | .ok code | .error code => code
  let (closed, _) ← (close.run.run o : Program _)
  match closed with
  | .ok (some reason) => do
    Program.warn (tool ++ text ": write error" ++ (match reason with
      | some e => text (": " ++ e.systemText)
      | none => []))
    return onFailure
  | _ => return code

/-! ## Inputs -/

variable {σ : Type}

/-- Hands the blocks of an open file to `step` until it wants no more or the file ends; gives the
last state, and the reason if reading failed. At most `fuel` blocks are read. -/
def eachBlock (fd : Fd) (size : Nat) (step : σ → Bytes → Printing (σ × Bool)) :
    Nat → σ → Printing (σ × Option Errno)
  | 0, s => return (s, none)
  | fuel + 1, s => do
    match ← Calling.call (.read fd size) with
    | .error e => return (s, some e)
    | .ok [] => return (s, none)
    | .ok block =>
      let (s, more) ← step s block
      if more then eachBlock fd size step fuel s else return (s, none)

/-- The lines that end in a block, the pieces of the first one coming first in reverse, and the
pieces of the line that does not end. -/
def linesOf (ending : UInt8) (pieces : List Bytes) (block : Bytes) : List Bytes × List Bytes :=
  match Text.splitOn ending block with
  | [] => ([], pieces)
  | [part] => ([], part :: pieces)
  | part :: parts =>
    ((part :: pieces).reverse.flatten :: parts.dropLast, [parts.getLastD []])

/-- What is printed for lines, one after the other, and the state after them. -/
def mapLines (change : σ → Bytes → σ × Bytes) (s : σ) (lines : List Bytes) : σ × List Bytes :=
  let (s, out) := lines.foldl (fun (s, out) line =>
    let (s, shown) := change s line
    (s, shown :: out)) (s, [])
  (s, out.reverse)

/-- Prints what `change` makes of each line of an open file, which is given without its end; gives
the last state, and the reason if reading failed. What follows the last end of a line is handed to
`last`. -/
def eachLine (fd : Fd) (ending : UInt8) (change last : σ → Bytes → σ × Bytes) (s : σ) :
    Printing (σ × Option Errno) := do
  let ((s, pieces), e) ← eachBlock fd Calling.blockSize (fun (s, pieces) block => do
    let (lines, pieces) := linesOf ending pieces block
    let (s, out) := mapLines change s lines
    print out.flatten
    return ((s, pieces), true)) Calling.patience (s, ([] : List Bytes))
  let rest := pieces.reverse.flatten
  if rest.isEmpty then return (s, e)
  let (s, out) := last s rest
  print out
  return (s, e)

/-- The content of an input that is open, and the reason if reading failed. -/
def content (fd : Fd) : Printing (Bytes × Option Errno) := Calling.readAll fd

/-- Closes standard input if it was read; ends the tool with a complaint if it was not open. -/
def closeStdin (self subject : Bytes) (code : Nat) (names : List Bytes) : Printing Unit := do
  if names.contains dash then
    if let .error e ← Calling.call (.close Fd.stdin) then
      give code (complaint self subject e)

/-- Runs a computation on each input that can be opened, and complains about the others; gives
whether all went well. -/
def eachInput (self : Bytes) (complaintOf : Bytes → Errno → Bytes)
    (body : Bytes → Fd → Printing Bool) : List Bytes → Printing Bool
  | [] => return true
  | name :: names => do
    let fine ← match ← lift (openInput name) with
      | .error e =>
        complain (complaintOf name e)
        pure false
      | .ok fd => do
        let fine ← body name fd
        lift (closeInput name fd)
        pure fine
    let others ← eachInput self complaintOf body names
    return fine && others

end Printing

end PipeShell.Tool
