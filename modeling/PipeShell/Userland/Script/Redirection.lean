import PipeShell.Userland.Script.Expansion

/-!
# Redirections

A redirection is replaced first, like the words of a command (`Target`), and carried out then. What
the descriptors were before is kept above the numbers that scripts use (`keepAbove`), so that
`Script.uncoverDescriptors` can bring it back.
-/

namespace PipeShell.Script

open Calling (call)

/-- A redirection that was replaced. -/
inductive Target
  | file (fd : Fd) (kind : RedirectKind) (path : Bytes)
  /-- `none` closes the descriptor. -/
  | copy (fd : Fd) (source : Option Fd)
  | text (fd : Fd) (content : Word)

/-- The redirection with its word replaced. A descriptor has one digit. -/
def targetOf (run : Runner) : Redirect → Script Target
  | .file fd kind name => do return .file fd kind (← field run name)
  | .text fd _ content => return .text fd content
  | .copy fd source => do
    match ← field run source with
    | [b] =>
      if Reading.isDigit b then return .copy fd (some (b.toNat - 0x30))
      else if b == 0x2D then return .copy fd none
      else failSyntax (text "Bad fd number")
    | _ => failSyntax (text "Bad fd number")

/-- The redirections with their words replaced. -/
def targetsOf (run : Runner) : List Redirect → Script (List Target)
  | [] => return []
  | r :: rs => do
    let t ← targetOf run r
    return t :: (← targetsOf run rs)

/-- Leaves because a file cannot be opened. -/
def cannotOpen {α : Type} (creates : Bool) (path : Bytes) (e : Errno) : Script α :=
  fail (text (if creates then "cannot create " else "cannot open ") ++ path ++ text ": " ++
    fileFault (if creates then "Directory nonexistent" else "No such file") e)

/-- Opens the file of a redirection. -/
def openTarget (kind : RedirectKind) (path : Bytes) : Script Fd := do
  let attempt (flags : OpenFlags) : Script Fd := do
    match ← call (.openFile path flags 0o666) with
    | .ok fd => return fd
    | .error e => cannotOpen flags.create path e
  match kind with
  | .input => attempt .reading
  | .append => attempt .appending
  | .both => attempt { OpenFlags.reading with write := true, create := true }
  | .clobber => attempt .writing
  | .output =>
    if !(← get).isOn 0x43 then attempt .writing
    else match ← call (.status path) with
      | .error _ => attempt { OpenFlags.writing with truncate := false, exclusive := true }
      | .ok status =>
        if status.kind == .regular then cannotOpen true path .alreadyExists
        else attempt { OpenFlags.writing with truncate := false, create := false }

/-- The number of bytes that a pipe takes at once. -/
def atOnce : Nat := 4096

/-- Makes a pipe from which a text can be read. -/
def openText (run : Runner) (content : Word) : Script Fd := do
  match ← call .makePipe with
  | .error _ => fail (text "Pipe call failed")
  | .ok (readEnd, writeEnd) =>
    let bytes ← textField run content
    if bytes.length ≤ atOnce then
      let _ ← (Calling.writeAll writeEnd bytes : Script _)
    else
      let child : Program Nat := do
        Calling.close readEnd
        call (.setDisposition pipeSignal .untouched)
        let _ ← Calling.writeAll writeEnd bytes
        return 0
      let _ ← (Program.fork child : Program _)
    Calling.close writeEnd
    return readEnd

/-- The number above which descriptors are kept. -/
def keepAbove : Fd := 10

/-- Keeps what is open under a number; gives where, or nothing if nothing is open. -/
def keepDescriptor (fd : Fd) : Script (Option Fd) := do
  match ← call (.duplicateAbove fd keepAbove) with
  | .ok kept =>
    Calling.close fd
    return some kept
  | .error e =>
    if e = .badDescriptor then return none
    Calling.close fd
    fail (Bytes.ofNat fd ++ text (": " ++ e.systemText))

/-- Notes where a descriptor was kept. -/
def noteKept (fd : Fd) (kept : Option Fd) : Script Unit :=
  modify fun s => match s.saved with
    | frame :: frames => { s with saved := ((fd, kept) :: frame) :: frames }
    | [] => s

/-- Carries out a redirection; with `keeps` what the number was before is kept. -/
def redirect (run : Runner) (keeps : Bool) (target : Target) : Script Unit := do
  let put (fd : Fd) (source : Option Fd) (opened : Bool) : Script Unit := do
    let known := (← get).saved.head?.any fun frame => (frame.lookup fd).isSome
    let mut kept := false
    if keeps && !known then
      if source == some fd then noteKept fd none
      else
        let place ← keepDescriptor fd
        kept := place.isSome
        if kept || source.isSome then noteKept fd place
    match source with
    | none => if !kept then Calling.close fd
    | some source =>
      if source != fd then
        let result ← call (.duplicate source fd)
        if opened then Calling.close source
        if let .error e := result then
          fail (Bytes.ofNat source ++ text (": " ++ e.systemText))
  match target with
  | .copy fd source => if source != some fd then put fd source false
  | .file fd kind path => put fd (some (← openTarget kind path)) true
  | .text fd content => put fd (some (← openText run content)) true

/-- Carries out redirections one after the other. -/
def redirectAll (run : Runner) (keeps : Bool) : List Target → Script Unit
  | [] => return ()
  | t :: ts => do
    redirect run keeps t
    redirectAll run keeps ts

/-- Brings back what was kept, or with `dropped` lets go of it. -/
def bringBack (dropped : Bool) : List (Fd × Option Fd) → Script Unit
  | [] => return ()
  | (fd, kept) :: more => do
    match kept with
    | some kept =>
      if !dropped then
        let _ ← call (.duplicate kept fd)
      Calling.close kept
    | none => if !dropped then Calling.close fd
    bringBack dropped more

/-- Brings back what the innermost redirections covered. -/
def uncoverDescriptors (dropped : Bool) : Script Unit := do
  match (← get).saved with
  | frame :: frames =>
    modify fun s => { s with saved := frames }
    bringBack dropped (frame.mergeSort fun a b => a.1 ≤ b.1)
  | [] => return ()

/-- Brings back what redirections covered since there were `depth` of them. -/
def uncoverDescriptorsTo (depth : Nat) : Nat → Script Unit
  | 0 => return ()
  | fuel + 1 => do
    if (← get).saved.length ≤ depth then return ()
    uncoverDescriptors false
    uncoverDescriptorsTo depth fuel

end PipeShell.Script
