import PipeShell.Userland.Tool.Copy

/-!
# Links

`ln` gives files more names or makes symbolic links to them, and `link` gives a file one more name.
`linkText` is the path that a symbolic link holds so that it leads from its own directory to a
file.
-/

namespace PipeShell.Tool

open Calling (call)
open Printing

/-- How links are made. -/
structure Linking where
  symbolic : Bool
  /-- Whether a symbolic link holds a path from its own directory. -/
  relative : Bool
  existing : Existing
  /-- Whether a file that has the name is removed. -/
  force : Bool
  /-- Whether a symbolic link that gets one more name is followed. -/
  follows : Bool
  verbose : Bool

variable (self : Bytes)

namespace Linking

/-- What is wrong with a source that cannot get one more name. -/
def sourceFault (l : Linking) (source : Bytes) : Printing (Option Bytes) := do
  if l.symbolic then return none
  match ← if l.follows then call (.status source) else call (.statusOfName source) with
  | .error e =>
    return some (text "failed to access " ++ Shown.quoted source ++ text (": " ++ e.systemText))
  | .ok status =>
    if status.kind == .directory then
      return some (Shown.plain source ++ text ": hard link not allowed for directory")
    return none

/-- The path that a symbolic link holds. -/
def linkText (l : Linking) (source target : Bytes) : Program Bytes := do
  if !(l.symbolic && l.relative) then return source
  match ← canonical .nothing true (dirName target), ← canonical .nothing true source with
  | .ok start, .ok stop =>
    return relativePath (FileSystem.components stop) (FileSystem.components start)
  | _, _ => return source

/-- Makes a link. -/
def make (l : Linking) (source target : Bytes) : Printing (Except Errno Unit) :=
  if l.symbolic then call (.makeSymlink source target)
  else do
    if !l.follows then return ← call (.makeName source target)
    match ← lift (canonical .all true source) with
    | .ok path => call (.makeName path target)
    | .error e => return .error e

/-- Removes the file that has the name of a link, or complains; gives whether the way is clear. -/
def clear (l : Linking) (made : List (Bytes × Object)) (source target : Bytes) :
    Printing (Option Bool) := do
  match ← call (.statusOfName target) with
  | .error e =>
    if e = .noEntry then return none
    return some (← failed self (text "failed to access " ++ Shown.quoted target) e)
  | .ok status =>
    if status.kind == .directory then
      complain (self ++ text ": " ++ Shown.plain target ++ text ": cannot overwrite directory")
      return some false
    if made.contains (target, status.object) then
      complain (self ++ text ": will not overwrite just-created " ++ Shown.quoted target ++
        text " with " ++ Shown.quoted source)
      return some false
    let same ← match ← call (.status source) with
      | .error _ => pure false
      | .ok old =>
        let sameName ← Transfer.isSameName source target
        pure (sameName && (l.symbolic || old.object == status.object))
    if same then
      complain (self ++ text ": " ++ Shown.quoted source ++ text " and " ++ Shown.quoted target ++
        text " are the same file")
      return some false
    if l.existing == .asked then
      if !(← confirms self (text "replace " ++ Shown.quoted target)) then return some true
    let _ ← call (.removeFile target)
    return none

/-- What could not be done. -/
def subject (l : Linking) (source target : Bytes) (e : Errno) : Bytes :=
  let both := e ≠ .alreadyExists && (!l.symbolic || e = .nameTooLong || source.isEmpty)
  text "failed to create " ++ text (if l.symbolic then "symbolic" else "hard") ++ text " link " ++
    Shown.quoted target ++
    (if both then text (if l.symbolic then " -> " else " => ") ++ Shown.quoted source else [])

/-- Makes a link; a file that has its name may be removed first. -/
def run (l : Linking) (done : Done) (source target : Bytes) : Printing (Bool × Done) := do
  if let some fault ← l.sourceFault source then
    complain (self ++ text ": " ++ fault)
    return (false, done)
  if l.force || l.existing == .asked then
    if let some fine ← l.clear self done.made source target then return (fine, done)
  let held ← lift (l.linkText source target)
  match ← l.make held target with
  | .error e => return (← failed self (l.subject held target e) e, done)
  | .ok () =>
    if l.verbose then
      print (Shown.quoted target ++ text (if l.symbolic then " -> " else " => ") ++
        Shown.quoted held ++ [0x0A])
    match ← call (.statusOfName target) with
    | .ok status =>
      return (true, { done with
        made := if l.symbolic then done.made else (target, status.object) :: done.made })
    | .error _ => return (true, done)

end Linking

/-! ## Operands -/

/-- Whether a link can be made in the directory that a path leads to; `direct` tells that a symbolic
link to a directory is none. -/
def acceptsLinks (direct : Bool) (path : Bytes) : Program (Option Errno) := do
  match ← call (.statusOfName path) with
  | .ok status => if direct && status.kind == .symlink then return some .notDirectory
  | .error _ => pure ()
  noDirectory? path

/-- Finds out where links are made: in the directory that `-t` names or the last operand leads to,
in the working directory, or at the path that the last operand is. -/
def withPlaces (a : Arguments) (body : List (Bytes × Bytes) → Program Nat) : Program Nat := do
  let into (dir : Bytes) (sources : List Bytes) : List (Bytes × Bytes) :=
    sources.map fun source => (source, inDirectory dir (baseName source))
  match a.operands, a.word? "t" with
  | [], _ => missingFile self
  | operands, some dir =>
    if a.has "T" then
      refuse self 1 (text "cannot combine --target-directory and --no-target-directory")
    else match ← noDirectory? dir with
      | some .notDirectory =>
        refuse self 1 (text "target " ++ Shown.quoted dir ++ text " is not a directory")
      | some e =>
        refuse self 1 (text "failed to access " ++ Shown.quoted dir ++ text (": " ++ e.systemText))
      | none => body (into dir operands)
  | [source], none =>
    if a.has "T" then missingDestination self source else body (into FileSystem.dot [source])
  | source :: target :: more, none =>
    if a.has "T" then
      match more with
      | [] => body [(source, target)]
      | extra :: _ => misuse self 1 (text "extra operand " ++ Shown.quoted extra)
    else
      let last := a.operands.getLastD []
      match ← acceptsLinks (a.has "n") last, more with
      | none, _ => body (into last a.operands.dropLast)
      | some _, [] => body [(source, target)]
      | some e, _ =>
        refuse self 1 (text "target " ++ Shown.quoted last ++ text (": " ++ e.systemText))

/-- The options of `ln`. -/
def lnOptions : List Known :=
  [flag "d" "directory", flag "F" "", flag "f" "force", flag "i" "interactive",
   flag "L" "logical", flag "n" "no-dereference", flag "P" "physical", flag "r" "relative",
   flag "s" "symbolic", taking "t" "target-directory", flag "T" "no-target-directory",
   flag "v" "verbose"]

/-- Makes links. -/
def ln (args : List Bytes) : Program Nat := withArguments self lnOptions 1 args fun a =>
  if a.has "r" && !a.has "s" then
    refuse self 1 (text "cannot do --relative without --symbolic")
  else withPlaces self a fun pairs =>
    let last := a.last? ["f", "i"]
    let l : Linking := ⟨a.has "s", a.has "r",
      if last.any (·.1 == "i") then .asked else .replaced, last.any (·.1 == "f"),
      (a.last? ["L", "P"]).any (·.1 == "L"), a.has "v"⟩
    toProgram self 1 do return codeOf (← eachTransfer (l.run self) pairs)

/-- Gives a file one more name. -/
def link (args : List Bytes) : Program Nat :=
  withChecked self [] true 1 (fun _ _ => none) args fun a =>
  match a.operands with
  | [] => missingOperand self
  | [name] => misuse self 1 (text "missing operand after " ++ Shown.quoted name)
  | _ :: _ :: extra :: _ => extraOperand self 1 extra
  | [source, target] => toProgram self 1 do
    return codeOf (← succeeded self (text "cannot create link " ++ Shown.quoted target ++
      text " to " ++ Shown.quoted source) (← call (.makeName source target)))

end PipeShell.Tool
