import PipeShell.Userland.Tool.Change

/-!
# Copying and moving files

`cp` copies files and `mv` gives them other names. A `Transfer` says how; `Transfer.copy` and
`Transfer.move` take one file from one path to another. `collision` is what there is to say if
something has the new name already. A tool remembers what it made (`Done`), so that it does not
take two files to one place.
-/

namespace PipeShell.Tool

open Calling (call)
open Printing

/-- What happens to a file that has the new name. -/
inductive Existing
  | replaced
  /-- It stays, and so does the old file. -/
  | kept
  | asked
deriving DecidableEq, Repr

/-- What a copy is. -/
inductive CopyKind
  | content
  | hardLink
  | symbolicLink
deriving DecidableEq, Repr

/-- How files are copied or moved. -/
structure Transfer where
  moves : Bool
  recursive : Bool
  follows : Follows
  existing : Existing
  /-- Whether a file that cannot be written is removed first. -/
  force : Bool
  /-- Whether a file that has the new name is removed first in any case. -/
  removesFirst : Bool
  /-- Whether the mode is copied as it is. -/
  preserves : Bool
  kind : CopyKind
  /-- Whether the content is copied. -/
  copiesData : Bool
  verbose : Bool

/-- What a tool did so far. -/
structure Done where
  /-- The files that it took, with their paths. -/
  taken : List (Bytes × Object)
  /-- The directories that it took, with the paths of their copies. -/
  trees : List (Bytes × Object)
  /-- The files that it made, with their paths. -/
  made : List (Bytes × Object)

/-- A tool did nothing so far. -/
def Done.nothing : Done := ⟨[], [], []⟩

/-- Where a tree is copied: the operand and its copy, and the directory that was made first. -/
structure Whole where
  source : Bytes
  target : Bytes
  made : Option Object

/-- A path and another one with an arrow between them. -/
def arrow (source target : Bytes) : Bytes :=
  Shown.quoted source ++ text " -> " ++ Shown.quoted target

namespace Transfer

variable (self : Bytes)

/-- Complains; gives that it did not go well. -/
def fail (message : Bytes) : Printing Bool := do
  complain (self ++ text ": " ++ message)
  return false

/-- Whether a symbolic link that a path names is followed. -/
def followsAt (t : Transfer) (operand : Bool) : Bool :=
  t.follows == .all || (operand && t.follows == .operands)

/-- The status of what is taken. -/
def look (followed : Bool) (path : Bytes) : Printing (Except Errno FileStatus) :=
  if followed then call (.status path) else call (.statusOfName path)

/-! ## Files that are there -/

/-- Whether two paths are one name in one directory. -/
def isSameName (source target : Bytes) : Printing Bool := do
  if baseName source != baseName target then return false
  match ← call (.status (dirName source)), ← call (.status (dirName target)) with
  | .ok a, .ok b => return a.object == b.object
  | _, _ => return false

/-- Whether a file may take the place of another although they may be the same, and whether nothing
is left to do then. -/
def mayMeet (t : Transfer) (source target : Bytes) (old new : FileStatus) :
    Printing (Bool × Bool) := do
  let same := old.object == new.object
  if same && t.kind == .hardLink then return (true, true)
  if t.follows != .none && !same then return (true, false)
  let (.ok oldName, .ok newName) := (← call (.statusOfName source), ← call (.statusOfName target))
    | return (true, false)
  let oldLink := oldName.kind == .symlink
  let newLink := newName.kind == .symlink
  if oldLink && newLink then
    if t.follows == .none then
      return (!(← isSameName source target) && !(same && t.moves), false)
    if t.removesFirst then return (true, false)
  if t.moves || t.removesFirst then
    if newLink then return (true, false)
    if oldName.object == newName.object && !(← isSameName source target) then
      return (!t.moves, false)
  if !oldLink && !newLink && oldName.object != newName.object then return (true, false)
  if t.kind == .symbolicLink && newLink then return (true, false)
  if t.follows != .none then return (false, false)
  match ← call (.status source), ← call (.status target) with
  | .ok a, .ok b =>
    if a.object != b.object then return (true, false)
    return (t.kind == .hardLink, t.kind == .hardLink && !newLink)
  | _, _ => return (true, false)

/-- Asks whether a file is replaced. -/
def mayReplace (t : Transfer) (target : Bytes) (status : FileStatus) : Printing Bool :=
  if status.mode.mayWrite || status.kind == .symlink then
    confirms self (text "overwrite " ++ Shown.quoted target)
  else
    let mode := modeNumber status.mode
    confirms self (if t.moves || t.removesFirst || t.force then
        text "replace " ++ Shown.quoted target ++ text ", overriding mode " ++ mode ++ text " (" ++
          modeText status.mode ++ text ")"
      else text "unwritable " ++ Shown.quoted target ++ text " (mode " ++ mode ++ text ", " ++
        modeText status.mode ++ text "); try anyway")

/-- What becomes of a file that is to take the place of another: it goes on (`none`), or it is done
with, well or not. -/
def collision (t : Transfer) (made : List (Bytes × Object)) (source target : Bytes)
    (old new : FileStatus) : Printing (Option Bool) := do
  let both := Shown.quoted source ++ text " and " ++ Shown.quoted target
  let (fine, finished) ← if t.existing == .kept then pure (true, false)
    else t.mayMeet source target old new
  if !fine then return some (← fail self (both ++ text " are the same file"))
  if t.moves || old.kind != .directory then
    if t.existing == .kept then return some true
    if t.existing == .asked then
      if !(← t.mayReplace self target new) then return some true
  if finished then return some true
  if new.kind != .directory then
    if old.kind == .directory then
      return some (← fail self (text "cannot overwrite non-directory " ++ Shown.quoted target ++
        text " with directory " ++ Shown.quoted source))
    if made.contains (target, new.object) then
      return some (← fail self (text "will not overwrite just-created " ++ Shown.quoted target ++
        text " with " ++ Shown.quoted source))
  else if old.kind != .directory then
    return some (← fail self (text "cannot overwrite directory " ++ Shown.quoted target ++
      text " with non-directory"))
  return none

/-! ## Copying -/

/-- Opens the file that a content is copied to; gives what is wrong if that fails. `fresh` tells
that nothing has the name. -/
def openTarget (t : Transfer) (target : Bytes) (mode : Mode) (fresh : Bool) :
    Printing (Except Bytes Fd) := do
  let named (message : String) (e : Errno) : Bytes :=
    text message ++ Shown.quoted target ++ text (": " ++ e.systemText)
  let create : Printing (Except Bytes Fd) := do
    match ← lift (openAside target { OpenFlags.writing with exclusive := true }
      (if t.preserves then mode else mode &&& 0o777)) with
    | .ok fd => return .ok fd
    | .error e =>
      if e = .alreadyExists then
        if let .ok status ← call (.statusOfName target) then
          if status.kind == .symlink then
            return .error (text "not writing through dangling symlink " ++ Shown.quoted target)
      return .error (named "cannot create regular file "
        (if e = .isDirectory && FileSystem.endsInSlash target then .notDirectory else e))
  if fresh then return ← create
  match ← lift (openAside target
    { OpenFlags.writing with create := false, truncate := t.copiesData } mode) with
  | .ok fd => return .ok fd
  | .error e =>
    if e = .noEntry then create
    else if t.force then
      match ← call (.removeFile target) with
      | .error e => return .error (named "cannot remove " e)
      | .ok () =>
        if t.verbose then print (text "removed " ++ Shown.quoted target ++ [0x0A])
        create
    else return .error (named "cannot create regular file " e)

/-- Copies the content of a file. -/
def copyContent (t : Transfer) (source target : Bytes) (mode : Mode) (fresh : Bool) :
    Printing Bool := do
  match ← lift (openAside source .reading 0) with
  | .error e =>
    let fault := text (" for reading: " ++ e.systemText)
    fail self (text "cannot open " ++ Shown.quoted source ++ fault)
  | .ok input =>
    match ← t.openTarget target mode fresh with
    | .error message =>
      lift (Calling.close input)
      fail self message
    | .ok output =>
      let (data, fault) ← if t.copiesData then Calling.readAll input else pure ([], none)
      let written ← lift (Calling.writeAll output data)
      if t.preserves then
        let _ ← call (.setMode output mode)
      lift (Calling.close input)
      lift (Calling.close output)
      match fault, written with
      | some e, _ => failed self (text "error reading " ++ Shown.quoted source) e
      | none, .error e => failed self (text "error writing " ++ Shown.quoted target) e
      | none, .ok () => return true

/-- Makes a symbolic link in place of a copy, which has to be in the working directory unless the
path that it holds is absolute. -/
def copyAsLink (t : Transfer) (source target : Bytes) : Printing Bool := do
  let here ← match ← call (.status FileSystem.dot), ← call (.status (dirName target)) with
    | .ok a, .ok b => pure (a.object == b.object)
    | _, _ => pure true
  if source.head? != some FileSystem.slash && !here then
    return ← fail self (Shown.plain target ++
      text ": can make relative symbolic links only in current directory")
  if t.force then
    let _ ← call (.removeFile target)
  succeeded self (text "cannot create symbolic link " ++ Shown.quoted target ++ text " to " ++
    Shown.quoted source) (← call (.makeSymlink source target))

/-- Makes a second name in place of a copy. -/
def copyAsName (t : Transfer) (source target : Bytes) : Printing Bool := do
  if t.force || t.existing == .asked then
    let _ ← call (.removeFile target)
  succeeded self (text "cannot create hard link " ++ Shown.quoted target ++ text " to " ++
    Shown.quoted source) (← call (.makeName source target))

/-- Makes a file that is no directory in the likeness of another one. -/
def copyNode (t : Transfer) (source target : Bytes) (status : FileStatus) (fresh : Bool) :
    Printing Bool := do
  if t.kind == .symbolicLink then return ← t.copyAsLink self source target
  if t.kind == .hardLink then return ← t.copyAsName self source target
  match status.kind with
  | .symlink =>
    match ← call (.linkTarget source) with
    | .error e => failed self (text "cannot read symbolic link " ++ Shown.quoted source) e
    | .ok path =>
      succeeded self (text "cannot create symbolic link " ++ Shown.quoted target)
        (← call (.makeSymlink path target))
  | .regular => t.copyContent self source target status.mode fresh
  | .pipe =>
    if !t.recursive then return ← t.copyContent self source target status.mode fresh
    succeeded self (text "cannot create fifo " ++ Shown.quoted target)
      (← call (.makeFifo target status.mode))
  | _ =>
    if !t.recursive then t.copyContent self source target status.mode fresh
    else failed self (text "cannot create special file " ++ Shown.quoted target) .notPermitted

/-- Makes the directory that a directory is copied to, unless it is there. -/
def copyDirectory (t : Transfer) (source target : Bytes) (fresh : Bool) : Printing Bool := do
  if !fresh then return true
  match ← call (.makeDirectory target) with
  | .error e => failed self (text "cannot create directory " ++ Shown.quoted target) e
  | .ok () =>
    if t.verbose then print (arrow source target ++ [0x0A])
    return true

/-- Gives a directory the mode of the one that it is a copy of. -/
def copyMode (t : Transfer) (target : Bytes) (mode : Mode) (fresh : Bool) : Printing Unit := do
  if fresh || t.preserves then
    let mask ← call (.umask none)
    let _ ← call (.setModeOf target
      (if t.preserves then mode else (mode &&& 0o1777).masked mask))

/-- Copies a file or a directory with what is in it; `fuel` bounds the depth. -/
def copy (t : Transfer) : (fuel : Nat) → Whole → Done → (source target : Bytes) →
    Printing (Bool × Done)
  | 0, _, done, source, _ => return (← failed self (Shown.plain source) .nameTooLong, done)
  | fuel + 1, whole, done, source, target => do
    let operand := whole.source == source
    let status ← match ← look (t.followsAt operand) source with
      | .ok status => pure status
      | .error e => return (← failed self (text "cannot stat " ++ Shown.quoted source) e, done)
    let directory := status.kind == .directory
    if directory && !t.recursive then
      return (← fail self (text "-r not specified; omitting directory " ++ Shown.quoted source),
        done)
    if operand && !directory && done.taken.contains (source, status.object) then
      complain (self ++ text ": warning: source file " ++ Shown.quoted source ++
        text " specified more than once")
      return (true, done)
    let repeats := operand && directory && done.trees.contains (target, status.object)
    let done := if !operand then done
      else if directory then { done with trees := (target, status.object) :: done.trees }
      else { done with taken := (source, status.object) :: done.taken }
    let byName := t.kind != .content || t.removesFirst || directory || status.kind == .symlink ||
      (status.kind != .regular && t.recursive)
    let found ← look (!byName) target
    if let .error e := found then
      if e ≠ .noEntry then
        return (← failed self (text "cannot stat " ++ Shown.quoted target) e, done)
    let mut fresh := !found.isOk
    if let .ok new := found then
      if let some fine ← t.collision self (if operand then done.made else []) source target status
          new then
        return (fine, done)
      if new.kind != .directory && (t.removesFirst || (t.copiesData && t.kind == .content &&
          t.follows == .none && status.kind != .regular)) then
        if let .error e ← call (.removeFile target) then
          return (← failed self (text "cannot remove " ++ Shown.quoted target) e, done)
        if t.verbose then print (text "removed " ++ Shown.quoted target ++ [0x0A])
        fresh := true
    if repeats then
      complain (self ++ text ": warning: source directory " ++ Shown.quoted whole.source ++
        text " specified more than once")
      return (true, done)
    if whole.made == some status.object then
      return (← fail self (text "cannot copy a directory, " ++ Shown.quoted whole.source ++
        text ", into itself, " ++ Shown.quoted whole.target), done)
    if !directory then
      if t.verbose then print (arrow source target ++ [0x0A])
      let fine ← t.copyNode self source target status fresh
      match ← call (.statusOfName target) with
      | .ok new =>
        if operand then return (fine, { done with made := (target, new.object) :: done.made })
        return (fine, done)
      | .error _ => return (fine, done)
    if !(← t.copyDirectory self source target fresh) then return (false, done)
    let made ← match ← call (.status target) with
      | .ok status => pure (if fresh then some status.object else none)
      | .error _ => pure none
    let whole := { whole with made := whole.made.orElse fun _ => made }
    let (fine, done) ← match ← call (.names source) with
      | .error e =>
        let fine ← failed self (text "cannot access " ++ Shown.quoted source) e
        pure (fine, done)
      | .ok names => names.foldlM (fun (fine, done) name => do
          let (this, done) ← copy t fuel whole done (inDirectory source name)
            (inDirectory target name)
          return (fine && this, done)) (true, done)
    t.copyMode target status.mode fresh
    return (fine, done)

/-! ## Moving -/

/-- Gives a file another name. -/
def move (t : Transfer) (done : Done) (source target : Bytes) : Printing (Bool × Done) := do
  let status ← call (.statusOfName source)
  let found ← call (.statusOfName target)
  let finish (fine : Bool) : Printing (Bool × Done) := return (fine, done)
  match status, found with
  | .error e, _ => finish (← failed self (text "cannot stat " ++ Shown.quoted source) e)
  | .ok old, found =>
    if let .error e := found then
      if e ≠ .noEntry then
        return ← finish (← failed self (text "cannot stat " ++ Shown.quoted target) e)
    if let .ok new := found then
      if let some fine ← t.collision self done.made source target old new then return ← finish fine
    match ← call (.rename source target) with
    | .ok () =>
      if t.verbose then print (text "renamed " ++ arrow source target ++ [0x0A])
      return (true, { done with made := (target, old.object) :: done.made })
    | .error e =>
      if e = .invalid then
        finish (← fail self (text "cannot move " ++ Shown.quoted source ++
          text " to a subdirectory of itself, " ++ Shown.quoted target))
      else if e = .directoryNotEmpty || e = .alreadyExists || e = .isDirectory then
        finish (← failed self (text "cannot overwrite " ++ Shown.quoted target) e)
      else finish (← failed self (text "cannot move " ++ Shown.quoted source ++ text " to " ++
        Shown.quoted target) e)

end Transfer

/-! ## Operands -/

variable (self : Bytes)

/-- What a tool says that finds nothing to work on. -/
def missingFile : Program Nat := misuse self 1 (text "missing file operand")

/-- What a tool says that does not find where to. -/
def missingDestination (source : Bytes) : Program Nat :=
  misuse self 1 (text "missing destination file operand after " ++ Shown.quoted source)

/-- The reason why a path leads to no directory, if it does not. -/
def noDirectory? (path : Bytes) : Program (Option Errno) := do
  match ← call (.status path) with
  | .ok status => return if status.kind == .directory then none else some .notDirectory
  | .error e => return some e

/-- The sources with the paths in a directory that they are taken to. -/
def intoDirectory (dir : Bytes) (sources : List Bytes) : List (Bytes × Bytes) :=
  sources.map fun source =>
    let name := baseName source
    (source, inDirectory dir (if name == FileSystem.dotDot then FileSystem.dot else name))

/-- Finds out where files are taken to: into the directory that `-t` names or the last operand
leads to, or to the path that the last operand is. -/
def withTargets (a : Arguments) (body : List (Bytes × Bytes) → Program Nat) : Program Nat := do
  let sources := a.operands.dropLast
  match a.operands, a.word? "t" with
  | [], _ => missingFile self
  | source :: more, some dir =>
    if a.has "T" then
      refuse self 1
        (text "cannot combine --target-directory (-t) and --no-target-directory (-T)")
    else match ← noDirectory? dir with
      | some e =>
        refuse self 1 (text "target directory " ++ Shown.quoted dir ++ text (": " ++ e.systemText))
      | none => body (intoDirectory dir (source :: more))
  | [source], none => missingDestination self source
  | source :: target :: more, none =>
    if a.has "T" then
      match more with
      | [] => body [(source, target)]
      | extra :: _ => misuse self 1 (text "extra operand " ++ Shown.quoted extra)
    else
      let last := a.operands.getLastD []
      match ← noDirectory? last, more with
      | none, _ => body (intoDirectory last sources)
      | some _, [] => body [(source, target)]
      | some e, _ =>
        refuse self 1 (text "target " ++ Shown.quoted last ++ text (": " ++ e.systemText))

/-- Takes files from one path to another, one after the other. -/
def eachTransfer (step : Done → Bytes → Bytes → Printing (Bool × Done))
    (pairs : List (Bytes × Bytes)) : Printing Bool := do
  let (fine, _) ← pairs.foldlM (fun (fine, done) (source, target) => do
    let (this, done) ← step done source target
    return (fine && this, done)) (true, Done.nothing)
  return fine

/-- What happens to files that have the new names. -/
def existingOf (a : Arguments) (keys : List String) : Existing :=
  match a.last? keys with
  | some ("n", _) => .kept
  | some ("i", _) => .asked
  | _ => .replaced

/-- Sources without slashes at their ends, if that is asked for. -/
def trimmed (a : Arguments) (pairs : List (Bytes × Bytes)) : List (Bytes × Bytes) :=
  if a.has "strip-trailing-slashes" then pairs.map fun (s, t) => (withoutSlashes s, t) else pairs

/-- The options of `mv`. -/
def mvOptions : List Known :=
  [flag "f" "force", flag "i" "interactive", flag "n" "no-clobber",
   flag "" "strip-trailing-slashes", taking "t" "target-directory",
   flag "T" "no-target-directory", flag "u" "", ⟨"", "update", .mayWord⟩, flag "v" "verbose",
   flag "Z" "context"]

/-- Moves files. -/
def mv (args : List Bytes) : Program Nat := withArguments self mvOptions 1 args fun a =>
  withTargets self a fun pairs =>
    let t : Transfer := ⟨true, true, .none, existingOf a ["f", "i", "n"], false, false, true,
      .content, true, a.has "v"⟩
    toProgram self 1 do return codeOf (← eachTransfer (t.move self) (trimmed a pairs))

/-- The options of `cp`. -/
def cpOptions : List Known :=
  [flag "a" "archive", flag "" "attributes-only", flag "d" "", flag "f" "force",
   flag "i" "interactive", flag "H" "", flag "l" "link", flag "L" "dereference",
   flag "n" "no-clobber", flag "P" "no-dereference", flag "p" "", ⟨"", "preserve", .mayWord⟩,
   taking "" "no-preserve", flag "R" "recursive", flag "r" "", flag "" "remove-destination",
   ⟨"", "reflink", .mayWord⟩, taking "" "sparse", flag "" "strip-trailing-slashes",
   flag "s" "symbolic-link", taking "t" "target-directory", flag "T" "no-target-directory",
   flag "u" "", ⟨"", "update", .mayWord⟩, flag "v" "verbose", flag "x" "one-file-system"]

/-- Which symbolic links `cp` follows. -/
def copyFollows (a : Arguments) (recursive : Bool) : Follows :=
  match a.last? ["H", "L", "P", "d", "a"] with
  | some ("H", _) => .operands
  | some ("L", _) => .all
  | some _ => .none
  | none => if recursive && !a.has "l" then .none else .all

/-- Copies files, with `-r` also directories. -/
def cp (args : List Bytes) : Program Nat := withArguments self cpOptions 1 args fun a =>
  let recursive := a.hasAny ["r", "R", "a"]
  let kind := if a.has "s" then CopyKind.symbolicLink
    else if a.has "l" then .hardLink else .content
  if a.has "s" && a.has "l" then
    misuse self 1 (text "cannot make both hard and symbolic links")
  else withTargets self a fun pairs =>
    let t : Transfer := ⟨false, recursive, copyFollows a recursive, existingOf a ["i", "n"],
      a.has "f", a.has "remove-destination", a.hasAny ["a", "p", "preserve"], kind,
      !a.has "attributes-only", a.has "v"⟩
    toProgram self 1 do
      return codeOf (← eachTransfer (fun done source target =>
        t.copy self FileSystem.pathLimit ⟨source, target, none⟩ done source target)
        (trimmed a pairs))

end PipeShell.Tool
