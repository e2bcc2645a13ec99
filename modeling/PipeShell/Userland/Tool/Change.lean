import PipeShell.Userland.Tool.Path
import PipeShell.Userland.Tool.Permission

/-!
# Making and removing files

`mkdir`, `mkfifo` and `touch` make files, `rmdir`, `rm` and `unlink` remove them. A tool goes on
after a failure and ends with the exit code 1 if there was one. `removeTree` removes a directory
with what is in it; what is left over keeps the directories above it, without more complaints.
-/

namespace PipeShell.Tool

open Calling (call)
open Printing

variable (self : Bytes)

/-! ## Directories -/

/-- The ways to a path: the path up to each slash that ends a name and is followed by another. -/
def waysTo (path : Bytes) : List Bytes :=
  let last := (withoutSlashes path).length
  let ends := path.zipIdx.zip (0x2F :: path)
  let starts := ends.filter fun ((b, i), before) => b == 0x2F && before != 0x2F && i < last
  starts.map fun ((_, i), _) => path.take i

/-- Makes a directory; its mode is the one that is asked for, less the mask if none is. -/
def makeDirectory (mode : Option Mode) (name : Bytes) : Printing (Except Errno Unit) := do
  match ← call (.makeDirectory name), mode with
  | .ok (), some mode => call (.setModeOf name mode)
  | made, _ => return made

/-- What `mkdir` is asked for. -/
structure Mkdir where
  mode : Option Mode
  /-- Whether the directories on the way are made as well. -/
  parents : Bool
  verbose : Bool

/-- Tells that a directory was made. -/
def Mkdir.announce (m : Mkdir) (name : Bytes) : Printing Unit := do
  if m.verbose then
    print (self ++ text ": created directory " ++ Shown.quoted name ++ [0x0A])

/-- Makes sure that there are directories on a way, one after the other; gives the first that cannot
be there, and why. -/
def Mkdir.clear (m : Mkdir) (wayMode : Option Mode) : List Bytes → Printing (Option (Bytes × Errno))
  | [] => return none
  | way :: ways => do
    let stop : Option Errno ← if FileSystem.isDots (baseName way) then pure none
      else do
        match ← makeDirectory wayMode way with
        | .ok () =>
          m.announce self way
          pure none
        | .error e => pure (some e)
    match ← call (.status way) with
    | .ok status =>
      if status.kind == .directory then Mkdir.clear m wayMode ways
      else return some (way, .notDirectory)
    | .error e => return some (way, if e = .noEntry then stop.getD e else e)

/-- Makes a directory that an operand names. -/
def Mkdir.make (m : Mkdir) (wayMode : Option Mode) (name : Bytes) : Printing Bool := do
  let subject (path : Bytes) : Bytes := text "cannot create directory " ++ Shown.quoted path
  let stop ← if m.parents then m.clear self wayMode (waysTo name) else pure none
  match stop with
  | some (way, e) => failed self (subject way) e
  | none =>
    match ← makeDirectory m.mode name with
    | .ok () =>
      m.announce self name
      return true
    | .error e =>
      if m.parents && e ≠ .noEntry then
        if let .ok status ← call (.status name) then
          if status.kind == .directory then return true
      failed self (subject name) e

/-- Makes directories, with `-p` also those on the way. -/
def mkdir (args : List Bytes) : Program Nat :=
  withArguments self
    [flag "p" "parents", taking "m" "mode", flag "v" "verbose", flag "Z" ""] 1 args fun a => do
  if a.operands.isEmpty then return ← missingOperand self
  let mask ← call (.umask none)
  let wayMode := if mask &&& 0o300 == 0 then none else some ((0o777 &&& (0o777 ^^^ mask)) ||| 0o300)
  let run (mode : Option Mode) : Program Nat :=
    let m : Mkdir := ⟨mode, a.has "p", a.has "v"⟩
    toProgram self 1 do return codeOf (← eachName (m.make self wayMode) a.operands)
  match a.word? "m" with
  | none => run none
  | some word =>
    match modeOf? word with
    | none => refuse self 1 (text "invalid mode " ++ Shown.marked word)
    | some mode => run (some (mode mask true 0o777))

/-- What `rmdir` is asked for. -/
structure Rmdir where
  /-- Whether the directories on the way are removed as well. -/
  parents : Bool
  /-- Whether it does not matter if a directory is not empty. -/
  lenient : Bool
  verbose : Bool

/-- Removes an empty directory; gives the reason if that fails and matters, and whether the
directory is gone. -/
def Rmdir.removeOne (r : Rmdir) (name : Bytes) : Printing (Option Errno × Bool) := do
  if r.verbose then
    print (self ++ text ": removing directory, " ++ Shown.quoted name ++ [0x0A])
  match ← call (.removeDirectory name) with
  | .ok () => return (none, true)
  | .error e => return (if r.lenient && e = .directoryNotEmpty then none else some e, false)

/-- Whether a path leads to a directory by a symbolic link that a slash comes after. -/
def isSlashedLink (name : Bytes) : Printing Bool := do
  if !FileSystem.endsInSlash name then return false
  let leads ← match ← call (.status name) with
    | .ok status => pure (status.kind == .directory)
    | .error e => pure (e ≠ .notDirectory)
  match ← call (.statusOfName (withoutSlashes name)) with
  | .ok status => return leads && status.kind == .symlink
  | .error _ => return false

/-- Removes the directories that are on the way to one that was removed, the last one first. -/
def Rmdir.removeWay (r : Rmdir) : List Bytes → Printing Bool
  | [] => return true
  | way :: ways => do
    match ← r.removeOne self way with
    | (some e, _) =>
      failed self (text (if e = .notDirectory then "failed to remove "
        else "failed to remove directory ") ++ Shown.quoted way) e
    | (none, gone) => if gone then Rmdir.removeWay r ways else return true

/-- Removes an empty directory that an operand names. -/
def Rmdir.remove (r : Rmdir) (name : Bytes) : Printing Bool := do
  match ← r.removeOne self name with
  | (some e, _) =>
    let subject := text "failed to remove " ++ Shown.quoted name
    if e = .notDirectory && (← isSlashedLink name) then
      complain (self ++ text ": " ++ subject ++ text ": Symbolic link not followed")
      return false
    failed self subject e
  | (none, gone) =>
    let start := if name.head? == some FileSystem.slash then [[FileSystem.slash]] else []
    if gone && r.parents then r.removeWay self ((waysTo name).reverse ++ start) else return true

/-- Removes empty directories. -/
def rmdir (args : List Bytes) : Program Nat :=
  withArguments self
    [flag "p" "parents", flag "" "ignore-fail-on-non-empty", flag "v" "verbose"] 1 args fun a =>
  if a.operands.isEmpty then missingOperand self
  else
    let r : Rmdir := ⟨a.has "p", a.has "ignore-fail-on-non-empty", a.has "v"⟩
    toProgram self 1 do return codeOf (← eachName (r.remove self) a.operands)

/-! ## Questions -/

/-- Reads a line from standard input, byte by byte, so that nothing of what follows is taken. -/
def readAnswer : (fuel : Nat) → Bytes → Printing Bytes
  | 0, line => return line.reverse
  | fuel + 1, line => do
    match ← call (.read Fd.stdin 1) with
    | .ok (b :: _) => if b == 0x0A then return line.reverse else readAnswer fuel (b :: line)
    | _ => return line.reverse

/-- Asks something on standard error; gives whether the answer is yes. -/
def confirms (question : Bytes) : Printing Bool := do
  let _ ← flush
  Program.put Fd.stderr (self ++ text ": " ++ question ++ text "? ")
  let answer ← readAnswer Calling.patience []
  return answer.head? == some 0x79 || answer.head? == some 0x59

/-! ## Removing -/

/-- What became of a file that should be removed. -/
inductive Removal
  | removed
  /-- The user wants to keep it. -/
  | declined
  /-- The user wants to keep what is in it, so the directories above it stay as well. -/
  | closed
  /-- It could not be removed, which was said. -/
  | failed
deriving DecidableEq, Repr

/-- What `rm` is asked for. -/
structure Rm where
  recursive : Bool
  /-- Whether empty directories are removed. -/
  directories : Bool
  /-- Whether it does not matter if a file is missing. -/
  force : Bool
  /-- Whether each file has to be confirmed. -/
  asks : Bool
  verbose : Bool
  /-- Whether the root is kept. -/
  keepsRoot : Bool

/-- What a question calls a file. -/
def kindName (status : FileStatus) : Bytes :=
  let unguarded := status.mode.mayWrite || status.kind == .symlink
  let protection := if unguarded then "" else "write-protected "
  text protection ++ text (match status.kind with
    | .regular => if status.size == 0 then "regular empty file" else "regular file"
    | .directory => "directory"
    | .symlink => "symbolic link"
    | .pipe => "fifo"
    | .device => "character special file")

/-- Asks whether something should be done about a file, if that is to be asked. -/
def Rm.allows (r : Rm) (action : String) (name : Bytes) (status : FileStatus) : Printing Bool := do
  if !r.asks then return true
  confirms self (text action ++ kindName status ++ [0x20] ++ Shown.quoted name)

/-- Complains about a file that cannot be removed, if that matters. -/
def Rm.fail (r : Rm) (name : Bytes) (e : Errno) : Printing Removal := do
  if r.force && (e = .noEntry || e = .notDirectory || e = .invalid) then return .removed
  complain (complaint self (text "cannot remove " ++ Shown.quoted name) e)
  return .failed

/-- Removes a file or, if it is one, an empty directory. -/
def Rm.excise (r : Rm) (directory : Bool) (name : Bytes) : Printing Removal := do
  match ← if directory then call (.removeDirectory name) else call (.removeFile name) with
  | .ok () =>
    if r.verbose then
      print (text (if directory then "removed directory " else "removed ") ++ Shown.quoted name ++
        [0x0A])
    return .removed
  | .error e => r.fail self name e

/-- What became of several files: the worst of it. -/
def Removal.and : Removal → Removal → Removal
  | failed, _ | _, failed => failed
  | closed, _ | _, closed => closed
  | declined, _ | _, declined => declined
  | removed, removed => removed

/-- Removes a file, or a directory with what is in it; `fuel` bounds the depth. -/
def removeTree (r : Rm) : (fuel : Nat) → (name : Bytes) → Printing Removal
  | 0, name => r.fail self name .nameTooLong
  | fuel + 1, name => do
    match ← call (.statusOfName name) with
    | .error e => r.fail self name e
    | .ok status =>
      if status.kind != .directory then
        if ← r.allows self "remove " name status then r.excise self false name else return .declined
      else match ← call (.names name) with
        | .error e =>
          if !(← r.allows self "attempt removal of inaccessible " name status) then
            return .declined
          match ← call (.removeDirectory name) with
          | .ok () => return .removed
          | .error _ => r.fail self name e
        | .ok [] =>
          if ← r.allows self "remove " name status then r.excise self true name
          else return .declined
        | .ok entries =>
          if !(← r.allows self "descend into " name status) then return .closed
          let below ← entries.foldlM (fun worst entry =>
            return worst.and (← removeTree r fuel (inDirectory name entry))) .removed
          if below == .closed || below == .failed then return below
          if ← r.allows self "remove " name status then r.excise self true name
          else return .declined

/-- Whether a path leads to the root. -/
def leadsToRoot (name : Bytes) : Printing Bool := do
  match ← call (.statusOfName name), ← call (.status [FileSystem.slash]) with
  | .ok status, .ok root => return status.object == root.object
  | _, _ => return false

/-- Removes a file that an operand names. -/
def Rm.remove (r : Rm) (name : Bytes) : Printing Removal := do
  let directory ← match ← call (.statusOfName name) with
    | .ok status => pure (status.kind == .directory)
    | .error _ => pure false
  if !directory then return ← removeTree self r FileSystem.pathLimit name
  if !r.recursive then
    let isEmpty ← match ← call (.names name) with
      | .ok names => pure names.isEmpty
      | .error _ => pure false
    if !(r.directories && isEmpty) then
      return ← r.fail self name (if r.directories then .directoryNotEmpty else .isDirectory)
  if FileSystem.isDots (baseName name) then
    complain (self ++ text ": refusing to remove '.' or '..' directory: skipping " ++
      Shown.quoted name)
    return .failed
  if r.keepsRoot && (← leadsToRoot name) then
    complain (self ++ text ": it is dangerous to operate recursively on " ++ Shown.quoted name ++
      (if name == [FileSystem.slash] then [] else text " (same as '/')") ++
      text "\n" ++ self ++ text ": use --no-preserve-root to override this failsafe")
    return .failed
  removeTree self r FileSystem.pathLimit name

/-- Whether the user agrees to remove many files, or directories with what is in them. -/
def agreesOnce (recursive : Bool) (count : Nat) : Printing Bool := do
  if !recursive && count ≤ 3 then return true
  confirms self (text "remove " ++ Bytes.ofNat count ++
    text (if count == 1 then " argument" else " arguments") ++
    text (if recursive then " recursively" else ""))

/-- The options of `rm`. -/
def rmOptions : List Known :=
  [flag "f" "force", flag "i" "", flag "I" "", ⟨"", "interactive", .mayWord⟩,
   flag "r" "recursive", flag "R" "", flag "d" "dir", flag "v" "verbose",
   flag "" "one-file-system", flag "" "no-preserve-root", ⟨"", "preserve-root", .mayWord⟩]

/-- Removes files, with `-r` also directories. -/
def rm (args : List Bytes) : Program Nat :=
  withArguments self rmOptions 1 args fun a =>
  let recursive := a.hasAny ["r", "R"]
  let mood := match a.last? ["f", "i", "I", "interactive"] with
    | some ("interactive", word) =>
      let word := word.getD (text "always")
      if word == text "once" then "I" else if word == text "always" || word == text "yes" then "i"
      else ""
    | some (key, _) => key
    | none => ""
  if a.operands.isEmpty && mood != "f" then missingOperand self
  else
    let r : Rm := ⟨recursive, a.has "d", mood == "f", mood == "i", a.has "v",
      !a.has "no-preserve-root"⟩
    toProgram self 1 do
      if mood == "I" then
        if !(← agreesOnce self recursive a.operands.length) then return 0
      let worst ← a.operands.foldlM
        (fun worst name => return Removal.and worst (← r.remove self name))
        Removal.removed
      return codeOf (worst != .failed)

/-- Removes a name of a file. -/
def unlink (args : List Bytes) : Program Nat :=
  withChecked self [] true 1 (fun _ _ => none) args fun a =>
  match a.operands with
  | [] => missingOperand self
  | _ :: extra :: _ => extraOperand self 1 extra
  | [name] => toProgram self 1 do
    return codeOf (← succeeded self (text "cannot unlink " ++ Shown.quoted name)
      (← call (.removeFile name)))

/-! ## Making files -/

/-- Whether a word is a time in digits: month, day, hour and minute, maybe with a year before them
and seconds after them. -/
def isStamp (word : Bytes) : Bool :=
  let digits := word.takeWhile Binary.isDigit
  let rest := word.drop digits.length
  let pair (n : Nat) : Nat := pairValue ((digits.drop (digits.length - 2 * n)).take 2)
  let fine := 1 ≤ pair 4 && pair 4 ≤ 12 && 1 ≤ pair 3 && pair 3 ≤ 31 && pair 2 ≤ 23 && pair 1 ≤ 59
  [8, 10, 12].contains digits.length && fine &&
    (rest.isEmpty || (rest.length == 3 && rest.head? == some 0x2E && rest.tail.all Binary.isDigit))
where
  /-- The number that two digits write. -/
  pairValue (digits : Bytes) : Nat := digits.foldl (fun n b => 10 * n + (b.toNat - 0x30)) 0

/-- What `touch` is asked for. -/
structure Touch where
  /-- Whether missing files are made. -/
  creates : Bool
  /-- Whether symbolic links are followed. -/
  follows : Bool

/-- Makes a file unless it is there. -/
def Touch.run (t : Touch) (name : Bytes) : Printing Bool := do
  if name == dash then return true
  let subject := text "setting times of " ++ Shown.quoted name
  match ← if t.follows then call (.status name) else call (.statusOfName name) with
  | .ok _ => return true
  | .error e =>
    if !t.creates || !t.follows then
      if !t.creates && e = .noEntry then return true
      failed self subject e
    else match ← lift (openAside name .appending 0o666) with
      | .ok fd =>
        lift (Calling.close fd)
        return true
      | .error opening =>
        if opening = .isDirectory then failed self subject e
        else failed self (text "cannot touch " ++ Shown.quoted name) opening

/-- The options of `touch`. -/
def touchOptions : List Known :=
  [flag "a" "", flag "c" "no-create", taking "d" "date", flag "f" "", flag "h" "no-dereference",
   flag "m" "", taking "r" "reference", taking "t" "", taking "" "time"]

/-- Makes files. -/
def touch (args : List Bytes) : Program Nat :=
  withChecked self touchOptions false 1
    (fun key word => if key == "t" && !isStamp word then
      some (text "invalid date format " ++ Shown.marked word, false) else none) args fun a => do
  let reference ← match a.word? "r" with
    | none => pure (.ok ())
    | some name => pure ((← call (.status name)).map fun _ => ())
  match reference with
  | .error e =>
    refuse self 1 (text "failed to get attributes of " ++
      Shown.quoted ((a.word? "r").getD []) ++ text (": " ++ e.systemText))
  | .ok () =>
    if a.operands.isEmpty then misuse self 1 (text "missing file operand")
    else
      let t : Touch := ⟨!a.has "c", !a.has "h"⟩
      toProgram self 1 do return codeOf (← eachName (t.run self) a.operands)

/-- Makes a named pipe. -/
def makeFifo (mode : Option Mode) (name : Bytes) : Printing Bool := do
  match ← call (.makeFifo name 0o666), mode with
  | .ok (), some mode =>
    succeeded self (text "cannot set permissions of " ++ Shown.quoted name)
      (← call (.setModeOf name mode))
  | made, _ => succeeded self (text "cannot create fifo " ++ Shown.quoted name) made

/-- Makes named pipes. -/
def mkfifo (args : List Bytes) : Program Nat :=
  withArguments self [taking "m" "mode", flag "Z" ""] 1 args fun a => do
  if a.operands.isEmpty then return ← missingOperand self
  let mask ← call (.umask none)
  let run (mode : Option Mode) : Program Nat :=
    toProgram self 1 do return codeOf (← eachName (makeFifo self mode) a.operands)
  match a.word? "m" with
  | none => run none
  | some word =>
    match modeOf? word with
    | none => refuse self 1 (text "invalid mode")
    | some change =>
      let mode := change mask false 0o666
      if 0o777 < mode then
        refuse self 1 (text "mode must specify only file permission bits")
      else run (some mode)

end PipeShell.Tool
