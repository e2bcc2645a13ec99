import PipeShell.Userland.Tool.Listing

/-!
# Permissions

A `ModeChange` is one clause of what a word such as `u+x,go=` asks for, and `modeOf?` the function
on modes that the whole word stands for. `chmod` applies it to files. `eachName` is what tools have
in common that change the files that their operands name: they go on after a failure.
-/

namespace PipeShell.Tool

open Calling (call)
open Printing

/-! ## Clauses -/

/-- The permissions that a clause is about. -/
inductive Permissions
  | letters (chosen : Bytes)
  /-- Those of the owner, the group or others, whose bits are that far up. -/
  | copied (shift : Nat)
  | number (bits : Nat)

/-- A change of permission bits. -/
structure ModeChange where
  /-- The bits that the letters before the sign select. -/
  who : Nat
  /-- Whether no letters stand before the sign, so that the mask counts. -/
  implicit : Bool
  sign : UInt8
  permissions : Permissions

/-- Whether a byte is one of a text. -/
def isOneOf (members : String) (b : UInt8) : Bool := (text members).contains b

/-- Whether a byte is a digit of numbers to base eight. -/
def isOctal (b : UInt8) : Bool := 0x30 ≤ b && b < 0x38

/-- The number that digits to base eight write. -/
def octalValue (digits : Bytes) : Nat := digits.foldl (fun n b => 8 * n + (b.toNat - 0x30)) 0

/-- The bits of those that letters stand for. -/
def whoBits (chosen : Bytes) : Nat :=
  chosen.foldl (fun bits letter =>
    bits ||| (if letter == 0x75 then 0o4700 else if letter == 0x67 then 0o2070
      else if letter == 0x6F then 0o1007 else 0o7777)) 0

/-- What the letters after a sign stand for, and what comes after them. -/
def permissionsAt (implicit : Bool) (rest : Bytes) : Option (Permissions × Bytes) :=
  match rest with
  | 0x75 :: rest => some (.copied 6, rest)
  | 0x67 :: rest => some (.copied 3, rest)
  | 0x6F :: rest => some (.copied 0, rest)
  | rest =>
    let digits := rest.takeWhile isOctal
    if digits.isEmpty then
      let chosen := rest.takeWhile (isOneOf "rwxXst")
      some (.letters chosen, rest.drop chosen.length)
    else if !implicit || digits.length < rest.length || 0o7777 < octalValue digits then none
    else some (.number (octalValue digits), [])

/-- The changes that a clause makes after the letters before its signs; `fuel` bounds their
number. -/
def modeChanges (who : Nat) (implicit : Bool) : Nat → Bytes → Option (List ModeChange)
  | 0, _ => none
  | _ + 1, [] => some []
  | fuel + 1, sign :: rest =>
    if !isOneOf "+-=" sign then none
    else do
      let (permissions, rest) ← permissionsAt implicit rest
      return ⟨who, implicit, sign, permissions⟩ :: (← modeChanges who implicit fuel rest)

/-- The changes that a clause such as `u+x` makes. -/
def modeClause (clause : Bytes) : Option (List ModeChange) :=
  let chosen := clause.takeWhile (isOneOf "ugoa")
  let rest := clause.drop chosen.length
  if rest.isEmpty then none
  else modeChanges (if chosen.isEmpty then 0o7777 else whoBits chosen) chosen.isEmpty
    (rest.length + 1) rest

/-! ## Modes -/

/-- The same three bits for the owner, the group and others. -/
def forEverybody (bits : Nat) : Nat := bits * 0o111

/-- The bits that permissions are about, in a file that has some already. -/
def Permissions.bits (directory : Bool) (mode : Nat) : Permissions → Nat
  | copied shift => forEverybody ((mode >>> shift) &&& 7)
  | number bits => bits
  | letters chosen =>
    let executable := directory || mode &&& 0o111 != 0
    forEverybody ((if chosen.contains 0x72 then 4 else 0) |||
      (if chosen.contains 0x77 then 2 else 0) |||
      (if chosen.contains 0x78 || (chosen.contains 0x58 && executable) then 1 else 0)) |||
    (if chosen.contains 0x73 then 0o6000 else 0) ||| (if chosen.contains 0x74 then 0o1000 else 0)

/-- The mode after a change. -/
def ModeChange.apply (mask : Nat) (directory : Bool) (mode : Nat) (change : ModeChange) : Nat :=
  let allowed := match change.permissions with
    | .number _ => 0o7777
    | _ => if change.implicit then 0o7777 ^^^ mask else 0o7777
  let bits := change.permissions.bits directory mode &&& change.who &&& allowed
  if change.sign == 0x2B then mode ||| bits
  else if change.sign == 0x2D then mode &&& (0o7777 ^^^ bits)
  else
    let kept := if directory then 0o6000 else 0
    (mode &&& (0o7777 ^^^ (change.who &&& (0o7777 ^^^ kept)))) ||| bits

/-- The mode that a word asks for, as a function of the mode there is and of whether the file is a
directory. A short number leaves a directory the bits that make new files take after it. -/
def modeOf? (word : Bytes) : Option ((mask : Nat) → (directory : Bool) → Nat → Nat) :=
  if !word.isEmpty && word.all isOctal then
    let bits := octalValue word
    if 0o7777 < bits then none
    else some fun _ directory mode =>
      if directory && word.length < 5 then bits ||| (mode &&& 0o6000) else bits
  else
    ((Text.splitOn 0x2C word).mapM modeClause).map fun clauses mask directory mode =>
      clauses.flatten.foldl (ModeChange.apply mask directory) mode

/-- The permissions as letters. -/
def modeText (mode : Nat) : Bytes :=
  let three (shift special : Nat) (set unset : UInt8) : Bytes :=
    let bits := mode >>> shift
    [if bits &&& 4 != 0 then 0x72 else 0x2D, if bits &&& 2 != 0 then 0x77 else 0x2D,
     if mode &&& special != 0 then (if bits &&& 1 != 0 then set else unset)
     else if bits &&& 1 != 0 then 0x78 else 0x2D]
  three 6 0o4000 0x73 0x53 ++ three 3 0o2000 0x73 0x53 ++ three 0 0o1000 0x74 0x54

/-- The permissions as a number to base eight. -/
def modeNumber (mode : Nat) : Bytes :=
  [9, 6, 3, 0].map fun shift => UInt8.ofNat (0x30 + (mode >>> shift) % 8)

/-! ## Changing files -/

/-- Changes each of the files that names stand for; gives whether all went well. -/
def eachName (change : Bytes → Printing Bool) (names : List Bytes) : Printing Bool :=
  names.foldlM (fun fine name => return (← change name) && fine) true

/-- The exit code of a tool that went on after failures. -/
def codeOf (fine : Bool) : Nat := if fine then 0 else 1

variable (self : Bytes)

/-- Complains about a call that failed. -/
def failed (subject : Bytes) (e : Errno) : Printing Bool := do
  complain (complaint self subject e)
  return false

/-- Complains if a call failed; gives whether it went well. -/
def succeeded (subject : Bytes) : Except Errno Unit → Printing Bool
  | .ok () => return true
  | .error e => failed self subject e

/-- What the options of `chmod` ask for. -/
structure Chmod where
  change : Bool → Nat → Nat
  /-- The change without the mask, if the mode is among the options. -/
  expected : Option (Bool → Nat → Nat)
  recursive : Bool
  silent : Bool
  reportsChanges : Bool
  reportsAll : Bool

/-- Writes what became of the mode of a file. -/
def Chmod.report (c : Chmod) (name : Bytes) (fine : Bool) (old new : Nat) : Printing Unit := do
  let shown (mode : Nat) : Bytes := modeNumber mode ++ text " (" ++ modeText mode ++ text ")"
  if c.reportsAll || (c.reportsChanges && fine && old != new) then
    print (if !fine then text "failed to change mode of " ++ Shown.quoted name ++ text " from " ++
        shown old ++ text " to " ++ shown new ++ [0x0A]
      else if old == new then
        text "mode of " ++ Shown.quoted name ++ text " retained as " ++ shown old ++ [0x0A]
      else text "mode of " ++ Shown.quoted name ++ text " changed from " ++ shown old ++
        text " to " ++ shown new ++ [0x0A])

/-- Complains about a failure that is not passed over. -/
def Chmod.fail (c : Chmod) (message : Bytes) : Printing Bool := do
  if !c.silent then complain (self ++ text ": " ++ message)
  return false

/-- Sets the permission bits of a file that is there. -/
def Chmod.set (c : Chmod) (name : Bytes) (status : FileStatus) : Printing Bool := do
  let directory := status.kind == .directory
  let new := c.change directory status.mode
  match ← call (.setModeOf name new) with
  | .error e =>
    let fine ← c.fail self
      (text "changing permissions of " ++ Shown.quoted name ++ text (": " ++ e.systemText))
    c.report name false status.mode new
    return fine
  | .ok () =>
    c.report name true status.mode new
    match c.expected with
    | none => return true
    | some expected =>
      let wanted := expected directory status.mode
      if new &&& (0o7777 ^^^ wanted) == 0 then return true
      complain (self ++ text ": " ++ Shown.plain name ++ text ": new permissions are " ++
        modeText new ++ text ", not " ++ modeText wanted)
      return false

/-- Sets the permission bits of files, which operands name or which are below them; `fuel` bounds
the depth. -/
def Chmod.run (c : Chmod) : (fuel : Nat) → (operand : Bool) → Bytes → Printing Bool
  | 0, _, _ => return true
  | fuel + 1, operand, name => do
    match ← if operand then call (.status name) else call (.statusOfName name) with
    | .error e =>
      let dangling ← match ← call (.statusOfName name) with
        | .ok status => pure (status.kind == .symlink)
        | .error _ => pure false
      let _ ← c.fail self (if dangling then
          text "cannot operate on dangling symlink " ++ Shown.quoted name
        else text "cannot access " ++ Shown.quoted name ++ text (": " ++ e.systemText))
      c.report name false 0 0
      return false
    | .ok status =>
      if status.kind == .symlink then
        if c.reportsAll then
          print (text "neither symbolic link " ++ Shown.quoted name ++
            text " nor referent has been changed\n")
        return true
      let fine ← c.set self name status
      if !c.recursive || status.kind != .directory then return fine
      match ← call (.names name) with
      | .error e =>
        return (← c.fail self
          (text "cannot read directory " ++ Shown.quoted name ++ text (": " ++ e.systemText))) &&
            fine
      | .ok names =>
        return (← eachName (Chmod.run c fuel false) (names.map (inDirectory name))) && fine

/-- Whether a word is a mode that takes permissions away, and no option. -/
def isModeWord (word : Bytes) : Bool :=
  match word with
  | 0x2D :: b :: _ => isOneOf "rwxXstugoa,+=01234567" b
  | _ => false

/-- Sets the permission bits of files. A mode that takes bits away may start with a dash. -/
def chmod (args : List Bytes) : Program Nat :=
  let before := args.takeWhile (· != text "--")
  let modes := before.filter isModeWord
  withArguments self
    [flag "R" "recursive", flag "c" "changes", flag "f" "silent", flag "f" "quiet",
     flag "v" "verbose", taking "" "reference", flag "" "preserve-root",
     flag "" "no-preserve-root"] 1
    (before.filter (!isModeWord ·) ++ args.drop before.length) fun a => do
  let mask ← call (.umask none)
  let optional := !modes.isEmpty
  let mode := if optional then Text.joinWith [0x2C] modes else a.operands.headD []
  let run (names : List Bytes) (change : Nat → Bool → Nat → Nat) : Program Nat :=
    let c : Chmod := ⟨change mask, if optional then some (change 0) else none, a.has "R", a.has "f",
      (a.last? ["c", "v"]).any (·.1 == "c"), (a.last? ["c", "v"]).any (·.1 == "v")⟩
    toProgram self 1 do
      return codeOf (← eachName (c.run self FileSystem.pathLimit true) names)
  match a.word? "reference" with
  | some reference =>
    if optional then misuse self 1 (text "cannot combine mode and --reference options")
    else if a.operands.isEmpty then missingOperand self
    else match ← call (.status reference) with
      | .error e =>
        refuse self 1 (text "failed to get attributes of " ++ Shown.quoted reference ++
          text (": " ++ e.systemText))
      | .ok status => run a.operands fun _ _ _ => status.mode
  | none =>
    let names := if optional then a.operands else a.operands.tail
    if names.isEmpty then
      if a.operands.isEmpty then missingOperand self
      else misuse self 1 (text "missing operand after " ++ Shown.marked (a.operands.getLastD []))
    else match modeOf? mode with
      | none => misuse self 1 (text "invalid mode: " ++ Shown.marked mode)
      | some change => run names change

end PipeShell.Tool
