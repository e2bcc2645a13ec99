import PipeShell.Userland.Script.Builtin.Options
import PipeShell.Userland.Script.Lookup

/-!
# The working directory and the mask

A script remembers the path by which it went to its working directory, in which a symbolic link
counts as the directory that it leads to: `..` takes back the last name (`destination`).
`Script.cd` and `Script.pwd` go by that path unless `-P` asks for the one without links.
-/

namespace PipeShell.Script

open Calling (call)

/-! ## Paths -/

/-- The path that a script gets to from a directory, in which `..` takes back the name before it.
Two slashes at the start are kept. -/
def destination (directory path : Bytes) : Bytes :=
  let absolute := path.head? == some FileSystem.slash
  let slashes := (if absolute then path else directory).takeWhile (· == FileSystem.slash)
  let root := if slashes.length == 2 then slashes else [FileSystem.slash]
  let names := (if absolute then [] else FileSystem.components directory) ++
    FileSystem.components path
  let kept := names.foldl (fun kept name =>
    if name == FileSystem.dotDot then kept.tail else if name == FileSystem.dot then kept
    else name :: kept) []
  root ++ Text.joinWith [FileSystem.slash] kept.reverse

/-- The path of the working directory without symbolic links; empty if it has none. -/
def physicalPath : Script Bytes := do
  match ← call .currentDirectory with
  | .ok path => return path
  | .error e =>
    complain (text ("getcwd() failed: " ++ e.systemText))
    return []

/-- Whether options ask for paths without symbolic links, and the other words. -/
def pathOptions (words : List Bytes) : Script (Bool × List Bytes) := do
  let (found, words) ← letters "LP" words
  return ((found.getLast?.map (·.1)) == some 0x50, words)

/-- Notes the path of the working directory; nothing stands for the one without links. -/
def noteDirectory (path : Option Bytes) (keepsOld : Bool) : Script Unit := do
  if keepsOld then assign (text "OLDPWD") (some (← get).directory) true
  let path ← match path with
    | some path => pure path
    | none => physicalPath
  modify fun s => { s with directory := path }
  assign (text "PWD") (some path) true

/-- Writes the path of the working directory. -/
def pwd (words : List Bytes) : Script Nat := do
  let (physical, _) ← pathOptions words
  let path ← if physical then physicalPath else pure (← get).directory
  say (path ++ [0x0A])
  return 0

/-! ## Going elsewhere -/

/-- Goes to a directory; tells whether that succeeded. -/
def enter (physical : Bool) (target : Bytes) : Script Bool := do
  let directory := (← get).directory
  let absolute := target.head? == some FileSystem.slash
  let path := if physical || (!absolute && directory.isEmpty) then none
    else some (destination directory target)
  match ← call (.changeDirectory (path.getD target)) with
  | .error _ => return false
  | .ok () =>
    noteDirectory path true
    modify fun s => { s with found := s.found.map fun f => { f with stale := true } }
    return true

/-- Whether a path is one that is not searched for: it starts with a slash or with dots. -/
def isPlaced (path : Bytes) : Bool :=
  let rest := match path with
    | 0x2E :: 0x2E :: rest | 0x2E :: rest => rest
    | _ => [0]
  path.head? == some FileSystem.slash || rest.isEmpty || rest.head? == some FileSystem.slash

/-- The first of some directories in which there is a directory of a name. -/
def searchDirectories (name : Bytes) : List Bytes → Script (Option (Bytes × Bool))
  | [] => return none
  | directory :: directories => do
    let path := pathIn directory name
    match ← call (.status path) with
    | .ok status =>
      if status.kind == .directory then return some (path, !directory.isEmpty)
      searchDirectories name directories
    | .error _ => searchDirectories name directories

/-- Goes to a directory. -/
def cd (words : List Bytes) : Script Nat := do
  let (physical, words) ← pathOptions words
  let back := words.head? == some [0x2D]
  let target ← match words with
    | [] => pure ((← valueNamed? "HOME").getD [])
    | word :: _ => if back then pure ((← valueNamed? "OLDPWD").getD []) else pure word
  let place ← if isPlaced target then pure none
    else match ← valueNamed? "CDPATH" with
      | none => pure none
      | some directories =>
        searchDirectories (if target.isEmpty then FileSystem.dot else target)
          (Text.splitOn 0x3A directories)
  let (path, shown) := place.getD (if target.isEmpty then FileSystem.dot else target, false)
  if !(← enter physical path) then fail (text "can't cd to " ++ target)
  if back || shown then say ((← get).directory ++ [0x0A])
  return 0

/-! ## The mask -/

/-- The letters of three permission bits. -/
def permissionLetters (bits : Nat) : Bytes :=
  (if bits &&& 4 != 0 then [0x72] else []) ++ (if bits &&& 2 != 0 then [0x77] else []) ++
    (if bits &&& 1 != 0 then [0x78] else [])

/-- The bits that a letter of a symbolic mask gives to each of the users; `bits` are those that are
granted now. -/
def grantOf? (bits : Nat) (letter : UInt8) : Option Nat :=
  match letter with
  | 0x72 => some 4
  | 0x77 => some 2
  | 0x78 => some 1
  | 0x75 => some (bits >>> 6)
  | 0x67 => some (bits >>> 3)
  | 0x6F => some bits
  | 0x58 => some (if bits &&& 0o111 != 0 then 1 else 0)
  | 0x73 => some 0
  | _ => none

/-- The users that a letter of a symbolic mask names, as the bits that are theirs. -/
def usersOf? (letter : UInt8) : Option Nat :=
  match letter with
  | 0x61 => some 0o111
  | 0x75 => some 0o100
  | 0x67 => some 0o010
  | 0x6F => some 0o001
  | _ => none

/-- The permissions after a symbolic change of those that are granted now (`bits`); `users` are the
users that the change is about, where they are not named again. -/
def changedMask? (bits : Nat) : Nat → (users granted : Nat) → Bytes → Option Nat
  | 0, _, _, _ => none
  | _, _, granted, [] => some granted
  | fuel + 1, users, granted, change =>
    let named := change.takeWhile fun b => (usersOf? b).isSome
    let users := (named.filterMap usersOf?).foldl (· ||| ·) users
    let users := if users == 0 then 0o111 else users
    match change.drop named.length with
    | operator :: rest =>
      if operator != 0x3D && operator != 0x2B && operator != 0x2D then none
      else
        let letters := rest.takeWhile fun b => (grantOf? bits b).isSome
        let grant := (letters.filterMap (grantOf? bits)).foldl (· ||| ·) 0
        let grant := (grant &&& 7) * users
        let granted :=
          if operator == 0x2B then granted ||| grant
          else if operator == 0x2D then granted &&& (0o777 ^^^ (grant &&& 0o777))
          else grant ||| (granted &&& (0o777 ^^^ ((users * 7) &&& 0o777)))
        match rest.drop letters.length with
        | 0x2C :: rest => changedMask? bits fuel 0 granted rest
        | [] => some granted
        | b :: rest =>
          if b == 0x3D || b == 0x2B || b == 0x2D then
            changedMask? bits fuel users granted (b :: rest)
          else none
    | [] => none

/-- Writes or sets the bits that new files do not get. -/
def umask (words : List Bytes) : Script Nat := do
  let (found, words) ← letters "S" words
  let mask ← call (.umask none)
  let digit (n : Nat) : UInt8 := UInt8.ofNat (0x30 + n % 8)
  match words with
  | [] =>
    if found.isEmpty then say [0x30, digit (mask / 64), digit (mask / 8), digit mask, 0x0A]
    else
      let granted := 0o777 ^^^ mask
      say (text "u=" ++ permissionLetters (granted >>> 6) ++ text ",g=" ++
        permissionLetters (granted >>> 3) ++ text ",o=" ++ permissionLetters granted ++ [0x0A])
    return 0
  | word :: _ =>
    if word.head?.any Reading.isDigit then
      if !word.all fun b => 0x30 ≤ b && b < 0x38 then badNumber word
      let n := word.foldl (fun n b => 8 * n + (b.toNat - 0x30)) 0
      let _ ← call (.umask (some (n &&& 0o777)))
      return 0
    match changedMask? (0o777 ^^^ mask) (word.length + 1) 0 (0o777 ^^^ mask) word with
    | none => fail (text "Illegal mode: " ++ word)
    | some granted =>
      let _ ← call (.umask (some (0o777 ^^^ (granted &&& 0o777))))
      return 0

end PipeShell.Script
