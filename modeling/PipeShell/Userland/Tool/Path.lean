import PipeShell.Userland.Tool.Printing

/-!
# Paths

`basename` and `dirname` take paths apart, `readlink` and `realpath` tell where they lead, and `pwd`
tells where the process is. `canonical` is the path to a file without symbolic links in it.
-/

namespace PipeShell.Tool

open Calling (call)
open Printing

/-! ## Taking paths apart -/

/-- A path without slashes at its end, up to the one that it may start with. -/
def withoutSlashes (path : Bytes) : Bytes :=
  let stripped := (path.reverse.dropWhile (· == FileSystem.slash)).reverse
  if stripped.isEmpty then path.take 1 else stripped

/-- The last name in a path, or a slash for the root. -/
def baseName (path : Bytes) : Bytes :=
  let stripped := withoutSlashes path
  if stripped == [FileSystem.slash] then stripped
  else ((Text.splitOn FileSystem.slash stripped).getLast?).getD []

/-- What comes before the last name in a path. -/
def dirName (path : Bytes) : Bytes :=
  let before := (withoutSlashes path).reverse.dropWhile (· != FileSystem.slash)
  let dir := (before.dropWhile (· == FileSystem.slash)).reverse
  if !dir.isEmpty then dir
  else if path.head? == some FileSystem.slash then [FileSystem.slash] else FileSystem.dot

/-- A name without an ending, which is not all of it. -/
def withoutEnding (ending name : Bytes) : Bytes :=
  if ending.length < name.length && ending.isSuffixOf name then
    name.take (name.length - ending.length)
  else name

variable (self : Bytes)

/-- Writes the last names of paths. -/
def basename (args : List Bytes) : Program Nat :=
  withChecked self
    [flag "a" "multiple", taking "s" "suffix", flag "z" "zero"]
    true 1 (fun _ _ => none) args fun a =>
  let several := a.has "a" || a.has "s"
  let ending : Bytes := if a.has "z" then [0] else [0x0A]
  let shown (suffix path : Bytes) : Bytes :=
    let name := baseName path
    (if name == [FileSystem.slash] then name else withoutEnding suffix name) ++ ending
  match a.operands with
  | [] => missingOperand self
  | path :: more =>
    if several then
      Program.finish self (a.operands.flatMap (shown ((a.word? "s").getD []))) 0 1
    else match more with
      | [] => Program.finish self (shown [] path) 0 1
      | [suffix] => Program.finish self (shown suffix path) 0 1
      | _ :: extra :: _ => extraOperand self 1 extra

/-- Writes what comes before the last names of paths. -/
def dirname (args : List Bytes) : Program Nat :=
  withChecked self [flag "z" "zero"] true 1 (fun _ _ => none) args fun a =>
  if a.operands.isEmpty then missingOperand self
  else
    let ending : Bytes := if a.has "z" then [0] else [0x0A]
    Program.finish self (a.operands.flatMap fun path => dirName path ++ ending) 0 1

/-! ## Where paths lead -/

/-- How much of a path has to be there. -/
inductive Existence
  | all
  | allButLast
  | nothing
deriving DecidableEq, Repr

/-- The path of names from the root, the last name coming first. -/
def pathBack (names : List Bytes) : Bytes :=
  if names.isEmpty then [FileSystem.slash] else names.reverse.flatMap (FileSystem.slash :: ·)

/-- Whether the names after one, between which there are slashes, make sense only for a directory:
there are none but a slash, or they lead back to it. -/
def needsDirectory (slashed : Bool) : List Bytes → Bool
  | [] => slashed
  | name :: rest =>
    if name == FileSystem.dotDot then true
    else if name == FileSystem.dot then rest.isEmpty || needsDirectory slashed rest
    else false

/-- The path that names lead to from a directory without symbolic links in it; `links` bounds the
number of links that are followed and `fuel` that of the names. -/
def canonicalFrom (existence : Existence) (physical : Bool) :
    Nat → (links : Nat) → (done rest : List Bytes) → (slashed : Bool) → Program (Except Errno Bytes)
  | 0, _, _, _, _ => return .error .tooManyLinks
  | _, _, done, [], _ => return .ok (pathBack done)
  | fuel + 1, links, done, name :: rest, slashed => do
    if name == FileSystem.dot then canonicalFrom existence physical fuel links done rest slashed
    else if name == FileSystem.dotDot then
      canonicalFrom existence physical fuel links done.tail rest slashed
    else
      let next := name :: done
      let path := pathBack next
      let link : Except Errno Bytes ← if physical then call (.linkTarget path)
        else pure (.error .invalid)
      match link with
      | .ok target =>
        match links with
        | 0 => return .error .tooManyLinks
        | links + 1 =>
          let start := if target.head? == some FileSystem.slash then [] else done
          canonicalFrom existence physical fuel links start (FileSystem.components target ++ rest)
            (slashed || (rest.isEmpty && FileSystem.endsInSlash target))
      | .error e =>
        let e ← if needsDirectory slashed rest then
            match ← call (.status (path ++ [FileSystem.slash])) with
            | .ok _ => pure none
            | .error e => pure (some e)
          else if physical then pure (if e = .invalid then none else some e)
          else match ← call (.status path) with
            | .ok _ => pure none
            | .error e => pure (some e)
        match e with
        | none => canonicalFrom existence physical fuel links next rest slashed
        | some e =>
          if existence = .nothing || (existence = .allButLast && e = .noEntry && rest.isEmpty) then
            canonicalFrom existence physical fuel links next rest slashed
          else return .error e

/-- The path to a file without symbolic links in it. -/
def canonical (existence : Existence) (physical : Bool) (path : Bytes) :
    Program (Except Errno Bytes) := do
  if path.isEmpty then return .error .noEntry
  let start ← if path.head? == some FileSystem.slash then pure (.ok [])
    else (·.map fun cwd => (FileSystem.components cwd).reverse) <$> call .currentDirectory
  match start with
  | .error e => return .error e
  | .ok start =>
    canonicalFrom existence physical Calling.patience FileSystem.linkLimit start
      (FileSystem.components path) (FileSystem.endsInSlash path)

/-- What options say about the existence of files. -/
def existenceOf (a : Arguments) (keys : List (String × Existence)) : Option Existence :=
  (a.last? (keys.map (·.1))).bind fun o => keys.lookup o.1

/-- Writes what symbolic links hold, or where paths lead. What has no answer is passed over. -/
def readlink (args : List Bytes) : Program Nat :=
  withArguments self
    [flag "f" "canonicalize", flag "e" "canonicalize-existing", flag "m" "canonicalize-missing",
      flag "n" "no-newline", flag "q" "quiet", flag "q" "silent", flag "s" "", flag "v" "verbose",
      flag "z" "zero"] 1 args fun a => do
  if a.operands.isEmpty then return ← missingOperand self
  let several := 1 < a.operands.length
  let mode := existenceOf a [("f", .allButLast), ("e", .all), ("m", .nothing)]
  let verbose := ((a.last? ["q", "s", "v"]).map (·.1)) == some "v"
  let ending : Bytes := if a.has "n" && !several then [] else if a.has "z" then [0] else [0x0A]
  Printing.toProgram self 1 do
    if a.has "n" && several then
      complain (self ++ text ": ignoring --no-newline with multiple arguments")
    let mut code := 0
    for name in a.operands do
      let found ← match mode with
        | some mode => lift (canonical mode true name)
        | none => call (.linkTarget name)
      match found with
      | .ok path => print (path ++ ending)
      | .error e =>
        code := 1
        if verbose then complain (complaint self (Shown.plain name) e)
    return code

/-- A path as it is seen from a directory; both are lists of names from the root. -/
def relativePath : List Bytes → List Bytes → Bytes
  | a :: as, b :: bs =>
    if a == b then relativePath as bs
    else Text.joinWith [FileSystem.slash] ((b :: bs).map (fun _ => FileSystem.dotDot) ++ a :: as)
  | as, bs =>
    let names := bs.map (fun _ => FileSystem.dotDot) ++ as
    if names.isEmpty then FileSystem.dot else Text.joinWith [FileSystem.slash] names

/-- Writes the paths to files without symbolic links in them. -/
def realpath (args : List Bytes) : Program Nat :=
  withArguments self
    [flag "e" "canonicalize-existing", flag "m" "canonicalize-missing", flag "L" "logical",
      flag "P" "physical", flag "q" "quiet", flag "s" "strip", flag "s" "no-symlinks",
      flag "z" "zero", taking "" "relative-to", taking "" "relative-base"] 1 args fun a => do
  if a.operands.isEmpty then return ← missingOperand self
  let mode := (existenceOf a [("e", .all), ("m", .nothing)]).getD .allButLast
  let physical := ((a.last? ["s", "L", "P"]).map (·.1)) != some "s"
  let ending : Bytes := if a.has "z" then [0] else [0x0A]
  Printing.toProgram self 1 do
    let resolve (name : Bytes) : Printing (Option Bytes) := do
      match ← lift (canonical mode physical name) with
      | .ok path => return some path
      | .error e =>
        if !a.has "q" then complain (complaint self (Shown.plain name) e)
        return none
    let base? (key : String) : Printing (Option (List Bytes)) := do
      match a.word? key with
      | none => return none
      | some name =>
        match ← resolve name with
        | some path => return some (FileSystem.components path)
        | none => quit 1
    let seat ← base? "relative-to"
    let base ← base? "relative-base"
    let mut code := 0
    for name in a.operands do
      match ← resolve name with
      | none => code := 1
      | some path =>
        let names := FileSystem.components path
        let origin := seat.or base
        let inside := match base with
          | some base => base.isPrefixOf names && base.isPrefixOf (seat.getD base)
          | none => true
        print ((match origin with
          | some origin => if inside then relativePath names origin else path
          | none => path) ++ ending)
    return code

/-! ## pwd -/

/-- Whether a path can be the name of the working directory: it starts at the root and has no dots
in it. -/
def isLogical (path : Bytes) : Bool :=
  path.head? == some FileSystem.slash && !(FileSystem.components path).any FileSystem.isDots

/-- Writes the working directory. -/
def pwd (args : List Bytes) : Program Nat :=
  withArguments self [flag "L" "logical", flag "P" "physical"] 1 args fun a => do
  if !a.operands.isEmpty then
    Program.warn (self ++ text ": ignoring non-option arguments")
  let named ← if ((a.last? ["L", "P"]).map (·.1)) != some "L" then pure none
    else match (← call .environment).get? (text "PWD") with
      | none => pure none
      | some path =>
        if !isLogical path then pure none
        else match ← call (.status path), ← call (.status FileSystem.dot) with
          | .ok there, .ok here => pure (if there.object == here.object then some path else none)
          | _, _ => pure none
  match named, ← call .currentDirectory with
  | some path, _ => Program.finish self (path ++ [0x0A]) 0 1
  | none, .ok path => Program.finish self (path ++ [0x0A]) 0 1
  | none, .error _ =>
    refuse self 1 (text "couldn't find directory entry in '..' with matching i-node")

end PipeShell.Tool
