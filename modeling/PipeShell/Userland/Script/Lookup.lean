import PipeShell.Userland.Script.Builtin.Table
import PipeShell.Userland.Script.Expansion

/-!
# Finding commands

The name of a command stands for a function, a command of the interpreter or a program
(`Meaning`). Programs are searched for along `PATH`, and where they were found is remembered
(`Script.program`). `Script.become` starts a program in place of the process.
-/

namespace PipeShell.Script

open Calling (call)

/-- What a name stands for. -/
inductive Meaning
  | function (body : Command)
  | builtin (b : Builtin)
  /-- A program that stands in one of the directories that are searched; the name is a path if no
  position is given. -/
  | program (position : Option Nat)
  | unknown

/-- The directories that are searched by default. -/
def standardPath : Bytes := text "/usr/local/sbin:/usr/local/bin:/usr/sbin:/usr/bin:/sbin:/bin"

/-- The directories that are searched. -/
def searchPath : Script Bytes := do return (← valueNamed? "PATH").getD []

/-- The path of a name in a directory. -/
def pathIn (directory name : Bytes) : Bytes :=
  if directory.isEmpty then name else directory ++ FileSystem.slash :: name

/-- The function or the command of the interpreter that a name stands for. -/
def Session.own? (s : Session) (functions : Bool) (name : Bytes) : Option Meaning :=
  match if functions then s.functions.lookup name else none with
  | some body => some (.function body)
  | none => (Builtin.find? name).map .builtin

/-! ## Programs -/

/-- Searches directories for a file, the first of them being at a position. Those before `known`
were searched before, and it was found there unless its directory is relative. -/
def searchFrom (name : Bytes) (known : Option Nat) :
    List Bytes → (position : Nat) → (reason : Errno) → Script (Except Errno Nat)
  | [], _, reason => return .error reason
  | directory :: directories, position, reason => do
    let path := pathIn directory name
    let next (reason : Errno) : Script (Except Errno Nat) :=
      searchFrom name known directories (position + 1) reason
    let skipped := path.head? == some FileSystem.slash && known.any (position ≤ ·)
    if skipped then
      if known == some position then return .ok position
      next reason
    else match ← call (.status path) with
      | .error e => next (if e = .noEntry || e = .notDirectory then reason else e)
      | .ok status => if status.kind == .regular then return .ok position else next .accessDenied

/-- Notes where a program was found. -/
def remember (name : Bytes) (position : Nat) : Script Unit :=
  modify fun s =>
    if s.found.any (·.name == name) then
      { s with found := s.found.map fun f => if f.name == name then ⟨name, position, false⟩ else f }
    else { s with found := s.found ++ [⟨name, position, false⟩] }

/-- Finds the program of a name along `PATH` or along another list of directories. -/
def program (name : Bytes) (directories : Option Bytes) : Script (Except Errno (Option Nat)) := do
  if name.contains FileSystem.slash then return .ok none
  match directories with
  | some directories =>
    return (← searchFrom name none (Text.splitOn 0x3A directories) 0 .noEntry).map some
  | none =>
    let known := (← get).found.find? (·.name == name)
    match known with
    | some ⟨_, position, false⟩ => return .ok (some position)
    | known =>
      let directories := Text.splitOn 0x3A (← searchPath)
      match ← searchFrom name (known.map (·.position)) directories 0 .noEntry with
      | .ok position =>
        remember name position
        return .ok (some position)
      | .error e =>
        modify fun s => { s with found := s.found.filter (·.name != name) }
        return .error e

/-- Finds the program of a name, and complains if there is none. -/
def programOrComplain (name : Bytes) (directories : Option Bytes) : Script Meaning := do
  match ← program name directories with
  | .ok position => return .program position
  | .error e =>
    complain (name ++ text ": " ++ fileFault "not found" e)
    return .unknown

/-- What a name stands for. -/
def meaningOf (functions : Bool) (name : Bytes) (directories : Option Bytes) : Script Meaning := do
  match (← get).own? functions name with
  | some meaning => return meaning
  | none => programOrComplain name directories

/-! ## Starting programs -/

/-- Tries to start a program from directories; the result is the reason why that failed. -/
def tryDirectories (words : List Bytes) : List Bytes → (reason : Errno) → Script Errno
  | [], reason => return reason
  | directory :: directories, reason => do
    let path := pathIn directory (words.headD [])
    let e ← (Program.execFile path words : Program _)
    tryDirectories words directories (if e = .noEntry || e = .notDirectory then reason else e)

/-- Starts the program that words name in place of the process; leaves if that fails. -/
def become {α : Type} (words : List Bytes) (directories : Option Bytes) (position : Option Nat) :
    Script α := do
  call (.setEnvironment (← get).bindings.environment)
  let name := words.headD []
  let e ← if name.contains FileSystem.slash then (Program.execFile name words : Program _)
    else do
      let directories := Text.splitOn 0x3A (directories.getD (← searchPath))
      tryDirectories words (directories.drop (position.getD 0)) .noEntry
  let missing := [Errno.noEntry, .notDirectory, .tooManyLinks, .nameTooLong].contains e
  complain (name ++ text ": " ++ fileFault "not found" e)
  flush
  modify fun s => { s with status := if missing then 127 else 126 }
  throw .finished

/-! ## Describing -/

/-- Says what a name stands for, in words if `verbose`; the status tells whether it stands for
anything. -/
def describe (verbose : Bool) (directories : Option Bytes) (name : Bytes) : Script Nat := do
  let s ← get
  let answer (words brief : Bytes) : Script Nat := do
    say ((if verbose then name ++ words else brief) ++ [0x0A])
    return 0
  if Token.keywords.any fun k => text k == name then answer (text " is a shell keyword") name
  else if let some value := s.aliases.lookup name then
    answer (text " is an alias for " ++ value)
      (text "alias " ++ name ++ 0x3D :: Variables.quotedValue value)
  else
    let tracked := directories.isNone && s.found.any (·.name == name)
    match s.own? directories.isNone name with
    | some (.builtin b) =>
      answer (text (if b.special then " is a special shell builtin" else " is a shell builtin"))
        name
    | some _ => answer (text " is a shell function") name
    | none =>
      let missing : Script Nat := do
        if verbose then say (name ++ text ": not found\n")
        return 127
      let isPath := name.contains FileSystem.slash
      let there ← if isPath then call (.status name) else pure (.error .noEntry)
      match isPath, there with
      | true, .error _ => missing
      | _, _ =>
        match ← program name directories with
        | .error _ => missing
        | .ok none => answer (text " is " ++ name) name
        | .ok (some position) =>
          let all := Text.splitOn 0x3A (directories.getD (← searchPath))
          let path := pathIn (all.getD position []) name
          answer (text (if tracked then " is a tracked alias for " else " is ") ++ path) path

/-! ## The table of programs -/

/-- The number of places in the table of programs. -/
def programTableSize : Nat := 31

/-- The programs that were found, with the paths at which they are. -/
def listFound : Script Unit := do
  let all := Text.splitOn 0x3A (← searchPath)
  let found := (← get).found
  for place in List.range programTableSize do
    for f in found.filter fun f => Variables.placeIn programTableSize f.name == place do
      say (pathIn (all.getD f.position []) f.name ++ (if f.stale then [0x2A] else []) ++ [0x0A])

end PipeShell.Script
