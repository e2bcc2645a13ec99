import PipeShell.Userland.Script.Evaluation

/-!
# The script interpreter

`Script.sh` is the program that runs scripts: those that it is given as a word, as a file, or on its
standard input.
-/

namespace PipeShell.Script

open Calling (call)

/-! ## Variables -/

/-- The variables that every script has, with their values if they have any. -/
def ownVariables : Variables :=
  [("OPTIND", some "1"), ("PS4", some "+ "), ("PS2", some "> "), ("PS1", some "# "),
   ("PATH", some "/usr/local/sbin:/usr/local/bin:/usr/sbin:/usr/bin:/sbin:/bin"),
   ("MAILPATH", none), ("MAIL", none), ("IFS", some " \t\n")].map
    fun (name, value) => ⟨text name, value.map text, false, false, true⟩

/-- Variables that have the same value at the start of every script. -/
def resetVariables : List (String × String) := [("IFS", " \t\n"), ("OPTIND", "1")]

/-- The variables that a script starts with. Of the environment those count that have proper
names. -/
def initialVariables (env : Environment) (parent : Nat) : Variables :=
  let seen := (env.filter fun v => isName v.1).foldl (fun vs (name, value) =>
    Variables.assign true name (some value) vs) ownVariables
  let reset := resetVariables.foldl (fun vs (name, value) =>
    Variables.assign false (text name) (some (text value)) vs) seen
  Variables.assign false (text "PPID") (some (Bytes.ofNat parent)) reset

/-- Finds out the path of the working directory: that of the environment if it leads there. -/
def findDirectory : Script Unit := do
  let known ← match ← valueNamed? "PWD" with
    | none => pure none
    | some path =>
      if path.head? != some FileSystem.slash then pure none
      else match ← call (.status path), ← call (.status FileSystem.dot) with
        | .ok there, .ok here => pure (if there.object == here.object then some path else none)
        | _, _ => pure none
  noteDirectory known false

/-- What the interpreter remembers at the start. -/
def initialSession (name : Bytes) (process : Nat) (bindings : Variables) : Session where
  name
  speaker := none
  line := 0
  readLine := 0
  status := 0
  lastStatus := none
  outputStatus := 0
  options := []
  arguments := []
  optionIndex := 1
  optionOffset := none
  bindings
  covered := []
  functions := []
  aliases := []
  traps := []
  known := []
  pending := []
  skip := .nothing
  skipCount := 0
  loops := 0
  directory := []
  process
  lastBackground := none
  jobs := []
  inner := false
  saved := []
  found := []
  scripts := []
  marking := false
  out := []
  outFailed := false

/-! ## Starting -/

/-- How deep commands may be inside of each other. -/
def greatestDepth : Nat := 20000

/-- Runs the script that the words of the interpreter name. -/
def runWords (e : Evaluator) (words : List Bytes) : Script Unit := do
  findDirectory
  let found ← takeOptions true (words.length + 1) false words
  let setName (name : Bytes) : Script Unit := modify fun s => { s with name }
  match found.command, found.rest with
  | true, [] => fail (text "-c requires an argument")
  | true, command :: rest =>
    if let name :: arguments := rest then
      setName name
      setArguments arguments
    flush
    let keepsReading := (← get).isOn 0x73
    let _ ← evaluateText e ⟨!keepsReading, false⟩ command
    if keepsReading then
      let _ ← evaluateFile e Fd.stdin true
  | false, rest =>
    let fromInput := rest.isEmpty || (← get).isOn 0x73
    if fromInput then
      modify fun s => s.turn true 0x73
      setArguments rest
      flush
      let _ ← evaluateFile e Fd.stdin true
    else
      let path := rest.headD []
      let fd ← openScript path
      setName path
      setArguments rest.tail
      flush
      let _ ← evaluateFile e fd true

/-- Runs a script given as a word, as a file or on standard input. -/
def sh (argv : List Bytes) : Program Nat := do
  let environment ← call .environment
  let bindings := initialVariables environment (← call .parentId)
  let session := initialSession (argv.headD (text "sh")) (← call .processId) bindings
  let e := evaluator greatestDepth
  let whole : Script Nat := do endProcess e (← attempt (runWords e argv.tail))
  match ← whole.run.run session with
  | (.ok code, _) => return code
  | (.error _, s) => return s.status

end PipeShell.Script
