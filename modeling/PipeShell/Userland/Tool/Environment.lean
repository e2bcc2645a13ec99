import PipeShell.Userland.Tool.Printing

/-!
# Environments

`env` starts a program with other variables, or writes the variables; `printenv` writes the values
of some of them. `startProgram` is what tools have in common that become another program.
-/

namespace PipeShell.Tool

open Calling (call)
open Printing

variable (self : Bytes)

/-- Becomes a program; gives the exit code if that is refused. -/
def startProgram (subject : Bytes → Bytes) (words : List Bytes) : Program Nat := do
  let e ← Program.exec words
  refuse self (if e = .noEntry then 127 else 126)
    (subject (words.headD []) ++ text (": " ++ e.systemText))

/-- A variable setting among the words of `env`. -/
def setting? (word : Bytes) : Option (Bytes × Bytes) :=
  let name := word.takeWhile (· != 0x3D)
  if name.length < word.length then some (name, word.drop (name.length + 1)) else none

/-- Writes variables with their values. -/
def writeVariables (ending : UInt8) : Program Nat := do
  let environment ← call .environment
  Program.finish self (environment.flatMap fun v => Environment.entry v ++ [ending]) 0 125

/-- The options of `env`. -/
def envOptions : List Known :=
  [flag "i" "ignore-environment", flag "0" "null", taking "u" "unset", taking "C" "chdir",
   flag "v" "debug"]

/-- What is wrong with an option of `env`. -/
def envFault (key : String) (word : Bytes) : Option (Bytes × Bool) :=
  if key == "u" && (word.isEmpty || word.contains 0x3D) then
    some (text "cannot unset " ++ Shown.marked word ++ text ": Invalid argument", false)
  else none

/-- Writes the environment, or starts a program with some variables set; with `-i` all others are
left out. -/
def env (args : List Bytes) : Program Nat :=
  withChecked self envOptions true 125 envFault args fun a => do
  let lone := a.operands.head? == some dash
  let words := if lone then a.operands.tail else a.operands
  let settings := (words.takeWhile fun w => (setting? w).isSome).filterMap setting?
  let inherited ← call .environment
  let kept := if lone || a.has "i" then [] else
    (a.words "u").foldl (fun (env : Environment) name => env.unset name) inherited
  call (.setEnvironment (settings.foldl (fun env (name, value) => Environment.set env name value)
    kept))
  match words.drop settings.length, a.word? "C" with
  | [], some _ => misuse self 125 (text "must specify command with --chdir (-C)")
  | [], none => writeVariables self (if a.has "0" then 0 else 0x0A)
  | program, dir =>
    if a.has "0" then misuse self 125 (text "cannot specify --null (-0) with command")
    else
      let entered ← match dir with
        | none => pure (.ok ())
        | some dir => pure ((← call (.changeDirectory dir)).mapError fun e =>
            text "cannot change directory to " ++ Shown.quoted dir ++ text (": " ++ e.systemText))
      match entered with
      | .error fault => refuse self 125 fault
      | .ok () => startProgram self Shown.marked program

/-- Writes the values of variables, or all variables. -/
def printenv (args : List Bytes) : Program Nat :=
  withChecked self [flag "0" "null", flag "i" "", taking "u" ""] true 2 (fun _ _ => none) args
    fun a => do
  let ending : UInt8 := if a.has "0" then 0 else 0x0A
  if a.operands.isEmpty then return ← writeVariables self ending
  let environment ← call .environment
  let values := a.operands.filterMap fun name =>
    if name.contains 0x3D then none else environment.get? name
  Program.finish self (values.flatMap (· ++ [ending]))
    (if values.length == a.operands.length then 0 else 1) 2

/-- Starts a program that goes on when its terminal is gone. -/
def nohup (args : List Bytes) : Program Nat :=
  withChecked self [] true 125 (fun _ _ => none) args fun a => do
  if a.operands.isEmpty then return ← misuse self 125 (text "missing operand")
  call (.setDisposition 1 .ignored)
  startProgram self (text "failed to run command " ++ Shown.marked ·) a.operands

/-- Starts a program that leaves others more time, or writes how much it leaves them. -/
def nice (args : List Bytes) : Program Nat :=
  withChecked self [taking "n" "adjustment"] true 125 (fun _ _ => none) args fun a =>
  match a.operands, (a.word? "n").map Format.intOf? with
  | _, some none =>
    refuse self 125 (text "invalid adjustment " ++ Shown.marked ((a.word? "n").getD []))
  | [], some _ => misuse self 125 (text "a command must be given with an adjustment")
  | [], none => Program.finish self (text "0\n") 0 125
  | program, _ => startProgram self Shown.marked program

end PipeShell.Tool
