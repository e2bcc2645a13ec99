import PipeShell.Userland.Script.Builtin.Options
import PipeShell.Userland.Script.Process

/-!
# Signals and jobs

The commands that send signals, say what is done about them, and look after jobs: `Script.kill`,
`Script.trap`, `Script.wait` and `Script.jobs`.
-/

namespace PipeShell.Script

/-! ## Traps -/

/-- The number that a word of digits only writes, if it is that of a signal. -/
def isSignalNumber (word : Bytes) : Bool :=
  !word.isEmpty && word.all Reading.isDigit && (signalOf? word 0).isSome

/-- Sets what is done about signals. -/
def trapAll (action : Option Bytes) : List Bytes → Script Nat
  | [] => return 0
  | word :: words => do
    match signalOf? word 0 with
    | none =>
      Program.warn (text "trap: " ++ word ++ text ": bad trap")
      return 1
    | some signal =>
      setTrap signal action
      trapAll action words

/-- Sets or writes what is done about signals. -/
def trap (words : List Bytes) : Script Nat := do
  let words ← operands words
  match words with
  | [] =>
    let traps := (← get).traps
    for signal in List.range signalCount do
      if let some action := traps.lookup signal then
        say (text "trap -- " ++ Variables.quotedValue action ++
          text (" " ++ signalName signal ++ "\n"))
    return 0
  | [word] => trapAll none [word]
  | action :: rest =>
    if isSignalNumber action then trapAll none words
    else trapAll (if action == [0x2D] then none else some action) rest

/-! ## Jobs -/

/-- Leaves because a word names no job. -/
def noJob {α : Type} (word : Option Bytes) : Script α :=
  fail (match word with
    | some word => text "No such job: " ++ word
    | none => text "No current job")

/-- The job that a word with a percent sign names, or the last one. -/
def jobOf (word : Option Bytes) : Script Job := do
  let jobs := (← get).jobs
  let need (j : Option Job) (message : Bytes) : Script Job :=
    match j with
    | some j => return j
    | none => fail message
  match word with
  | none | some [0x25] | some [0x25, 0x25] | some [0x25, 0x2B] =>
    need jobs.head? (text "No current job")
  | some [0x25, 0x2D] => need jobs.tail.head? (text "No previous job")
  | some (0x25 :: name) =>
    let number := if name.all Reading.isDigit then decimalOf? name else none
    need (jobs.find? fun j => number == some (j.number : Int)) (text "No such job: %" ++ name)
  | some word => noJob (some word)

/-- How a job stands. -/
def Job.state (j : Job) : String :=
  if !j.isDone then "Running"
  else match j.ended? with
    | some (.signaled signal) => signalText signal
    | some (.exited 0) | none => "Done"
    | some (.exited code) => "Done(" ++ toString code ++ ")"

/-- Writes a job and forgets it if it is done. -/
def showJob (numbers processes : Bool) (j : Job) : Script Unit := do
  let jobs := (← get).jobs
  let first := (j.processes.head?.map fun p => Bytes.ofNat (Pid.number p.1)).getD []
  if processes then say (first ++ [0x0A])
  else
    let place := jobs.findIdx? fun k => k.number == j.number
    let sign := if place == some 0 then "+" else if place == some 1 then "-" else " "
    let head := text ("[" ++ toString j.number ++ "] " ++ sign ++ " ") ++
      (if numbers then first ++ [0x20] else []) ++ text j.state
    say (head ++ List.replicate (max (33 - head.length) 1) 0x20)
    if numbers then
      for p in j.processes.tail do
        let line := text "      " ++ Bytes.ofNat (Pid.number p.1) ++ [0x20]
        say (text " |\n" ++ line ++ List.replicate (max (33 - line.length) 1) 0x20)
    else
      for _ in j.processes.tail do say (text " | ")
    say [0x0A]
  if j.isDone then dropJob j

/-- Writes jobs. -/
def jobs (words : List Bytes) : Script Nat := do
  let (found, words) ← letters "lp" words
  let last := found.getLast?.map (·.1)
  let showIt := showJob (last == some 0x6C) (last == some 0x70)
  pollJobs
  if words.isEmpty then
    for j in (← get).jobs do showIt j
  else
    for word in words do showIt (← jobOf (some word))
  return 0

/-- Would bring a job to the foreground or set it going, which needs a terminal. -/
def resumeJob (words : List Bytes) : Script Nat := do
  let words ← operands words
  let _ ← jobOf words.head?
  fail (text "job " ++ words.head?.getD (text "(null)") ++ text " not created under job control")

/-! ## Waiting -/

/-- Waits for the processes of a job that run; the result is the number of a signal that came
meanwhile. -/
def awaitJob (reports : Bool) : Nat → Job → Script (Option Nat)
  | 0, _ => return none
  | fuel + 1, j => do
    match j.processes.find? fun p => p.2.isNone with
    | none =>
      updateJob { j with waited := true }
      return none
    | some (process, _) =>
      match ← (Program.wait process : Program _) with
      | .ended status =>
        noteEnd
        if reports then report status
        awaitJob reports fuel { j with
          processes := j.processes.map fun p => if p.1 == process then (p.1, some status) else p }
      | .failed _ =>
        awaitJob reports fuel { j with
          processes := j.processes.map fun p =>
            if p.1 == process then (p.1, some (.exited 127)) else p }
      | .changed => awaitJob reports fuel j
      | .interrupted =>
        takeSignals
        match (← get).pending.getLast? with
        | some signal =>
          updateJob j
          return some signal
        | none => awaitJob reports fuel j

/-- Waits for all of some jobs. -/
def awaitJobs : List Job → Script Nat
  | [] => return 0
  | j :: js => do
    match ← awaitJob false wordBound j with
    | some signal => return 128 + signal
    | none => awaitJobs js

/-- Waits for the jobs that words name; the last one decides. -/
def awaitNamed : List Bytes → Nat → Script Nat
  | [], status => return status
  | word :: words, _ => do
    let j ← if word.head? == some 0x25 then some <$> jobOf (some word)
      else do
        let number ← countOf word
        pure ((← get).jobs.find? fun j =>
          (j.processes.getLast?.map fun p => Pid.number p.1) == some number)
    match j with
    | none => awaitNamed words 127
    | some j =>
      match ← awaitJob true wordBound j with
      | some signal => return 128 + signal
      | none =>
        let ended := ((← get).jobs.find? fun k => k.number == j.number).bind Job.ended?
        awaitNamed words ((ended.map statusOf).getD 127)

/-- Waits for jobs. -/
def wait (words : List Bytes) : Script Nat := do
  let words ← operands words
  pollJobs
  if words.isEmpty then awaitJobs (← get).jobs else awaitNamed words 127

/-! ## Sending signals -/

/-- Leaves because the words of `kill` make no sense. -/
def badKill {α : Type} : Script α :=
  fail (text "Usage: kill [-s sigspec | -signum | -sigspec] [pid | job]... or\n" ++
    text "kill -l [exitstatus]")

/-- The process that a word names; groups of processes have numbers of their own, which no process
goes by. -/
def targetOfWord (word : Bytes) : Script (Option Nat) := do
  if word.head? == some 0x25 then
    return (← jobOf (some word)).processes.head?.map fun p => Pid.number p.1
  else if word.head? == some 0x2D then
    let _ ← countOf word.tail
    return none
  else return some (← countOf word)

/-- Sends a signal to processes. -/
def killAll (signal : Nat) : List Bytes → (status : Nat) → Script Nat
  | [], status => return status
  | word :: words, status => do
    let sent ← match ← targetOfWord word with
      | some target => (Program.kill target signal : Program _)
      | none => pure (.error .noProcess)
    match sent with
    | .ok () => killAll signal words status
    | .error e =>
      complain (text (e.systemText ++ "\n"))
      killAll signal words 1

/-- Writes the names of the signals, or of the one that a word names. -/
def listSignals (words : List Bytes) : Script Nat := do
  match words with
  | [] =>
    say (text "0\n")
    for signal in (List.range signalCount).tail do say (text (signalName signal ++ "\n"))
    return 0
  | word :: _ =>
    let n ← countOf word
    let signal := if 128 < n then n - 128 else n
    if 0 < signal && signal < signalCount then
      say (text (signalName signal ++ "\n"))
      return 0
    else fail (text "invalid signal number or exit status: " ++ word)

/-- Sends a signal to the processes that the words name. -/
def kill (words : List Bytes) : Script Nat := do
  match words with
  | [] => badKill
  | word :: rest =>
    let named := if word.head? == some 0x2D then signalOf? word.tail 1 else none
    let (signal, lists, targets) ← match named with
      | some signal => pure (some signal, false, rest)
      | none => do
        if word.head? != some 0x2D then pure (none, false, words)
        else
          let (found, targets) ← letters "ls:" words
          let mut signal : Option Nat := none
          for (letter, name) in found do
            if letter == 0x73 then
              match signalOf? name 1 with
              | some n => signal := some n
              | none => fail (text "invalid signal number or name: " ++ name)
          pure (signal, found.any (·.1 == 0x6C), targets)
    if lists then
      if signal.isSome && !targets.isEmpty then badKill
      listSignals targets
    else
      if targets.isEmpty then badKill
      killAll (signal.getD 15) targets 0

end PipeShell.Script
