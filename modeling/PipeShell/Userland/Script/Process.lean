import PipeShell.Userland.Script.Session

/-!
# Processes of a script

A script creates processes (`Script.spawn`) and waits for them (`Script.awaitAll`), or leaves them
alone as jobs. What it does about signals (`Script.setTrap`) is not what its processes do: those
start without traps, but signals that are ignored stay so.
-/

namespace PipeShell.Script

open Calling (call)

/-- Runs a computation to its end, however it is left. -/
def attempt {α : Type} (body : Script α) : Script (Except Leave α) :=
  ExceptT.mk do return .ok (← body.run)

/-! ## Signals -/

/-- Signals that no process can do anything about. -/
def isUnstoppable (signal : Nat) : Bool := signal == 9 || signal == 19

/-- Does about a signal what its trap says, unless the signal was ignored from the start. -/
def arrange (signal : Nat) : Script Unit := do
  if signal == 0 || isUnstoppable signal then return ()
  if !(← get).known.contains signal then
    if (← call (.disposition signal)) == .ignored then return ()
    modify fun s => { s with known := signal :: s.known }
  call (.setDisposition signal (match (← get).traps.lookup signal with
    | none => .untouched
    | some [] => .ignored
    | some _ => .caught))

/-- Sets what is done about a signal; `none` leaves it to the machine. -/
def setTrap (signal : Nat) (action : Option Bytes) : Script Unit := do
  modify fun s =>
    let others := s.traps.filter (·.1 != signal)
    { s with traps := action.elim others fun action => (signal, action) :: others }
  arrange signal

/-- Whether something is done about signals or at the end. -/
def Session.hasTraps (s : Session) : Bool := s.traps.any fun t => !t.2.isEmpty

/-- The signal that is sent to a process when its child ends. -/
def childSignal : Nat := 17

/-- Notes the signals that came since the last time. -/
def takeSignals : Script Unit := do
  let signals ← call .takeSignals
  if !signals.isEmpty then modify fun s => { s with pending := s.pending ++ signals }

/-- Notes that a process ended. -/
def noteEnd : Script Unit :=
  modify fun s =>
    if ((s.traps.lookup childSignal).any fun action => !action.isEmpty) &&
        !s.pending.contains childSignal then
      { s with pending := s.pending ++ [childSignal] }
    else s

/-! ## Creating processes -/

/-- Lets signals go by from now on. -/
def ignore (signal : Nat) : Script Unit := do
  call (.setDisposition signal .ignored)
  modify fun s => { s with known := s.known.filter (· != signal) }

/-- Removes the traps that do something. -/
def clearTraps : Script Unit := do
  let (active, rest) := (← get).traps.partition fun t => !t.2.isEmpty
  modify fun s => { s with traps := rest, pending := [] }
  for (signal, _) in active do arrange signal

/-- Makes a new process forget what only concerns the one that created it. -/
def startAnew : Script Unit := do
  clearTraps
  for fd in (← get).scripts do (Calling.close fd : Script _)
  modify fun s => { s with saved := [], scripts := [], jobs := [], out := [], inner := true }

/-- Puts a process into the background: it goes on when the script is interrupted, and the first of
a job has nothing to read. -/
def goToBackground (first : Bool) : Script Unit := do
  ignore 2
  ignore 3
  if first then
    Calling.close Fd.stdin
    let _ ← call (.openFile (text "/dev/null") .reading 0)

/-- Creates a process that runs `body`; `ending` gives its exit code. -/
def spawn (ending : Except Leave Unit → Script Nat) (body : Script Unit) : Script Pid := do
  let s ← get
  let run : Script Nat := do
    startAnew
    ending (← attempt body)
  let child : Program Nat := do
    match ← run.run.run s with
    | (.ok code, _) => return code
    | (.error _, s) => return s.status
  (Program.fork child : Program _)

/-! ## Waiting -/

/-- The status of a command whose process ended. -/
def statusOf : ExitStatus → Nat
  | .exited code => code
  | .signaled signal => 128 + signal

/-- Reports the signal that ended a command, two of them apart. -/
def report : ExitStatus → Script Unit
  | .signaled signal => do
    if signal != 2 && signal != pipeSignal then Program.warn (text (signalText signal))
  | .exited _ => return ()

/-- Waits for a process; signals that come meanwhile are attended to later. -/
def waitFor (process : Pid) : Nat → Script ExitStatus
  | 0 => return .exited 0
  | fuel + 1 => do
    match ← (Program.wait process : Program _) with
    | .ended status =>
      noteEnd
      return status
    | .failed _ => return .exited 127
    | .changed => waitFor process fuel
    | .interrupted =>
      takeSignals
      waitFor process fuel

/-- Looks which processes of a job have ended. -/
def pollAll : List (Pid × Option ExitStatus) → Script (List (Pid × Option ExitStatus))
  | [] => return []
  | (process, some status) :: more => return (process, some status) :: (← pollAll more)
  | (process, none) :: more => do
    let answer ← (Program.poll process : Program _)
    let status ← match answer with
      | some (.ended status) =>
        noteEnd
        pure (some status)
      | some (.failed _) => pure (some (.exited 127))
      | _ => pure none
    return (process, status) :: (← pollAll more)

/-- Looks which jobs have ended. -/
def pollJobs : Script Unit := do
  let jobs ← (← get).jobs.mapM fun j => return { j with processes := ← pollAll j.processes }
  modify fun s => { s with jobs }

/-- Waits for the processes of a command; the last one decides. -/
def awaitAll : List Pid → Nat → Script Nat
  | [], status => return status
  | process :: processes, _ => do
    let ended ← waitFor process Calling.patience
    report ended
    if processes.isEmpty && !(← get).jobs.isEmpty then pollJobs
    awaitAll processes (statusOf ended)

/-! ## Jobs -/

/-- Whether all processes of a job have ended. -/
def Job.isDone (j : Job) : Bool := j.processes.all fun p => p.2.isSome

/-- How the last process of a job ended. -/
def Job.ended? (j : Job) : Option ExitStatus := j.processes.getLast?.bind (·.2)

/-- Adds a job, for whose number there may be one to give way that was waited for. -/
def addJob (processes : List Pid) : Script Unit :=
  modify fun s =>
    let taken (n : Nat) : Bool := s.jobs.any fun j => j.number == n && !(j.isDone && j.waited)
    let number := ((List.range (s.jobs.length + 1)).map (· + 1)).find? fun n => !taken n
    let number := number.getD 1
    let jobs := s.jobs.filter fun j => j.number != number
    { s with
      jobs := ⟨number, processes.map fun p => (p, none), false⟩ :: jobs
      lastBackground := processes.getLast?.map Pid.number }

/-- The job replaced by what it is now. -/
def updateJob (j : Job) : Script Unit :=
  modify fun s => { s with jobs := s.jobs.map fun k => if k.number == j.number then j else k }

/-- Forgets a job. -/
def dropJob (j : Job) : Script Unit :=
  modify fun s => { s with jobs := s.jobs.filter fun k => k.number != j.number }

end PipeShell.Script
