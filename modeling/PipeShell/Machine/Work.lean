import PipeShell.Machine.Basic
import PipeShell.Machine.Calling

/-!
# Work of an attended process

A process whose control state rests is moved from outside, by `Work`: a computation that makes calls
in the name of that process, creates processes, and waits for them while the others move. Work ends
early if the process ends meanwhile (`Progress.ended`): it is killed, or ends itself. Work has no
result at all if a call never returns, or if the process that is waited for has not ended when the
bound on steps is reached.
-/

namespace PipeShell

/-- How far work came. -/
inductive Progress (κ α : Type)
  | finished (result : α) (machine : Machine κ)
  /-- The process that worked has ended. -/
  | ended (status : ExitStatus) (machine : Machine κ)
  /-- The work goes on for ever, or for longer than it is waited for. -/
  | stuck

/-- What a process does that is moved from outside. -/
def Work (κ α : Type) : Type := Pid → Machine κ → Progress κ α

namespace Work

variable {κ : Type}

instance : Monad (Work κ) where
  pure a := fun _ m => .finished a m
  bind w f := fun p m =>
    match w p m with
    | .finished a m => f a p m
    | .ended status m => .ended status m
    | .stuck => .stuck

/-- Work without a result. -/
def stuck {α : Type} : Work κ α := fun _ _ => .stuck

/-- Ends the process. -/
def exit {α : Type} (code : Nat) : Work κ α := fun p m =>
  let status := ExitStatus.exited (code % 256)
  .ended status (m.finish p status)

/-- The process that works. -/
def self : Work κ Pid := fun p m => .finished p m

/-- The machine as it is. -/
def machine : Work κ (Machine κ) := fun _ m => .finished m m

instance : Calling (Work κ) where
  call c := fun p m =>
    match m.processes[p]? with
    | none => .stuck
    | some proc =>
      match c.perform m.store proc.context m.held (Pid.number p) (m.parentNumber proc) with
      | .done reply store context =>
        .finished reply ({ m with store }.setProcess p { proc with context })
      | .killed signal =>
        let status := ExitStatus.signaled signal
        .ended status (m.finish p status)
      | .underway .. | .blocked => .stuck

/-- Creates a process that starts in a state. -/
def fork (child : κ) : Work κ (Except Errno Pid) := fun p m =>
  match m.active? p with
  | none => .stuck
  | some (proc, state) =>
    match m.refusal? with
    | some e => .finished (.error e) m.attempted
    | none => .finished (.ok m.processes.length) (m.attempted.spawn p proc child state)

/-- Lets the processes move, by a policy and for at most `fuel` steps, until a child has ended, and
takes its end. -/
def wait (d : Dynamics κ) (policy : Machine.Policy κ) (fuel : Nat) (child : Pid) :
    Work κ WaitReply := fun p m =>
  let m := m.runUntil d policy (fun m => (m.endOf? child).isSome || (m.endOf? p).isSome) fuel
  match m.endOf? p with
  | some status => .ended status m
  | none =>
    match m.await p child with
    | some (reply, m) => .finished reply m
    | none => .stuck

/-- Lets the journal keep records up to a level from now on, in the file that a descriptor is open
on. -/
def keepJournal (threshold : Threshold) (fd : Fd) (stamp : Nat → Bytes) : Work κ Unit := fun p m =>
  let file := do
    let proc ← m.processes[p]?
    let (_, d) ← m.store.description? proc.context fd
    match d.object with
    | .node id => some id
    | _ => none
  .finished () { m with store := { m.store with journal := ⟨threshold, file, stamp⟩ } }

/-- A number that bounds the bytes that can be read from the files and pipes there are. -/
def volume : Work κ Nat := fun _ m =>
  let sizes := m.store.files.nodes.map fun node => match node with
    | .file _ data => data.length
    | _ => 0
  .finished ((sizes ++ m.store.pipes.map List.length).foldl Nat.add 0) m

end Work

end PipeShell
