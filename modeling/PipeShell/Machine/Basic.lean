import PipeShell.Machine.Call
import PipeShell.Machine.Image

/-!
# Processes and their steps

A machine runs processes that share a store. What a process does next is read off its control state,
of a type `κ` that is left open: `Dynamics.action` gives the action of a state, and `Dynamics.start`
the state in which a program begins. `Machine.step` is one action of one process; a process that
waits has no step. An interleaving is a sequence of steps of any processes, so whatever holds of
every sequence of steps holds whichever way the processes are scheduled.
-/

namespace PipeShell

/-- The place of a process in the machine's list of them. -/
abbrev Pid := Nat

/-- The number under which processes know a process; small numbers belong to the machine itself. -/
def Pid.number (p : Pid) : Nat := p + 100

/-- The process that goes by a number. -/
def Pid.ofNumber? (n : Nat) : Option Pid := if 100 ≤ n then some (n - 100) else none

/-- How a process ended. -/
inductive ExitStatus
  | exited (code : Nat)
  | signaled (signal : Nat)
deriving DecidableEq, Repr

/-- What waiting for a process answers. -/
inductive WaitReply
  | ended (status : ExitStatus)
  /-- The process was stopped or went on. -/
  | changed
  | failed (e : Errno)
  /-- The wait was interrupted by a signal. -/
  | interrupted
deriving DecidableEq, Repr

/-- What a process does next, and how it goes on. -/
inductive Action (κ : Type)
  /-- Nothing: the process is moved from outside. -/
  | rest
  /-- Nothing but going on. -/
  | goOn (next : κ)
  | halt (code : Nat)
  | call (c : Call) (next : c.Reply → κ)
  /-- Creates a process, which starts in `child`. -/
  | fork (child : κ) (next : Except Errno Pid → κ)
  /-- Starts a program in place of the process, which goes on only if that is refused. -/
  | exec (argv : List Bytes) (refused : Errno → κ)
  /-- Starts the program that a path names in place of the process. -/
  | execFile (path : Bytes) (argv : List Bytes) (refused : Errno → κ)
  | wait (child : Pid) (next : WaitReply → κ)
  /-- Like waiting, but there is no answer while the child runs. -/
  | poll (child : Pid) (next : Option WaitReply → κ)
  /-- Sends a signal to the process that goes by a number. -/
  | kill (target : Nat) (signal : Nat) (next : Except Errno Unit → κ)

/-- The action with the states that follow it taken over into another type. -/
def Action.map {κ κ' : Type} (f : κ → κ') : Action κ → Action κ'
  | rest => .rest
  | goOn next => .goOn (f next)
  | halt code => .halt code
  | call c next => .call c fun reply => f (next reply)
  | fork child next => .fork (f child) fun reply => f (next reply)
  | exec argv refused => .exec argv fun e => f (refused e)
  | execFile path argv refused => .execFile path argv fun e => f (refused e)
  | wait child next => .wait child fun reply => f (next reply)
  | poll child next => .poll child fun reply => f (next reply)
  | kill target signal next => .kill target signal fun reply => f (next reply)

/-- How control states behave. -/
structure Dynamics (κ : Type) where
  action : κ → Action κ
  /-- The state in which a program starts. -/
  start : Image → κ

/-- Whether a process runs. -/
inductive Life (κ : Type)
  | active (state : κ)
  | ended (status : ExitStatus)
  /-- Ended, and its end was told to its parent. -/
  | reaped
deriving DecidableEq, Repr

/-- A process. -/
structure Process (κ : Type) where
  parent : Pid
  context : Context
  life : Life κ
deriving Repr

/-- Processes, numbered by their position, and what they share. -/
structure Machine (κ : Type) where
  store : Store
  processes : List (Process κ)
  /-- What becomes of the next attempts to create a process, in the order in which they are made:
  the reason why one is refused, or `none`. All that come after these succeed. -/
  refusals : List (Option Errno)

namespace Machine

variable {κ : Type}

/-! ## Views -/

/-- A process that has not ended. -/
def active? (m : Machine κ) (p : Pid) : Option (Process κ × κ) :=
  match m.processes[p]? with
  | some proc =>
    match proc.life with
    | .active state => some (proc, state)
    | _ => none
  | none => none

/-- Whether a process holds a descriptor of an object. -/
def Holds (store : Store) (proc : Process κ) (object : Object) : Bool :=
  proc.context.descriptors.held.any fun id =>
    match store.descriptions[id]? with
    | some d => d.object == object
    | none => false

/-- Whether some process holds a descriptor of an object. -/
def held (m : Machine κ) (object : Object) : Bool :=
  m.processes.any fun proc => Holds m.store proc object

/-- The processes that ended or run, and were forked by `p` and not reaped. -/
def childrenOf (m : Machine κ) (p : Pid) : List Pid :=
  (m.processes.zipIdx.filter fun q =>
    q.1.parent == p && q.2 != p && match q.1.life with
      | .reaped => false
      | _ => true).map (·.2)

/-- How a process ended, if its end was not yet told to its parent. -/
def endOf? (m : Machine κ) (p : Pid) : Option ExitStatus :=
  match m.processes[p]? with
  | some ⟨_, _, .ended status⟩ => some status
  | _ => none

/-! ## Changes -/

/-- The machine with a process replaced. -/
def setProcess (m : Machine κ) (p : Pid) (proc : Process κ) : Machine κ :=
  { m with processes := m.processes.set p proc }

/-- The machine after a process ended: nothing stays open in it. -/
def finish (m : Machine κ) (p : Pid) (status : ExitStatus) : Machine κ :=
  match m.processes[p]? with
  | some proc => m.setProcess p
      { proc with
        context := { proc.context with descriptors := .empty }
        life := .ended status }
  | none => m

/-- Why the next attempt to create a process is refused, if it is. -/
def refusal? (m : Machine κ) : Option Errno := m.refusals.head?.join

/-- The machine once the next attempt to create a process was made. -/
def attempted (m : Machine κ) : Machine κ := { m with refusals := m.refusals.tail }

/-- The machine after process `p` created a process in state `child` and went on in `next`. Signals
that wait to be told stay with `p`. -/
def spawn (m : Machine κ) (p : Pid) (proc : Process κ) (child next : κ) : Machine κ :=
  let m := m.setProcess p { proc with life := .active next }
  { m with processes := m.processes ++ [⟨p, { proc.context with pending := [] }, .active child⟩] }

/-- What waiting for `child` gives process `p`, and the machine afterwards; `none` while the child
runs. -/
def await (m : Machine κ) (p child : Pid) : Option (WaitReply × Machine κ) :=
  match m.processes[child]? with
  | some proc =>
    if proc.parent ≠ p then some (.failed .noChild, m)
    else match proc.life with
      | .active _ => none
      | .ended status => some (.ended status, m.setProcess child { proc with life := .reaped })
      | .reaped => some (.failed .noChild, m)
  | none => some (.failed .noChild, m)

/-- Signals that do not end a process. -/
def ignoredSignals : List Nat := [17, 18, 19, 20, 21, 22, 23, 28]

/-- Signals that end a process unless it does something about them. -/
def isFatal (signal : Nat) : Bool :=
  1 ≤ signal && signal ≤ 64 && !ignoredSignals.contains signal

/-- The machine after a signal was sent to a process. -/
def deliver (m : Machine κ) (target : Pid) (signal : Nat) : Except Errno (Machine κ) :=
  match m.processes[target]? with
  | some proc =>
    match proc.life with
    | .active _ =>
      if 64 < signal then .error .invalid
      else if signal == 0 then .ok m
      else match proc.context.disposition signal with
        | .untouched => .ok (if isFatal signal then m.finish target (.signaled signal) else m)
        | .ignored => .ok m
        | .caught => .ok (m.setProcess target
            { proc with context := proc.context.withPending signal })
    | .ended _ => .ok m
    | .reaped => .error .noProcess
  | none => .error .noProcess

/-- The number of the process that created a process, or 1 if that one has ended. -/
def parentNumber (m : Machine κ) (proc : Process κ) : Nat :=
  match m.processes[proc.parent]? with
  | some ⟨_, _, .active _⟩ => Pid.number proc.parent
  | _ => 1

/-! ## Steps -/

/-- The machine after process `p` continues in a state. -/
def resume (m : Machine κ) (p : Pid) (state : κ) : Machine κ :=
  match m.processes[p]? with
  | some ⟨parent, context, .active _⟩ => m.setProcess p ⟨parent, context, .active state⟩
  | _ => m

/-- The machine after process `p` became a program, or went on because that was refused. -/
def become (d : Dynamics κ) (m : Machine κ) (p : Pid) (proc : Process κ) (refused : Errno → κ) :
    Except Errno Image → Machine κ
  | .error e => m.setProcess p { proc with life := .active (refused e) }
  | .ok image =>
    m.setProcess p { proc with context := proc.context.onExec, life := .active (d.start image) }

/-- The effect of an action of process `p`; `none` if it waits. -/
def act (d : Dynamics κ) (m : Machine κ) (p : Pid) (proc : Process κ) :
    Action κ → Option (Machine κ)
  | .rest => none
  | .goOn next => some (m.setProcess p { proc with life := .active next })
  | .halt code => some (m.finish p (.exited (code % 256)))
  | .call c next =>
    match c.perform m.store proc.context m.held (Pid.number p) (m.parentNumber proc) with
    | .blocked => none
    | .killed signal => some (m.finish p (.signaled signal))
    | .underway store context => some ({ m with store }.setProcess p { proc with context })
    | .done reply store context =>
      some ({ m with store }.setProcess p { proc with context, life := .active (next reply) })
  | .fork child next =>
    match m.refusal? with
    | some e => some (m.attempted.setProcess p { proc with life := .active (next (.error e)) })
    | none => some (m.attempted.spawn p proc child (next (.ok m.processes.length)))
  | .exec argv refused =>
    some (m.become d p proc refused
      (Image.find? m.store.files (m.store.view proc.context) proc.context.environment argv))
  | .execFile path argv refused =>
    some (m.become d p proc refused (Image.ofPath? m.store.files (m.store.view proc.context)
      proc.context.environment path argv))
  | .wait child next =>
    match m.await p child with
    | none => if proc.context.pending.isEmpty then none else some (m.resume p (next .interrupted))
    | some (reply, m) => some (m.resume p (next reply))
  | .poll child next =>
    match m.await p child with
    | none => some (m.resume p (next none))
    | some (reply, m) => some (m.resume p (next (some reply)))
  | .kill target signal next =>
    match (Pid.ofNumber? target).elim (.error .noProcess) fun p => m.deliver p signal with
    | .error e => some (m.resume p (next (.error e)))
    | .ok m => some (m.resume p (next (.ok ())))

/-- One step of a process; `none` if it waits or has ended. -/
def step (d : Dynamics κ) (m : Machine κ) (p : Pid) : Option (Machine κ) :=
  match m.active? p with
  | some (proc, state) => m.act d p proc (d.action state)
  | none => none

/-- The machine after the wait of a process was interrupted; `none` if the process does not wait. -/
def interrupt (d : Dynamics κ) (m : Machine κ) (p : Pid) : Option (Machine κ) :=
  match m.active? p with
  | some (_, state) =>
    match d.action state with
    | .wait _ next => some (m.resume p (next .interrupted))
    | _ => none
  | none => none

/-! ## Schedules -/

/-- Which process moves next. -/
abbrev Policy (κ : Type) := Machine κ → Option Pid

/-- The policy that lets the oldest process move that can. -/
def oldestFirst (d : Dynamics κ) : Policy κ := fun m =>
  (List.range m.processes.length).find? fun p => (m.step d p).isSome

/-- The moments at which processes go on that pause. -/
def moments (m : Machine κ) : List Nat :=
  m.processes.filterMap fun proc => match proc.life with
    | .active _ => proc.context.wakes
    | _ => none

/-- The machine at the next moment at which a process goes on that pauses; `none` if no process
does. -/
def elapse? (m : Machine κ) : Option (Machine κ) :=
  (m.moments.filter (m.store.clock < ·)).min?.map fun clock =>
    { m with store := { m.store with clock } }

/-- Lets processes move until `stop` holds, none can move any more, or `fuel` steps were made. Time
goes by when the policy finds no process to move. -/
def runUntil (d : Dynamics κ) (policy : Policy κ) (stop : Machine κ → Bool) :
    Nat → Machine κ → Machine κ
  | 0, m => m
  | fuel + 1, m =>
    if stop m then m
    else match policy m with
      | none =>
        match m.elapse? with
        | none => m
        | some m => runUntil d policy stop fuel m
      | some p =>
        match m.step d p with
        | none => m
        | some m => runUntil d policy stop fuel m

/-- Lets processes move until none can any more, or `fuel` steps were made. No time goes by. -/
def settle (d : Dynamics κ) (policy : Policy κ) : Nat → Machine κ → Machine κ
  | 0, m => m
  | fuel + 1, m =>
    match (policy m).bind (m.step d) with
    | none => m
    | some m => settle d policy fuel m

end Machine

end PipeShell
