import PipeShell.Machine.Store

/-!
# System calls

A `Call` is a request of a process to the machine that concerns the process itself and what all
processes share, and `Call.Reply` is the type of the answer to it. `Call.perform` is its effect.
Creating, replacing, awaiting and killing processes are actions of the machine and no calls.
-/

namespace PipeShell

/-- A request of a process. -/
inductive Call
  | openFile (path : Bytes) (flags : OpenFlags) (mode : Mode)
  | close (fd : Fd)
  | duplicate (source target : Fd)
  /-- Makes a second number for an open file, the lowest that is free from `least` on. -/
  | duplicateAbove (source least : Fd)
  | makePipe
  | read (fd : Fd) (count : Nat)
  | write (fd : Fd) (data : Bytes)
  /-- Goes back over the last bytes that were read from a file. -/
  | rewind (fd : Fd) (count : Nat)
  | changeDirectory (path : Bytes)
  | currentDirectory
  | makeDirectory (path : Bytes)
  | removeDirectory (path : Bytes)
  | removeFile (path : Bytes)
  /-- Makes a symbolic link that holds a path. -/
  | makeSymlink (target path : Bytes)
  /-- Makes a second name for a file. -/
  | makeName (source path : Bytes)
  | makeFifo (path : Bytes) (mode : Mode)
  | rename (source path : Bytes)
  | status (path : Bytes)
  /-- The status of a file, or of the symbolic link that the path names. -/
  | statusOfName (path : Bytes)
  /-- The path that a symbolic link holds. -/
  | linkTarget (path : Bytes)
  /-- The status of an open file, and how far it was read or written. -/
  | statusFd (fd : Fd)
  | names (path : Bytes)
  /-- Sets the permission bits of an open file. -/
  | setMode (fd : Fd) (mode : Mode)
  /-- Sets the permission bits of a file. -/
  | setModeOf (path : Bytes) (mode : Mode)
  /-- The mask of permission bits that new files do not get, which may be replaced. -/
  | umask (replacement : Option Nat)
  | environment
  /-- Replaces all variables. -/
  | setEnvironment (replacement : Environment)
  | processId
  /-- The number of the process that created this one, or 1 if that one has ended. -/
  | parentId
  /-- What the process does about a signal. -/
  | disposition (signal : Nat)
  | setDisposition (signal : Nat) (d : Disposition)
  /-- The signals that were caught since the last time. -/
  | takeSignals
  /-- Lets an amount of time go by. -/
  | pause (time : Nat)
  /-- Writes a record to the journal. -/
  | note (level : Level) (message : Bytes)
deriving Repr

namespace Call

/-- The answer to a call. -/
abbrev Reply : Call → Type
  | openFile .. => Except Errno Fd
  | close _ => Except Errno Unit
  | duplicate .. => Except Errno Unit
  | duplicateAbove .. => Except Errno Fd
  | makePipe => Except Errno (Fd × Fd)
  | read .. => Except Errno Bytes
  | write .. => Except Errno Nat
  | rewind .. => Except Errno Unit
  | changeDirectory _ => Except Errno Unit
  | currentDirectory => Except Errno Bytes
  | makeDirectory _ => Except Errno Unit
  | removeDirectory _ => Except Errno Unit
  | removeFile _ => Except Errno Unit
  | makeSymlink .. => Except Errno Unit
  | makeName .. => Except Errno Unit
  | makeFifo .. => Except Errno Unit
  | rename .. => Except Errno Unit
  | status _ => Except Errno FileStatus
  | statusOfName _ => Except Errno FileStatus
  | linkTarget _ => Except Errno Bytes
  | statusFd _ => Except Errno (FileStatus × Nat)
  | names _ => Except Errno (List Bytes)
  | setMode .. => Except Errno Unit
  | setModeOf .. => Except Errno Unit
  | umask _ => Nat
  | environment => Environment
  | setEnvironment _ => Unit
  | processId => Nat
  | parentId => Nat
  | disposition _ => Disposition
  | setDisposition .. => Unit
  | takeSignals => List Nat
  | pause _ => Unit
  | note .. => Unit

/-- The effect of changing files: the files after it, or why they stay as they are. -/
def changed (store : Store) (context : Context) :
    Except Errno FileSystem → Outcome (Except Errno Unit)
  | .ok files => .done (.ok ()) { store with files } context
  | .error e => .done (.error e) store context

/-- The effect of changing the store: the store after it, or why it stays as it is. -/
def altered (store : Store) (context : Context) :
    Except Errno Store → Outcome (Except Errno Unit)
  | .ok store => .done (.ok ()) store context
  | .error e => .done (.error e) store context

/-- Moves the process to another directory. -/
def enterDirectory (store : Store) (context : Context) (path : Bytes) :
    Outcome (Except Errno Unit) :=
  match store.directoryAt context path with
  | .error e => .done (.error e) store context
  | .ok (id, node) =>
    if node.mode.maySearch then .done (.ok ()) store { context with directory := id }
    else .done (.error .accessDenied) store context

/-- The effect of a call of process `pid`, created by process `parent`; `held` tells which objects
some process has open. -/
def perform (store : Store) (context : Context) (held : Object → Bool) (pid parent : Nat) :
    (c : Call) → Outcome c.Reply
  | openFile path flags mode => store.openFile context held path flags mode
  | close fd => store.close context fd
  | duplicate source target => store.duplicate context source target
  | duplicateAbove source least => store.duplicateAbove context source least
  | makePipe => store.makePipe context
  | read fd count => store.read context held fd count
  | write fd data => store.write context held fd data
  | rewind fd count => store.rewind context fd count
  | changeDirectory path => enterDirectory store context path
  | currentDirectory => .done (store.files.pathOf context.directory) store context
  | makeDirectory path =>
    changed store context (store.files.makeDirectory (store.view context) context.umask path)
  | removeDirectory path =>
    changed store context (store.files.removeDirectory (store.view context) path)
  | removeFile path => changed store context (store.files.removeFile (store.view context) path)
  | makeSymlink target path =>
    changed store context (store.files.makeSymlink (store.view context) target path)
  | makeName source path =>
    changed store context (store.files.makeName (store.view context) source path)
  | makeFifo path mode => altered store context (store.makeFifo context path mode)
  | rename source path =>
    changed store context (store.files.rename (store.view context) source path)
  | status path => .done (store.status context path) store context
  | statusOfName path => .done (store.statusOfName context path) store context
  | linkTarget path => .done (store.linkTarget context path) store context
  | statusFd fd => .done (store.statusFd context fd) store context
  | names path => .done (store.names context path) store context
  | setMode fd mode => store.setMode context fd mode
  | setModeOf path mode => altered store context (store.setModeOf context path mode)
  | umask replacement =>
    .done context.umask store { context with umask := replacement.getD context.umask }
  | environment => .done context.environment store context
  | setEnvironment replacement => .done () store { context with environment := replacement }
  | processId => .done pid store context
  | parentId => .done parent store context
  | disposition signal => .done (context.disposition signal) store context
  | setDisposition signal d => .done () store (context.withDisposition signal d)
  | takeSignals => .done context.pending store { context with pending := [] }
  | pause time => store.pause context time
  | note level message => .done () (store.note pid level message) context

end Call

end PipeShell
