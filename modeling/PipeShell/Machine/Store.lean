import PipeShell.Journal
import PipeShell.Machine.Environment
import PipeShell.Machine.Naming

/-!
# What processes share

The `Store` holds the files, the open file descriptions and the bytes that wait in pipes. A
`Context` is what belongs to one process: its descriptors, its working directory and the like. The
functions here are the effects of single system calls on the two.

Whether an end of a pipe is still open somewhere is not kept in the store: it is a question to the
descriptor tables of all processes, which the callers answer (`held`).
-/

namespace PipeShell

/-- An open file: the object, what may be done with it, and how far it was read or written. -/
structure Description where
  object : Object
  readable : Bool
  writable : Bool
  /-- Whether every write goes to the end of the file. -/
  append : Bool
  offset : Nat
deriving DecidableEq, Repr

/-- How a file is opened. -/
structure OpenFlags where
  read : Bool
  write : Bool
  append : Bool
  create : Bool
  truncate : Bool
  /-- Whether a file that is there already is refused. -/
  exclusive : Bool
  closeOnExec : Bool
deriving DecidableEq, Repr

namespace OpenFlags

/-- For reading. -/
def reading : OpenFlags := ⟨true, false, false, false, false, false, false⟩

/-- For writing from the start of a file that is created if need be and emptied. -/
def writing : OpenFlags := ⟨false, true, false, true, true, false, false⟩

/-- For writing at the end of a file that is created if need be. -/
def appending : OpenFlags := ⟨false, true, true, true, false, false, false⟩

/-- The flags as the number that the system call takes. -/
def bits (f : OpenFlags) : Nat :=
  (if f.write then (if f.read then 2 else 1) else 0) + (if f.create then 0o100 else 0) +
    (if f.exclusive then 0o200 else 0) + (if f.truncate then 0o1000 else 0) +
    (if f.append then 0o2000 else 0) + (if f.closeOnExec then 0o2000000 else 0)

end OpenFlags

/-- Files, open files and pipes. -/
structure Store where
  files : FileSystem
  descriptions : List Description
  /-- The bytes that were written to each pipe and not yet read. -/
  pipes : List Bytes
  /-- The ends of named pipes in the order in which they were opened. -/
  arrivals : List Object
  journal : Journal
  /-- The time that has gone by. It goes by only while all processes wait. -/
  clock : Nat

/-- A named pipe that a process is opening: it waits for somebody to open the other end. -/
structure Opening where
  /-- The descriptor that the process will get. -/
  fd : Fd
  partner : Object
  /-- How many ends of named pipes had been opened when the wait began. -/
  since : Nat
deriving DecidableEq, Repr

/-- What a process does about a signal. -/
inductive Disposition
  /-- It leaves the signal to the machine. -/
  | untouched
  | ignored
  /-- It is told about the signal when it asks. -/
  | caught
deriving DecidableEq, Repr

/-- What belongs to one process. It is copied when the process forks and kept when it starts a
program, descriptors marked for closing apart. -/
structure Context where
  descriptors : DescriptorTable
  /-- The bound below which descriptors are handed out. -/
  limit : Nat
  directory : NodeId
  umask : Nat
  environment : Environment
  /-- The signals that the process does something about. -/
  dispositions : List (Nat × Disposition)
  /-- The signals that it caught and was not yet told about. -/
  pending : List Nat
  opening : Option Opening
  /-- The moment at which the process goes on if it pauses. -/
  wakes : Option Nat
deriving Repr

namespace Context

/-- What the process does about a signal. -/
def disposition (context : Context) (signal : Nat) : Disposition :=
  (context.dispositions.lookup signal).getD .untouched

/-- The process with something else done about a signal. -/
def withDisposition (context : Context) (signal : Nat) (d : Disposition) : Context :=
  { context with
    dispositions := (signal, d) :: context.dispositions.filter fun e => e.1 != signal }

/-- The process after a signal that it catches. -/
def withPending (context : Context) (signal : Nat) : Context :=
  { context with pending := context.pending ++ [signal] }

/-- The process as it starts a program: signals stay ignored, but none is caught. -/
def onExec (context : Context) : Context :=
  { context with
    descriptors := context.descriptors.onExec
    dispositions := context.dispositions.filter fun e => e.2 == .ignored
    pending := [] }

end Context

/-- The number of the signal that a write to a pipe without readers raises. -/
def pipeSignal : Nat := 13

/-- What happens when a process makes a call. -/
inductive Outcome (ρ : Type)
  | done (reply : ρ) (store : Store) (context : Context)
  /-- The call has begun and is made again. -/
  | underway (store : Store) (context : Context)
  /-- The call waits. -/
  | blocked
  | killed (signal : Nat)

/-- The kind of a file, for programs that look at it. -/
inductive FileKind
  | regular
  | directory
  | symlink
  | device
  | pipe
deriving DecidableEq, Repr

/-- What a program can learn about a file without reading it. -/
structure FileStatus where
  object : Object
  kind : FileKind
  mode : Mode
  size : Nat
deriving Repr

namespace Store

/-! ## Opening -/

/-- The description that a descriptor refers to. -/
def description? (store : Store) (context : Context) (fd : Fd) :
    Option (DescriptionId × Description) :=
  match context.descriptors.get fd with
  | none => none
  | some d => (store.descriptions[d.description]?).map fun desc => (d.description, desc)

/-- Why a node cannot be opened with these flags. -/
def mayOpen (node : Node) (flags : OpenFlags) : Except Errno Unit :=
  match node with
  | .directory mode .. =>
    if flags.write || flags.create then .error .isDirectory
    else if mode.mayRead then .ok () else .error .accessDenied
  | .catalogue .. | .descriptorList _ =>
    if flags.write || flags.create then .error .isDirectory else .ok ()
  | .file mode _ | .program mode _ | .fifo mode _ =>
    if (flags.read && !mode.mayRead) || (flags.write && !mode.mayWrite) then .error .accessDenied
    else .ok ()
  | .symlink _ => .error .tooManyLinks
  | .nullDevice | .zeroDevice | .fullDevice => .ok ()

/-- The node after it was opened with these flags: a file that is emptied is no program any more. -/
def opened (node : Node) (flags : OpenFlags) : Node :=
  match node with
  | .file mode _ | .program mode _ =>
    if flags.truncate then .file mode.withoutPrivileges [] else node
  | node => node

/-- What opening a path gives. -/
structure Opened where
  object : Object
  files : FileSystem
  /-- Whether the other end of the pipe has to be opened as well. -/
  meets : Bool

/-- The end of a pipe that is opened with these flags. -/
def pipeEnd (pipe : PipeId) (flags : OpenFlags) : Object :=
  if flags.write then .writeEnd pipe else .readEnd pipe

/-- Opens a node that is there. -/
def openNode (fs : FileSystem) (id : NodeId) (flags : OpenFlags) : Except Errno Opened :=
  match fs.node? id with
  | none => .error .noEntry
  | some node => do
    mayOpen node flags
    match node with
    | .fifo _ pipe => return ⟨pipeEnd pipe flags, fs, true⟩
    | node => return ⟨.node id, fs.setNode id (opened node flags), false⟩

/-- How a process sees the files. -/
def view (store : Store) (context : Context) : View where
  directory := context.directory
  opened fd := (store.description? context fd).map fun d => d.2.object

/-- Opens an object. What a process has open already is opened anew, a pipe at the end that the
flags ask for. -/
def openObject (store : Store) (object : Object) (flags : OpenFlags) : Except Errno Opened :=
  match object with
  | .node id => openNode store.files id flags
  | .readEnd pipe | .writeEnd pipe => return ⟨pipeEnd pipe flags, store.files, false⟩

/-- Opens a path, which is created or emptied if the flags ask for it. A symbolic link is followed
unless a file that is there is refused. -/
def openPath (store : Store) (context : Context) (path : Bytes) (flags : OpenFlags) (mode : Mode) :
    Except Errno Opened := do
  let fs := store.files
  let view := store.view context
  if !flags.create then
    store.openObject (← fs.resolve view path) flags
  else
    match ← fs.locate (fun slashed => !slashed && !flags.exclusive) view path with
    | .unnamed .. => .error (if flags.exclusive then .alreadyExists else .isDirectory)
    | .named dir name slashed =>
      if slashed then .error .isDirectory
      match fs.enter view.opened dir name with
      | .ok object =>
        if flags.exclusive then .error .alreadyExists
        store.openObject object flags
      | .error e =>
        if e ≠ .noEntry then .error e
        fs.mayLink dir
        let (id, fs) := fs.link dir name (.file (mode.masked context.umask) [])
        return ⟨.node id, fs, false⟩

/-- Puts a description under the lowest free number. -/
def install (store : Store) (context : Context) (d : Description) (closeOnExec : Bool) :
    Option (Fd × Store × Context) :=
  match context.descriptors.allocate context.limit ⟨store.descriptions.length, closeOnExec⟩ with
  | none => none
  | some (fd, table) =>
    some (fd, { store with descriptions := store.descriptions ++ [d] },
      { context with descriptors := table })

/-- The bytes in the pipes once an end of a pipe is opened: what was left in a pipe that nobody had
open is gone. -/
def pipesOnOpen (store : Store) (held : Object → Bool) : Object → List Bytes
  | .node _ => store.pipes
  | .readEnd pipe | .writeEnd pipe =>
    if held (.readEnd pipe) || held (.writeEnd pipe) then store.pipes else store.pipes.set pipe []

/-- The effect of opening a named pipe, whose description is installed: the process goes on if the
other end is open, and waits otherwise. -/
def meet (store : Store) (context : Context) (held : Object → Bool) (object : Object) (fd : Fd) :
    Outcome (Except Errno Fd) :=
  let arrivals := store.arrivals ++ [object]
  let store := { store with pipes := store.pipesOnOpen held object, arrivals }
  if held object.partner then .done (.ok fd) store context
  else .underway store { context with opening := some ⟨fd, object.partner, arrivals.length⟩ }

/-- Opens a path. The path is checked first, then that a number is free, then the file. -/
def openFile (store : Store) (context : Context) (held : Object → Bool) (path : Bytes)
    (flags : OpenFlags) (mode : Mode) : Outcome (Except Errno Fd) :=
  let refuse (e : Errno) := Outcome.done (.error e) store context
  match context.opening with
  | some o =>
    if (store.arrivals.drop o.since).contains o.partner then
      .done (.ok o.fd) store { context with opening := none }
    else .blocked
  | none =>
    match FileSystem.admissible path with
    | .error e => refuse e
    | .ok () =>
      if context.limit ≤ context.descriptors.lowestFree then refuse .tooManyOpenFiles
      else match store.openPath context path flags mode with
        | .error e => refuse e
        | .ok ⟨object, files, meets⟩ =>
          let description : Description := ⟨object, flags.read, flags.write, flags.append, 0⟩
          match install { store with files } context description flags.closeOnExec with
          | none => refuse .tooManyOpenFiles
          | some (fd, store, context) =>
            if meets then store.meet context held object fd else .done (.ok fd) store context

/-- Makes a pipe: its read end goes under the lowest free number, its write end under the next. -/
def makePipe (store : Store) (context : Context) : Outcome (Except Errno (Fd × Fd)) :=
  let pipe := store.pipes.length
  let grown := { store with pipes := store.pipes ++ [[]] }
  match install grown context ⟨.readEnd pipe, true, false, false, 0⟩ false with
  | none => .done (.error .tooManyOpenFiles) store context
  | some (readFd, grown, context') =>
    match install grown context' ⟨.writeEnd pipe, false, true, false, 0⟩ false with
    | none => .done (.error .tooManyOpenFiles) store context
    | some (writeFd, grown, context') => .done (.ok (readFd, writeFd)) grown context'

/-! ## Descriptors -/

/-- Closes a descriptor. -/
def close (store : Store) (context : Context) (fd : Fd) : Outcome (Except Errno Unit) :=
  match context.descriptors.get fd with
  | none => .done (.error .badDescriptor) store context
  | some _ =>
    .done (.ok ()) store { context with descriptors := context.descriptors.set fd none }

/-- Makes `target` refer to what `source` refers to. What `target` referred to is closed. -/
def duplicate (store : Store) (context : Context) (source target : Fd) :
    Outcome (Except Errno Unit) :=
  match context.descriptors.get source with
  | none => .done (.error .badDescriptor) store context
  | some d =>
    if context.limit ≤ target then .done (.error .badDescriptor) store context
    else if source = target then .done (.ok ()) store context
    else .done (.ok ()) store
      { context with
        descriptors := context.descriptors.set target (some { d with closeOnExec := false }) }

/-- Makes the lowest free number from `least` on refer to what `source` refers to, until a program
is started. -/
def duplicateAbove (store : Store) (context : Context) (source least : Fd) :
    Outcome (Except Errno Fd) :=
  match context.descriptors.get source with
  | none => .done (.error .badDescriptor) store context
  | some d =>
    let fd := context.descriptors.lowestFreeFrom least
    if context.limit ≤ least then .done (.error .invalid) store context
    else if context.limit ≤ fd then .done (.error .tooManyOpenFiles) store context
    else .done (.ok fd) store
      { context with
        descriptors := context.descriptors.set fd (some { d with closeOnExec := true }) }

/-- Waits until an amount of time has gone by. -/
def pause (store : Store) (context : Context) (time : Nat) : Outcome Unit :=
  match context.wakes with
  | none => .underway store { context with wakes := some (store.clock + time) }
  | some moment =>
    if moment ≤ store.clock then .done () store { context with wakes := none } else .blocked

/-- The store with the offset of a description replaced. -/
def seek (store : Store) (id : DescriptionId) (d : Description) (offset : Nat) : Store :=
  { store with descriptions := store.descriptions.set id { d with offset } }

/-! ## Reading and writing -/

/-- The bytes that a pipe holds at most. -/
def pipeCapacity : Nat := 65536

/-- The number of bytes that are written to a pipe all at once or not at all. -/
def pipeAtom : Nat := 4096

/-- Reads at most `count` bytes. An empty answer is the end of the file; an empty pipe has an end
only when nobody holds its write end. -/
def read (store : Store) (context : Context) (held : Object → Bool) (fd : Fd) (count : Nat) :
    Outcome (Except Errno Bytes) :=
  match store.description? context fd with
  | none => .done (.error .badDescriptor) store context
  | some (id, d) =>
    if !d.readable then .done (.error .badDescriptor) store context
    else match d.object with
      | .writeEnd _ => .done (.error .badDescriptor) store context
      | .readEnd pipe =>
        match (store.pipes[pipe]?).getD [] with
        | [] =>
          if count != 0 && held (.writeEnd pipe) then .blocked else .done (.ok []) store context
        | waiting =>
          .done (.ok (waiting.take count))
            { store with pipes := store.pipes.set pipe (waiting.drop count) } context
      | .node node =>
        match store.files.node? node with
        | some (.file _ data) =>
          let found := (data.drop d.offset).take count
          .done (.ok found) (store.seek id d (d.offset + found.length)) context
        | some (.directory ..) | some (.catalogue ..) | some (.descriptorList _) =>
          .done (.error .isDirectory) store context
        | some .zeroDevice | some .fullDevice =>
          .done (.ok (List.replicate count 0)) store context
        | _ => .done (.ok []) store context

/-- Writes bytes and answers how many were taken. A pipe without room makes the call wait; a pipe
without readers makes it fail, or ends the process. -/
def write (store : Store) (context : Context) (held : Object → Bool) (fd : Fd) (data : Bytes) :
    Outcome (Except Errno Nat) :=
  match store.description? context fd with
  | none => .done (.error .badDescriptor) store context
  | some (id, d) =>
    if !d.writable then .done (.error .badDescriptor) store context
    else match d.object with
      | .readEnd _ => .done (.error .badDescriptor) store context
      | .writeEnd pipe =>
        if !held (.readEnd pipe) then
          match context.disposition pipeSignal with
          | .untouched => .killed pipeSignal
          | .ignored => .done (.error .brokenPipe) store context
          | .caught => .done (.error .brokenPipe) store (context.withPending pipeSignal)
        else
          let waiting := (store.pipes[pipe]?).getD []
          let room := pipeCapacity - waiting.length
          if room < min data.length pipeAtom then .blocked
          else
            let taken := data.take room
            .done (.ok taken.length)
              { store with pipes := store.pipes.set pipe (waiting ++ taken) } context
      | .node node =>
        match store.files.node? node with
        | some (.file mode old) =>
          let position := if d.append then old.length else d.offset
          let mode := if data.isEmpty then mode else mode.withoutPrivileges
          let files := store.files.setNode node (.file mode (FileSystem.splice old position data))
          .done (.ok data.length) ({ store with files }.seek id d (position + data.length)) context
        | some .fullDevice =>
          .done (if data.isEmpty then .ok 0 else .error .noSpace) store context
        | _ => .done (.ok data.length) store context

/-- Goes back over bytes that were read from a file. -/
def rewind (store : Store) (context : Context) (fd : Fd) (count : Nat) :
    Outcome (Except Errno Unit) :=
  match store.description? context fd with
  | none => .done (.error .badDescriptor) store context
  | some (id, d) =>
    match d.object with
    | .node _ => .done (.ok ()) (store.seek id d (d.offset - count)) context
    | _ => .done (.error .illegalSeek) store context

/-- Sets the permission bits of an open file. -/
def setMode (store : Store) (context : Context) (fd : Fd) (mode : Mode) :
    Outcome (Except Errno Unit) :=
  match store.description? context fd with
  | none => .done (.error .badDescriptor) store context
  | some (_, d) =>
    match d.object with
    | .node id =>
      let files := match store.files.node? id with
        | some node => store.files.setNode id (node.withMode (mode &&& 0o7777))
        | none => store.files
      .done (.ok ()) { store with files } context
    | _ => .done (.ok ()) store context

/-- Writes a record to the end of the journal's file. What is no regular file gets none. -/
def note (store : Store) (pid : Nat) (level : Level) (message : Bytes) : Store :=
  match store.journal.fileFor level with
  | none => store
  | some id =>
    match store.files.node? id with
    | some (.file mode data) =>
      let record := store.journal.record store.clock pid level message
      { store with files := store.files.setNode id (.file mode.withoutPrivileges (data ++ record)) }
    | _ => store

/-- A record is lost, or is added to the journal's file. -/
theorem note_cases (store : Store) (pid : Nat) (level : Level) (message : Bytes) :
    store.note pid level message = store ∨
      ∃ id mode data record, store.journal.file = some id ∧
        store.files.node? id = some (.file mode data) ∧
        store.note pid level message = { store with
          files := store.files.setNode id (.file mode.withoutPrivileges (data ++ record)) } := by
  unfold note
  split
  · exact Or.inl rfl
  · next id hid =>
    have hfile : store.journal.file = some id := by
      unfold Journal.fileFor at hid
      split at hid
      · exact hid
      · cases hid
    split
    · next mode data hdata => exact Or.inr ⟨id, mode, data, _, hfile, hdata, rfl⟩
    · exact Or.inl rfl

/-! ## Looking at files -/

/-- The status of an object. -/
def statusOf (store : Store) (object : Object) : FileStatus :=
  match object with
  | .readEnd _ | .writeEnd _ => ⟨object, .pipe, 0o600, 0⟩
  | .node id =>
    match store.files.node? id with
    | some (.file mode data) => ⟨object, .regular, mode, data.length⟩
    | some (.program mode _) => ⟨object, .regular, mode, 0⟩
    | some (.symlink target) => ⟨object, .symlink, 0o777, target.length⟩
    | some (.fifo mode _) => ⟨object, .pipe, mode, 0⟩
    | some node => ⟨object, if node.isDirectory then .directory else .device, node.mode, 0⟩
    | none => ⟨object, .device, 0, 0⟩

/-- The status of what a path leads to. -/
def status (store : Store) (context : Context) (path : Bytes) : Except Errno FileStatus := do
  return store.statusOf (← store.files.resolve (store.view context) path)

/-- The status of what a path names: a symbolic link is not followed. -/
def statusOfName (store : Store) (context : Context) (path : Bytes) : Except Errno FileStatus := do
  let (object, linked) ← store.files.resolveLink (store.view context) path
  let status := store.statusOf object
  return if linked then { status with kind := .symlink } else status

/-- The path that a symbolic link holds. -/
def linkTarget (store : Store) (context : Context) (path : Bytes) : Except Errno Bytes := do
  let (object, _) ← store.files.resolveLink (store.view context) path
  match store.files.linkTarget? object with
  | some target => return target
  | none => .error .invalid

/-- The directory that a path leads to. -/
def directoryAt (store : Store) (context : Context) (path : Bytes) : Except Errno (NodeId × Node) :=
  do
  match ← store.files.resolve (store.view context) path with
  | .node id =>
    match store.files.node? id with
    | some node => if node.isDirectory then .ok (id, node) else .error .notDirectory
    | none => .error .notDirectory
  | _ => .error .notDirectory

/-- The status of an open file. -/
def statusFd (store : Store) (context : Context) (fd : Fd) : Except Errno (FileStatus × Nat) :=
  match store.description? context fd with
  | none => .error .badDescriptor
  | some (_, d) => .ok (store.statusOf d.object, d.offset)

/-- The names in a directory, in the order in which they were made. The list of descriptors has the
one through which it is read. -/
def names (store : Store) (context : Context) (path : Bytes) : Except Errno (List Bytes) := do
  match (← store.directoryAt context path).2 with
  | .directory mode _ entries =>
    if mode.mayRead then .ok (entries.map (·.1)) else .error .accessDenied
  | .catalogue _ entries => .ok (entries.map (·.1))
  | _ =>
    let table := context.descriptors.set context.descriptors.lowestFree (some ⟨0, false⟩)
    .ok (table.openFds.map Bytes.ofNat)

/-! ## Changing files -/

/-- Makes a named pipe. -/
def makeFifo (store : Store) (context : Context) (path : Bytes) (mode : Mode) :
    Except Errno Store := do
  let node : Node := .fifo (mode.masked context.umask) store.pipes.length
  let files ← store.files.makeNode (store.view context) path node
  return { store with files, pipes := store.pipes ++ [[]] }

/-- Sets the permission bits of what a path leads to. -/
def setModeOf (store : Store) (context : Context) (path : Bytes) (mode : Mode) :
    Except Errno Store := do
  match ← store.files.resolve (store.view context) path with
  | .node id =>
    match store.files.node? id with
    | some node =>
      return { store with files := store.files.setNode id (node.withMode (mode &&& 0o7777)) }
    | none => return store
  | _ => return store

end Store

end PipeShell
