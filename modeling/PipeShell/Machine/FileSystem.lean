import PipeShell.Errno

/-!
# Files

The files of the machine are a list of nodes, node 0 being the root directory. A directory names
its entries and knows its parent, so a directory that was removed is still there for a process that
works in it. A node can have several names. There is one user, the owner of every node, and the
owner's permission bits decide (`mayRead`, `mayWrite`, `maySearch`).
-/

namespace PipeShell

/-- The position of a node in the list of nodes. -/
abbrev NodeId := Nat

/-- The position of a pipe in the list of pipes. -/
abbrev PipeId := Nat

/-- Permission bits. -/
abbrev Mode := Nat

namespace Mode

def mayRead (mode : Mode) : Bool := mode &&& 0o400 != 0
def mayWrite (mode : Mode) : Bool := mode &&& 0o200 != 0
def maySearch (mode : Mode) : Bool := mode &&& 0o100 != 0

/-- The mode of a new node: the bits asked for, less those of the mask. -/
def masked (mode : Mode) (umask : Nat) : Mode :=
  (mode &&& 0o7777) &&& (0o7777 ^^^ (umask &&& 0o777))

/-- The mode of a file after its content changed: the bits that lend the owner's or, where the group
may execute, the group's identity are gone. -/
def withoutPrivileges (mode : Mode) : Mode :=
  let mode := mode &&& (0o7777 ^^^ 0o4000)
  if mode &&& 0o010 != 0 then mode &&& (0o7777 ^^^ 0o2000) else mode

end Mode

/-- What a name leads to. -/
inductive Node
  | file (mode : Mode) (data : Bytes)
  /-- An executable that is no script, known by its name. -/
  | program (mode : Mode) (name : Bytes)
  | directory (mode : Mode) (parent : NodeId) (entries : List (Bytes × NodeId))
  /-- Stands for the path that it holds. -/
  | symlink (target : Bytes)
  /-- A pipe with a name. -/
  | fifo (mode : Mode) (pipe : PipeId)
  /-- Reads as empty and takes all that is written. -/
  | nullDevice
  /-- Reads as zeros without end and takes all that is written. -/
  | zeroDevice
  /-- Reads as zeros without end and has no room for anything. -/
  | fullDevice
  /-- A directory of the machine's own, in which nothing can be made or removed. -/
  | catalogue (parent : NodeId) (entries : List (Bytes × NodeId))
  /-- The directory that lists the open descriptors of the process that looks at it. -/
  | descriptorList (parent : NodeId)
deriving DecidableEq, Repr

namespace Node

/-- Whether the node is a directory. -/
def isDirectory : Node → Bool
  | directory .. | catalogue .. | descriptorList _ => true
  | _ => false

/-- The directory that a directory is in, and its entries. -/
def listing? : Node → Option (NodeId × List (Bytes × NodeId))
  | directory _ parent entries | catalogue parent entries => some (parent, entries)
  | descriptorList parent => some (parent, [])
  | _ => none

/-- The permission bits of a node. -/
def mode : Node → Mode
  | file mode _ | program mode _ | directory mode .. | fifo mode _ => mode
  | symlink _ => 0o777
  | nullDevice | zeroDevice | fullDevice => 0o666
  | catalogue .. => 0o555
  | descriptorList _ => 0o500

/-- A node with other permission bits. -/
def withMode (mode : Mode) : Node → Node
  | .file _ data => .file mode data
  | .program _ name => .program mode name
  | .directory _ parent entries => .directory mode parent entries
  | .fifo _ pipe => .fifo mode pipe
  | node => node

end Node

/-- The nodes of the machine; the root directory is the first. -/
structure FileSystem where
  nodes : List Node
deriving Repr

namespace FileSystem

/-- The root directory. -/
def root : NodeId := 0

/-- A file system whose root directory is empty. -/
def empty : FileSystem := ⟨[.directory 0o755 root []]⟩

def node? (fs : FileSystem) (id : NodeId) : Option Node := fs.nodes[id]?

/-- The files with one node replaced. -/
def setNode (fs : FileSystem) (id : NodeId) (node : Node) : FileSystem :=
  ⟨fs.nodes.set id node⟩

/-- The directory that a directory is in, and its entries. -/
def listing? (fs : FileSystem) (id : NodeId) : Option (NodeId × List (Bytes × NodeId)) :=
  (fs.node? id).bind Node.listing?

/-- Whether a node is a directory. -/
def isDirectory (fs : FileSystem) (id : NodeId) : Bool :=
  match fs.node? id with
  | some node => node.isDirectory
  | none => false

end FileSystem

end PipeShell
