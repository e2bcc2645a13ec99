import PipeShell.Machine.Lookup

/-!
# Making and removing names

The operations that change what names lead to: a name is made for a new node or for one that has a
name already, moved, or removed. A node without a name stays for the processes that have it open or
work in it. None of these operations follows a symbolic link at the end of a path.
-/

namespace PipeShell.FileSystem

/-! ## Entries of a directory -/

/-- The files with one more entry in a directory. -/
def addEntry (fs : FileSystem) (dir : NodeId) (name : Bytes) (id : NodeId) : FileSystem :=
  match fs.node? dir with
  | some (.directory mode parent entries) =>
    fs.setNode dir (.directory mode parent (entries ++ [(name, id)]))
  | _ => fs

/-- The files without an entry of a directory. -/
def dropEntry (fs : FileSystem) (dir : NodeId) (name : Bytes) : FileSystem :=
  match fs.node? dir with
  | some (.directory mode parent entries) =>
    fs.setNode dir (.directory mode parent (entries.filter fun e => e.1 != name))
  | _ => fs

/-- The files with a new node under a name of a directory, and the new node. -/
def link (fs : FileSystem) (dir : NodeId) (name : Bytes) (node : Node) : NodeId × FileSystem :=
  let id := fs.nodes.length
  let fs : FileSystem := ⟨fs.nodes ++ [node]⟩
  (id, fs.addEntry dir name id)

/-- Why the entries of a directory cannot be changed: it is protected, or the machine's own. -/
def mayChange (fs : FileSystem) (dir : NodeId) : Except Errno Unit :=
  match fs.node? dir with
  | some (.directory mode ..) => if mode.mayWrite then .ok () else .error .accessDenied
  | some _ => .error .notPermitted
  | none => .error .noEntry

/-- Why a name cannot be made in a directory: the directory was removed, is protected, or is the
machine's own and knows of no such name. -/
def mayLink (fs : FileSystem) (dir : NodeId) : Except Errno Unit :=
  if !fs.isLinked dir then .error .noEntry
  else match fs.node? dir with
    | some (.directory ..) => fs.mayChange dir
    | _ => .error .noEntry

/-- Where a path ends that is not followed to its end. -/
def locateName (fs : FileSystem) (view : View) (path : Bytes) : Except Errno Place :=
  fs.locate (fun _ => false) view path

/-- What the name of a place leads to. Only a directory can have a slash after its name. -/
def entryAt (fs : FileSystem) (view : View) (dir : NodeId) (name : Bytes) (slashed : Bool) :
    Except Errno NodeId := do
  match ← fs.enter view.opened dir name with
  | .node id =>
    if fs.isDescriptorList dir then .error .notPermitted
    else if slashed && !fs.isDirectory id then .error .notDirectory else .ok id
  | _ => .error .notPermitted

/-! ## New names -/

/-- The directory and the name that a path ends with, for a node that is to be made there; only a
directory can have a slash after its name. -/
def vacancy (fs : FileSystem) (view : View) (path : Bytes) (directory : Bool) :
    Except Errno (NodeId × Bytes) := do
  match ← fs.locateName view path with
  | .unnamed .. => .error .alreadyExists
  | .named dir name slashed =>
    match fs.enter view.opened dir name with
    | .ok _ => .error .alreadyExists
    | .error e =>
      if e ≠ .noEntry || (slashed && !directory) then .error e
      fs.mayLink dir
      return (dir, name)

/-- Makes a directory. -/
def makeDirectory (fs : FileSystem) (view : View) (umask : Nat) (path : Bytes) :
    Except Errno FileSystem := do
  let (dir, name) ← fs.vacancy view path true
  return (fs.link dir name (.directory (Mode.masked 0o777 umask) dir [])).2

/-- Makes a node that is no directory. -/
def makeNode (fs : FileSystem) (view : View) (path : Bytes) (node : Node) :
    Except Errno FileSystem := do
  let (dir, name) ← fs.vacancy view path false
  return (fs.link dir name node).2

/-- Makes a symbolic link that holds a path. -/
def makeSymlink (fs : FileSystem) (view : View) (target path : Bytes) : Except Errno FileSystem :=
  do
  admissible target
  fs.makeNode view path (.symlink target)

/-- Makes a second name for a node that is no directory. -/
def makeName (fs : FileSystem) (view : View) (source path : Bytes) : Except Errno FileSystem := do
  match ← fs.resolveLink view source with
  | (.node id, false) =>
    let (dir, name) ← fs.vacancy view path false
    if fs.isDirectory id then .error .notPermitted
    return fs.addEntry dir name id
  | _ => .error .crossDevice

/-! ## Removed names -/

/-- Removes an empty directory. -/
def removeDirectory (fs : FileSystem) (view : View) (path : Bytes) : Except Errno FileSystem := do
  match ← fs.locateName view path with
  | .unnamed _ name =>
    .error (if name == dot then .invalid else if name.isEmpty then .busy else .directoryNotEmpty)
  | .named dir name _ =>
    let id ← fs.entryAt view dir name true
    fs.mayChange dir
    match fs.node? id with
    | some (.directory _ _ []) => return fs.dropEntry dir name
    | _ => .error .directoryNotEmpty

/-- Removes the name of a file; what has the file open keeps it. -/
def removeFile (fs : FileSystem) (view : View) (path : Bytes) : Except Errno FileSystem := do
  match ← fs.locateName view path with
  | .unnamed .. => .error .isDirectory
  | .named dir name slashed =>
    let id ← fs.entryAt view dir name slashed
    if fs.isDirectory id then .error .isDirectory
    fs.mayChange dir
    return fs.dropEntry dir name

/-! ## Moved names -/

/-- Whether a directory is another one or lies below it; `fuel` bounds the depth. -/
def liesBelow (fs : FileSystem) (top : NodeId) : Nat → NodeId → Bool
  | 0, _ => false
  | fuel + 1, dir =>
    dir == top || dir != root && match fs.node? dir with
      | some (.directory _ parent _) => fs.liesBelow top fuel parent
      | _ => false

/-- The files with a directory told that it is in another one. -/
def reparent (fs : FileSystem) (id dir : NodeId) : FileSystem :=
  match fs.node? id with
  | some (.directory mode _ entries) => fs.setNode id (.directory mode dir entries)
  | _ => fs

/-- Why a node cannot take the place of another. -/
def mayReplace (fs : FileSystem) (id old : NodeId) : Except Errno Unit :=
  match fs.isDirectory id, fs.node? old with
  | true, some (.directory _ _ entries) =>
    if entries.isEmpty then .ok () else .error .directoryNotEmpty
  | true, _ => .error .notDirectory
  | false, some (.directory ..) => .error .isDirectory
  | false, _ => .ok ()

/-- Gives a node another name in place of the one it has; what had that name loses it. -/
def rename (fs : FileSystem) (view : View) (source path : Bytes) : Except Errno FileSystem := do
  match ← fs.locateName view source, ← fs.locateName view path with
  | .named fromDir fromName fromSlashed, .named toDir toName toSlashed =>
    let id ← fs.entryAt view fromDir fromName fromSlashed
    if toSlashed && !fs.isDirectory id then .error .notDirectory
    if fs.liesBelow id (fs.nodes.length + 1) toDir then .error .invalid
    let old ← match fs.enter view.opened toDir toName with
      | .ok (.node old) => pure (some old)
      | .ok _ => .error .notPermitted
      | .error e => if e = .noEntry then pure none else .error e
    if old = some id then return fs
    if let some old := old then
      if fs.liesBelow old (fs.nodes.length + 1) fromDir then .error .directoryNotEmpty
      fs.mayReplace id old
    fs.mayChange fromDir
    fs.mayLink toDir
    let fs := (fs.dropEntry fromDir fromName).dropEntry toDir toName
    return (fs.addEntry toDir toName id).reparent id toDir
  | _, _ => .error .busy

/-! ## Content -/

/-- The bytes of `data` with `new` written at a position; a gap before it is filled with zeros. -/
def splice (data : Bytes) (position : Nat) (new : Bytes) : Bytes :=
  data.take position ++ List.replicate (position - data.length) 0 ++ new ++
    data.drop (position + new.length)

end PipeShell.FileSystem
