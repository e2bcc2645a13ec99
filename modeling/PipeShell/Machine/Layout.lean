import PipeShell.Machine.Naming

/-!
# Laying out files

`FileSystem.place` puts a node at a path and makes the directories on the way to it;
`FileSystem.below` lists all that is below a directory. They look at nobody's permissions.
-/

namespace PipeShell

namespace FileSystem

/-- The mode of directories that are made on the way to a path. -/
def wayMode : Mode := 0o755

/-- The node under a name of a directory, made a directory if nothing is there. -/
def enterOrMake (fs : FileSystem) (dir : NodeId) (name : Bytes) : NodeId × FileSystem :=
  match fs.listing? dir with
  | some (parent, entries) =>
    if name == dot then (dir, fs)
    else if name == dotDot then (parent, fs)
    else match entries.lookup name with
      | some id => (id, fs)
      | none => fs.link dir name (.directory wayMode dir [])
  | none => (dir, fs)

/-- The directory that a list of names leads to, the missing part of the way being made. -/
def makeWay (fs : FileSystem) (dir : NodeId) (names : List Bytes) : NodeId × FileSystem :=
  names.foldl (fun (dir, fs) name => fs.enterOrMake dir name) (dir, fs)

/-- The node under a name of a directory. -/
def child? (fs : FileSystem) (dir : NodeId) (name : Bytes) : Option NodeId :=
  (fs.listing? dir).bind fun listing => listing.2.lookup name

/-- Puts a node at a path below a directory; one that is there already is replaced. `make` gets the
directory that the node is in. -/
def place (fs : FileSystem) (dir : NodeId) (path : Bytes) (make : NodeId → Node) : FileSystem :=
  let names := components path
  match names.getLast? with
  | none => fs
  | some name =>
    let (dir, fs) := fs.makeWay dir names.dropLast
    match fs.child? dir name with
    | some id => fs.setNode id (make dir)
    | none => (fs.link dir name (make dir)).2

/-- Makes the directory that a path leads to one in which nothing can be made or removed. -/
def freeze (fs : FileSystem) (path : Bytes) : FileSystem :=
  let id := fs.directoryAt path
  match fs.node? id with
  | some (.directory _ parent entries) => fs.setNode id (.catalogue parent entries)
  | _ => fs

/-- All that is below a directory, with its path; `fuel` bounds the depth. -/
def belowFrom (fs : FileSystem) : Nat → (before : Bytes) → NodeId → List (Bytes × Node)
  | 0, _, _ => []
  | fuel + 1, before, dir =>
    match fs.node? dir with
    | some (.directory _ _ entries) =>
      entries.flatMap fun (name, id) =>
        match fs.node? id with
        | some node => (before ++ name, node) :: fs.belowFrom fuel (before ++ name ++ [slash]) id
        | none => []
    | _ => []

/-- All that is below a directory, with its path. -/
def below (fs : FileSystem) (dir : NodeId) : List (Bytes × Node) :=
  fs.belowFrom (fs.nodes.length + 1) [] dir

/-- The content of a file. -/
def content? (fs : FileSystem) (id : NodeId) : Option Bytes :=
  match fs.node? id with
  | some (.file _ data) => some data
  | _ => none

end FileSystem

end PipeShell
