import PipeShell.Machine.Descriptor
import PipeShell.Machine.FileSystem
import PipeShell.Text.Split

/-!
# Finding files

A path is a list of names that are entered one after the other, from the root or from a working
directory. A symbolic link on the way is replaced by the path that it holds. `FileSystem.locate`
tells where a path ends, for the operations that create or remove what is there, and
`FileSystem.resolve` what it leads to. The number of links on the way is bounded, so a lookup ends
even if links lead to each other.
-/

namespace PipeShell

/-- What an open file description is open on. -/
inductive Object
  | node (id : NodeId)
  | readEnd (pipe : PipeId)
  | writeEnd (pipe : PipeId)
deriving DecidableEq, Repr

/-- The other end of a pipe. -/
def Object.partner : Object → Object
  | readEnd pipe => writeEnd pipe
  | writeEnd pipe => readEnd pipe
  | node id => node id

/-- How a process sees the files: where paths start that do not start at the root, and what the
list of descriptors leads to. -/
structure View where
  directory : NodeId
  opened : Fd → Option Object

/-- The view of somebody at the root who has nothing open. -/
def View.outside : View := ⟨FileSystem.root, fun _ => none⟩

namespace FileSystem

/-! ## Names -/

/-- The byte that separates the components of a path. -/
def slash : UInt8 := 0x2F

/-- The name `.` of a directory in itself. -/
def dot : Bytes := [0x2E]

/-- The name `..` of a directory's parent in it. -/
def dotDot : Bytes := [0x2E, 0x2E]

/-- Whether a name stands for a directory that is known already. -/
def isDots (name : Bytes) : Bool := name == dot || name == dotDot

/-- The length from which a path is refused. -/
def pathLimit : Nat := 4096

/-- The length up to which a name is accepted. -/
def nameLimit : Nat := 255

/-- The number of symbolic links that a lookup follows at most. -/
def linkLimit : Nat := 40

/-- The names in a path; repeated slashes count once. -/
def components (path : Bytes) : List Bytes := (Text.splitOn slash path).filter fun c => !c.isEmpty

/-- Refuses a path that no lookup is made for: one that holds NUL, is empty or is too long. -/
def admissible (path : Bytes) : Except Errno Unit :=
  if path.contains 0 then .error .invalid
  else if path.isEmpty then .error .noEntry
  else if pathLimit ≤ path.length then .error .nameTooLong
  else .ok ()

/-- Where a path starts. -/
def origin (cwd : NodeId) (path : Bytes) : NodeId := if path.head? == some slash then root else cwd

/-- Whether a path ends in a slash. -/
def endsInSlash (path : Bytes) : Bool := path.getLast? == some slash

/-! ## Entering directories -/

/-- Why names cannot be looked up in a node. -/
def maySearch (fs : FileSystem) (dir : NodeId) : Except Errno Unit :=
  match fs.node? dir with
  | some node =>
    if !node.isDirectory then .error .notDirectory
    else if node.mode.maySearch then .ok () else .error .accessDenied
  | none => .error .notDirectory

/-- The number that a name in the list of descriptors is; it has no zero in front. -/
def descriptorOf? (name : Bytes) : Option Fd :=
  if name.all (fun b => 0x30 ≤ b && b ≤ 0x39) && (name.length == 1 || name.head? != some 0x30) then
    some (name.foldl (fun n b => 10 * n + (b.toNat - 0x30)) 0)
  else none

/-- Whether a node is the list of descriptors. -/
def isDescriptorList (fs : FileSystem) (dir : NodeId) : Bool :=
  match fs.node? dir with
  | some (.descriptorList _) => true
  | _ => false

/-- What a name leads to from a directory. A symbolic link is not followed, but a name in the list
of descriptors leads to what is open there. -/
def enter (fs : FileSystem) (opened : Fd → Option Object) (dir : NodeId) (name : Bytes) :
    Except Errno Object := do
  fs.maySearch dir
  match fs.listing? dir with
  | none => .error .notDirectory
  | some (parent, entries) =>
    if name == dot then .ok (.node dir)
    else if name == dotDot then .ok (.node parent)
    else if nameLimit < name.length then .error .nameTooLong
    else if fs.isDescriptorList dir then
      match (descriptorOf? name).bind opened with
      | some object => .ok object
      | none => .error .noEntry
    else match entries.lookup name with
      | some id => .ok (.node id)
      | none => .error .noEntry

/-- The path that a symbolic link holds. -/
def linkTarget? (fs : FileSystem) : Object → Option Bytes
  | .node id =>
    match fs.node? id with
    | some (.symlink target) => some target
    | _ => none
  | _ => none

/-! ## Paths -/

/-- Where a path ends. -/
inductive Place
  /-- At a directory that the path does not name: the root, `.` or `..`. -/
  | unnamed (dir : NodeId) (name : Bytes)
  /-- At a name in a directory, with or without a slash after it. -/
  | named (dir : NodeId) (name : Bytes) (slashed : Bool)
deriving DecidableEq, Repr

/-- Where a list of names ends, if `follow` says where the names end that a symbolic link on the way
puts in their place. A link that the last name leads to is followed if `followed` says so, which is
told whether a slash comes after it. -/
def walk (fs : FileSystem) (opened : Fd → Option Object) (followed : Bool → Bool)
    (follow : NodeId → List Bytes → Bool → Except Errno Place) (dir : NodeId) (names : List Bytes)
    (slashed : Bool) : Except Errno Place :=
  match names with
  | [] => .ok (.unnamed dir [])
  | name :: rest =>
    if rest.isEmpty && !isDots name && !followed slashed then do
      fs.maySearch dir
      return .named dir name slashed
    else match fs.enter opened dir name with
      | .error e =>
        if rest.isEmpty && e = .noEntry then .ok (.named dir name slashed) else .error e
      | .ok target =>
        match fs.linkTarget? target with
        | some path =>
          follow (origin dir path) (components path ++ rest)
            (slashed || (rest.isEmpty && endsInSlash path))
        | none =>
          match target, rest with
          | .node id, [] =>
            .ok (if isDots name then .unnamed id name else .named dir name slashed)
          | _, [] => .ok (.named dir name slashed)
          | .node id, _ :: _ => fs.walk opened followed follow id rest slashed
          | _, _ :: _ => .error .notDirectory

/-- Where a list of names ends, at most `links` symbolic links being followed. -/
def trace (fs : FileSystem) (opened : Fd → Option Object) (followed : Bool → Bool) :
    Nat → NodeId → List Bytes → Bool → Except Errno Place
  | 0 => fs.walk opened followed fun _ _ _ => .error .tooManyLinks
  | links + 1 => fs.walk opened followed (fs.trace opened followed links)

/-- Where a path ends. -/
def locate (fs : FileSystem) (followed : Bool → Bool) (view : View) (path : Bytes) :
    Except Errno Place := do
  admissible path
  fs.trace view.opened followed linkLimit (origin view.directory path) (components path)
    (endsInSlash path)

/-- Whether an object is a directory. -/
def leadsToDirectory (fs : FileSystem) : Object → Bool
  | .node id => fs.isDirectory id
  | _ => false

/-- What a place leads to. After a slash there has to be a directory. -/
def targetAt (fs : FileSystem) (view : View) : Place → Except Errno Object
  | .unnamed dir _ => .ok (.node dir)
  | .named dir name slashed => do
    let target ← fs.enter view.opened dir name
    if slashed && !fs.leadsToDirectory target then .error .notDirectory else .ok target

/-- What a path leads to. -/
def resolve (fs : FileSystem) (view : View) (path : Bytes) : Except Errno Object := do
  fs.targetAt view (← fs.locate (fun _ => true) view path)

/-- What a path leads to if a symbolic link at its end is not followed, and whether the path names
an entry of the list of descriptors, which is such a link. -/
def resolveLink (fs : FileSystem) (view : View) (path : Bytes) : Except Errno (Object × Bool) := do
  let place ← fs.locate id view path
  let target ← fs.targetAt view place
  return (target, match place with
    | .named dir _ slashed => fs.isDescriptorList dir && !slashed
    | .unnamed .. => false)

/-- The directory that a path leads to, or the root. -/
def directoryAt (fs : FileSystem) (path : Bytes) : NodeId :=
  match fs.resolve .outside path with
  | .ok (.node id) => id
  | _ => root

/-! ## The way back -/

/-- Whether a directory can still be reached from the root. -/
def isLinked (fs : FileSystem) (dir : NodeId) : Bool :=
  dir == root || match fs.listing? dir with
    | some (parent, _) =>
      match fs.listing? parent with
      | some (_, entries) => entries.any fun e => e.2 == dir
      | none => false
    | none => false

/-- The names that lead from the root to a directory, last name first; `fuel` bounds the depth. -/
def ancestry (fs : FileSystem) : Nat → NodeId → Except Errno (List Bytes)
  | 0, _ => .error .noEntry
  | fuel + 1, dir =>
    if dir == root then .ok []
    else match fs.listing? dir with
      | some (parent, _) =>
        match fs.listing? parent with
        | some (_, entries) =>
          match entries.find? fun e => e.2 == dir with
          | some (name, _) => do return name :: (← fs.ancestry fuel parent)
          | none => .error .noEntry
        | none => .error .noEntry
      | none => .error .noEntry

/-- The absolute path of a directory. -/
def pathOf (fs : FileSystem) (dir : NodeId) : Except Errno Bytes := do
  let names ← fs.ancestry (fs.nodes.length + 1) dir
  return if names.isEmpty then [slash] else names.reverse.flatMap (slash :: ·)

end FileSystem

end PipeShell
