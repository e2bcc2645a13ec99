import PipeShell.Userland.Script.Pattern
import PipeShell.Userland.Tool.Columns
import PipeShell.Userland.Tool.Order
import PipeShell.Userland.Tool.Printing

/-!
# Listings

`ls` lists files and the contents of directories. A `Listing` says which names are shown, in which
order, how names are written and how they are laid out; it is the result of reading the options one
after the other (`Listing.withOption`). Files come first and then directories, each under a heading
if there are several.
-/

namespace PipeShell.Tool

open Calling (call)
open Printing

/-- Which names are shown. -/
inductive Shows
  /-- Those that do not start with a dot. -/
  | visible
  /-- All but those of the directory itself and the one above it. -/
  | almostAll
  | all
deriving DecidableEq, Repr

/-- What names are ordered by. -/
inductive ListingKey
  | name
  | size
  | ending
  | version
  | nothing
deriving DecidableEq, Repr

/-- Which symbolic links are followed. -/
inductive Follows
  | none
  /-- Those among the operands that lead to directories. -/
  | directories
  | operands
  | all
deriving DecidableEq, Repr

/-- Which kinds of files are marked by a byte after the name. -/
inductive Marks
  | none
  | directories
  | kinds
  /-- Also files that may be executed. -/
  | all
deriving DecidableEq, Repr

/-- How names are laid out. -/
inductive Arrangement
  | lines
  | commas
  | columns (direction : Columns.Direction)
deriving DecidableEq, Repr

/-- How names are written. -/
inductive Spelling
  | literal
  | escaped
  | doubleQuoted
  | forShell
  | quotedForShell
deriving DecidableEq, Repr

/-- What a listing shows, and how. -/
structure Listing where
  shows : Shows
  sortKey : ListingKey
  reversed : Bool
  directoriesFirst : Bool
  /-- Whether directories are listed like files. -/
  asFiles : Bool
  recursive : Bool
  follows : Option Follows
  marks : Marks
  arrangement : Arrangement
  spelling : Spelling
  /-- Whether bytes that are not visible are shown as question marks. -/
  masked : Bool
  /-- Patterns of names that are left out. -/
  ignored : List Bytes
  /-- Patterns of names that are left out unless all are shown. -/
  hidden : List Bytes
  lineLength : Nat
  tab : Nat
  /-- The byte at the end of lines. -/
  ending : UInt8

namespace Listing

/-- The listing without options. -/
def plain : Listing :=
  ⟨.visible, .name, false, false, false, false, none, .none, .lines, .literal, false, [], [], 80, 8,
    0x0A⟩

/-! ## Options -/

/-- The options. -/
def known : List Known :=
  [flag "a" "all", flag "A" "almost-all", flag "b" "escape", flag "B" "ignore-backups",
   flag "C" "", flag "d" "directory", flag "f" "", flag "F" "", ⟨"", "classify", .mayWord⟩,
   flag "" "file-type", flag "p" "", flag "H" "dereference-command-line",
   flag "" "dereference-command-line-symlink-to-dir", flag "L" "dereference",
   flag "" "group-directories-first", taking "" "hide", taking "I" "ignore", flag "m" "",
   flag "N" "literal", flag "q" "hide-control-chars", flag "" "show-control-chars",
   flag "Q" "quote-name", taking "" "quoting-style", flag "r" "reverse", flag "R" "recursive",
   flag "S" "", taking "" "sort", taking "" "format", taking "" "indicator-style",
   taking "T" "tabsize", flag "U" "", flag "v" "", taking "w" "width", flag "x" "", flag "X" "",
   flag "1" "", flag "" "zero", ⟨"", "color", .mayWord⟩, taking "" "time", flag "t" "", flag "u" "",
   flag "c" "", flag "G" "no-group", flag "k" "kibibytes", flag "h" "human-readable",
   flag "l" "", flag "g" "",
   flag "o" "", flag "n" "numeric-uid-gid", flag "i" "inode", flag "s" "size"]

/-- A number that an option takes. -/
def number? (word : Bytes) : Option Nat := (Format.intOf? word).bind Int.toNat?

/-- What is wrong with a word of an option. -/
def fault (key : String) (word : Bytes) : Option (Bytes × Bool) :=
  if key == "w" && (number? word).isNone then
    some (text "invalid line width: " ++ Shown.marked word, false)
  else if key == "T" && (number? word).isNone then
    some (text "invalid tab size: " ++ Shown.marked word, false)
  else none

/-- The choices that words make, for the options that take one. -/
def choices : List (String × List (String × (Listing → Listing))) :=
  [("sort", [("none", ({ · with sortKey := .nothing })), ("size", ({ · with sortKey := .size })),
     ("time", id), ("extension", ({ · with sortKey := .ending })),
     ("version", ({ · with sortKey := .version }))]),
   ("format", [("across", ({ · with arrangement := .columns .along })),
     ("horizontal", ({ · with arrangement := .columns .along })),
     ("commas", ({ · with arrangement := .commas })),
     ("single-column", ({ · with arrangement := .lines })),
     ("vertical", ({ · with arrangement := .columns .down }))]),
   ("indicator-style", [("none", ({ · with marks := .none })),
     ("slash", ({ · with marks := .directories })), ("file-type", ({ · with marks := .kinds })),
     ("classify", ({ · with marks := .all }))]),
   ("classify", [("", ({ · with marks := .all })), ("always", ({ · with marks := .all }))]),
   ("quoting-style", [("literal", ({ · with spelling := .literal })),
     ("escape", ({ · with spelling := .escaped })), ("c", ({ · with spelling := .doubleQuoted })),
     ("shell", ({ · with spelling := .forShell })),
     ("shell-escape", ({ · with spelling := .forShell })),
     ("shell-always", ({ · with spelling := .quotedForShell })),
     ("shell-escape-always", ({ · with spelling := .quotedForShell }))])]

/-- A listing after one more option. -/
def withOption (l : Listing) (key : String) (word : Bytes) : Listing :=
  match key with
  | "a" => { l with shows := .all }
  | "A" => { l with shows := .almostAll }
  | "b" => { l with spelling := .escaped }
  | "B" => { l with ignored := text "*~" :: text ".*~" :: l.ignored }
  | "C" => { l with arrangement := .columns .down }
  | "d" => { l with asFiles := true }
  | "f" => { l with shows := .all, sortKey := .nothing }
  | "F" => { l with marks := .all }
  | "file-type" => { l with marks := .kinds }
  | "p" => { l with marks := .directories }
  | "H" => { l with follows := some .operands }
  | "dereference-command-line-symlink-to-dir" => { l with follows := some .directories }
  | "L" => { l with follows := some .all }
  | "group-directories-first" => { l with directoriesFirst := true }
  | "hide" => { l with hidden := word :: l.hidden }
  | "I" => { l with ignored := word :: l.ignored }
  | "m" => { l with arrangement := .commas }
  | "N" => { l with spelling := .literal }
  | "q" => { l with masked := true }
  | "show-control-chars" => { l with masked := false }
  | "Q" => { l with spelling := .doubleQuoted }
  | "r" => { l with reversed := true }
  | "R" => { l with recursive := true }
  | "S" => { l with sortKey := .size }
  | "T" => { l with tab := (number? word).getD 8 }
  | "U" => { l with sortKey := .nothing }
  | "v" => { l with sortKey := .version }
  | "w" => { l with lineLength := (number? word).getD 0 }
  | "x" => { l with arrangement := .columns .along }
  | "X" => { l with sortKey := .ending }
  | "1" => { l with arrangement := .lines }
  | "zero" => { l with ending := 0, arrangement := .lines, spelling := .literal, masked := false }
  | _ =>
    match ((choices.lookup key).getD []).find? fun c => text c.1 == word with
    | some (_, change) => change l
    | none => l

/-- The listing that options ask for. -/
def ofOptions (start : Listing) (options : List (String × Option Bytes)) : Listing :=
  options.foldl (fun l (key, word) => l.withOption key (word.getD [])) start

/-- Which symbolic links are followed; those that are marked are not. -/
def following (l : Listing) : Follows :=
  l.follows.getD (if l.asFiles || l.marks == .all then .none else .directories)

/-! ## Names -/

/-- A file in a listing. -/
structure Entry where
  name : Bytes
  kind : FileKind
  mode : Mode
  size : Nat

/-- A file with a status. -/
def entryOf (name : Bytes) (status : FileStatus) : Entry :=
  ⟨name, status.kind, status.mode, if status.kind == .directory then 4096 else status.size⟩

/-- Whether a name matches a pattern; a dot at its start does not match other signs. -/
def isLike (pattern name : Bytes) : Bool :=
  (name.head? != some 0x2E || pattern.head? == some 0x2E) &&
    (Script.Pattern.of (pattern.map (⟨·, false⟩))).accepts name

/-- Whether a name is left out. -/
def leavesOut (l : Listing) (name : Bytes) : Bool :=
  (l.shows == .visible && (name.head? == some 0x2E || l.hidden.any (isLike · name))) ||
    l.ignored.any (isLike · name)

/-- The ending of a name, with its dot. -/
def endingOf (name : Bytes) : Bytes :=
  if name.contains 0x2E then 0x2E :: (name.reverse.takeWhile (· != 0x2E)).reverse else []

/-- The order of two files. -/
def order (l : Listing) (a b : Entry) : Ordering :=
  let order := match l.sortKey with
    | .name => Order.bytes a.name b.name
    | .size => (compare b.size a.size).then (Order.bytes a.name b.name)
    | .ending =>
      (Order.bytes (endingOf a.name) (endingOf b.name)).then (Order.bytes a.name b.name)
    | .version => (Order.version a.name b.name).then (Order.bytes a.name b.name)
    | .nothing => .eq
  let group := if l.directoriesFirst then
      compare (a.kind != .directory).toNat (b.kind != .directory).toNat else .eq
  group.then (if l.reversed then order.swap else order)

/-- Files in the order of a listing. -/
def sorted (l : Listing) (entries : List Entry) : List Entry :=
  entries.mergeSort fun a b => l.order a b != .gt

/-! ## Writing -/

/-- A byte with a backslash before it where it means something to a reader, or as an escape. -/
def escapeByte (special : Bytes) (b : UInt8) : Bytes :=
  if special.contains b then [0x5C, b] else if Shown.isVisible b then [b] else Shown.escape b

/-- Whether a shell reads a name as one word, although there may be colons in it. -/
def isShellWord (name : Bytes) : Bool :=
  let name := name.map fun b => if b == 0x3A then 0x61 else b
  Shown.plain name == name

/-- A name as it is written; `heading` tells whether a colon follows. -/
def spell (l : Listing) (heading : Bool) (name : Bytes) : Bytes :=
  let colon : Bytes := if heading then [0x3A] else []
  let spelled := match l.spelling with
    | .literal => name
    | .escaped => name.flatMap (escapeByte ([0x5C, 0x20] ++ colon))
    | .doubleQuoted => 0x22 :: name.flatMap (escapeByte ([0x5C, 0x22] ++ colon)) ++ [0x22]
    | .forShell => if !heading && isShellWord name then name else Shown.plain name
    | .quotedForShell => Shown.quoted name
  if l.masked then spelled.map fun b => if Shown.isVisible b then b else 0x3F else spelled

/-- The byte that marks a kind of file. -/
def mark (l : Listing) (e : Entry) : Bytes :=
  if l.marks == .none then []
  else match e.kind with
    | .directory => [0x2F]
    | .regular => if l.marks == .all && e.mode &&& 0o111 != 0 then [0x2A] else []
    | .symlink => if l.marks == .directories then [] else [0x40]
    | .pipe => if l.marks == .directories then [] else [0x7C]
    | _ => []

/-- A file as it is shown. -/
def cell (l : Listing) (e : Entry) : Columns.Cell :=
  let shown := l.spell false e.name ++ l.mark e
  ⟨shown, shown.countP Shown.isVisible⟩

/-- Files as a listing shows them. -/
def write (l : Listing) (entries : List Entry) : Bytes :=
  let cells := entries.map l.cell
  if cells.isEmpty then []
  else match l.arrangement with
    | .lines => cells.flatMap fun cell => cell.shown ++ [l.ending]
    | .commas => Columns.listed l.lineLength 0x2C l.ending 0 cells
    | .columns direction =>
      if l.lineLength == 0 then
        Text.joinWith [0x20, 0x20] (cells.map (·.shown)) ++ [l.ending]
      else Columns.write ⟨direction, l.lineLength, l.tab⟩ l.ending cells

end Listing

/-! ## Directories -/

variable (self : Bytes)

/-- The path of a name in a directory. -/
def inDirectory (dir name : Bytes) : Bytes :=
  if FileSystem.endsInSlash dir then dir ++ name else dir ++ FileSystem.slash :: name

/-- How far a listing is. -/
structure Progress where
  code : Nat
  /-- Whether directories come under headings. -/
  headed : Bool
  /-- Whether no directory was listed yet. -/
  first : Bool

/-- The progress after something went wrong. -/
def Progress.failed (p : Progress) (code : Nat) : Progress := { p with code := max p.code code }

/-- Lists directories, which are below others, and with a recursive listing those in them; `fuel`
bounds the depth. -/
def listDirectories (l : Listing) : (fuel : Nat) → (above : List Object) → (operands : Bool) →
    List Bytes → Progress → Printing Progress
  | 0, _, _, _, p => return p
  | fuel + 1, above, operands, dirs, p => dirs.foldlM (fun p name => do
    match ← call (.names name), ← call (.status name) with
    | .error e, _ | _, .error e =>
      complain (complaint self (text "cannot open directory " ++ Shown.quoted name) e)
      return { p.failed (if operands then 2 else 1) with headed := true }
    | .ok found, .ok status =>
      if l.recursive && above.contains status.object then
        complain (self ++ text ": " ++ Shown.plain name ++
          text ": not listing already-listed directory")
        return { p.failed 2 with headed := true }
      if l.recursive || p.headed then
        print ((if p.first then [] else [0x0A]) ++ l.spell true name ++ text ":\n")
      let names := if l.shows == .all then FileSystem.dot :: FileSystem.dotDot :: found else found
      let entries ← (names.filter fun name => !l.leavesOut name).mapM fun entry => do
        let path := inDirectory name entry
        match ← if l.following == .all then call (.status path) else call (.statusOfName path) with
        | .ok status => return Listing.entryOf entry status
        | .error _ => return ⟨entry, .regular, 0, 0⟩
      let entries := l.sorted entries
      print (l.write entries)
      let p := { p with headed := true, first := p.first && !(l.recursive || p.headed) }
      if !l.recursive then return p
      let below := entries.filter fun e => e.kind == .directory && !FileSystem.isDots e.name
      listDirectories l fuel (status.object :: above) false
        (below.map fun e => inDirectory name e.name) p) p

/-- The status of an operand. -/
def operandStatus (l : Listing) (name : Bytes) : Printing (Except Errno FileStatus) := do
  match l.following with
  | .all | .operands => call (.status name)
  | .none => call (.statusOfName name)
  | .directories =>
    match ← call (.status name) with
    | .ok status =>
      if status.kind == .directory then return .ok status else call (.statusOfName name)
    | .error e =>
      if e = .noEntry || e = .tooManyLinks then call (.statusOfName name) else return .error e

/-- The operands that are there, and whether one is missing. -/
def findOperands (l : Listing) : List Bytes → Printing (List Listing.Entry × Bool)
  | [] => return ([], false)
  | name :: names => do
    match ← operandStatus l name with
    | .error e =>
      complain (complaint self (text "cannot access " ++ Shown.quoted name) e)
      return ((← findOperands l names).1, true)
    | .ok status =>
      let (entries, missing) ← findOperands l names
      return (Listing.entryOf name status :: entries, missing)

/-- Lists files and the contents of directories. -/
def listOperands (l : Listing) (operands : List Bytes) : Printing Nat := do
  let (found, missing) ← if operands.isEmpty && !l.asFiles then
      pure ([⟨FileSystem.dot, .directory, 0, 0⟩], false)
    else findOperands self l (if operands.isEmpty then [FileSystem.dot] else operands)
  let found := l.sorted found
  let isListed (e : Listing.Entry) : Bool := e.kind == .directory && !l.asFiles
  let files := found.filter (!isListed ·)
  let dirs := (found.filter isListed).map (·.name)
  print (l.write files)
  if !files.isEmpty && !dirs.isEmpty then print [0x0A]
  let headed := !files.isEmpty || 1 < operands.length || 1 < dirs.length
  let p ← listDirectories self l FileSystem.pathLimit [] true dirs
    ⟨if missing then 2 else 0, headed, true⟩
  return p.code

/-- Lists files and the contents of directories, starting from a listing that options change. -/
def listing (start : Listing) (args : List Bytes) : Program Nat :=
  withChecked self Listing.known false 2 Listing.fault args fun a =>
    toProgram self 2 (listOperands self (Listing.ofOptions start a.options) a.operands)

/-- Lists files, one name a line. -/
def ls (args : List Bytes) : Program Nat := listing self Listing.plain args

/-- Lists files in columns, with escapes in their names. -/
def dir (args : List Bytes) : Program Nat :=
  listing self { Listing.plain with arrangement := .columns .down, spelling := .escaped } args

end PipeShell.Tool
