import PipeShell.Text.Utf8

/-!
# Paths as texts

Joining paths and taking the parent of one, without looking at files. Repeated slashes and `.`
count for nothing here, but for a `.` that a relative path starts with.
-/

namespace PipeShell.Path

/-- A relative path put below a directory; an absolute one is taken as it is. -/
def join (base rel : Bytes) : Bytes :=
  if rel.head? == some 0x2F || base.isEmpty then rel
  else if base.getLast? == some 0x2F then base ++ rel
  else base ++ 0x2F :: rel

/-- The number of bytes at the start of a path that stand for where it begins: the slash of an
absolute path, the dot of one that starts with `.` alone. -/
def originLength (path : Bytes) : Nat :=
  match path with
  | 0x2F :: _ => 1
  | [0x2E] => 1
  | 0x2E :: 0x2F :: _ => 1
  | _ => 0

/-- A reversed path without slashes and `.` at its start. -/
def skipEmpty : Bytes → Bytes
  | 0x2F :: rest => skipEmpty rest
  | 0x2E :: 0x2F :: rest => skipEmpty rest
  | [0x2E] => []
  | rest => rest

/-- The path of what a path is in; `none` for the root and the empty path, and the empty path for
one of a single name. -/
def parent? (path : Bytes) : Option Bytes :=
  let origin := path.take (originLength path)
  match skipEmpty (path.drop (originLength path)).reverse with
  | [] => if origin == [0x2E] then some [] else none
  | name => some (origin ++ (skipEmpty (name.dropWhile (· != 0x2F))).reverse)

end PipeShell.Path
