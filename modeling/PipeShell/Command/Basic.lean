import PipeShell.Token

/-!
# Command trees

A line is read into a `Command`: programs with their words, wrapped by redirections and joined by
pipes. `Command.display` is the text of a tree in the shell's own notation.
-/

namespace PipeShell

/-- Which way a redirection points. -/
inductive Direction
  /-- The command reads from the file. -/
  | input
  /-- The command writes to the file. -/
  | output
deriving DecidableEq, Repr

/-- The symbol of a redirection. -/
def Direction.symbol : Direction → UInt8
  | input => 0x3C
  | output => 0x3E

/-- What a line asks to run. Words and file names are arbitrary bytes. -/
inductive Command
  /-- A program and its arguments; with no words, a command that succeeds at once. -/
  | exec (argv : List Bytes)
  /-- `target` with its standard input or output on `file`. -/
  | redirect (target : Command) (file : Bytes) (direction : Direction)
  /-- Both sides at once, what `left` writes being what `right` reads. -/
  | pipe (left right : Command)
deriving DecidableEq, Repr

namespace Command

/-- The number of commands joined by pipes. -/
def stageCount : Command → Nat
  | pipe l r => l.stageCount + r.stageCount
  | _ => 1

/-- Whether there is neither a word nor a redirection. -/
def isEmpty : Command → Bool
  | exec [] => true
  | _ => false

/-- Words joined by single spaces. -/
def unwords (ws : List Bytes) : Bytes := (ws.intersperse [0x20]).flatten

/-- The tree in the notation it was read from, ill-formed bytes replaced, with a text after it. -/
def displayBefore : Command → Bytes → Bytes
  | exec argv, rest => unwords (argv.map Utf8.scrub) ++ rest
  | redirect target file direction, rest =>
    let operation := direction.symbol :: 0x20 :: (Utf8.scrub file ++ rest)
    if target.isEmpty then operation else target.displayBefore (0x20 :: operation)
  | pipe l r, rest => l.displayBefore (0x20 :: 0x7C :: 0x20 :: r.displayBefore rest)

/-- The tree in the notation it was read from, ill-formed bytes replaced. -/
def display (t : Command) : Bytes := t.displayBefore []

theorem displayBefore_eq (t : Command) (rest : Bytes) :
    t.displayBefore rest = t.display ++ rest := by
  unfold display
  induction t generalizing rest with
  | exec argv => simp [displayBefore]
  | redirect target file direction ih =>
    simp only [displayBefore]
    split
    · simp
    · rw [ih, ih (_ :: _)]
      simp
  | pipe l r ihl ihr =>
    simp only [displayBefore]
    rw [ihl, ihr, ihl (_ :: _)]
    simp

theorem display_exec (argv : List Bytes) :
    (exec argv).display = unwords (argv.map Utf8.scrub) := by
  simp [display, displayBefore]

/-- A redirection stands after what it wraps, and alone if that is empty. -/
theorem display_redirect (target : Command) (file : Bytes) (direction : Direction) :
    (redirect target file direction).display =
      (if target.isEmpty then [] else target.display ++ [0x20]) ++
        direction.symbol :: 0x20 :: Utf8.scrub file := by
  rw [display, displayBefore]
  split
  · simp
  · simp [displayBefore_eq]

theorem display_pipe (l r : Command) :
    (pipe l r).display = l.display ++ [0x20, 0x7C, 0x20] ++ r.display := by
  rw [display, displayBefore, displayBefore_eq, displayBefore_eq]
  simp

end Command

end PipeShell
