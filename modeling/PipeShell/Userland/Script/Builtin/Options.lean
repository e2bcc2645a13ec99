import PipeShell.Userland.Script.Redirection

/-!
# Options of the interpreter's commands

`Script.letters` takes the options from the words of a command: single letters after dashes, some of
which take a word.
-/

namespace PipeShell.Script

/-- Whether a letter is an option, and whether it takes a word; `known` lists the letters, each one
that takes a word being followed by a colon. -/
def optionKind? (known : Bytes) (letter : UInt8) : Option Bool :=
  match known with
  | [] => none
  | b :: rest =>
    if b == letter && b != 0x3A then some (rest.head? == some 0x3A) else optionKind? rest letter

/-- The options in the rest of a word and in the words after it, and the words that are left. -/
def lettersFrom (known : Bytes) : Nat → Bytes → List Bytes →
    Script (List (UInt8 × Bytes) × List Bytes)
  | 0, _, words => return ([], words)
  | fuel + 1, [], words => do
    match words with
    | [0x2D, 0x2D] :: words => return ([], words)
    | (0x2D :: b :: rest) :: words => lettersFrom known fuel (b :: rest) words
    | words => return ([], words)
  | fuel + 1, letter :: rest, words => do
    match optionKind? known letter with
    | none => fail (text "Illegal option -" ++ [letter])
    | some false =>
      let (found, words) ← lettersFrom known fuel rest words
      return ((letter, []) :: found, words)
    | some true =>
      match rest, words with
      | b :: rest, words =>
        let (found, words) ← lettersFrom known fuel [] words
        return ((letter, b :: rest) :: found, words)
      | [], word :: words =>
        let (found, words) ← lettersFrom known fuel [] words
        return ((letter, word) :: found, words)
      | [], [] => fail (text "No arg for -" ++ letter :: text " option")

/-- The options among the words of a command, with the words that they take, and the other words. -/
def letters (known : String) (words : List Bytes) : Script (List (UInt8 × Bytes) × List Bytes) :=
  let size := words.foldl (fun n w => n + w.length + 1) 2
  lettersFrom (text known) size [] words

/-- The words of a command that takes no options. -/
def operands (words : List Bytes) : Script (List Bytes) := do return (← letters "" words).2

end PipeShell.Script
