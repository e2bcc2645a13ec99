import PipeShell.Userland.Format
import PipeShell.Userland.Script.Builtin.Options

/-!
# Commands that write

`Script.echo` writes its words, and `Script.printf` fills them into a format. What they write is
collected in the session and written when they are done.
-/

namespace PipeShell.Script

/-- Writes words, separated by spaces, until an escape ends the output. -/
def echoWords (ending : Bytes) : List Bytes → Script Unit
  | [] => say ending
  | word :: words => do
    let (out, how) := if word.contains 0x5C then Format.unescape Format.wordEscape word
      else (word, .whole)
    say out
    if how != .whole then return ()
    if words.isEmpty then say ending
    else
      say [0x20]
      echoWords ending words

/-- Writes its words, and a line end unless `-n` comes first. -/
def echo (words : List Bytes) : Script Nat := do
  if words.head? == some (text "-n") then echoWords [] words.tail else echoWords [0x0A] words
  return 0

/-- Fills words into a format. -/
def printf (words : List Bytes) : Script Nat := do
  match ← operands words with
  | [] => fail (text "usage: printf format [arg ...]")
  | format :: words =>
    let printed := Format.print Format.command format words
    say printed.out
    for (word, fault) in printed.faults do
      complain (word ++ text (match fault with
        | .notNumeric | .afterByte => ": expected numeric value"
        | .goesOn => ": not completely converted"
        | .outOfRange => ": Numerical result out of range"))
    match printed.ending with
    | .unfinished => fail (text "missing format character")
    | .badDirective shown => fail (shown ++ text ": invalid directive")
    | .whole | .stopped | .bad _ => return if printed.faults.isEmpty then 0 else 1

end PipeShell.Script
