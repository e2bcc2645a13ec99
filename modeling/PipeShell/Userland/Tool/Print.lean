import PipeShell.Userland.Tool.Printing

/-!
# Printing words

`echo` writes its words, and `printf` fills them into a format.
-/

namespace PipeShell.Tool

open Printing

variable (self : Bytes)

/-- Whether a word is an option of `echo`: a dash and some of its letters. -/
def isEchoOption (word : Bytes) : Bool :=
  match word with
  | 0x2D :: b :: letters => (b :: letters).all fun c => c == 0x6E || c == 0x65 || c == 0x45
  | _ => false

/-- Writes its words. Options are `-n` for no line feed and `-e` for escapes. -/
def echo (args : List Bytes) : Program Nat :=
  let options := args.takeWhile isEchoOption
  let letters := options.flatMap List.tail
  let expand := (letters.reverse.find? fun c => c != 0x6E) == some 0x65
  let line := Text.joinWith [0x20] (args.drop options.length)
  let (out, ending) := if expand then Format.unescape (Format.fullEscape true) line
    else (line, .whole)
  let ending : Bytes := if ending != .whole || letters.contains 0x6E then [] else [0x0A]
  Program.finish self (out ++ ending) 0 1

/-- What is wrong with a word that should be a number. -/
def numberFault (word : Bytes) : Format.NumberFault → Bytes
  | .notNumeric => Shown.marked word ++ text ": expected a numeric value"
  | .goesOn => Shown.marked word ++ text ": value not completely converted"
  | .outOfRange => Shown.marked word ++ text ": Numerical result out of range"
  | .afterByte => text "warning: " ++ word.drop 2 ++
      text ": character(s) following character constant have been ignored"

/-- Fills its words into a format. -/
def printf (args : List Bytes) : Program Nat :=
  let args := if args.head? == some (text "--") then args.tail else args
  match args with
  | [] => missingOperand self
  | format :: words => do
    let printed := Format.print (Format.tool Shown.plain) format words
    for (word, fault) in printed.faults do
      Program.warn (self ++ text ": " ++ numberFault word fault)
    if let some word := printed.excess then
      Program.warn (self ++ text ": warning: ignoring excess arguments, starting with " ++
        Shown.marked word)
    let failed := printed.faults.any fun fault => fault.2 != .afterByte
    let code ← match printed.ending with
      | .whole => pure (if failed then 1 else 0)
      | .stopped => pure 0
      | .badDirective shown =>
        refuse self 1 (shown ++ text ": invalid conversion specification")
      | .bad message => refuse self 1 message
      | .unfinished => pure 1
    Program.finish self printed.out code 1

end PipeShell.Tool
