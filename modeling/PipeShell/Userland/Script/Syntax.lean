import PipeShell.Machine.Descriptor
import PipeShell.Text.Utf8

/-!
# The language of scripts

A script is a sequence of commands (`Command`). A word of a command is a list of pieces (`Piece`):
bytes, which may be quoted, parameters, arithmetic, and commands whose output stands in their place.
A redirection (`Redirect`) puts a file, an open descriptor or a text of the script itself under a
number. Such a text follows the line on which it is asked for, so it is known by a number until it
is read; `Command.withTexts` puts the texts in.
-/

namespace PipeShell.Script

/-- How the value of a parameter is used. -/
inductive ParameterUse
  | value
  | length
  /-- The word stands for a parameter without a value. -/
  | orElse
  /-- The word stands for a parameter with a value. -/
  | ifSet
  /-- Without a value the script ends with the word as its complaint. -/
  | demand
  /-- Without a value the parameter gets the word. -/
  | assign
  /-- The value without an end that matches the word. -/
  | withoutSuffix (longest : Bool)
  /-- The value without a start that matches the word. -/
  | withoutPrefix (longest : Bool)
  /-- Nothing that is known. -/
  | bad
deriving DecidableEq, Repr

/-- What kind of file a redirection opens. -/
inductive RedirectKind
  | input
  | output
  /-- For writing, even where files are protected from that. -/
  | clobber
  | append
  | both
deriving DecidableEq, Repr

mutual

/-- A piece of a word. -/
inductive Piece
  | byte (value : UInt8) (quoted : Bool)
  /-- A quote. It is not part of the word, but makes a word of what is otherwise empty. -/
  | quote
  /-- `orNull` tells whether an empty value counts as none. -/
  | parameter (name : Bytes) (use : ParameterUse) (orNull : Bool) (word : List Piece)
  | arithmetic (expression : List Piece)
  /-- The output of a command. -/
  | output (command : Option Command)

/-- A redirection. -/
inductive Redirect
  | file (fd : Fd) (kind : RedirectKind) (name : List Piece)
  /-- Another descriptor, by its number, or a dash for none. -/
  | copy (fd : Fd) (source : List Piece)
  /-- A text of the script, by its number until it is read. -/
  | text (fd : Fd) (number : Nat) (content : List Piece)

/-- A command. The lines are those on which the commands start. -/
inductive Command
  | simple (line : Nat) (settings words : List (List Piece)) (redirects : List Redirect)
  | pipeline (background : Bool) (stages : List Command)
  | redirected (line : Nat) (body : Command) (redirects : List Redirect)
  | background (line : Nat) (body : Command) (redirects : List Redirect)
  | subshell (line : Nat) (body : Command) (redirects : List Redirect)
  | both (first second : Command)
  | either (first second : Command)
  | sequence (first second : Command)
  | branch (test yes : Command) (no : Option Command)
  | loop (ends : Bool) (test body : Command)
  | each (line : Nat) (name : Bytes) (words : List (List Piece)) (body : Command)
  | choice (line : Nat) (word : List Piece) (arms : List Arm)
  | definition (line : Nat) (name : Bytes) (body : Command)
  | negation (body : Command)

/-- A command and the patterns for which it is chosen. -/
inductive Arm
  | mk (patterns : List (List Piece)) (body : Option Command)

end

/-- A word. -/
abbrev Word := List Piece

/-- The texts that redirections ask for, by their numbers. -/
abbrev Texts := List (Nat × Word)

/-- The redirection with its text put in. -/
def Redirect.withTexts (texts : Texts) : Redirect → Redirect
  | text fd number content => .text fd number ((texts.lookup number).getD content)
  | r => r

mutual

/-- The command with the texts that its redirections ask for. -/
def Command.withTexts (texts : Texts) : Command → Command
  | .simple line settings words redirects =>
    .simple line settings words (redirects.map (·.withTexts texts))
  | .pipeline background stages => .pipeline background (withTextsAll texts stages)
  | .redirected line body redirects =>
    .redirected line (body.withTexts texts) (redirects.map (·.withTexts texts))
  | .background line body redirects =>
    .background line (body.withTexts texts) (redirects.map (·.withTexts texts))
  | .subshell line body redirects =>
    .subshell line (body.withTexts texts) (redirects.map (·.withTexts texts))
  | .both first second => .both (first.withTexts texts) (second.withTexts texts)
  | .either first second => .either (first.withTexts texts) (second.withTexts texts)
  | .sequence first second => .sequence (first.withTexts texts) (second.withTexts texts)
  | .branch test yes no =>
    .branch (test.withTexts texts) (yes.withTexts texts) (withTextsIfAny texts no)
  | .loop ends test body => .loop ends (test.withTexts texts) (body.withTexts texts)
  | .each line name words body => .each line name words (body.withTexts texts)
  | .choice line word arms => .choice line word (withTextsArms texts arms)
  | .definition line name body => .definition line name (body.withTexts texts)
  | .negation body => .negation (body.withTexts texts)

/-- The command, if there is one, with its texts. -/
def withTextsIfAny (texts : Texts) : Option Command → Option Command
  | none => none
  | some command => some (command.withTexts texts)

/-- The commands with their texts. -/
def withTextsAll (texts : Texts) : List Command → List Command
  | [] => []
  | command :: commands => command.withTexts texts :: withTextsAll texts commands

/-- The arms with their texts. -/
def withTextsArms (texts : Texts) : List Arm → List Arm
  | [] => []
  | .mk patterns body :: arms =>
    .mk patterns (withTextsIfAny texts body) :: withTextsArms texts arms

end

/-! ## Names -/

/-- Whether a byte can start the name of a variable. -/
def isNameStart (b : UInt8) : Bool := (0x41 ≤ b && b ≤ 0x5A) || (0x61 ≤ b && b ≤ 0x7A) || b == 0x5F

/-- Whether a byte can stand in the name of a variable. -/
def isNameByte (b : UInt8) : Bool := isNameStart b || (0x30 ≤ b && b ≤ 0x39)

/-- Whether a text can be the name of a variable. -/
def isName (name : Bytes) : Bool := (name.head?.any isNameStart) && name.all isNameByte

/-- The text of a word in which nothing is quoted and nothing stands for something else. -/
def plain? (word : Word) : Option Bytes :=
  word.foldr (fun piece rest => match piece, rest with
    | .byte b false, some rest => some (b :: rest)
    | _, _ => none) (some [])

/-- The byte that a piece is if it is one that is not quoted. -/
def Piece.plainByte? : Piece → Option UInt8
  | byte b false => some b
  | _ => none

/-- Whether a word sets a variable: a name and an equals sign start it. -/
def isSetting (word : Word) : Bool :=
  let name := word.takeWhile fun piece => piece.plainByte?.any isNameByte
  ((name.head?.bind Piece.plainByte?).any isNameStart) &&
    (word[name.length]?.bind Piece.plainByte?) == some 0x3D

end PipeShell.Script
