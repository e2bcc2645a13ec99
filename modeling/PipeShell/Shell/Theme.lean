import PipeShell.Text.Utf8

/-!
# Themes

A `Theme` is the prompt and the colours of an interactive session. `Colour.paint` puts a colour
around a text; where colours are off, texts are left alone.
-/

namespace PipeShell

/-- The number of a colour in a terminal's colour sequence. -/
inductive Colour
  | red
  | yellow
  | magenta
  | brightRed
  | brightBlue
  | brightMagenta
  | brightCyan
deriving DecidableEq, Repr

namespace Colour

def code : Colour → Nat
  | red => 31
  | yellow => 33
  | magenta => 35
  | brightRed => 91
  | brightBlue => 94
  | brightMagenta => 95
  | brightCyan => 96

/-- The sequence that turns a colour on. -/
def opening (c : Colour) : Bytes := Bytes.ofString ("\x1b[" ++ toString c.code ++ "m")

/-- The sequence that turns all colours off. -/
def reset : Bytes := Bytes.ofString "\x1b[0m"

/-- The text with the colour turned on again wherever something in it turns colours off. -/
def reopen (c : Colour) : Bytes → Bytes
  | 0x1B :: 0x5B :: 0x30 :: 0x6D :: rest => reset ++ c.opening ++ c.reopen rest
  | b :: rest => b :: c.reopen rest
  | [] => []

/-- The text in a colour. -/
def paint (c : Colour) (text : Bytes) : Bytes := c.opening ++ c.reopen text ++ reset

end Colour

/-- What a text is shown for. -/
inductive Role
  | prompt
  | error
  | warning
  | success
deriving DecidableEq, Repr

/-- The texts of an interactive session. -/
inductive Message
  | prompt
  | welcome
  | exit
  | endOfInput
  | interrupted
  | errorSymbol
  | error
deriving DecidableEq, Repr

namespace Message

/-- The message of a name. -/
def ofName? (name : Bytes) : Option Message :=
  let names : List (String × Message) :=
    [("prompt", prompt), ("welcome", welcome), ("exit", exit), ("eof_signal", endOfInput),
     ("interrupt_signal", interrupted), ("error_symbol", errorSymbol), ("error", error)]
  (names.find? fun n => Bytes.ofString n.1 == name).map (·.2)

end Message

/-- The prompt and the colours of an interactive session. -/
structure Theme where
  prompt : String
  /-- The colour of each role; `none` leaves texts as they are. -/
  colour : Role → Option Colour

namespace Theme

/-- The theme without colours. -/
def plain : Theme := ⟨"$ ", fun _ => none⟩

/-- The theme for dark backgrounds. -/
def dark : Theme where
  prompt := "➤ "
  colour
    | .prompt => some .brightMagenta
    | .error => some .red
    | .warning => some .brightBlue
    | .success => some .magenta

/-- The theme that is used unless another one is named. -/
def standard : Theme where
  prompt := "$ "
  colour
    | .prompt => some .brightCyan
    | .error => some .brightRed
    | .warning => some .yellow
    | .success => some .brightMagenta

/-- The theme of a name; unknown names mean the standard one. -/
def ofName (name : Bytes) : Theme :=
  if name == Bytes.ofString "plain" then plain
  else if name == Bytes.ofString "dark" then dark
  else standard

/-- The text of a message. -/
def message (t : Theme) : Message → Bytes
  | .prompt => Bytes.ofString t.prompt
  | .welcome => Bytes.ofString "tinysh: pipes and redirections, nothing else"
  | .exit => Bytes.ofString "bye"
  | .endOfInput => Bytes.ofString "end of input, bye"
  | .interrupted => Bytes.ofString "interrupted"
  | .errorSymbol => Bytes.ofString "✗"
  | .error => Bytes.ofString "error"

/-- The text of the message of a name; nothing for other names. -/
def messageNamed (t : Theme) (name : Bytes) : Bytes :=
  match Message.ofName? name with
  | some m => t.message m
  | none => []

/-- The text in the colour of a role, if colours are on. -/
def style (t : Theme) (coloured : Bool) (role : Role) (text : Bytes) : Bytes :=
  match coloured, t.colour role with
  | true, some c => c.paint text
  | _, _ => text

end Theme

end PipeShell
