import PipeShell.Settings.Load
import PipeShell.Shell.Editor
import PipeShell.Shell.History
import PipeShell.Shell.LineSource

/-!
# A line editor without a terminal

`Editor.plain` is the line editor of the executable. Its input is no terminal: lines come from
standard input, whose blocks are read ahead, and they are texts. The history is a `History`.
-/

namespace PipeShell

namespace Editor

open Calling (call)

variable {κ : Type}

/-- The text that reports a line that is no text. -/
def notText : Bytes := Bytes.ofString "stream did not contain valid UTF-8"

/-- The terminals on which lines cannot be edited; the prompt is shown as plain text there. -/
def plainTerminals : List Bytes := ["dumb", "cons25", "emacs"].map Bytes.ofString

/-- Whether the environment names such a terminal. -/
def showsPrompt (environment : Environment) : Bool :=
  match environment.text? (Bytes.ofString "TERM") with
  | some term => plainTerminals.contains (term.map Threshold.lowerByte)
  | none => false

/-- Shows a prompt, if it is shown at all. A standard output that is not open will do. -/
def showPrompt (prompt : Bytes) : Work κ (Except Errno Unit) := do
  let environment ← call .environment
  if showsPrompt environment then
    match ← Calling.writeAll Fd.stdout prompt with
    | .ok () => return .ok ()
    | .error e => return if e = .badDescriptor then .ok () else .error e
  else return .ok ()

/-- Takes a line, of which some bytes may have been read ahead. -/
def takeLine (ahead : Bytes) : Work κ (Entry Bytes × Bytes) := do
  let (found, ahead) ← LineSource.nextText ahead
  match found with
  | .line text => return (.line text, ahead)
  | .endOfInput => return (.endOfInput, ahead)
  | .failed e => return (.failed (StartError.systemMessage e), ahead)
  | .notText => return (.failed notText, ahead)

/-- The text of a failure of the history. -/
def historyTrouble : PipeShell.History.Failure → Bytes
  | .system e => StartError.systemMessage e
  | .notText => notText

/-- An operation on the history with its failure as a text. -/
def told (w : Work κ (PipeShell.History × Except PipeShell.History.Failure Unit)) :
    Work κ (PipeShell.History × Except Bytes Unit) := do
  let (history, result) ← w
  return (history, result.mapError historyTrouble)

/-- The line editor of the executable: what it keeps of its input is what it has read ahead. -/
def plain (κ : Type) : Editor κ where
  Reader := Bytes
  History := PipeShell.History
  make _ := return .ok ([], .empty)
  read prompt _ ahead := do
    match ← showPrompt prompt with
    | .ok () => takeLine ahead
    | .error e => return (.failed (StartError.systemMessage e), ahead)
  load path history := told (history.load path)
  add history line := return (history.add line, .ok ())
  save path history := told (history.save path)

end Editor

end PipeShell
