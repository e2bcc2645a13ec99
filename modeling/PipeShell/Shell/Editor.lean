import PipeShell.Machine.Work
import PipeShell.Settings.Basic
import PipeShell.Shell.Conversation

/-!
# Line editors

An interactive session takes its lines from a line editor, which keeps the history as well. The
editor is a parameter: any `Editor` will do. What it asks of the machine is its own business.
-/

namespace PipeShell

/-- A line editor among processes with states `κ`. An operation that fails gives the text of the
reason. -/
structure Editor (κ : Type) where
  /-- What the editor keeps of its input. -/
  Reader : Type
  /-- The lines entered before, as the editor keeps them. -/
  History : Type
  /-- Sets the editor up. -/
  make : EditMode → Work κ (Except Bytes (Reader × History))
  /-- Shows a prompt and takes what the user enters. Lines are not added to the history by that. -/
  read : (prompt : Bytes) → History → Reader → Work κ (Entry Bytes × Reader)
  /-- Adds the entries of a file to the history. -/
  load : (path : Bytes) → History → Work κ (History × Except Bytes Unit)
  /-- Offers a line to the history. -/
  add : History → (line : Bytes) → Work κ (History × Except Bytes Unit)
  /-- Writes the history to a file. -/
  save : (path : Bytes) → History → Work κ (History × Except Bytes Unit)

end PipeShell
