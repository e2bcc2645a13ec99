import PipeShell.Command.Basic
import PipeShell.Text.Quoted

/-!
# Trees spelled out

The journal records trees and word lists with their constructors and with every word quoted, so
that nothing in them is hidden.
-/

namespace PipeShell

/-- A list of words, quoted. -/
def dumpWords (ws : List Bytes) : Bytes :=
  Bytes.ofString "[" ++ ((ws.map Text.Quoted.encode).intersperse (Bytes.ofString ", ")).flatten ++
    Bytes.ofString "]"

/-- The name of a direction. -/
def Direction.dump : Direction → Bytes
  | input => Bytes.ofString "Input"
  | output => Bytes.ofString "Output"

/-- A tree with its constructors. -/
def Command.dump : Command → Bytes
  | exec argv => Bytes.ofString "Exec \x7b argv: " ++ dumpWords argv ++ Bytes.ofString " \x7d"
  | redirect target file direction =>
    Bytes.ofString "Redirect \x7b target: " ++ target.dump ++ Bytes.ofString ", file: " ++
      Text.Quoted.encode file ++ Bytes.ofString ", direction: " ++ direction.dump ++
      Bytes.ofString " \x7d"
  | pipe l r =>
    Bytes.ofString "Pipe \x7b left: " ++ l.dump ++ Bytes.ofString ", right: " ++ r.dump ++
      Bytes.ofString " \x7d"

end PipeShell
