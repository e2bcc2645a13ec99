import PipeShell.Machine.Calling
import PipeShell.Settings.Basic
import PipeShell.Text.Quoted

/-!
# Loading settings

`Settings.load` lets a loader of variable files set variables, reads the environment, and makes the
directory of the history file. The loader is a parameter, any computation that takes the name of the
file. A mode that cannot be read is found before any directory is made.
-/

namespace PipeShell

/-- Why a session does not start. -/
inductive StartError
  | invalidMode (value : Bytes)
  | system (cause : Errno)
deriving DecidableEq, Repr

namespace StartError

/-- The kind of a system error. -/
def kindOf (e : Errno) : String :=
  let kinds : List (Nat × String) :=
    [(1, "PermissionDenied"), (2, "NotFound"), (4, "Interrupted"), (7, "ArgumentListTooLong"),
     (11, "WouldBlock"), (12, "OutOfMemory"), (13, "PermissionDenied"), (16, "ResourceBusy"),
     (17, "AlreadyExists"), (18, "CrossesDevices"), (20, "NotADirectory"), (21, "IsADirectory"),
     (22, "InvalidInput"), (26, "ExecutableFileBusy"), (27, "FileTooLarge"), (28, "StorageFull"),
     (29, "NotSeekable"), (30, "ReadOnlyFilesystem"), (31, "TooManyLinks"), (32, "BrokenPipe"),
     (35, "Deadlock"), (36, "InvalidFilename"), (38, "Unsupported"), (39, "DirectoryNotEmpty"),
     (40, "FilesystemLoop"), (95, "Unsupported"), (116, "StaleNetworkFileHandle"),
     (122, "QuotaExceeded")]
  (kinds.lookup e.number).getD "Uncategorized"

/-- The kind of an error. -/
def kind : StartError → String
  | invalidMode _ => "InvalidInput"
  | system e => kindOf e

/-- A system error as a text. -/
def systemMessage (e : Errno) : Bytes :=
  Bytes.ofString (e.systemText ++ " (os error " ++ toString e.number ++ ")")

/-- The text that reports an error. -/
def message : StartError → Bytes
  | invalidMode value => Bytes.ofString "TINYSH_REDIRECT_MODE is not an octal mode: " ++ value
  | system e => systemMessage e

/-- The text that reports an error in full. -/
def dump : StartError → Bytes
  | invalidMode value =>
    Bytes.ofString "Custom \x7b kind: InvalidInput, error: " ++
      Text.Quoted.encode (message (invalidMode value)) ++ Bytes.ofString " \x7d"
  | system e =>
    Bytes.ofString ("Os \x7b code: " ++ toString e.number ++ ", kind: " ++ kindOf e ++
      ", message: ") ++ Text.Quoted.encode (Bytes.ofString e.systemText) ++ Bytes.ofString " \x7d"

end StartError

namespace Settings

open Calling

variable {m : Type → Type} [Monad m] [Calling m]

/-! ## Directories -/

/-- Whether a path leads to a directory. -/
def isDirectory (path : Bytes) : m Bool := do
  match ← call (.status path) with
  | .ok status => return status.kind = .directory
  | .error _ => return false

/-- Makes a directory whose parent is there; one that is there already will do. -/
def makeLast (path : Bytes) : m (Except Errno Unit) := do
  match ← call (.makeDirectory path) with
  | .ok () => return .ok ()
  | .error e => if ← isDirectory path then return .ok () else return .error e

/-- Makes a directory and those above it; `fuel` bounds their number. -/
def makeAll : Nat → Bytes → m (Except Errno Unit)
  | 0, _ => return .ok ()
  | fuel + 1, path => do
    if path.isEmpty then return .ok ()
    match ← call (.makeDirectory path) with
    | .ok () => return .ok ()
    | .error e =>
      if e ≠ .noEntry then
        if ← isDirectory path then return .ok () else return .error e
      match Path.parent? path with
      | none => return .error e
      | some parent =>
        match ← makeAll fuel parent with
        | .error e => return .error e
        | .ok () => makeLast path

/-- Makes a directory and those above it. -/
def makeDirectories (path : Bytes) : m (Except Errno Unit) := makeAll (path.length + 1) path

/-! ## The environment -/

/-- The configuration directory that the environment names. -/
def directoryOf (environment : Environment) : Bytes :=
  directoryFor (environment.text? (Bytes.ofString "HOME"))
    ((environment.get? (Bytes.ofString "TMPDIR")).getD (Bytes.ofString "/tmp"))

/-- The settings that the environment makes. -/
def ofEnvironment (environment : Environment) : Except StartError Settings :=
  let setting (name : String) (otherwise : Bytes) : Bytes :=
    (environment.text? (Bytes.ofString name)).getD otherwise
  let base := defaults (directoryOf environment)
  let settings : Settings :=
    { base with
      theme := setting "TINYSH_THEME" base.theme
      editorMode := setting "TINYSH_EDITOR" base.editorMode
      historyFile := setting "TINYSH_HISTORY" base.historyFile
      journalLevel := setting "TINYSH_LOG_LEVEL" base.journalLevel
      journalDirectory := setting "TINYSH_LOG_DIR" base.journalDirectory }
  match environment.text? (Bytes.ofString "TINYSH_REDIRECT_MODE") with
  | none => .ok settings
  | some value =>
    match parseMode (Utf8.chars value) with
    | none => .error (.invalidMode value)
    | some redirectMode => .ok { settings with redirectMode }

/-- The name of the variable file, for a build with assertions or without. -/
def envFileName (debug : Bool) : Bytes :=
  Bytes.ofString (if debug then ".env.development" else ".env")

/-- Loads the settings of a session. -/
def load (loader : Bytes → m Unit) (debug : Bool) : m (Except StartError Settings) := do
  loader (envFileName debug)
  let environment ← call .environment
  match ofEnvironment environment with
  | .error e => return .error e
  | .ok settings =>
    match Path.parent? settings.historyFile with
    | none => return .ok settings
    | some parent =>
      match ← makeDirectories parent with
      | .ok () => return .ok settings
      | .error e => return .error (.system e)

end Settings

end PipeShell
