import PipeShell.Shell.Editor
import PipeShell.Shell.Session

/-!
# Interactive sessions

`Interactive.run` is a conversation on the machine: a line editor gives the lines and keeps the
history, which is a file, and answers go to standard output and error. A session ends in the middle,
without its history being saved, if an answer cannot be printed.
-/

namespace PipeShell

/-- What an interactive session remembers. -/
structure Interactive {κ : Type} (e : Editor κ) where
  status : Nat
  reader : e.Reader
  history : e.History

namespace Interactive

open Calling (call)

/-- Work of a session that remembers. -/
abbrev Talk {κ : Type} (e : Editor κ) : Type → Type := StateT (Interactive e) (Work κ)

instance {κ : Type} (e : Editor κ) : Calling (Talk e) where
  call c := fun s => do
    let reply ← call c
    return (reply, s)

/-- Whether the environment asks for colours. -/
def wantsColour (environment : Environment) : Bool :=
  match environment.text? (Bytes.ofString "CLICOLOR_FORCE") with
  | some value => value != Bytes.ofString "0"
  | none => false

variable {U : Userland} {e : Editor (Task U.State)}

/-- Takes the next entry. -/
def ask (prompt : Bytes) : Talk e (Entry Bytes) := do
  let s ← get
  let (entry, reader) ← (e.read prompt s.history s.reader : Work (Task U.State) _)
  set { s with reader }
  return entry

/-- Handles a line, and remembers its status. -/
def handle (r : Runner U) (line : Bytes) : Talk e Flow := do
  let s ← get
  let (flow, status) ← (Session.handle r line s.status : Work (Task U.State) _)
  set { s with status }
  return flow

/-- Changes the history; gives whether that failed. -/
def revise (w : e.History → Work (Task U.State) (e.History × Except Bytes Unit)) :
    Talk e (Except Bytes Unit) := do
  let s ← get
  let (history, result) ← (w s.history : Work (Task U.State) _)
  set { s with history }
  return result

/-- Adds the entries of the history file; that they cannot be loaded is no failure of the
session. -/
def loadHistory (path : Bytes) : Talk e Unit := do
  match ← revise (e.load path) with
  | .ok () => Calling.note .debug (Bytes.ofString "历史记录加载成功")
  | .error reason =>
    Calling.note .warn (Bytes.ofString "无法加载历史记录: " ++ Utf8.scrub path ++ 0x20 :: reason)

/-- Offers a line to the history; that it cannot be added is no failure of the session. -/
def remember (line : Bytes) : Talk e Unit := do
  match ← revise (e.add · line) with
  | .ok () => return ()
  | .error reason => Calling.note .warn (Bytes.ofString "写入历史记录失败: " ++ reason)

/-- Writes the history file; that it cannot be written is no failure of the session. -/
def saveHistory (path : Bytes) : Talk e Unit := do
  match ← revise (e.save path) with
  | .ok () => Calling.note .debug (Bytes.ofString "历史记录保存成功")
  | .error reason => Calling.note .error (Bytes.ofString "保存历史记录失败: " ++ reason)

/-- A session on the machine, whose history is at `path`. -/
def conversation (e : Editor (Task U.State)) (r : Runner U) (path : Bytes) :
    Conversation (Talk e) Bytes where
  loadHistory := loadHistory path
  remember := remember
  saveHistory := saveHistory path
  ask := ask
  handle := handle r
  status := return (← get).status
  say line := (r.executor.console.printLine Fd.stdout line : Work (Task U.State) _)
  complain line := (r.warn line : Work (Task U.State) _)
  note := Calling.note
  explain := id

/-- An interactive session; gives its last status, or why the line editor could not be set up. -/
def run (e : Editor (Task U.State)) (r : Runner U) (settings : Settings) :
    Work (Task U.State) (Except Bytes Nat) := do
  match ← e.make settings.editMode with
  | .error reason => return .error reason
  | .ok (reader, history) =>
    let environment ← call .environment
    let theme := Theme.ofName settings.theme
    let look := theme.style (wantsColour environment)
    let (ending, s) ← (conversation e r settings.historyFile).run theme look r.fuel
      ⟨0, reader, history⟩
    match ending with
    | .unfinished => .stuck
    | _ => return .ok s.status

end Interactive

end PipeShell
