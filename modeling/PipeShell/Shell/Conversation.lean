import PipeShell.Shell.Session
import PipeShell.Shell.Theme

/-!
# Sessions from the first line to the last

How lines get from their source to `Session.handle`, for a session that reads a script (`Batch.run`)
and for one with a user at the other end (`Conversation.run`). Both are given by what they ask of
their surroundings, so they can be run on the machine and looked at on their own.
-/

namespace PipeShell

/-- Why a session ended. -/
inductive Ending (ε : Type)
  /-- A line asked for it. -/
  | left
  | endOfInput
  | failed (e : ε)
  /-- The bound on the number of lines was reached. -/
  | unfinished
deriving DecidableEq, Repr

/-! ## Scripts -/

/-- What a session that reads a script asks of its surroundings. -/
structure Batch (m : Type → Type) (ε : Type) where
  /-- The next line, none at the end. -/
  next : m (Except ε (Option Bytes))
  handle : Bytes → m Flow

namespace Batch

variable {m : Type → Type} [Monad m] {ε : Type}

/-- Handles lines until one of them ends the session or there are no more; at most `fuel` lines. -/
def run (b : Batch m ε) : Nat → m (Ending ε)
  | 0 => return .unfinished
  | fuel + 1 => do
    match ← b.next with
    | .error e => return .failed e
    | .ok none => return .endOfInput
    | .ok (some line) =>
      match ← b.handle line with
      | .leave => return .left
      | .goOn => run b fuel

end Batch

/-! ## Users -/

/-- What a user enters. -/
inductive Entry (ε : Type)
  | line (text : Bytes)
  | endOfInput
  /-- The user gave the line up. -/
  | interrupted
  | failed (e : ε)
deriving DecidableEq, Repr

/-- What a session with a user asks of its surroundings. -/
structure Conversation (m : Type → Type) (ε : Type) where
  loadHistory : m Unit
  /-- Offers a line to the history. -/
  remember : Bytes → m Unit
  saveHistory : m Unit
  /-- Shows a prompt and takes what the user enters. -/
  ask : Bytes → m (Entry ε)
  handle : Bytes → m Flow
  /-- The status of the last line. -/
  status : m Nat
  /-- Shows a line to the user. -/
  say : Bytes → m Unit
  /-- Shows a line to the user where errors are shown. -/
  complain : Bytes → m Unit
  note : Level → Bytes → m Unit
  /-- The text that reports a failure. -/
  explain : ε → Bytes

namespace Conversation

variable {m : Type → Type} [Monad m] {ε : Type}

/-- The line that marks a status other than 0. -/
def statusLine (look : Role → Bytes → Bytes) (theme : Theme) (status : Nat) : Bytes :=
  look .error (theme.message .errorSymbol) ++ 0x20 :: look .error (Bytes.ofNat status)

/-- The line that reports a failure to read. -/
def failureLine (look : Role → Bytes → Bytes) (theme : Theme) (reason : Bytes) : Bytes :=
  look .error (theme.message .error) ++ 0x3A :: 0x20 :: reason

/-- Takes what the user enters until the session ends; at most `fuel` entries. -/
def exchange (c : Conversation m ε) (theme : Theme) (look : Role → Bytes → Bytes) :
    Nat → m (Ending ε)
  | 0 => return .unfinished
  | fuel + 1 => do
    match ← c.ask (look .prompt (theme.message .prompt)) with
    | .line text =>
      if !Text.isBlank (Utf8.chars text) then c.remember text
      match ← c.handle text with
      | .leave =>
        c.say (look .success (theme.message .exit))
        return .left
      | .goOn =>
        let status ← c.status
        if status ≠ 0 then c.complain (statusLine look theme status)
        exchange c theme look fuel
    | .endOfInput =>
      c.note .info (Bytes.ofString "接收到 EOF，退出 tinysh")
      c.say (0x0A :: look .warning (theme.message .endOfInput))
      return .endOfInput
    | .interrupted =>
      c.note .warn (Bytes.ofString "接收到中断信号")
      c.say (look .warning (theme.message .interrupted))
      exchange c theme look fuel
    | .failed e =>
      c.note .error (Bytes.ofString "读取输入失败: " ++ c.explain e)
      c.complain (failureLine look theme (c.explain e))
      return .failed e

/-- A session but for the saving of its history. -/
def converse (c : Conversation m ε) (theme : Theme) (look : Role → Bytes → Bytes) (fuel : Nat) :
    m (Ending ε) := do
  c.loadHistory
  c.say (look .success (theme.message .welcome))
  exchange c theme look fuel

/-- A whole session: the history is loaded before it and saved after it. -/
def run (c : Conversation m ε) (theme : Theme) (look : Role → Bytes → Bytes) (fuel : Nat) :
    m (Ending ε) := do
  let ending ← c.converse theme look fuel
  c.saveHistory
  return ending

end Conversation

end PipeShell
