import PipeShell.Proofs.Shell.Lockstep
import PipeShell.Shell.CommandLine

/-!
# The lines that a session handles

A `Turn` is a line that a session handles, what it was handled in, and what came of it.
`CommandLine.observed` and `Interactive.observed` are the two kinds of sessions with a list of their
turns kept beside them. Keeping it changes nothing: when the list is forgotten, what is left is the
session as it is run (`CommandLine.forget_observed`, `Interactive.forget_observed`).
-/

namespace PipeShell

/-- A line that a session handles. -/
structure Turn (U : Userland) where
  line : Bytes
  /-- The status of the line before. -/
  status : Nat
  machine : Machine (Task U.State)
  outcome : Progress (Task U.State) (Flow × Nat)

/-! ## Work that is observed -/

/-- Work beside which a list is kept. -/
def Observed (κ τ α : Type) : Type := Pid → Machine κ → Progress κ α × List τ

namespace Observed

variable {κ τ α β : Type}

instance : Monad (Observed κ τ) where
  pure a := fun _ m => (.finished a m, [])
  bind w f := fun p m =>
    match w p m with
    | (.finished a m, seen) =>
      let (outcome, more) := f a p m
      (outcome, seen ++ more)
    | (.ended status m, seen) => (.ended status m, seen)
    | (.stuck, seen) => (.stuck, seen)

/-- Work of which nothing is kept. -/
def quiet (w : Work κ α) : Observed κ τ α := fun p m => (w p m, [])

/-- The work without the list. -/
def forget (w : Observed κ τ α) : Work κ α := fun p m => (w p m).1

variable {f : α → Observed κ τ β} {p : Pid} {m n : Machine κ} {a : α}

theorem quiet_bind {w : Work κ α} (h : w p m = .finished a n) :
    ((quiet w : Observed κ τ α) >>= f) p m = f a p n := by
  simp only [bind, quiet, h, List.nil_append]

theorem forget_bind (w : Observed κ τ α) (f : α → Observed κ τ β) :
    (w >>= f).forget = w.forget >>= fun a => (f a).forget := by
  funext p m
  simp only [forget, bind]
  rcases w p m with ⟨_ | _ | _, seen⟩ <;> rfl

end Observed

/-! ## Sessions of another kind -/

namespace Conversation

variable {m : Type → Type} [Monad m] {ε : Type}

/-- What a session with a user does when a line was handled, before it goes on with `next`. -/
def follow (c : Conversation m ε) (theme : Theme) (look : Role → Bytes → Bytes)
    (next : m (Ending ε)) : Flow → m (Ending ε)
  | .leave => do
    c.say (look .success (theme.message .exit))
    return .left
  | .goOn => do
    let status ← c.status
    if status ≠ 0 then c.complain (statusLine look theme status)
    next

/-- What a session with a user does with an entry, before it goes on with `next`. -/
def answer (c : Conversation m ε) (theme : Theme) (look : Role → Bytes → Bytes)
    (next : m (Ending ε)) : Entry ε → m (Ending ε)
  | .line text => do
    if !Text.isBlank (Utf8.chars text) then c.remember text
    let flow ← c.handle text
    c.follow theme look next flow
  | .endOfInput => do
    c.note .info (Bytes.ofString "接收到 EOF，退出 tinysh")
    c.say (0x0A :: look .warning (theme.message .endOfInput))
    return .endOfInput
  | .interrupted => do
    c.note .warn (Bytes.ofString "接收到中断信号")
    c.say (look .warning (theme.message .interrupted))
    next
  | .failed e => do
    c.note .error (Bytes.ofString "读取输入失败: " ++ c.explain e)
    c.complain (failureLine look theme (c.explain e))
    return .failed e

theorem exchange_succ (c : Conversation m ε) (theme : Theme) (look : Role → Bytes → Bytes)
    (fuel : Nat) : c.exchange theme look (fuel + 1) =
      c.ask (look .prompt (theme.message .prompt)) >>=
        c.answer theme look (c.exchange theme look fuel) :=
  rfl

end Conversation

section Map

variable {m n : Type → Type} [Monad m] [Monad n] {ε : Type}

/-- A session that reads a script, its work taken over into another kind of work. -/
def Batch.map (φ : ∀ {α : Type}, m α → n α) (b : Batch m ε) : Batch n ε where
  next := φ b.next
  handle line := φ (b.handle line)

/-- A session with a user, its work taken over into another kind of work. -/
def Conversation.map (φ : ∀ {α : Type}, m α → n α) (c : Conversation m ε) : Conversation n ε where
  loadHistory := φ c.loadHistory
  remember line := φ (c.remember line)
  saveHistory := φ c.saveHistory
  ask prompt := φ (c.ask prompt)
  handle line := φ (c.handle line)
  status := φ c.status
  say line := φ (c.say line)
  complain line := φ (c.complain line)
  note level message := φ (c.note level message)
  explain := c.explain

variable {φ : ∀ {α : Type}, m α → n α} (hpure : ∀ {α : Type} (a : α), φ (pure a) = pure a)
  (hbind : ∀ {α β : Type} (x : m α) (f : α → m β), φ (x >>= f) = φ x >>= fun a => φ (f a))

include hpure hbind

theorem Batch.map_run (b : Batch m ε) (fuel : Nat) : φ (b.run fuel) = (b.map φ).run fuel := by
  induction fuel with
  | zero => exact hpure _
  | succ fuel ih =>
    rw [run, run, hbind]
    refine bind_congr fun found => ?_
    rcases found with e | _ | line
    · exact hpure _
    · exact hpure _
    · rw [hbind]
      refine bind_congr fun flow => ?_
      cases flow with
      | leave => exact hpure _
      | goOn => exact ih

namespace Conversation

theorem map_follow (c : Conversation m ε) (theme : Theme) (look : Role → Bytes → Bytes)
    (next : m (Ending ε)) (flow : Flow) :
    φ (c.follow theme look next flow) = (c.map φ).follow theme look (φ next) flow := by
  cases flow with
  | leave =>
    simp only [follow, hbind, hpure]
    rfl
  | goOn =>
    simp only [follow, hbind]
    refine bind_congr fun status => ?_
    split
    · exact hbind _ _
    · rfl

theorem map_answer (c : Conversation m ε) (theme : Theme) (look : Role → Bytes → Bytes)
    (next : m (Ending ε)) (entry : Entry ε) :
    φ (c.answer theme look next entry) = (c.map φ).answer theme look (φ next) entry := by
  cases entry with
  | line text =>
    have handles : φ (c.handle text >>= c.follow theme look next) =
        (c.map φ).handle text >>= (c.map φ).follow theme look (φ next) := by
      rw [hbind]
      exact bind_congr fun flow => map_follow hpure hbind c theme look next flow
    simp only [answer]
    split
    · rw [hbind, handles]
      rfl
    · exact handles
  | endOfInput | interrupted | failed =>
    simp only [answer, hbind, hpure]
    rfl

theorem map_exchange (c : Conversation m ε) (theme : Theme) (look : Role → Bytes → Bytes)
    (fuel : Nat) : φ (c.exchange theme look fuel) = (c.map φ).exchange theme look fuel := by
  induction fuel with
  | zero => exact hpure _
  | succ fuel ih =>
    rw [exchange_succ, exchange_succ, hbind, ← ih]
    exact bind_congr fun entry => map_answer hpure hbind c theme look _ entry

theorem map_converse (c : Conversation m ε) (theme : Theme) (look : Role → Bytes → Bytes)
    (fuel : Nat) : φ (c.converse theme look fuel) = (c.map φ).converse theme look fuel := by
  simp only [converse, hbind, map_exchange hpure hbind]
  rfl

theorem map_run (c : Conversation m ε) (theme : Theme) (look : Role → Bytes → Bytes)
    (fuel : Nat) : φ (c.run theme look fuel) = (c.map φ).run theme look fuel := by
  simp only [run, hbind, hpure, map_converse hpure hbind]
  rfl

end Conversation

end Map

/-! ## Sessions with their turns -/

variable {U : Userland}

/-- A line is handled, and its turn is kept. -/
def Session.observe (r : Runner U) (line : Bytes) (status : Nat) :
    Observed (Task U.State) (Turn U) (Flow × Nat) := fun p m =>
  let outcome := Session.handle r line status p m
  (outcome, [⟨line, status, m, outcome⟩])

/-- Observed work of a session that remembers, without the list. -/
def Observed.forgetState {κ τ σ α : Type} (w : StateT σ (Observed κ τ) α) : StateT σ (Work κ) α :=
  fun s => (w s).forget

/-- Work of a session that remembers, of which nothing is kept. -/
def Observed.quietState {κ τ σ α : Type} (w : StateT σ (Work κ) α) : StateT σ (Observed κ τ) α :=
  fun s => .quiet (w s)

theorem Observed.quietState_bind {κ τ σ α β : Type} {w : StateT σ (Work κ) α}
    {f : α → StateT σ (Observed κ τ) β} {p : Pid} {m n : Machine κ} {s s' : σ} {a : α}
    (h : w s p m = .finished (a, s') n) : (quietState w >>= f) s p m = f a s' p n :=
  quiet_bind h

theorem Observed.forgetState_bind {κ τ σ α β : Type} (w : StateT σ (Observed κ τ) α)
    (f : α → StateT σ (Observed κ τ) β) :
    forgetState (w >>= f) = forgetState w >>= fun a => forgetState (f a) := by
  funext s
  exact forget_bind (w s) fun found => f found.1 found.2

/-- A session that reads a script, with its turns. -/
def CommandLine.observed (r : Runner U) :
    Batch (StateT Nat (Observed (Task U.State) (Turn U))) Errno where
  next := Observed.quietState (script r).next
  handle line := fun status => Session.observe r line status

/-- A session with a user, with its turns. -/
def Interactive.observed (e : Editor (Task U.State)) (r : Runner U) (path : Bytes) :
    Conversation (StateT (Interactive e) (Observed (Task U.State) (Turn U))) Bytes :=
  { (conversation e r path).map Observed.quietState with
    handle := fun line s => do
      let (flow, status) ← Session.observe r line s.status
      return (flow, { s with status }) }

/-- Without the list of its turns it is the session as it is run. -/
theorem CommandLine.forget_observed (r : Runner U) (fuel : Nat) :
    Observed.forgetState ((observed r).run fuel) = (script r).run fuel :=
  Batch.map_run (fun _ => rfl) Observed.forgetState_bind (observed r) fuel

theorem Interactive.handle_eq {e : Editor (Task U.State)} (r : Runner U) (line : Bytes)
    (s : Interactive e) : handle r line s = Session.handle r line s.status >>= fun found =>
      pure (found.1, { s with status := found.2 }) := by
  funext p m
  simp only [handle, bind, StateT.bind, get, getThe, MonadStateOf.get, StateT.get, liftM,
    monadLift, MonadLift.monadLift, StateT.lift, set, StateT.set, pure, StateT.pure]
  cases Session.handle r line s.status p m <;> rfl

theorem Interactive.forget_observed (e : Editor (Task U.State)) (r : Runner U) (path : Bytes)
    (theme : Theme) (look : Role → Bytes → Bytes) (fuel : Nat) :
    Observed.forgetState ((observed e r path).run theme look fuel) =
      (conversation e r path).run theme look fuel := by
  have hmap : (observed e r path).map Observed.forgetState = conversation e r path := by
    have hhandle (line : Bytes) : Observed.forgetState ((observed e r path).handle line) =
        Interactive.handle r line := by
      funext s
      rw [handle_eq]
      exact Observed.forget_bind (Session.observe r line s.status) _
    exact congrArg (fun handle => { conversation e r path with handle }) (funext hhandle)
  rw [← hmap]
  exact Conversation.map_run (fun _ => rfl) Observed.forgetState_bind _ theme look fuel

end PipeShell
