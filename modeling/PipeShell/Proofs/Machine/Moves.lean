import Mathlib.Tactic.Common
import PipeShell.Machine.Basic

/-!
# What a move does to a process

A `Move` is a step of a process, the interruption of a wait, time that goes by, or the end of a
child taken by a process that is moved from outside. `Machine.make?` is the machine after a move.

A process that is there after a move got there in one of four ways (`Becomes`): by its own action,
by an interruption, by what another one did to it, or because it was born just now. `make?_becomes`
says so once for all moves, so what holds of every process needs to be shown for these four only.
An action concerns the process that takes it (`Acts`); all that others can do to a process is to
send it a signal or to take its end (`Touched`).
-/

namespace PipeShell

/-- What a machine does next. -/
inductive Move
  | step (p : Pid)
  /-- The wait of a process is interrupted. -/
  | interrupt (p : Pid)
  /-- Time goes by. -/
  | elapse
  /-- A process that is moved from outside takes the end of a child. -/
  | collect (p child : Pid)
deriving DecidableEq, Repr

/-- A process after its end. -/
def Process.finished {κ : Type} (proc : Process κ) (status : ExitStatus) : Process κ :=
  { proc with
    context := { proc.context with descriptors := .empty }
    life := .ended status }

/-- A process after a signal that it catches. -/
def Process.told {κ : Type} (proc : Process κ) (signal : Nat) : Process κ :=
  { proc with context := proc.context.withPending signal }

namespace Action

variable {κ κ' : Type}

/-- Whether an action may start a program in place of the process. -/
def isExec : Action κ → Bool
  | exec .. | execFile .. => true
  | _ => false

@[simp] theorem isExec_map (f : κ → κ') (a : Action κ) : (a.map f).isExec = a.isExec := by
  cases a <;> rfl

/-- A state that an action goes on in, or that it starts a process in; the states of programs that
it becomes are not among them. -/
inductive Leads : Action κ → κ → Prop
  | goOn (next : κ) : Leads (.goOn next) next
  | call (c : Call) (next : c.Reply → κ) (reply : c.Reply) : Leads (.call c next) (next reply)
  | child (child : κ) (next : Except Errno Pid → κ) : Leads (.fork child next) child
  | fork (child : κ) (next : Except Errno Pid → κ) (reply : Except Errno Pid) :
    Leads (.fork child next) (next reply)
  | exec (argv : List Bytes) (refused : Errno → κ) (e : Errno) :
    Leads (.exec argv refused) (refused e)
  | execFile (path : Bytes) (argv : List Bytes) (refused : Errno → κ) (e : Errno) :
    Leads (.execFile path argv refused) (refused e)
  | wait (child : Pid) (next : WaitReply → κ) (reply : WaitReply) :
    Leads (.wait child next) (next reply)
  | poll (child : Pid) (next : Option WaitReply → κ) (reply : Option WaitReply) :
    Leads (.poll child next) (next reply)
  | kill (target signal : Nat) (next : Except Errno Unit → κ) (reply : Except Errno Unit) :
    Leads (.kill target signal next) (next reply)

/-- An action leads to the states that it was taken over from. -/
theorem Leads.of_map {f : κ → κ'} {a : Action κ} {s : κ'} (h : (a.map f).Leads s) :
    ∃ s₀, s = f s₀ := by
  cases a <;> cases h <;> exact ⟨_, rfl⟩

end Action

namespace Machine

variable {κ : Type} {d : Dynamics κ} {m m' : Machine κ} {mv : Move} {p q x child : Pid}
  {proc proc' : Process κ} {state : κ}

/-! ## Moves -/

/-- The machine after a process that is moved from outside took the end of a child. -/
def collect? (d : Dynamics κ) (m : Machine κ) (p child : Pid) : Option (Machine κ) :=
  match m.active? p with
  | some (_, state) =>
    match d.action state with
    | .rest => (m.await p child).map (·.2)
    | _ => none
  | none => none

/-- The machine after a move; `none` if it cannot be made. -/
def make? (d : Dynamics κ) (m : Machine κ) : Move → Option (Machine κ)
  | .step p => m.step d p
  | .interrupt p => m.interrupt d p
  | .elapse => m.elapse?
  | .collect p child => m.collect? d p child

/-- Who asks for the end of whom in a move. -/
def asking? (d : Dynamics κ) (m : Machine κ) : Move → Option (Pid × Pid)
  | .step p =>
    match m.active? p with
    | some (_, state) =>
      match d.action state with
      | .wait child _ | .poll child _ => some (p, child)
      | _ => none
    | none => none
  | .collect p child => some (p, child)
  | _ => none

/-- Who takes the end of whom in a move. -/
def reaping? (d : Dynamics κ) (m : Machine κ) (mv : Move) : Option (Pid × Pid) :=
  (m.asking? d mv).filter fun (p, child) =>
    match m.await p child with
    | some (.ended _, _) => true
    | _ => false

/-! ## Ways to become -/

/-- What an action makes of the process that takes it, and of the store. -/
inductive Acts (d : Dynamics κ) (m : Machine κ) (p : Pid) (proc : Process κ) :
    Action κ → Process κ → Store → Prop
  | goOn (next : κ) : Acts d m p proc (.goOn next) { proc with life := .active next } m.store
  | halted (code : Nat) :
    Acts d m p proc (.halt code) (proc.finished (.exited (code % 256))) m.store
  | done {c : Call} {next : c.Reply → κ} {reply : c.Reply} {store : Store} {context : Context}
    (h : c.perform m.store proc.context m.held (Pid.number p) (m.parentNumber proc) =
      .done reply store context) :
    Acts d m p proc (.call c next) ⟨proc.parent, context, .active (next reply)⟩ store
  | underway {c : Call} {next : c.Reply → κ} {store : Store} {context : Context}
    (h : c.perform m.store proc.context m.held (Pid.number p) (m.parentNumber proc) =
      .underway store context) :
    Acts d m p proc (.call c next) { proc with context } store
  | killed {c : Call} {next : c.Reply → κ} {signal : Nat}
    (h : c.perform m.store proc.context m.held (Pid.number p) (m.parentNumber proc) =
      .killed signal) :
    Acts d m p proc (.call c next) (proc.finished (.signaled signal)) m.store
  | forked (child : κ) (next : Except Errno Pid → κ) (h : m.refusal? = none) :
    Acts d m p proc (.fork child next)
      { proc with life := .active (next (.ok m.processes.length)) } m.store
  | stranded (child : κ) (next : Except Errno Pid → κ) {e : Errno} (h : m.refusal? = some e) :
    Acts d m p proc (.fork child next) { proc with life := .active (next (.error e)) } m.store
  | refused (argv : List Bytes) (refused : Errno → κ) (e : Errno) :
    Acts d m p proc (.exec argv refused) { proc with life := .active (refused e) } m.store
  | became (argv : List Bytes) (refused : Errno → κ) (image : Image) :
    Acts d m p proc (.exec argv refused)
      ⟨proc.parent, proc.context.onExec, .active (d.start image)⟩ m.store
  | refusedFile (path : Bytes) (argv : List Bytes) (refused : Errno → κ) (e : Errno) :
    Acts d m p proc (.execFile path argv refused) { proc with life := .active (refused e) } m.store
  | becameFile (path : Bytes) (argv : List Bytes) (refused : Errno → κ) (image : Image) :
    Acts d m p proc (.execFile path argv refused)
      ⟨proc.parent, proc.context.onExec, .active (d.start image)⟩ m.store
  | waited {child : Pid} (next : WaitReply → κ) {reply : WaitReply} {m' : Machine κ}
    (h : m.await p child = some (reply, m')) :
    Acts d m p proc (.wait child next) { proc with life := .active (next reply) } m.store
  | interrupted {child : Pid} (next : WaitReply → κ) (h : m.await p child = none) :
    Acts d m p proc (.wait child next) { proc with life := .active (next .interrupted) } m.store
  | polled (child : Pid) (next : Option WaitReply → κ) (reply : Option WaitReply) :
    Acts d m p proc (.poll child next) { proc with life := .active (next reply) } m.store
  | sent (target signal : Nat) (next : Except Errno Unit → κ) (reply : Except Errno Unit) :
    Acts d m p proc (.kill target signal next) { proc with life := .active (next reply) } m.store
  | sentSelf (target signal : Nat) (next : Except Errno Unit → κ) (reply : Except Errno Unit) :
    Acts d m p proc (.kill target signal next)
      { proc.told signal with life := .active (next reply) } m.store
  | endedSelf (target signal : Nat) (next : Except Errno Unit → κ) :
    Acts d m p proc (.kill target signal next) (proc.finished (.signaled signal)) m.store

/-- What a process becomes by what others do. -/
inductive Touched (d : Dynamics κ) (m : Machine κ) (mv : Move) (x : Pid) (proc : Process κ) :
    Process κ → Prop
  | unchanged : Touched d m mv x proc proc
  | told (signal : Nat) : Touched d m mv x proc (proc.told signal)
  | killed (state : κ) (h : proc.life = .active state) (signal : Nat) :
    Touched d m mv x proc (proc.finished (.signaled signal))
  | reaped (status : ExitStatus) (h : proc.life = .ended status)
    (hr : m.reaping? d mv = some (proc.parent, x)) :
    Touched d m mv x proc { proc with life := .reaped }

/-- How process `x` came to be as it is after a move that left behind a store. -/
inductive Becomes (d : Dynamics κ) (m : Machine κ) (mv : Move) (store : Store) (x : Pid) :
    Process κ → Prop
  | acted {proc proc' : Process κ} {state : κ} (hmv : mv = .step x)
    (hx : m.processes[x]? = some proc) (hlife : proc.life = .active state)
    (h : Acts d m x proc (d.action state) proc' store) : Becomes d m mv store x proc'
  | interrupted {proc : Process κ} {state : κ} (hmv : mv = .interrupt x)
    (hx : m.processes[x]? = some proc) (hlife : proc.life = .active state) (child : Pid)
    (next : WaitReply → κ) (h : d.action state = .wait child next) :
    Becomes d m mv store x { proc with life := .active (next .interrupted) }
  | touched {proc proc' : Process κ} (hx : m.processes[x]? = some proc)
    (hstep : mv ≠ .step x) (h : Touched d m mv x proc proc') : Becomes d m mv store x proc'
  | born {p : Pid} {proc : Process κ} {state : κ} (hmv : mv = .step p)
    (hp : m.processes[p]? = some proc) (hlife : proc.life = .active state)
    (hx : x = m.processes.length) (child : κ) (next : Except Errno Pid → κ)
    (h : d.action state = .fork child next) (hgranted : m.refusal? = none) :
    Becomes d m mv store x ⟨p, { proc.context with pending := [] }, .active child⟩

/-- What a process becomes by a call that does not end it. -/
theorem Acts.call_cases {call : Call} {next : call.Reply → κ} {store : Store}
    (h : Acts d m p proc (.call call next) proc' store) (hlife : proc'.life = .active state) :
    (∃ reply context, call.perform m.store proc.context m.held (Pid.number p)
        (m.parentNumber proc) = .done reply store context ∧ proc'.context = context ∧
        state = next reply) ∨
      ∃ context, call.perform m.store proc.context m.held (Pid.number p)
        (m.parentNumber proc) = .underway store context ∧ proc'.context = context ∧
        proc.life = .active state := by
  cases h with
  | done hc =>
    cases hlife
    exact Or.inl ⟨_, _, hc, rfl, rfl⟩
  | underway hc => exact Or.inr ⟨_, hc, rfl, hlife⟩
  | killed => cases hlife

theorem Acts.of_done {call : Call} {next : call.Reply → κ} {store s : Store} {reply : call.Reply}
    {context : Context} (h : Acts d m p proc (.call call next) proc' store)
    (hc : call.perform m.store proc.context m.held (Pid.number p) (m.parentNumber proc) =
      .done reply s context) :
    store = s ∧ proc' = ⟨proc.parent, context, .active (next reply)⟩ := by
  cases h with
  | done hc' =>
    cases hc.symm.trans hc'
    exact ⟨rfl, rfl⟩
  | underway hc' => cases hc.symm.trans hc'
  | killed hc' => cases hc.symm.trans hc'

theorem Acts.of_underway {call : Call} {next : call.Reply → κ} {store s : Store}
    {context : Context} (h : Acts d m p proc (.call call next) proc' store)
    (hc : call.perform m.store proc.context m.held (Pid.number p) (m.parentNumber proc) =
      .underway s context) :
    store = s ∧ proc' = { proc with context } := by
  cases h with
  | done hc' => cases hc.symm.trans hc'
  | underway hc' =>
    cases hc.symm.trans hc'
    exact ⟨rfl, rfl⟩
  | killed hc' => cases hc.symm.trans hc'

/-- A process goes on after waiting as it was. -/
theorem Acts.of_wait {next : WaitReply → κ} {store : Store}
    (h : Acts d m p proc (.wait child next) proc' store) :
    ∃ reply, proc' = { proc with life := .active (next reply) } := by
  cases h with
  | waited _ _ => exact ⟨_, rfl⟩
  | interrupted => exact ⟨.interrupted, rfl⟩

/-- A process that signals somebody goes on with its descriptors, unless the signal ends it. -/
theorem Acts.of_kill {target signal : Nat} {next : Except Errno Unit → κ} {store : Store}
    (h : Acts d m p proc (.kill target signal next) proc' store)
    (hlife : proc'.life = .active state) :
    (∃ reply, state = next reply) ∧ proc'.context.descriptors = proc.context.descriptors ∧
      proc'.context.limit = proc.context.limit := by
  cases h with
  | sent _ _ _ reply | sentSelf _ _ _ reply =>
    cases hlife
    exact ⟨⟨reply, rfl⟩, rfl, rfl⟩
  | endedSelf => cases hlife

/-- A process goes on where its action leads it, or stays where it is, or becomes a program. -/
theorem Acts.leads {a : Action κ} {store : Store} (h : Acts d m p proc a proc' store)
    (hlife' : proc'.life = .active state) :
    proc.life = .active state ∨ a.Leads state ∨ a.isExec ∧ ∃ image, state = d.start image := by
  cases h with
  | underway => exact Or.inl hlife'
  | halted | killed | endedSelf => cases hlife'
  | became | becameFile =>
    cases hlife'
    exact Or.inr (Or.inr ⟨rfl, _, rfl⟩)
  | _ =>
    cases hlife'
    exact Or.inr (Or.inl (by constructor))

/-! ## Processes after a change -/

theorem active?_eq_some :
    m.active? p = some (proc, state) ↔ m.processes[p]? = some proc ∧ proc.life = .active state := by
  unfold active?
  constructor
  · intro h
    split at h
    · next hp =>
      split at h
      · next hlife =>
        obtain ⟨rfl, rfl⟩ := Prod.mk.inj (Option.some.inj h)
        exact ⟨hp, hlife⟩
      · cases h
    · cases h
  · rintro ⟨hp, hlife⟩
    simp [hp, hlife]

/-- Replacing a process changes that process only. -/
theorem getElem?_setProcess (hp : m.processes[p]? = some proc) (proc' : Process κ) (x : Pid) :
    (m.setProcess p proc').processes[x]? = if x = p then some proc' else m.processes[x]? := by
  have hlt := (List.getElem?_eq_some_iff.mp hp).1
  by_cases h : x = p
  · rw [if_pos h, h, setProcess, List.getElem?_set_self hlt]
  · rw [if_neg h, setProcess, List.getElem?_set_ne (Ne.symm h)]

theorem setProcess_self (hp : m.processes[p]? = some proc) : m.setProcess p proc = m := by
  obtain ⟨hlt, rfl⟩ := List.getElem?_eq_some_iff.mp hp
  simp [setProcess]

theorem setProcess_setProcess (proc proc' : Process κ) :
    (m.setProcess p proc).setProcess p proc' = m.setProcess p proc' := by
  simp [setProcess]

@[simp] theorem length_setProcess (proc : Process κ) :
    (m.setProcess p proc).processes.length = m.processes.length := by
  simp [setProcess]

theorem finish_eq (hp : m.processes[p]? = some proc) (status : ExitStatus) :
    m.finish p status = m.setProcess p (proc.finished status) := by
  simp only [finish, hp]
  rfl

theorem resume_eq (hp : m.processes[p]? = some proc) (hlife : proc.life = .active state)
    (next : κ) : m.resume p next = m.setProcess p { proc with life := .active next } := by
  obtain ⟨parent, context, life⟩ := proc
  subst hlife
  simp only [resume, hp]

theorem resume_of_ended (hp : m.processes[p]? = some proc)
    (hlife : ∀ state, proc.life ≠ .active state) (next : κ) : m.resume p next = m := by
  obtain ⟨parent, context, life⟩ := proc
  unfold resume
  split
  · next hp' =>
    rw [hp] at hp'
    cases hp'
    exact absurd rfl (hlife _)
  · rfl

/-- Waiting either says at once that there is no such child, or takes the end of a child. -/
theorem await_cases {reply : WaitReply} (h : m.await p child = some (reply, m')) :
    (m' = m ∧ reply = .failed .noChild ∧
      ∀ proc, m.processes[child]? = some proc → proc.parent = p → proc.life = .reaped) ∨
    ∃ proc status, m.processes[child]? = some proc ∧ proc.parent = p ∧
      proc.life = .ended status ∧ reply = .ended status ∧
      m' = m.setProcess child { proc with life := .reaped } := by
  unfold await at h
  split at h
  · next proc hproc =>
    split at h
    · next hparent =>
      cases h
      refine Or.inl ⟨rfl, rfl, fun proc' hproc' hparent' => ?_⟩
      rw [hproc] at hproc'
      cases hproc'
      exact absurd hparent' hparent
    · next hparent =>
      rw [not_not] at hparent
      split at h
      · cases h
      · next status hlife =>
        cases h
        exact Or.inr ⟨proc, status, hproc, hparent, hlife, rfl, rfl⟩
      · next hlife =>
        cases h
        refine Or.inl ⟨rfl, rfl, fun proc' hproc' _ => ?_⟩
        rw [hproc] at hproc'
        cases hproc'
        exact hlife
  · next hnone =>
    cases h
    exact Or.inl ⟨rfl, rfl, fun proc' hproc' _ => by simp [hnone] at hproc'⟩

/-- Waiting for a child leaves a process that runs as it is. -/
theorem await_other {reply : WaitReply} (hx : m.processes[x]? = some proc)
    (hlife : proc.life = .active state) (h : m.await p child = some (reply, m')) :
    m'.processes[x]? = some proc ∧ m'.store = m.store := by
  rcases await_cases h with ⟨rfl, -, -⟩ | ⟨proc', status, hchild, -, hended, -, rfl⟩
  · exact ⟨hx, rfl⟩
  · refine ⟨?_, rfl⟩
    rw [getElem?_setProcess hchild]
    split
    · next heq =>
      subst heq
      obtain rfl := Option.some.inj (hx.symm.trans hchild)
      rw [hlife] at hended
      cases hended
    · exact hx

/-- A signal leaves the machine as it is, or is told to its target, or ends it. -/
theorem deliver_cases {signal : Nat} (h : m.deliver p signal = .ok m') :
    m' = m ∨ ∃ proc state, m.processes[p]? = some proc ∧ proc.life = .active state ∧
      (m' = m.setProcess p (proc.told signal) ∨
        m' = m.setProcess p (proc.finished (.signaled signal))) := by
  unfold deliver at h
  split at h
  · next proc hproc =>
    split at h
    · next state hlife =>
      split at h
      · cases h
      · split at h
        · cases h
          exact Or.inl rfl
        · split at h
          · cases h
            split
            · exact Or.inr ⟨proc, state, hproc, hlife, Or.inr (finish_eq hproc _)⟩
            · exact Or.inl rfl
          · cases h
            exact Or.inl rfl
          · cases h
            exact Or.inr ⟨proc, state, hproc, hlife, Or.inl rfl⟩
    · cases h
      exact Or.inl rfl
    · cases h
  · cases h

/-! ## Actions -/

theorem reaping?_eq_of_await {mv : Move} {status : ExitStatus}
    (hmv : m.asking? d mv = some (p, child)) (h : m.await p child = some (.ended status, m')) :
    m.reaping? d mv = some (p, child) := by
  simp [reaping?, hmv, h]

/-- Waiting may take the end of a child and does nothing else to anybody. -/
theorem await_touched {reply : WaitReply} (hmv : m.asking? d mv = some (p, child))
    (h : m.await p child = some (reply, m')) :
    m'.store = m.store ∧ m'.processes.length = m.processes.length ∧
      ∀ x proc, m.processes[x]? = some proc →
        ∃ proc', m'.processes[x]? = some proc' ∧ Touched d m mv x proc proc' := by
  rcases await_cases h with ⟨rfl, -, -⟩ | ⟨proc, status, hchild, hparent, hended, rfl, rfl⟩
  · exact ⟨rfl, rfl, fun x proc hx => ⟨proc, hx, .unchanged⟩⟩
  · refine ⟨rfl, length_setProcess _, fun x procx hx => ?_⟩
    rw [getElem?_setProcess hchild]
    split
    · next heq =>
      subst heq
      obtain rfl := Option.some.inj (hx.symm.trans hchild)
      subst hparent
      exact ⟨_, rfl, .reaped status hended (reaping?_eq_of_await hmv h)⟩
    · exact ⟨procx, hx, .unchanged⟩

/-- The processes after an action: the one that takes it is replaced, others may be touched, and
one may be born. -/
inductive Effect (d : Dynamics κ) (m : Machine κ) (p : Pid) (proc : Process κ) (a : Action κ)
    (m' : Machine κ) : Prop
  | mk (proc' : Process κ) (others born : List (Process κ))
    (processes : m'.processes = others.set p proc' ++ born)
    (length : others.length = m.processes.length) (acts : Acts d m p proc a proc' m'.store)
    (touched : ∀ x procx, x ≠ p → m.processes[x]? = some procx →
      ∃ procx', others[x]? = some procx' ∧ Touched d m (.step p) x procx procx')
    (born : born = [] ∨ ∃ child next, a = .fork child next ∧ m.refusal? = none ∧
      born = [⟨p, { proc.context with pending := [] }, .active child⟩])

/-- The process that takes an action is replaced after what the action did to the others. -/
theorem Effect.beside {a : Action κ} {others : Machine κ}
    (hlength : others.processes.length = m.processes.length)
    (hacts : Acts d m p proc a proc' others.store)
    (htouched : ∀ x procx, x ≠ p → m.processes[x]? = some procx →
      ∃ procx', others.processes[x]? = some procx' ∧ Touched d m (.step p) x procx procx') :
    Effect d m p proc a (others.setProcess p proc') :=
  .mk proc' others.processes [] (List.append_nil _).symm hlength hacts htouched (Or.inl rfl)

/-- An action that concerns nobody else replaces the process that takes it. -/
theorem Effect.alone {a : Action κ} {store : Store} (hacts : Acts d m p proc a proc' store) :
    Effect d m p proc a ({ m with store }.setProcess p proc') :=
  .beside rfl hacts fun _ procx _ hx => ⟨procx, hx, .unchanged⟩

/-- A process that waits or polls goes on after what it has taken. -/
theorem Effect.of_await {a : Action κ} {next : κ} {reply : WaitReply}
    (hp : m.processes[p]? = some proc) (hlife : proc.life = .active state)
    (hasking : m.asking? d (.step p) = some (p, child))
    (hawait : m.await p child = some (reply, m'))
    (hacts : Acts d m p proc a { proc with life := .active next } m.store) :
    Effect d m p proc a (m'.resume p next) := by
  obtain ⟨hstore, hlength, htouched⟩ := await_touched hasking hawait
  rw [resume_eq (await_other hp hlife hawait).1 hlife]
  exact .beside hlength (hstore ▸ hacts) fun x procx _ hx => htouched x procx hx

/-- A process that sends a signal goes on after what the signal did, unless it has ended itself. -/
theorem Effect.of_deliver {target signal : Nat} {next : Except Errno Unit → κ}
    (hp : m.processes[p]? = some proc) (hlife : proc.life = .active state)
    (hq : m.deliver q signal = .ok m') :
    Effect d m p proc (.kill target signal next) (m'.resume p (next (.ok ()))) := by
  rcases deliver_cases hq with rfl | ⟨procq, stateq, hprocq, hlifeq, hm'⟩
  · rw [resume_eq hp hlife]
    exact .alone (.sent target signal next (.ok ()))
  by_cases hqp : q = p
  · subst hqp
    obtain rfl := Option.some.inj (hp.symm.trans hprocq)
    have here (proc' : Process κ) : (m.setProcess q proc').processes[q]? = some proc' := by
      rw [getElem?_setProcess hprocq, if_pos rfl]
    rcases hm' with rfl | rfl
    · rw [resume_eq (here (proc.told signal)) hlife, setProcess_setProcess]
      exact .alone (.sentSelf target signal next (.ok ()))
    · rw [resume_of_ended (here (proc.finished (.signaled signal))) (by simp [Process.finished])]
      exact .alone (.endedSelf target signal next)
  · have hp' (procq' : Process κ) : (m.setProcess q procq').processes[p]? = some proc := by
      rw [getElem?_setProcess hprocq, if_neg (Ne.symm hqp), hp]
    have sent {procq' : Process κ} (ht : Touched d m (.step p) q procq procq') :
        Effect d m p proc (.kill target signal next)
          ((m.setProcess q procq').resume p (next (.ok ()))) := by
      rw [resume_eq (hp' procq') hlife]
      refine .beside (length_setProcess _) (.sent target signal next (.ok ()))
        fun x procx _ hx => ?_
      rw [getElem?_setProcess hprocq]
      split
      · next heq =>
        subst heq
        obtain rfl := Option.some.inj (hx.symm.trans hprocq)
        exact ⟨_, rfl, ht⟩
      · exact ⟨procx, hx, .unchanged⟩
    rcases hm' with rfl | rfl
    · exact sent (.told signal)
    · exact sent (.killed stateq hlifeq signal)

/-- Every action that can be taken has such an effect. -/
theorem effect_of_act {a : Action κ} (hp : m.processes[p]? = some proc)
    (hlife : proc.life = .active state) (ha : d.action state = a) (h : m.act d p proc a = some m') :
    Effect d m p proc a m' := by
  have hactive := active?_eq_some.mpr ⟨hp, hlife⟩
  cases a with
  | rest => cases h
  | goOn next =>
    cases h
    exact .alone (.goOn next)
  | halt code =>
    cases h
    rw [finish_eq hp]
    exact .alone (.halted code)
  | call c next =>
    simp only [act] at h
    split at h
    · cases h
    · next signal hc =>
      cases h
      rw [finish_eq hp]
      exact .alone (.killed hc)
    · next store context hc =>
      cases h
      exact .alone (.underway hc)
    · next reply store context hc =>
      cases h
      exact .alone (.done hc)
  | fork childState next =>
    simp only [act] at h
    split at h
    · next e hrefused =>
      cases h
      exact .mk _ m.processes [] (List.append_nil _).symm rfl (.stranded childState next hrefused)
        (fun x procx _ hx => ⟨procx, hx, .unchanged⟩) (Or.inl rfl)
    · next hgranted =>
      cases h
      exact .mk _ m.processes _ rfl rfl (.forked childState next hgranted)
        (fun x procx _ hx => ⟨procx, hx, .unchanged⟩)
        (Or.inr ⟨childState, next, rfl, hgranted, rfl⟩)
  | exec argv refused =>
    simp only [act, Option.some.injEq] at h
    subst h
    unfold become
    split
    · exact .alone (.refused argv refused _)
    · exact .alone (.became argv refused _)
  | execFile path argv refused =>
    simp only [act, Option.some.injEq] at h
    subst h
    unfold become
    split
    · exact .alone (.refusedFile path argv refused _)
    · exact .alone (.becameFile path argv refused _)
  | wait child next =>
    have hasking : m.asking? d (.step p) = some (p, child) := by simp [asking?, hactive, ha]
    simp only [act] at h
    split at h
    · next hawait =>
      split at h
      · cases h
      · cases h
        rw [resume_eq hp hlife]
        exact .alone (.interrupted next hawait)
    · next reply m₁ hawait =>
      cases h
      exact .of_await hp hlife hasking hawait (.waited next hawait)
  | poll child next =>
    have hasking : m.asking? d (.step p) = some (p, child) := by simp [asking?, hactive, ha]
    simp only [act] at h
    split at h
    · cases h
      rw [resume_eq hp hlife]
      exact .alone (.polled child next none)
    · next reply m₁ hawait =>
      cases h
      exact .of_await hp hlife hasking hawait (.polled child next (some reply))
  | kill target signal next =>
    simp only [act] at h
    split at h
    · cases h
      rw [resume_eq hp hlife]
      exact .alone (.sent target signal next _)
    · next m₁ hd =>
      cases h
      obtain ⟨q, hq⟩ : ∃ q, m.deliver q signal = .ok m₁ := by
        cases hq : Pid.ofNumber? target with
        | none => simp [hq] at hd
        | some q => exact ⟨q, by simpa [hq] using hd⟩
      exact .of_deliver hp hlife hq

/-- What the four kinds of moves are. -/
theorem make?_cases (h : m.make? d mv = some m') :
    (∃ p proc state, mv = .step p ∧ m.processes[p]? = some proc ∧ proc.life = .active state ∧
        m.act d p proc (d.action state) = some m') ∨
      (∃ p proc state child next, mv = .interrupt p ∧ m.processes[p]? = some proc ∧
        proc.life = .active state ∧ d.action state = .wait child next ∧
        m' = m.setProcess p { proc with life := .active (next .interrupted) }) ∨
      (∃ clock, mv = .elapse ∧ m' = { m with store := { m.store with clock } }) ∨
      ∃ p child reply, mv = .collect p child ∧ m.await p child = some (reply, m') := by
  cases mv with
  | step p =>
    simp only [make?, step] at h
    split at h
    · next proc state hactive =>
      obtain ⟨hp, hlife⟩ := active?_eq_some.mp hactive
      exact Or.inl ⟨p, proc, state, rfl, hp, hlife, h⟩
    · cases h
  | interrupt p =>
    simp only [make?, interrupt] at h
    split at h
    · next proc state hactive =>
      obtain ⟨hp, hlife⟩ := active?_eq_some.mp hactive
      split at h
      · next child next ha =>
        cases h
        exact Or.inr (Or.inl ⟨p, proc, state, child, next, rfl, hp, hlife, ha,
          resume_eq hp hlife _⟩)
      · cases h
    · cases h
  | elapse =>
    obtain ⟨clock, -, rfl⟩ := Option.map_eq_some_iff.mp h
    exact Or.inr (Or.inr (Or.inl ⟨clock, rfl, rfl⟩))
  | collect p child =>
    simp only [make?, collect?] at h
    split at h
    · split at h
      · obtain ⟨⟨reply, m₁⟩, hawait, rfl⟩ := Option.map_eq_some_iff.mp h
        exact Or.inr (Or.inr (Or.inr ⟨p, child, reply, rfl, hawait⟩))
      · cases h
    · cases h

/-- A process that is there after a move became what it is in one of four ways. -/
theorem make?_becomes (h : m.make? d mv = some m') (hx : m'.processes[x]? = some proc') :
    Becomes d m mv m'.store x proc' := by
  rcases make?_cases h with ⟨p, proc, state, rfl, hp, hlife, hact⟩ |
    ⟨p, proc, state, child, next, rfl, hp, hlife, ha, rfl⟩ | ⟨clock, rfl, rfl⟩ |
    ⟨p, child, reply, rfl, hawait⟩
  · obtain ⟨procp', others, born, hm', hlength, hacts, htouched, hborn⟩ :=
      effect_of_act hp hlife rfl hact
    have hlt := (List.getElem?_eq_some_iff.mp hp).1
    rw [hm', List.getElem?_append, List.length_set, hlength] at hx
    split at hx
    · next hxlt =>
      by_cases hxp : x = p
      · subst hxp
        rw [List.getElem?_set_self (by omega)] at hx
        cases hx
        exact .acted rfl hp hlife hacts
      · have hproc := List.getElem?_eq_getElem hxlt
        obtain ⟨procx', hx', ht⟩ := htouched x _ hxp hproc
        rw [List.getElem?_set_ne (Ne.symm hxp), hx'] at hx
        cases hx
        exact .touched hproc (by simpa using Ne.symm hxp) ht
    · next hxlt =>
      rcases hborn with rfl | ⟨child, next, ha, hgranted, rfl⟩
      · simp at hx
      · obtain ⟨hx0, hx⟩ := List.getElem?_eq_some_iff.mp hx
        have hle := Nat.sub_eq_zero_iff_le.mp (Nat.lt_one_iff.mp hx0)
        obtain rfl : x = m.processes.length := Nat.le_antisymm hle (Nat.le_of_not_lt hxlt)
        simp only [Nat.sub_self, List.getElem_cons_zero] at hx
        subst hx
        exact .born rfl hp hlife rfl child next ha hgranted
  · rw [getElem?_setProcess hp] at hx
    split at hx
    · next hxp =>
      cases hx
      subst hxp
      exact .interrupted rfl hp hlife child next ha
    · exact .touched hx (by simp) .unchanged
  · exact .touched hx (by simp) .unchanged
  · have hasking : m.asking? d (.collect p child) = some (p, child) := rfl
    obtain ⟨-, hlength, htouched⟩ := await_touched hasking hawait
    have hxlt := (List.getElem?_eq_some_iff.mp hx).1
    rw [hlength] at hxlt
    have hproc := List.getElem?_eq_getElem hxlt
    obtain ⟨procx', hx', ht⟩ := htouched x _ hproc
    obtain rfl := Option.some.inj (hx.symm.trans hx')
    exact .touched hproc (by simp) ht

/-- No process is ever forgotten. -/
theorem length_le_of_make? (h : m.make? d mv = some m') :
    m.processes.length ≤ m'.processes.length := by
  rcases make?_cases h with ⟨p, proc, state, rfl, hp, hlife, hact⟩ |
    ⟨p, proc, state, child, next, rfl, hp, hlife, ha, rfl⟩ | ⟨clock, rfl, rfl⟩ |
    ⟨p, child, reply, rfl, hawait⟩
  · obtain ⟨proc', others, born, hm', hlength, -⟩ := effect_of_act hp hlife rfl hact
    simp [hm', hlength]
  · exact Nat.le_of_eq (length_setProcess _).symm
  · exact Nat.le_refl _
  · have hasking : m.asking? d (.collect p child) = some (p, child) := rfl
    exact Nat.le_of_eq (await_touched hasking hawait).2.1.symm

theorem exists_of_make? (h : m.make? d mv = some m') (hx : m.processes[x]? = some proc) :
    ∃ proc', m'.processes[x]? = some proc' := by
  have hlt := (List.getElem?_eq_some_iff.mp hx).1
  exact ⟨_, List.getElem?_eq_getElem (Nat.lt_of_lt_of_le hlt (length_le_of_make? h))⟩

/-- What processes share is changed by actions only, the time apart. -/
theorem store_of_make? (h : m.make? d mv = some m') :
    (∃ clock, m'.store = { m.store with clock }) ∨
      ∃ p proc state proc', mv = .step p ∧ m.processes[p]? = some proc ∧
        proc.life = .active state ∧ Acts d m p proc (d.action state) proc' m'.store := by
  rcases make?_cases h with ⟨p, proc, state, rfl, hp, hlife, hact⟩ |
    ⟨p, proc, state, child, next, rfl, hp, hlife, ha, rfl⟩ | ⟨clock, rfl, rfl⟩ |
    ⟨p, child, reply, rfl, hawait⟩
  · obtain ⟨proc', others, born, hm', hlength, hacts, -⟩ := effect_of_act hp hlife rfl hact
    exact Or.inr ⟨p, proc, state, proc', rfl, hp, hlife, hacts⟩
  · exact Or.inl ⟨_, rfl⟩
  · exact Or.inl ⟨clock, rfl⟩
  · have hasking : m.asking? d (.collect p child) = some (p, child) := rfl
    exact Or.inl ⟨_, (await_touched hasking hawait).1⟩

/-- A step is an action of its process. -/
theorem acts_of_step (h : m.make? d (.step p) = some m') (hp : m.processes[p]? = some proc)
    (hlife : proc.life = .active state) :
    ∃ proc', m'.processes[p]? = some proc' ∧ Acts d m p proc (d.action state) proc' m'.store := by
  obtain ⟨proc', hp'⟩ := exists_of_make? h hp
  cases make?_becomes h hp' with
  | acted _ hpa hlifea hacts =>
    obtain rfl := Option.some.inj (hp.symm.trans hpa)
    obtain rfl := Life.active.inj (hlife.symm.trans hlifea)
    exact ⟨proc', hp', hacts⟩
  | interrupted hmv => cases hmv
  | touched _ hstep => exact absurd rfl hstep
  | born _ _ _ hlength => exact absurd hlength (Nat.ne_of_lt (List.getElem?_eq_some_iff.mp hp).1)

end Machine

end PipeShell
