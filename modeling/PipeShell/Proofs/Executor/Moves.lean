import PipeShell.Executor.Task
import PipeShell.Proofs.Machine.Runs

/-!
# What a move does to a process of a line

A process that runs a part of a line goes on with that until it ends or becomes a program
(`executing_becomes`), and no other process turns into one: such a process is there after a move
because it took a step, or was left alone, or was told a signal, or was started just now for a side
of a pipe (`Machine.Proceeds`). Nobody turns into a process that is moved from outside either
(`Machine.attended_of_make?`).

In most states such a process calls for something or goes on; `Control.conduct` tells these from the
few others. The step with the most to it opens the file of a redirection; `Redirects` says what can
come of it.
-/

namespace PipeShell

variable {U : Userland} {ex : Executor} {m m' : Machine (Task U.State)} {mv : Move} {p x : Pid}
  {proc proc' : Process (Task U.State)} {c c' : Control} {state : Task U.State}

/-! ## Actions -/

/-- What a process does in a state: it calls for something or goes on, except in a few states. -/
inductive Control.Conduct (ex : Executor) : Control → Prop
  | call {c : Control} {call : Call} {next : call.Reply → Control}
    (h : c.action ex = .call call next) : Conduct ex c
  | goOn {c next : Control} (h : c.action ex = .goOn next) : Conduct ex c
  | stranded (cause : Errno) : Conduct ex (.stranded cause)
  | exit (code : Nat) : Conduct ex (.exit code)
  | launch (argv : List Bytes) : Conduct ex (.launch argv)
  | forkLeft (ends : PipeEnds) (left right : Command) : Conduct ex (.forkLeft ends left right)
  | forkRight (ends : PipeEnds) (left : Pid) (right : Command) :
    Conduct ex (.forkRight ends left right)
  | waitLeft (left right : Pid) : Conduct ex (.waitLeft left right)
  | waitRight (leftCode : Option Nat) (right : Pid) : Conduct ex (.waitRight leftCode right)

theorem Control.conduct (ex : Executor) (c : Control) : c.Conduct ex := by
  cases c with
  | run t =>
    cases t with
    | exec => exact .goOn rfl
    | redirect | pipe => exact .call rfl
  | printing pieces | alarm pieces =>
    rcases pieces with _ | ⟨_ | _, _⟩
    · exact .goOn rfl
    · exact .goOn rfl
    · exact .call rfl
  | closeEnds ends =>
    cases ends with
    | nil => exact .goOn rfl
    | cons => exact .call rfl
  | complain | connected => exact .goOn rfl
  | noting | bind | release | leave => exact .call rfl
  | stranded cause => exact .stranded cause
  | exit code => exact .exit code
  | launch argv => exact .launch argv
  | forkLeft ends left right => exact .forkLeft ends left right
  | forkRight ends left right => exact .forkRight ends left right
  | waitLeft left right => exact .waitLeft left right
  | waitRight leftCode right => exact .waitRight leftCode right

/-- Only what runs a part of a line leads to running a part of a line. -/
theorem executing_of_leads (h : ((Task.dynamics U ex).action state).Leads (.executing c')) :
    ∃ c, state = .executing c := by
  cases state with
  | attended => cases h
  | executing c => exact ⟨c, rfl⟩
  | program s =>
    replace h : ((U.action s).map Task.program).Leads (Task.executing c') := h
    obtain ⟨_, heq⟩ := h.of_map
    cases heq

/-- Nothing leads to being moved from outside. -/
theorem not_leads_attended : ¬((Task.dynamics U ex).action state).Leads .attended := by
  intro h
  cases state with
  | attended => cases h
  | executing c =>
    replace h : ((c.action ex).map Task.executing).Leads (Task.attended : Task U.State) := h
    obtain ⟨_, heq⟩ := h.of_map
    cases heq
  | program s =>
    replace h : ((U.action s).map Task.program).Leads Task.attended := h
    obtain ⟨_, heq⟩ := h.of_map
    cases heq

/-- Programs do not turn into parts of a line. -/
theorem executing_of_acts {store : Store} (hlife : proc.life = .active state)
    (h : Machine.Acts (Task.dynamics U ex) m p proc ((Task.dynamics U ex).action state) proc'
      store)
    (hlife' : proc'.life = .active (.executing c')) : ∃ c, state = .executing c := by
  rcases h.leads hlife' with hsame | hleads | ⟨-, _, heq⟩
  · exact ⟨c', Life.active.inj (hlife.symm.trans hsame)⟩
  · exact executing_of_leads hleads
  · cases heq

/-- What a process that goes on with a part of a line has come to. -/
theorem Control.eq_of_goOn {store : Store} {next : Control}
    (h : Machine.Acts (Task.dynamics U ex) m p proc ((Task.dynamics U ex).action (.executing c))
      proc' store)
    (hlife' : proc'.life = .active (.executing c')) (ha : c.action ex = .goOn next) :
    c' = next := by
  replace h : Machine.Acts _ m p proc ((c.action ex).map .executing) proc' store := h
  rw [ha] at h
  cases h
  cases hlife'
  rfl

/-- What a process that calls for something has come to: it goes on with a reply, or the call is
not over yet. -/
theorem Control.reply_or_eq_of_call {store : Store} {call : Call} {next : call.Reply → Control}
    (h : Machine.Acts (Task.dynamics U ex) m p proc ((Task.dynamics U ex).action (.executing c))
      proc' store)
    (hlife : proc.life = .active (.executing c)) (hlife' : proc'.life = .active (.executing c'))
    (ha : c.action ex = .call call next) :
    (∃ reply, c' = next reply) ∨ c' = c ∧ ∃ context, call.perform m.store proc.context m.held
      (Pid.number p) (m.parentNumber proc) = .underway store context := by
  replace h : Machine.Acts _ m p proc ((c.action ex).map .executing) proc' store := h
  rw [ha] at h
  rcases h.call_cases hlife' with ⟨reply, _, -, -, hstate⟩ | ⟨context, hunderway, -, hsame⟩
  · cases hstate
    exact Or.inl ⟨reply, rfl⟩
  · cases hlife.symm.trans hsame
    exact Or.inr ⟨rfl, context, hunderway⟩

theorem Control.eq_launch_of_isExec (hc : (c.action ex).isExec) : ∃ argv, c = .launch argv := by
  cases c.conduct ex with
  | launch argv => exact ⟨argv, rfl⟩
  | call ha | goOn ha =>
    rw [ha] at hc
    cases hc
  | _ => cases hc

/-- A process that runs a part of a line goes on with that, or ends, or becomes a program. -/
theorem executing_becomes {store : Store} (hlife : proc.life = .active (.executing c))
    (h : Machine.Acts (Task.dynamics U ex) m p proc ((Task.dynamics U ex).action (.executing c))
      proc' store) :
    (∃ c', proc'.life = .active (.executing c')) ∨ (∃ status, proc' = proc.finished status) ∨
      ∃ argv, c = .launch argv := by
  rcases h.active_or_finished hlife with ⟨state, hlife'⟩ | hended
  · replace h : Machine.Acts _ m p proc ((c.action ex).map .executing) proc' store := h
    rcases h.leads hlife' with hsame | hleads | ⟨hc, -⟩
    · exact Or.inl ⟨c, hlife'.trans (hsame.symm.trans hlife)⟩
    · obtain ⟨c', rfl⟩ := hleads.of_map
      exact Or.inl ⟨c', hlife'⟩
    · rw [Action.isExec_map] at hc
      exact Or.inr (Or.inr (Control.eq_launch_of_isExec hc))
  · exact Or.inr (Or.inl hended)

/-- A process that runs a part of a line starts only such processes. -/
theorem executing_of_forks {child : Task U.State} {next : Except Errno Pid → Task U.State}
    (h : (Task.dynamics U ex).action (.executing c) = .fork child next) :
    ∃ c', child = .executing c' := by
  have hleads : ((Task.dynamics U ex).action (.executing c)).Leads child := h ▸ .child child next
  replace hleads : ((c.action ex).map Task.executing).Leads child := hleads
  exact hleads.of_map

/-- New processes that run a part of a line are those for the two sides of a pipe. -/
theorem executing_of_fork {next : Except Errno Pid → Task U.State}
    (h : (Task.dynamics U ex).action state = .fork (.executing c) next) :
    (∃ ends left right, state = .executing (.forkLeft ends left right) ∧
        c = .leave ends.readEnd ends.writeEnd Fd.stdout left) ∨
      ∃ ends child right, state = .executing (.forkRight ends child right) ∧
        c = .leave ends.writeEnd ends.readEnd Fd.stdin right := by
  have hleads : ((Task.dynamics U ex).action state).Leads (.executing c) := h ▸ .child _ next
  obtain ⟨c₀, rfl⟩ := executing_of_leads hleads
  replace h : (c₀.action ex).map .executing = .fork (.executing c) next := h
  cases c₀.conduct ex with
  | forkLeft ends left right =>
    cases h
    exact Or.inl ⟨ends, left, right, rfl, rfl⟩
  | forkRight ends child right =>
    cases h
    exact Or.inr ⟨ends, child, right, rfl, rfl⟩
  | call ha | goOn ha =>
    rw [ha] at h
    cases h
  | _ => cases h

/-- A process of a line whose wait is interrupted waits again. -/
theorem executing_interrupted {child : Pid} {next : WaitReply → Task U.State}
    (ha : (Task.dynamics U ex).action (.executing c) = .wait child next) :
    next .interrupted = .executing c := by
  replace ha : (c.action ex).map .executing = .wait child next := ha
  cases c.conduct ex with
  | waitLeft | waitRight =>
    cases ha
    rfl
  | call hc | goOn hc =>
    rw [hc] at ha
    cases ha
  | _ => cases ha

/-- What a step makes of a process that opens the file of a redirection, and of the store. Opening
fails, or the file comes to the lowest free number. The process may have to wait for a partner then,
and goes on when there is one. -/
inductive Redirects (ex : Executor) (m : Machine (Task U.State)) (proc : Process (Task U.State))
    (t : Command) (file : Bytes) (direction : Direction) (store : Store) :
    Process (Task U.State) → Prop
  | failed (e : Errno) (hsettled : proc.context.opening = none) (hstore : store = m.store)
    (hopen : m.store.openFile proc.context m.held file direction.flags ex.redirectMode =
      .done (.error e) m.store proc.context) :
    Redirects ex m proc t file direction store
      ⟨proc.parent, proc.context, .active (.executing (.fail (.openFailed file e)))⟩
  | opened {object : Object} (hsettled : proc.context.opening = none)
    (hopens : m.store.Opens proc.context direction.flags object store)
    (hopen : m.store.openFile proc.context m.held file direction.flags ex.redirectMode =
      .done (.ok proc.context.descriptors.lowestFree) store
        (m.store.taking proc.context direction.flags.closeOnExec)) :
    Redirects ex m proc t file direction store
      ⟨proc.parent, m.store.taking proc.context direction.flags.closeOnExec, .active (.executing
        (.afterOpen t file direction (.ok proc.context.descriptors.lowestFree)))⟩
  | waiting {object : Object} (o : Opening) (hsettled : proc.context.opening = none)
    (hopens : m.store.Opens proc.context direction.flags object store)
    (hfd : o.fd = proc.context.descriptors.lowestFree)
    (hopen : m.store.openFile proc.context m.held file direction.flags ex.redirectMode =
      .underway store { m.store.taking proc.context direction.flags.closeOnExec with
        opening := some o }) :
    Redirects ex m proc t file direction store { proc with context :=
      { m.store.taking proc.context direction.flags.closeOnExec with opening := some o } }
  | joined (o : Opening) (hopening : proc.context.opening = some o) (hstore : store = m.store)
    (hopen : m.store.openFile proc.context m.held file direction.flags ex.redirectMode =
      .done (.ok o.fd) m.store { proc.context with opening := none }) :
    Redirects ex m proc t file direction store
      ⟨proc.parent, { proc.context with opening := none },
        .active (.executing (.afterOpen t file direction (.ok o.fd)))⟩

theorem redirects_of_acts {t : Command} {file : Bytes} {direction : Direction} {store : Store}
    (hacts : Machine.Acts (Task.dynamics U ex) m p proc
      ((Task.dynamics U ex).action (.executing (.run (.redirect t file direction)))) proc' store)
    (hlife' : proc'.life = .active state) : Redirects ex m proc t file direction store proc' := by
  replace hacts : Machine.Acts _ m p proc (.call (.openFile file direction.flags ex.redirectMode)
    fun reply => .executing (Control.afterOpen t file direction reply)) proc' store := hacts
  cases hopening : proc.context.opening with
  | none =>
    rcases Store.openFile_cases hopening m.held file direction.flags ex.redirectMode with
      ⟨e, hopen⟩ | ⟨object, s', hopens, -, hopen | ⟨o, hfd, hopen⟩⟩
    · obtain ⟨rfl, rfl⟩ := hacts.of_done hopen
      exact .failed e hopening rfl hopen
    · obtain ⟨rfl, rfl⟩ := hacts.of_done hopen
      exact .opened hopening hopens hopen
    · obtain ⟨rfl, rfl⟩ := hacts.of_underway hopen
      exact .waiting o hopening hopens hfd hopen
  | some o =>
    rcases Store.openFile_opening hopening m.held file direction.flags ex.redirectMode with
      hopen | hopen
    · obtain ⟨rfl, rfl⟩ := hacts.of_done hopen
      exact .joined o hopening rfl hopen
    · rcases hacts.call_cases hlife' with ⟨_, _, hcall, -, -⟩ | ⟨_, hcall, -, -⟩
      · cases hopen.symm.trans hcall
      · cases hopen.symm.trans hcall

/-! ## Moves -/

namespace Machine

/-- How process `x`, which runs a part of a line in state `c` after a move, came to be as it is. -/
inductive Proceeds (U : Userland) (ex : Executor) (m : Machine (Task U.State)) (mv : Move)
    (store : Store) (x : Pid) : Process (Task U.State) → Control → Prop
  | acted {proc proc' : Process (Task U.State)} {c c' : Control} (hmv : mv = .step x)
    (hx : m.processes[x]? = some proc) (hlife : proc.life = .active (.executing c))
    (h : Acts (Task.dynamics U ex) m x proc ((Task.dynamics U ex).action (.executing c)) proc'
      store) : Proceeds U ex m mv store x proc' c'
  | kept {proc : Process (Task U.State)} {c : Control} (hmv : mv ≠ .step x)
    (hx : m.processes[x]? = some proc) (hlife : proc.life = .active (.executing c)) :
    Proceeds U ex m mv store x proc c
  | told {proc : Process (Task U.State)} {c : Control} (hmv : mv ≠ .step x)
    (hx : m.processes[x]? = some proc) (hlife : proc.life = .active (.executing c)) (signal : Nat) :
    Proceeds U ex m mv store x (proc.told signal) c
  | left {p : Pid} {proc : Process (Task U.State)} {ends : PipeEnds} {left right : Command}
    (hmv : mv = .step p) (hp : m.processes[p]? = some proc)
    (hlife : proc.life = .active (.executing (.forkLeft ends left right)))
    (hx : x = m.processes.length) (hgranted : m.refusal? = none) :
    Proceeds U ex m mv store x
      ⟨p, { proc.context with pending := [] },
        .active (.executing (.leave ends.readEnd ends.writeEnd Fd.stdout left))⟩
      (.leave ends.readEnd ends.writeEnd Fd.stdout left)
  | right {p : Pid} {proc : Process (Task U.State)} {ends : PipeEnds} {child : Pid}
    {right : Command} (hmv : mv = .step p) (hp : m.processes[p]? = some proc)
    (hlife : proc.life = .active (.executing (.forkRight ends child right)))
    (hx : x = m.processes.length) (hgranted : m.refusal? = none) :
    Proceeds U ex m mv store x
      ⟨p, { proc.context with pending := [] },
        .active (.executing (.leave ends.writeEnd ends.readEnd Fd.stdin right))⟩
      (.leave ends.writeEnd ends.readEnd Fd.stdin right)

/-- Every process that runs a part of a line after a move came to it in one of these ways. -/
theorem make?_proceeds (hm : m.make? (Task.dynamics U ex) mv = some m')
    (hx : m'.processes[x]? = some proc') (hlife' : proc'.life = .active (.executing c')) :
    Proceeds U ex m mv m'.store x proc' c' := by
  cases make?_becomes hm hx with
  | acted hmv hp hlife hacts =>
    obtain ⟨c, rfl⟩ := executing_of_acts hlife hacts hlife'
    exact .acted hmv hp hlife hacts
  | @interrupted proc state hmv hp hlife child next ha =>
    have hnext : next .interrupted = .executing c' := Life.active.inj hlife'
    have hleads : ((Task.dynamics U ex).action state).Leads (next .interrupted) :=
      ha ▸ .wait child next .interrupted
    rw [hnext] at hleads
    obtain ⟨c, rfl⟩ := executing_of_leads hleads
    obtain rfl := Task.executing.inj ((executing_interrupted ha).symm.trans hnext)
    rw [hnext, ← hlife]
    exact .kept (by simp [hmv]) hp hlife
  | touched hp hmv ht =>
    cases ht with
    | unchanged => exact .kept hmv hp hlife'
    | told => exact .told hmv hp hlife' _
    | killed => cases hlife'
    | reaped => cases hlife'
  | born hmv hp hlife hlength child next ha hgranted =>
    cases hlife'
    rcases executing_of_fork ha with ⟨ends, left, right, rfl, rfl⟩ | ⟨ends, child, right, rfl, rfl⟩
    · exact .left hmv hp hlife hlength hgranted
    · exact .right hmv hp hlife hlength hgranted

/-- Nobody else moves a process that runs a part of a line. -/
theorem executing_of_ne (hm : m.make? (Task.dynamics U ex) mv = some m')
    (hx : m.processes[x]? = some proc) (hlife : proc.life = .active (.executing c))
    (hx' : m'.processes[x]? = some proc') (hlife' : proc'.life = .active (.executing c'))
    (hmv : mv ≠ .step x) : c' = c := by
  cases make?_proceeds hm hx' hlife' with
  | acted hstep => exact absurd hstep hmv
  | kept _ hp hlife₀ | told _ hp hlife₀ =>
    obtain rfl := Option.some.inj (hx.symm.trans hp)
    exact Task.executing.inj (Life.active.inj (hlife₀.symm.trans hlife))
  | left _ _ _ hlength | right _ _ _ hlength =>
    exact absurd hlength (Nat.ne_of_lt (List.getElem?_eq_some_iff.mp hx).1)

/-- What becomes of a process in a move that runs a part of a line in state `c`. -/
inductive Continues (mv : Move) (x : Pid) (c : Control) (proc' : Process (Task U.State)) : Prop
  | stepped (hmv : mv = .step x) (c' : Control) (hlife' : proc'.life = .active (.executing c'))
  | stayed (hmv : mv ≠ .step x) (hlife' : proc'.life = .active (.executing c))
  | became (hmv : mv = .step x) (argv : List Bytes) (hc : c = .launch argv) (s : U.State)
    (hlife' : proc'.life = .active (.program s))
  | ended (hmv : mv = .step x) (status : ExitStatus) (hlife' : proc'.life = .ended status)
  | killed (hmv : mv ≠ .step x) (signal : Nat) (hlife' : proc'.life = .ended (.signaled signal))

theorem make?_continues (hm : m.make? (Task.dynamics U ex) mv = some m')
    (hx : m.processes[x]? = some proc) (hlife : proc.life = .active (.executing c))
    (hx' : m'.processes[x]? = some proc') : Continues mv x c proc' := by
  cases make?_becomes hm hx' with
  | acted hmv hp hactive hacts =>
    obtain rfl := Option.some.inj (hx.symm.trans hp)
    cases hlife.symm.trans hactive
    rcases executing_becomes hlife hacts with ⟨c', hlife'⟩ | ⟨status, rfl⟩ | ⟨argv, rfl⟩
    · exact .stepped hmv c' hlife'
    · exact .ended hmv status rfl
    · replace hacts : Acts _ m x proc (.exec argv fun e =>
        .executing (Control.fail (.execFailed (Control.programOf argv) e))) proc' m'.store := hacts
      generalize m'.store = store at hacts
      cases hacts with
      | refused => exact .stepped hmv _ rfl
      | became => exact .became hmv argv rfl _ rfl
  | interrupted hmv hp hactive child next ha =>
    obtain rfl := Option.some.inj (hx.symm.trans hp)
    cases hlife.symm.trans hactive
    exact .stayed (by simp [hmv]) (by rw [executing_interrupted ha])
  | touched hp hmv ht =>
    obtain rfl := Option.some.inj (hx.symm.trans hp)
    cases ht with
    | unchanged => exact .stayed hmv hlife
    | told => exact .stayed hmv hlife
    | killed _ _ signal => exact .killed hmv signal rfl
    | reaped _ hended => cases hlife.symm.trans hended
  | born _ _ _ hlength =>
    exact absurd hlength (Nat.ne_of_lt (List.getElem?_eq_some_iff.mp hx).1)

/-- Nobody turns into a process that runs a part of a line. -/
theorem not_executing_of_make? (hm : m.make? (Task.dynamics U ex) mv = some m')
    (hx : m.processes[x]? = some proc) (hlife : ∀ c, proc.life ≠ .active (.executing c))
    (hx' : m'.processes[x]? = some proc') (c : Control) :
    proc'.life ≠ .active (.executing c) := by
  intro hlife'
  cases make?_proceeds hm hx' hlife' with
  | acted _ hp hactive | kept _ hp hactive | told _ hp hactive =>
    obtain rfl := Option.some.inj (hx.symm.trans hp)
    exact hlife _ hactive
  | left _ _ _ hlength | right _ _ _ hlength =>
    exact absurd hlength (Nat.ne_of_lt (List.getElem?_eq_some_iff.mp hx).1)

/-- A program was a program before, or ran a part of a line. -/
theorem program_of_make? (hm : m.make? (Task.dynamics U ex) mv = some m')
    (hx : m.processes[x]? = some proc) (hx' : m'.processes[x]? = some proc') {s' : U.State}
    (hlife' : proc'.life = .active (.program s')) :
    (∃ c, proc.life = .active (.executing c)) ∨ ∃ s, proc.life = .active (.program s) := by
  have running {state : Task U.State} (hlife : proc.life = .active state)
      (hne : state ≠ .attended) :
      (∃ c, proc.life = .active (.executing c)) ∨ ∃ s, proc.life = .active (.program s) := by
    cases state with
    | attended => exact absurd rfl hne
    | executing c => exact Or.inl ⟨c, hlife⟩
    | program s => exact Or.inr ⟨s, hlife⟩
  cases make?_becomes hm hx' with
  | acted _ hp hlife hacts =>
    obtain rfl := Option.some.inj (hx.symm.trans hp)
    refine running hlife ?_
    rintro rfl
    generalize m'.store = store at hacts
    cases hacts
  | interrupted _ hp hlife child next ha =>
    obtain rfl := Option.some.inj (hx.symm.trans hp)
    refine running hlife ?_
    rintro rfl
    cases ha
  | touched hp _ ht =>
    obtain rfl := Option.some.inj (hx.symm.trans hp)
    cases ht with
    | unchanged => exact Or.inr ⟨s', hlife'⟩
    | told => exact Or.inr ⟨s', hlife'⟩
    | killed => cases hlife'
    | reaped => cases hlife'
  | born _ _ _ hlength =>
    exact absurd hlength (Nat.ne_of_lt (List.getElem?_eq_some_iff.mp hx).1)

/-- Nobody turns into a process that is moved from outside. -/
theorem attended_of_make? (hm : m.make? (Task.dynamics U ex) mv = some m')
    (hx : m'.processes[x]? = some proc') (hlife' : proc'.life = .active .attended) :
    ∃ proc, m.processes[x]? = some proc ∧ proc.life = .active .attended := by
  cases make?_becomes hm hx with
  | acted _ hp _ hacts =>
    rcases hacts.leads hlife' with hsame | hleads | ⟨-, _, heq⟩
    · exact ⟨_, hp, hsame⟩
    · exact absurd hleads not_leads_attended
    · cases heq
  | @interrupted _ state _ hp _ child next ha =>
    have hleads : ((Task.dynamics U ex).action state).Leads (next .interrupted) :=
      ha ▸ .wait child next .interrupted
    rw [Life.active.inj hlife'] at hleads
    exact absurd hleads not_leads_attended
  | touched hp _ ht =>
    cases ht with
    | unchanged => exact ⟨_, hp, hlife'⟩
    | told => exact ⟨_, hp, hlife'⟩
    | killed => cases hlife'
    | reaped => cases hlife'
  | @born _ _ state _ _ _ _ child next ha =>
    have hleads : ((Task.dynamics U ex).action state).Leads child := ha ▸ .child child next
    rw [Life.active.inj hlife'] at hleads
    exact absurd hleads not_leads_attended

end Machine

end PipeShell
