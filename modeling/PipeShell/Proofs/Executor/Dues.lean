import PipeShell.Proofs.Executor.Wiring
import PipeShell.Proofs.Machine.Children

/-!
# Who has to be waited for

The processes that a process has started for the sides of its pipe and whose ends it has not taken
yet can be read off its control state (`Control.dues`): they are its only children that are left
(`LineStart.dues`), whatever order they end in. A process that is on its way out has none, and it
cannot end before that by a step of its own (`Control.mayEnd_of_ended`).
-/

namespace PipeShell

variable {U : Userland} {ex : Executor} {m₀ m m' : Machine (Task U.State)}
  {h : Past (Task U.State)} {mv : Move} {p q x y : Pid} {proc proc' : Process (Task U.State)}
  {c c' : Control} {es : List Event}

/-! ## Who has to be waited for -/

namespace Control

/-- The processes for which a process has still to wait. -/
def dues : Control → List Pid
  | forkRight _ left _ => [left]
  | closeEnds _ left right | waitLeft left right => [left, right]
  | waitRight _ right => [right]
  | noting _ _ next => next.dues
  | _ => []

@[simp] theorem dues_settle (fd target : Fd) (t : Command) : (settle fd target t).dues = [] := by
  unfold settle
  split <;> rfl

@[simp] theorem dues_afterOpen (t : Command) (file : Bytes) (direction : Direction)
    (reply : Except Errno Fd) : (afterOpen t file direction reply).dues = [] := by
  cases reply with
  | error e => rfl
  | ok fd => exact dues_settle fd direction.fd t

@[simp] theorem dues_afterRelease (copied : Except Errno Unit) (t : Command)
    (closed : Except Errno Unit) : (afterRelease copied t closed).dues = [] := by
  cases copied <;> cases closed <;> rfl

@[simp] theorem dues_afterPipe (left right : Command) (reply : Except Errno (Fd × Fd)) :
    (afterPipe left right reply).dues = [] := by
  cases reply <;> rfl

@[simp] theorem dues_execute (argv : List Bytes) : (execute argv).dues = [] := by
  unfold execute
  split
  · rfl
  · split <;> rfl

/-- A process that has taken the end of a stage goes on to what comes next. -/
theorem dues_afterWait (again : Control) (stage : Pid) {next : Option Nat → Control} {l : List Pid}
    (hnext : ∀ code, (next code).dues = l) (status : ExitStatus) :
    (afterWait again stage next (.ended status)).dues = l := by
  simp only [afterWait, Reap.verdict?]
  split <;> exact hnext _

/-! ## Giving up -/

/-- Whether a process reports a failure or ends. -/
def isLeaving : Control → Bool
  | stranded _ | complain _ | printing _ | alarm _ | exit _ => true
  | noting _ _ next => next.isLeaving
  | _ => false

theorem dues_of_isLeaving {c : Control} (hc : c.isLeaving) : c.dues = [] := by
  induction c with
  | noting _ _ next ih => exact ih hc
  | _ => first | rfl | cases hc

theorem isLeaving_afterPiece (console : Console) (piece : Bytes) (rest : List Bytes)
    (reply : Except Errno Nat) : (afterPiece console piece rest reply).isLeaving := by
  unfold afterPiece
  split <;> rfl

theorem isLeaving_afterAlarm (piece : Bytes) (rest : List Bytes) (reply : Except Errno Nat) :
    (afterAlarm piece rest reply).isLeaving := by
  unfold afterAlarm
  split <;> rfl

theorem isLeaving_afterSignal (shell : Pid) (cause : Errno) (reply : Except Errno Unit) :
    (afterSignal shell cause reply).isLeaving := by
  cases reply <;> rfl

end Control

/-! ## One step -/

/-- A process that gives up goes on with that until it ends. -/
theorem Control.isLeaving_step (hc : c.isLeaving) (hlife : proc.life = .active (.executing c))
    {store : Store} (hacts : Machine.Acts (Task.dynamics U ex) m p proc
      ((Task.dynamics U ex).action (.executing c)) proc' store)
    (hlife' : proc'.life = .active (.executing c')) : c'.isLeaving := by
  have called {call : Call} {next : call.Reply → Control} (ha : c.action ex = .call call next)
      (hnext : ∀ reply, (next reply).isLeaving) : c'.isLeaving := by
    rcases reply_or_eq_of_call hacts hlife hlife' ha with ⟨reply, rfl⟩ | ⟨rfl, -⟩
    · exact hnext reply
    · exact hc
  have gone {next : Control} (ha : c.action ex = .goOn next) (hnext : next.isLeaving) :
      c'.isLeaving :=
    eq_of_goOn hacts hlife' ha ▸ hnext
  cases c with
  | noting level message next => exact called rfl fun _ => hc
  | complain => exact gone rfl rfl
  | printing pieces =>
    rcases pieces with _ | ⟨_ | ⟨b, bs⟩, rest⟩
    · exact gone rfl rfl
    · exact gone rfl rfl
    · exact called rfl (isLeaving_afterPiece _ _ _)
  | alarm pieces =>
    rcases pieces with _ | ⟨_ | ⟨b, bs⟩, rest⟩
    · exact gone rfl rfl
    · exact gone rfl rfl
    · exact called rfl (isLeaving_afterAlarm _ _)
  | stranded cause =>
    obtain ⟨⟨reply, heq⟩, -⟩ := Machine.Acts.of_kill hacts hlife'
    cases heq
    exact isLeaving_afterSignal _ _ reply
  | exit =>
    cases hacts
    cases hlife'
  | _ => cases hc

/-- A process that calls for something or goes on is waiting for the same ones afterwards. -/
theorem Control.dues_of_quiet (hlife : proc.life = .active (.executing c)) {store : Store}
    (hacts : Machine.Acts (Task.dynamics U ex) m p proc
      ((Task.dynamics U ex).action (.executing c)) proc' store)
    (hlife' : proc'.life = .active (.executing c'))
    (hfork : ∀ child next, c.action ex ≠ .fork child next)
    (hwait : ∀ child next, c.action ex ≠ .wait child next) : c'.dues = c.dues := by
  have called {call : Call} {next : call.Reply → Control} (ha : c.action ex = .call call next)
      (heq : ∀ reply, (next reply).dues = c.dues) : c'.dues = c.dues := by
    rcases reply_or_eq_of_call hacts hlife hlife' ha with ⟨reply, rfl⟩ | ⟨rfl, -⟩
    · exact heq reply
    · rfl
  have gone {next : Control} (ha : c.action ex = .goOn next) (heq : next.dues = c.dues) :
      c'.dues = c.dues :=
    eq_of_goOn hacts hlife' ha ▸ heq
  cases c with
  | run t =>
    cases t with
    | exec argv => exact gone rfl (dues_execute argv)
    | redirect t file direction => exact called rfl (dues_afterOpen t file direction)
    | pipe left right => exact called rfl (dues_afterPipe left right)
  | noting => exact called rfl fun _ => rfl
  | complain | printing | alarm | stranded | exit =>
    exact dues_of_isLeaving (isLeaving_step rfl hlife hacts hlife')
  | launch =>
    cases hacts with
    | refused =>
      cases hlife'
      rfl
    | became => cases hlife'
  | bind => exact called rfl fun _ => rfl
  | release fd copied t => exact called rfl (dues_afterRelease copied t)
  | leave unneeded kept target t => exact called rfl fun _ => dues_settle kept target t
  | forkLeft | forkRight => exact absurd rfl (hfork _ _)
  | waitLeft | waitRight => exact absurd rfl (hwait _ _)
  | closeEnds ends =>
    cases ends with
    | nil => exact gone rfl rfl
    | cons fd fds => exact called rfl fun _ => rfl
  | connected => exact gone rfl rfl

theorem Control.action_ne_poll (child : Pid) (next : Option WaitReply → Control) :
    c.action ex ≠ .poll child next := by
  intro ha
  cases c.conduct ex with
  | call hc | goOn hc => cases hc.symm.trans ha
  | _ => cases ha

/-- A process that does not wait asks for the end of nobody, and one that does not fork starts
nobody. -/
theorem Machine.renews_of_quiet (hp : m.processes[p]? = some proc)
    (hlife : proc.life = .active (.executing c))
    (hfork : ∀ child next, c.action ex ≠ .fork child next)
    (hwait : ∀ child next, c.action ex ≠ .wait child next) (l : List Pid) :
    m.Renews (Task.dynamics U ex) (.step p) p l l := by
  have hactive := Machine.active?_eq_some.mpr ⟨hp, hlife⟩
  have haction : (Task.dynamics U ex).action (.executing c) = (c.action ex).map .executing :=
    rfl
  refine .refl (fun y hr => ?_) fun hb => ?_
  · have hasking := (Option.filter_eq_some_iff.mp hr).1
    simp only [Machine.asking?, hactive, haction] at hasking
    cases ha : c.action ex with
    | wait child next => exact hwait child next ha
    | poll child next => exact Control.action_ne_poll child next ha
    | _ => simp [ha, Action.map] at hasking
  · simp only [Machine.bearing?, hactive, haction] at hb
    cases ha : c.action ex with
    | fork child next => exact hfork child next ha
    | _ => simp [ha, Action.map] at hb

/-- Waiting for a child that is due goes on until its end is taken. -/
theorem Machine.await_of_mem_childrenOf {child : Pid} {reply : WaitReply}
    (hchild : child ∈ m.childrenOf p) (h : m.await p child = some (reply, m')) :
    ∃ status, reply = .ended status := by
  obtain ⟨proc, hx, hparent, -, hlife⟩ := Machine.mem_childrenOf.mp hchild
  rcases Machine.await_cases h with ⟨-, -, hgone⟩ | ⟨-, status, -, -, -, rfl, -⟩
  · exact absurd (hgone proc hx hparent) hlife
  · exact ⟨status, rfl⟩

theorem Control.dues_of_wait {child : Pid} {next : WaitReply → Control} {rest : List Pid}
    (hp : m.processes[p]? = some proc) (hlife : proc.life = .active (.executing c))
    (ha : c.action ex = .wait child next) {store : Store}
    (hacts : Machine.Acts (Task.dynamics U ex) m p proc
      ((Task.dynamics U ex).action (.executing c)) proc' store)
    (hlife' : proc'.life = .active (.executing c')) (hnodup : c.dues.Nodup)
    (hchild : child ∈ m.childrenOf p) (hc : c.dues = child :: rest)
    (hended : ∀ status, (next (.ended status)).dues = rest) :
    c'.dues.Nodup ∧ m.Renews (Task.dynamics U ex) (.step p) p c.dues c'.dues := by
  have hactive := Machine.active?_eq_some.mpr ⟨hp, hlife⟩
  have haction : (Task.dynamics U ex).action (.executing c) =
      .wait child fun reply => .executing (next reply) := by
    show (c.action ex).map Task.executing = _
    rw [ha]
    rfl
  have hasking : m.asking? (Task.dynamics U ex) (.step p) = some (p, child) := by
    simp only [Machine.asking?, hactive, haction]
  have hbearing : m.bearing? (Task.dynamics U ex) (.step p) ≠ some p := by
    simp [Machine.bearing?, hactive, haction]
  rw [haction] at hacts
  cases hacts with
  | waited _ hawait =>
    obtain ⟨status, rfl⟩ := Machine.await_of_mem_childrenOf hchild hawait
    cases hlife'
    have hreaping := Machine.reaping?_eq_of_await hasking hawait
    rw [hc] at hnodup ⊢
    rw [hended]
    obtain ⟨hnot, hrest⟩ := List.nodup_cons.mp hnodup
    refine ⟨hrest, fun y => ?_⟩
    simp only [hreaping, hbearing, List.mem_cons, Option.some.injEq, Prod.mk.injEq, true_and,
      ne_eq, false_and, or_false]
    constructor
    · intro hy
      exact ⟨Or.inr hy, fun heq => hnot (heq ▸ hy)⟩
    · rintro ⟨rfl | hy, hne⟩
      · exact absurd rfl hne
      · exact hy
  | interrupted _ hawait =>
    obtain rfl := Task.executing.inj
      ((Life.active.inj hlife').symm.trans (executing_interrupted haction))
    have hreaping := Machine.reaping?_eq_none hasking hawait
    exact ⟨hnodup, .refl (by simp [hreaping]) hbearing⟩

/-- A step settles what is due by taking the end of a child, and makes due who is started, or a
process could not be created. -/
theorem Control.dues_step (hp : m.processes[p]? = some proc)
    (hlife : proc.life = .active (.executing c)) {store : Store}
    (hacts : Machine.Acts (Task.dynamics U ex) m p proc
      ((Task.dynamics U ex).action (.executing c)) proc' store)
    (hlife' : proc'.life = .active (.executing c')) (hnodup : c.dues.Nodup)
    (hdues : ∀ y ∈ c.dues, y ∈ m.childrenOf p) :
    (c'.dues.Nodup ∧ m.Renews (Task.dynamics U ex) (.step p) p c.dues c'.dues) ∨
      m.event? U ex (.step p) = some (.stranded p) ∧ c'.isLeaving := by
  have hactive := Machine.active?_eq_some.mpr ⟨hp, hlife⟩
  have quiet (hfork : ∀ child next, c.action ex ≠ .fork child next)
      (hwait : ∀ child next, c.action ex ≠ .wait child next) :
      c'.dues.Nodup ∧ m.Renews (Task.dynamics U ex) (.step p) p c.dues c'.dues := by
    rw [Control.dues_of_quiet hlife hacts hlife' hfork hwait]
    exact ⟨hnodup, Machine.renews_of_quiet hp hlife hfork hwait _⟩
  have refused {e : Errno} (hrefused : m.refusal? = some e)
      (hc : c.event? ex m p proc.context = some (.stranded p)) (heq : c' = .stranded e) :
      m.event? U ex (.step p) = some (.stranded p) ∧ c'.isLeaving :=
    ⟨event?_of_control hp hlife hc, heq ▸ rfl⟩
  cases c.conduct ex with
  | forkLeft ends left right =>
    replace hacts : Machine.Acts _ m p proc (.fork _ fun reply =>
      .executing (afterFork (fun child => .forkRight ends child right) reply)) proc' store := hacts
    cases hacts with
    | stranded _ _ hrefused =>
      cases hlife'
      exact Or.inr (refused hrefused (congrArg some (Machine.forkEvent_refused hrefused _ _)) rfl)
    | forked _ _ hgranted =>
    left
    cases hlife'
    have hbearing : m.bearing? (Task.dynamics U ex) (.step p) = some p :=
      Machine.bearing?_of_fork hp hlife rfl hgranted
    refine ⟨by simp [dues, afterFork], fun y => ?_⟩
    simp [dues, afterFork, hbearing]
  | forkRight ends left right =>
    replace hacts : Machine.Acts _ m p proc (.fork _ fun reply => .executing
      (afterFork (fun child => .closeEnds [ends.readEnd, ends.writeEnd] left child) reply))
      proc' store := hacts
    cases hacts with
    | stranded _ _ hrefused =>
      cases hlife'
      exact Or.inr (refused hrefused (congrArg some (Machine.forkEvent_refused hrefused _ _)) rfl)
    | forked _ _ hgranted =>
    left
    cases hlife'
    have hasking : m.asking? (Task.dynamics U ex) (.step p) = none := by
      simp only [Machine.asking?, hactive]
      rfl
    have hlt : left < m.processes.length := by
      obtain ⟨_, hx, -⟩ := Machine.mem_childrenOf.mp (hdues left (.head _))
      exact (List.getElem?_eq_some_iff.mp hx).1
    have hbearing : m.bearing? (Task.dynamics U ex) (.step p) = some p :=
      Machine.bearing?_of_fork hp hlife rfl hgranted
    refine ⟨by simp [dues, afterFork, Nat.ne_of_lt hlt], fun y => ?_⟩
    simp [dues, afterFork, hbearing, Machine.reaping?, hasking]
  | waitLeft left right =>
    exact Or.inl (dues_of_wait hp hlife rfl hacts hlife' hnodup (hdues left (.head _)) rfl
      (dues_afterWait _ left fun _ => rfl))
  | waitRight leftCode right =>
    exact Or.inl (dues_of_wait hp hlife rfl hacts hlife' hnodup (hdues right (.head _)) rfl
      (dues_afterWait _ right fun _ => rfl))
  | call ha | goOn ha =>
    exact Or.inl (quiet (fun _ _ h => by cases ha.symm.trans h)
      fun _ _ h => by cases ha.symm.trans h)
  | _ => exact Or.inl (quiet (fun _ _ h => by cases h) fun _ _ h => by cases h)

/-- Whether a process can end by a step in a state. -/
def Control.mayEnd : Control → Bool
  | noting .. | forkLeft .. | forkRight .. | closeEnds .. | waitLeft .. | waitRight .. => false
  | _ => true

theorem Control.dues_of_mayEnd (hc : c.mayEnd) : c.dues = [] := by
  cases c <;> first | rfl | cases hc

/-- A process does not end while it busies itself with the sides of its pipe. -/
theorem Control.mayEnd_of_ended (hlife : proc.life = .active (.executing c)) {store : Store}
    {status : ExitStatus}
    (hacts : Machine.Acts (Task.dynamics U ex) m p proc
      ((Task.dynamics U ex).action (.executing c)) proc' store)
    (hlife' : proc'.life = .ended status) : c.mayEnd := by
  have called {k : Call} {next : k.Reply → Task U.State}
      (hcall : ∀ signal, k.perform m.store proc.context m.held (Pid.number p)
        (m.parentNumber proc) ≠ .killed signal)
      (hacts : Machine.Acts (Task.dynamics U ex) m p proc (.call k next) proc' store) :
      False := by
    cases hacts with
    | done => cases hlife'
    | underway => cases hlife.symm.trans hlife'
    | killed hc => exact hcall _ hc
  cases c with
  | noting level message next => exact (called (fun _ hc => by cases hc) hacts).elim
  | forkLeft | forkRight | waitLeft | waitRight => cases hacts <;> cases hlife'
  | closeEnds ends =>
    cases ends with
    | nil =>
      cases hacts
      cases hlife'
    | cons fd fds =>
      refine (called (k := .close fd) (fun signal hc => ?_) hacts).elim
      simp only [Call.perform, Store.close] at hc
      split at hc <;> cases hc
  | _ => rfl

/-- Who runs a part of a line takes the end of a child by a step of its own only. -/
theorem Machine.step_of_reaping? (hm : m.make? (Task.dynamics U ex) mv = some m')
    (hp : m.processes[p]? = some proc) (hlife : proc.life = .active (.executing c))
    (hr : m.reaping? (Task.dynamics U ex) mv = some (p, y)) : mv = .step p := by
  have hasking := (Option.filter_eq_some_iff.mp hr).1
  cases mv with
  | step q => rw [asking?_step hasking]
  | interrupt | elapse => cases hasking
  | collect q child =>
    cases hasking
    have haction : (Task.dynamics U ex).action (.executing c) = (c.action ex).map .executing :=
      rfl
    simp only [Machine.make?, Machine.collect?, Machine.active?_eq_some.mpr ⟨hp, hlife⟩,
      haction] at hm
    cases c.conduct ex with
    | call ha | goOn ha =>
      rw [ha] at hm
      cases hm
    | _ => cases hm

/-- A process in a state with an event of its own does not give up. -/
theorem Control.not_isLeaving_of_event? {e : Event} {context : Context}
    (h : c.event? ex m p context = some e) : c.isLeaving = false := by
  cases Control.makes_of_event? h <;> rfl

/-- Who could not create a process gives up. -/
theorem isLeaving_of_stranded (hrun : Run (Task.dynamics U ex) m₀ h m)
    (hx : .stranded x ∈ events U ex h) :
    x < m.processes.length ∧ ∀ proc c, m.processes[x]? = some proc →
      proc.life = .active (.executing c) → c.isLeaving := by
  induction hrun with
  | start => simp [events] at hx
  | @move h m m' hrun mv hm ih =>
    rcases mem_events_cons.mp hx with he | hx
    · rcases event?_eq_some he with ⟨_, _, heq, -⟩ | ⟨q, proc, c, rfl, hq, hlife, hc⟩
      · cases heq
      obtain ⟨proc₁, hp₁, hacts⟩ := Machine.acts_of_step hm hq hlife
      have refused {next : Pid → Control} {child : Task U.State} {e : Errno} {store : Store}
          (hacts : Machine.Acts (Task.dynamics U ex) m q proc (.fork child fun reply =>
            .executing (Control.afterFork next reply)) proc₁ store)
          (hrefused : m.refusal? = some e) (proc' : Process (Task U.State)) (c' : Control)
          (hp' : m'.processes[q]? = some proc') (hlife' : proc'.life = .active (.executing c')) :
          c'.isLeaving := by
        obtain rfl := Option.some.inj (hp₁.symm.trans hp')
        cases hacts with
        | forked _ _ hgranted => cases hgranted.symm.trans hrefused
        | stranded =>
          cases hlife'
          rfl
      cases Control.makes_of_event? hc with
      | noLeft _ _ _ hrefused | noRight _ _ _ hrefused =>
        exact ⟨(List.getElem?_eq_some_iff.mp hp₁).1, refused hacts hrefused⟩
    · obtain ⟨hlt, hleaving⟩ := ih hx
      refine ⟨Nat.lt_of_lt_of_le hlt (Machine.length_le_of_make? hm), fun proc' c' hx' hlife' => ?_⟩
      cases Machine.make?_proceeds hm hx' hlife' with
      | acted _ hp hlife hacts =>
        exact Control.isLeaving_step (hleaving _ _ hp hlife) hlife hacts hlife'
      | kept _ hp hlife | told _ hp hlife => exact hleaving _ _ hp hlife
      | left _ _ _ hlength | right _ _ _ hlength => exact absurd hlength (Nat.ne_of_lt hlt)

/-- Who is about to do something for the line has not given up. -/
theorem not_stranded_of_event? (hrun : Run (Task.dynamics U ex) m₀ h m)
    (hp : m.processes[p]? = some proc) (hlife : proc.life = .active (.executing c)) {e : Event}
    (hc : c.event? ex m p proc.context = some e) : .stranded p ∉ events U ex h := by
  intro hmem
  have hleaving := (isLeaving_of_stranded hrun hmem).2 proc c hp hlife
  rw [Control.not_isLeaving_of_event? hc] at hleaving
  cases hleaving

/-- The children of a process that runs a part of the line whose ends were not taken are those that
it has still to wait for, unless it gives up because it could not create a process. -/
theorem LineStart.dues (L : LineStart m₀) (hrun : Run (Task.dynamics U ex) m₀ h m) :
    ∀ (p : Pid) (proc : Process (Task U.State)) (c : Control), m.processes[p]? = some proc →
      proc.life = .active (.executing c) →
      (c.dues.Nodup ∧ ∀ y, y ∈ m.childrenOf p ↔ y ∈ c.dues) ∨
        .stranded p ∈ events U ex h ∧ c.isLeaving := by
  induction hrun with
  | start =>
    intro p proc c hp hlife
    obtain rfl := L.alone p proc c hp hlife
    obtain rfl := Option.some.inj (L.process.symm.trans hp)
    cases hlife
    refine Or.inl ⟨List.nodup_nil, fun y => iff_of_false (fun hy => ?_) List.not_mem_nil⟩
    obtain ⟨procy, hy, hparent, hne, -⟩ := Machine.mem_childrenOf.mp hy
    exact hne (L.childless y procy hy hparent)
  | @move h m m' hrun mv hm ih =>
    intro p proc' c' hp' hlife'
    have hchildren := Machine.childrenOf_of_make? hm p
    cases Machine.make?_proceeds hm hp' hlife' with
    | acted hmv hp hlife hacts =>
      subst hmv
      rcases ih p _ _ hp hlife with ⟨hnodup, hdues⟩ | ⟨hstranded, hc⟩
      · rcases Control.dues_step hp hlife hacts hlife' hnodup fun y hy => (hdues y).mpr hy with
          ⟨hnodup', hrenews⟩ | ⟨he, hc⟩
        · exact Or.inl ⟨hnodup', hchildren.congr hrenews hdues⟩
        · exact Or.inr ⟨mem_events_cons.mpr (Or.inl he), hc⟩
      · exact Or.inr ⟨mem_events_cons.mpr (Or.inr hstranded),
          Control.isLeaving_step hc hlife hacts hlife'⟩
    | kept hmv hp hlife | told hmv hp hlife =>
      -- Nobody else takes an end or starts anyone in its place.
      rcases ih p _ c' hp hlife with ⟨hnodup, hdues⟩ | ⟨hstranded, hc⟩
      · refine Or.inl ⟨hnodup, hchildren.congr (.refl (fun y hr => ?_) fun hb => ?_) hdues⟩
        · exact hmv (Machine.step_of_reaping? hm hp hlife hr)
        · obtain ⟨_, _, _, _, hstep, -⟩ := Machine.bearing?_eq_some hb
          exact hmv hstep
      · exact Or.inr ⟨mem_events_cons.mpr (Or.inr hstranded), hc⟩
    | left _ _ _ hlength | right _ _ _ hlength =>
      subst hlength
      have hs := hrun.sound L.sound
      exact Or.inl ⟨List.nodup_nil, fun y => iff_of_false (Machine.childrenOf_length hs hm)
        List.not_mem_nil⟩

/-- Those that a process has still to wait for are its children. -/
theorem LineStart.mem_childrenOf_of_dues (L : LineStart m₀) (hrun : Run (Task.dynamics U ex) m₀ h m)
    (hp : m.processes[p]? = some proc) (hlife : proc.life = .active (.executing c)) :
    ∀ y ∈ c.dues, y ∈ m.childrenOf p := by
  intro y hy
  rcases L.dues hrun p proc c hp hlife with ⟨-, hdues⟩ | ⟨-, hleaving⟩
  · exact (hdues y).mpr hy
  · rw [Control.dues_of_isLeaving hleaving] at hy
    cases hy

end PipeShell
