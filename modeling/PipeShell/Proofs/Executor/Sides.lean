import PipeShell.Proofs.Executor.Answers
import PipeShell.Proofs.Executor.Dues

/-!
# The pipe of a process and its two sides

A process makes one pipe at most and starts one process at most for each of its sides, the left one
first. What it has done of this so far can be told from its control state, and so can the ends that
it has taken (`Control.Sides`, `LineStart.sides`): the code that it has in hand for a side is the
one for the end of the process that it has started for this side, whichever of the two ended first.

When it ends by itself, it has made no pipe or started both sides. Nothing that becomes of one side
keeps it from starting the other: only a signal can stop it on the way (`Pursued`).
-/

namespace PipeShell

variable {U : Userland} {ex : Executor} {m₀ m m' : Machine (Task U.State)}
  {h : Past (Task U.State)} {mv : Move} {p q x y : Pid} {proc proc' : Process (Task U.State)}
  {c c' : Control} {es : List Event}

/-! ## What a process has done -/

/-- The ends of the pipe that was made. -/
def Event.ends? : Event → Option (Descriptor × Descriptor)
  | piped _ _ readEnd writeEnd => some (readEnd, writeEnd)
  | _ => none

/-- The process that was started, and the side that it was started for. -/
def Event.started? : Event → Option (Side × Pid)
  | forked _ side child => some (side, child)
  | _ => none

/-- The ends of the pipes that a process has made, latest first. -/
def pipesOf (es : List Event) (p : Pid) : List (Descriptor × Descriptor) :=
  es.filterMap fun e => if e.mover = p then e.ends? else none

/-- The processes that a process has started for the sides of pipes, latest first. -/
def startedOf (es : List Event) (p : Pid) : List (Side × Pid) :=
  es.filterMap fun e => if e.mover = p then e.started? else none

theorem mem_startedOf {side : Side} {child : Pid} :
    (side, child) ∈ startedOf es p ↔ .forked p side child ∈ es := by
  simp only [startedOf, List.mem_filterMap, Option.ite_none_right_eq_some]
  constructor
  · rintro ⟨e, he, rfl, heq⟩
    cases e with
    | forked =>
      cases heq
      exact he
    | _ => cases heq
  · exact fun he => ⟨_, he, rfl, rfl⟩

theorem mem_pipesOf {readEnd writeEnd : Descriptor} :
    (readEnd, writeEnd) ∈ pipesOf es p ↔ ∃ pipe, .piped p pipe readEnd writeEnd ∈ es := by
  simp only [pipesOf, List.mem_filterMap, Option.ite_none_right_eq_some]
  constructor
  · rintro ⟨e, he, rfl, heq⟩
    cases e with
    | piped =>
      cases heq
      exact ⟨_, he⟩
    | _ => cases heq
  · exact fun ⟨pipe, he⟩ => ⟨_, he, rfl, rfl⟩

/-- What a list of events has of a process grows by the event of a step of its own only. -/
theorem filterMap_events_step {β : Type} {f : Event → Option β}
    (hf : ∀ q child, f (.reaped q child) = none) (hp : m.processes[p]? = some proc)
    (hlife : proc.life = .active (.executing c)) :
    (events U ex ((m, .step p) :: h)).filterMap (fun e => if e.mover = p then f e else none) =
      ((c.event? ex m p proc.context).bind f).toList ++
        (events U ex h).filterMap (fun e => if e.mover = p then f e else none) := by
  rw [events_cons, List.filterMap_append]
  congr 1
  rcases event?_step hp hlife with he | ⟨hnone, child, he⟩
  · rw [he]
    cases hc : c.event? ex m p proc.context with
    | none => rfl
    | some e =>
      have hmover : e.mover = p := by cases Control.makes_of_event? hc <;> rfl
      cases hf' : f e <;> simp [hmover, hf']
  · simp [he, hnone, hf]

theorem filterMap_events_of_ne {β : Type} {f : Event → Option β}
    (hf : ∀ q child, f (.reaped q child) = none)
    (hx : mv = .step x → ∀ proc c, m.processes[x]? = some proc →
      proc.life ≠ .active (.executing c)) :
    (events U ex ((m, mv) :: h)).filterMap (fun e => if e.mover = x then f e else none) =
      (events U ex h).filterMap (fun e => if e.mover = x then f e else none) := by
  rw [events_cons, List.filterMap_append]
  cases he : m.event? U ex mv with
  | none => rfl
  | some e =>
    rcases event?_eq_some he with ⟨q, child, rfl, -⟩ | ⟨q, proc, c, rfl, hq, hlife, hc⟩
    · simp [hf]
    · have hmover : e.mover = q := by cases Control.makes_of_event? hc <;> rfl
      have hne : q ≠ x := by
        rintro rfl
        exact hx rfl proc c hq hlife
      simp [hmover, hne]

theorem pipesOf_step (hp : m.processes[p]? = some proc)
    (hlife : proc.life = .active (.executing c)) :
    pipesOf (events U ex ((m, .step p) :: h)) p =
      ((c.event? ex m p proc.context).bind Event.ends?).toList ++ pipesOf (events U ex h) p :=
  filterMap_events_step (fun _ _ => rfl) hp hlife

theorem startedOf_step (hp : m.processes[p]? = some proc)
    (hlife : proc.life = .active (.executing c)) :
    startedOf (events U ex ((m, .step p) :: h)) p =
      ((c.event? ex m p proc.context).bind Event.started?).toList ++
        startedOf (events U ex h) p :=
  filterMap_events_step (fun _ _ => rfl) hp hlife

/-- Nothing is added to what a process has done by moves of others, nor by its own once it does not
run a part of a line. -/
theorem done_of_ne (ex : Executor) (h : Past (Task U.State)) (mv : Move)
    (hx : mv = .step x → ∀ proc c, m.processes[x]? = some proc →
      proc.life ≠ .active (.executing c)) :
    pipesOf (events U ex ((m, mv) :: h)) x = pipesOf (events U ex h) x ∧
      startedOf (events U ex ((m, mv) :: h)) x = startedOf (events U ex h) x :=
  ⟨filterMap_events_of_ne (fun _ _ => rfl) hx, filterMap_events_of_ne (fun _ _ => rfl) hx⟩

/-- Who is not there has done nothing. -/
theorem done_of_le (hrun : Run (Task.dynamics U ex) m₀ h m) (hx : m.processes.length ≤ x) :
    pipesOf (events U ex h) x = [] ∧ startedOf (events U ex h) x = [] := by
  induction hrun with
  | start => exact ⟨rfl, rfl⟩
  | @move h m m' hrun mv hm ih =>
    have hle := Nat.le_trans (Machine.length_le_of_make? hm) hx
    obtain ⟨hpipes, hstarted⟩ := done_of_ne ex h mv
      fun _ proc c hp _ => absurd (List.getElem?_eq_some_iff.mp hp).1 (Nat.not_lt_of_le hle)
    rw [hpipes, hstarted]
    exact ih hle

/-! ## Ends -/

theorem Machine.endOf?_eq_some {κ : Type} {m : Machine κ} {status : ExitStatus} :
    m.endOf? x = some status ↔
      ∃ proc, m.processes[x]? = some proc ∧ proc.life = .ended status := by
  unfold endOf?
  constructor
  · intro h
    split at h
    · next hx =>
      cases h
      exact ⟨_, hx, rfl⟩
    · cases h
  · rintro ⟨⟨parent, context, life⟩, hx, rfl⟩
    rw [hx]

/-- Who has ended after a move had ended before, or has halted, or was ended by a signal. -/
theorem Machine.ended_of_make? {κ : Type} {d : Dynamics κ} {m m' : Machine κ}
    {status : ExitStatus} (hm : m.make? d mv = some m') (he : m'.endOf? x = some status) :
    m.endOf? x = some status ∨ ∃ proc state, m.processes[x]? = some proc ∧
      proc.life = .active state ∧ ((∃ signal, status = .signaled signal) ∨
        ∃ code, mv = .step x ∧ d.action state = .halt code ∧ status = .exited (code % 256)) := by
  obtain ⟨proc', hx', hlife'⟩ := endOf?_eq_some.mp he
  cases make?_becomes hm hx' with
  | acted hmv hx hlife hacts =>
    rcases hacts.ended_cases hlife hlife' with hsignal | ⟨code, ha, hstatus⟩
    · exact Or.inr ⟨_, _, hx, hlife, Or.inl hsignal⟩
    · exact Or.inr ⟨_, _, hx, hlife, Or.inr ⟨code, hmv, ha, hstatus⟩⟩
  | interrupted => cases hlife'
  | touched hx _ ht =>
    cases ht with
    | unchanged | told => exact Or.inl (endOf?_eq_some.mpr ⟨_, hx, hlife'⟩)
    | killed state hlife signal =>
      cases hlife'
      exact Or.inr ⟨_, state, hx, hlife, Or.inl ⟨signal, rfl⟩⟩
    | reaped => cases hlife'
  | born => cases hlife'

/-- Process `x` has ended with a status, whether or not its parent was told. -/
def Ended {σ : Type} (h : Past (Task σ)) (m : Machine (Task σ)) (x : Pid) (status : ExitStatus) :
    Prop :=
  m.endOf? x = some status ∨ ∃ r ∈ h, r.1.endOf? x = some status

/-- Who has ended after a move has ended by it, or before. -/
theorem ended_cons {σ : Type} {h : Past (Task σ)} {m m' : Machine (Task σ)} {status : ExitStatus} :
    Ended ((m, mv) :: h) m' x status ↔ m'.endOf? x = some status ∨ Ended h m x status := by
  simp [Ended]

theorem Ended.move {σ : Type} {h : Past (Task σ)} {m : Machine (Task σ)} {status : ExitStatus}
    (he : Ended h m x status) (mv : Move) (m' : Machine (Task σ)) :
    Ended ((m, mv) :: h) m' x status :=
  ended_cons.mpr (Or.inr he)

theorem Ended.of_life {σ : Type} {h : Past (Task σ)} {m : Machine (Task σ)}
    {proc : Process (Task σ)} {status : ExitStatus} (hx : m.processes[x]? = some proc)
    (hlife : proc.life = .ended status) : Ended h m x status :=
  Or.inl (Machine.endOf?_eq_some.mpr ⟨proc, hx, hlife⟩)

/-- Who has ended does not run. -/
theorem Ended.inactive (hrun : Run (Task.dynamics U ex) m₀ h m) {status : ExitStatus}
    (he : Ended h m x status) : x < m.processes.length ∧ m.active? x = none := by
  have now {m : Machine (Task U.State)} (he : m.endOf? x = some status) :
      x < m.processes.length ∧ m.active? x = none := by
    obtain ⟨proc, hx, hlife⟩ := Machine.endOf?_eq_some.mp he
    refine ⟨(List.getElem?_eq_some_iff.mp hx).1, Machine.active?_eq_none.mpr ?_⟩
    intro proc' state hx' hlife'
    obtain rfl := Option.some.inj (hx.symm.trans hx')
    cases hlife.symm.trans hlife'
  induction hrun with
  | start =>
    rcases he with he | ⟨r, hr, -⟩
    · exact now he
    · cases hr
  | @move h m m' hrun mv hm ih =>
    rcases ended_cons.mp he with he | hbefore
    · exact now he
    · obtain ⟨hlt, hended⟩ := ih hbefore
      exact ⟨Nat.lt_of_lt_of_le hlt (Machine.length_le_of_make? hm),
        Machine.active?_of_make? hm hlt hended⟩

/-- A process ends once. -/
theorem Ended.unique (hrun : Run (Task.dynamics U ex) m₀ h m) {status status' : ExitStatus}
    (he : Ended h m x status) (he' : Ended h m x status') : status = status' := by
  induction hrun with
  | start =>
    rcases he with he | ⟨r, hr, -⟩
    · rcases he' with he' | ⟨r, hr, -⟩
      · exact Option.some.inj (he.symm.trans he')
      · cases hr
    · cases hr
  | @move h m m' hrun mv hm ih =>
    -- Who had ended before is not active, so the end that is there now is the old one.
    have old {s s' : ExitStatus} (hnow : m'.endOf? x = some s) (hbefore : Ended h m x s') :
        Ended h m x s := by
      rcases Machine.ended_of_make? hm hnow with hsame | ⟨proc, state, hx, hlife, -⟩
      · exact Or.inl hsame
      · have hactive := Machine.active?_eq_some.mpr ⟨hx, hlife⟩
        rw [(hbefore.inactive hrun).2] at hactive
        cases hactive
    rcases ended_cons.mp he with hnow | hbefore <;> rcases ended_cons.mp he' with hnow' | hbefore'
    · exact Option.some.inj (hnow.symm.trans hnow')
    · exact ih (old hnow hbefore') hbefore'
    · exact ih hbefore (old hnow' hbefore)
    · exact ih hbefore hbefore'

/-! ## Control states -/

/-- A process has made a pipe and started both sides. -/
def Paired (pipes : List (Descriptor × Descriptor)) (started : List (Side × Pid))
    (left right : Pid) : Prop :=
  pipes.length = 1 ∧ started = [(.right, right), (.left, left)]

/-- A process has made no pipe and started nobody, or it has started both sides of its pipe. -/
def Pursued (pipes : List (Descriptor × Descriptor)) (started : List (Side × Pid)) : Prop :=
  pipes = [] ∧ started = [] ∨ ∃ left right, Paired pipes started left right

namespace Control

/-- What a process has done when it is in a state: the pipes that it has made, who was started for
their sides, and which ends were taken. -/
def Sides (pipes : List (Descriptor × Descriptor)) (started : List (Side × Pid))
    (ended : Pid → ExitStatus → Prop) : Control → Prop
  | forkLeft .. => pipes.length = 1 ∧ started = []
  | forkRight _ left _ => pipes.length = 1 ∧ started = [(.left, left)]
  | closeEnds _ left right | waitLeft left right => Paired pipes started left right
  | waitRight leftCode right => ∃ left status, Paired pipes started left right ∧
      ended left status ∧ leftCode = (Reap.code status).toOption
  | connected leftCode rightCode => ∃ left right status status', Paired pipes started left right ∧
      ended left status ∧ leftCode = (Reap.code status).toOption ∧
      ended right status' ∧ rightCode = (Reap.code status').toOption
  | noting _ _ next => next.Sides pipes started ended
  | exit _ => Pursued pipes started
  | _ => pipes = [] ∧ started = []

variable {pipes : List (Descriptor × Descriptor)} {started : List (Side × Pid)}
  {ended ended' : Pid → ExitStatus → Prop}

theorem Sides.mono (hs : c.Sides pipes started ended)
    (hle : ∀ x status, ended x status → ended' x status) : c.Sides pipes started ended' := by
  induction c with
  | noting _ _ _ ih => exact ih hs
  | waitRight =>
    obtain ⟨left, status, hpair, hended, hcode⟩ := hs
    exact ⟨left, status, hpair, hle _ _ hended, hcode⟩
  | connected =>
    obtain ⟨left, right, status, status', hpair, hended, hcode, hended', hcode'⟩ := hs
    exact ⟨left, right, status, status', hpair, hle _ _ hended, hcode, hle _ _ hended', hcode'⟩
  | release _ copied => cases copied <;> exact hs
  | run t => cases t <;> exact hs
  | _ => exact hs

theorem sides_settle {fd target : Fd} {t : Command} (hs : pipes = [] ∧ started = []) :
    (settle fd target t).Sides pipes started ended := by
  unfold settle
  split <;> exact hs

theorem sides_execute {argv : List Bytes} (hs : pipes = [] ∧ started = []) :
    (execute argv).Sides pipes started ended := by
  unfold execute
  split
  · exact Or.inl hs
  · split <;> exact hs

theorem sides_afterRelease {copied : Except Errno Unit} {t : Command} {closed : Except Errno Unit}
    (hs : pipes = [] ∧ started = []) :
    (afterRelease copied t closed).Sides pipes started ended := by
  cases copied <;> cases closed <;> exact hs

theorem sides_afterPiece {console : Console} {piece : Bytes} {rest : List Bytes}
    {reply : Except Errno Nat} (hs : pipes = [] ∧ started = []) :
    (afterPiece console piece rest reply).Sides pipes started ended := by
  unfold afterPiece
  split <;> exact hs

theorem sides_afterAlarm {piece : Bytes} {rest : List Bytes} {reply : Except Errno Nat}
    (hs : pipes = [] ∧ started = []) :
    (afterAlarm piece rest reply).Sides pipes started ended := by
  unfold afterAlarm
  split
  · exact hs
  · exact Or.inl hs

/-- A process that has taken an end goes on with the code for it. -/
theorem sides_afterWait {again : Control} {stage : Pid} {next : Option Nat → Control}
    {status : ExitStatus} (hs : (next (Reap.code status).toOption).Sides pipes started ended) :
    (afterWait again stage next (.ended status)).Sides pipes started ended := by
  have hcode : (stageResult stage (Reap.code status)).2.2 = (Reap.code status).toOption := by
    cases Reap.code status <;> rfl
  simp only [afterWait, Reap.verdict?]
  rw [hcode]
  split <;> exact hs

/-- A process that waits for a child that is due takes its end, or waits on. -/
theorem wait_cases {child : Pid} {next : WaitReply → Control} (hchild : child ∈ m.childrenOf p)
    (ha : c.action ex = .wait child next)
    {store : Store}
    (hacts : Machine.Acts (Task.dynamics U ex) m p proc
      ((Task.dynamics U ex).action (.executing c)) proc' store)
    (hlife' : proc'.life = .active (.executing c')) :
    (∃ status, c' = next (.ended status) ∧ m.endOf? child = some status) ∨ c' = c := by
  have haction : (Task.dynamics U ex).action (.executing c) =
      .wait child fun reply => .executing (next reply) := by
    show (c.action ex).map Task.executing = _
    rw [ha]
    rfl
  rw [haction] at hacts
  cases hacts with
  | waited _ hawait =>
    obtain ⟨status, rfl⟩ := Machine.await_of_mem_childrenOf hchild hawait
    cases hlife'
    rcases Machine.await_cases hawait with ⟨-, heq, -⟩ | ⟨procx, status', hx, -, hended, heq, -⟩
    · cases heq
    · cases heq
      exact Or.inl ⟨status, rfl, Machine.endOf?_eq_some.mpr ⟨procx, hx, hended⟩⟩
  | interrupted =>
    exact Or.inr (Task.executing.inj
      ((Life.active.inj hlife').symm.trans (executing_interrupted haction)))

/-- A step adds to what a process has done what its next state tells, unless a process could not be
created. -/
theorem Sides.step
    (hs : c.Sides (pipesOf (events U ex h) p) (startedOf (events U ex h) p) (Ended h m))
    (hp : m.processes[p]? = some proc) (hlife : proc.life = .active (.executing c))
    {store : Store}
    (hacts : Machine.Acts (Task.dynamics U ex) m p proc
      ((Task.dynamics U ex).action (.executing c)) proc' store)
    (hlife' : proc'.life = .active (.executing c')) (hdues : ∀ y ∈ c.dues, y ∈ m.childrenOf p)
    (hforks : .stranded p ∉ events U ex ((m, .step p) :: h)) (m' : Machine (Task U.State)) :
    c'.Sides (pipesOf (events U ex ((m, .step p) :: h)) p)
      (startedOf (events U ex ((m, .step p) :: h)) p) (Ended ((m, .step p) :: h) m') := by
  replace hs := hs.mono fun y status hy => Ended.move hy (.step p) m'
  rw [pipesOf_step hp hlife, startedOf_step hp hlife]
  have called {call : Call} {next : call.Reply → Control} (ha : c.action ex = .call call next) :
      (∃ reply, c' = next reply) ∨ c' = c :=
    (reply_or_eq_of_call hacts hlife hlife' ha).imp_right And.left
  cases c with
  | run t =>
    cases t with
    | exec argv =>
      cases hacts
      cases hlife'
      exact sides_execute hs
    | redirect t file direction =>
      have hnone : ((run (.redirect t file direction)).event? ex m p proc.context).bind
          Event.ends? = none ∧ ((run (.redirect t file direction)).event? ex m p
            proc.context).bind Event.started? = none := by
        cases he : (run (.redirect t file direction)).event? ex m p proc.context with
        | none => exact ⟨rfl, rfl⟩
        | some e =>
          cases makes_of_event? he
          exact ⟨rfl, rfl⟩
      rw [hnone.1, hnone.2]
      rcases called rfl with ⟨reply, rfl⟩ | rfl
      · cases reply with
        | error => exact hs
        | ok fd => exact sides_settle hs
      · exact hs
    | pipe left right =>
      replace hacts : Machine.Acts _ m p proc (.call .makePipe
        fun reply => .executing (afterPipe left right reply)) proc' store := hacts
      simp only [event?]
      rcases Store.makePipe_cases m.store proc.context with ⟨cause, hmake⟩ |
        ⟨s', r, v, -, -, -, -, hne, -, -, -, hmake⟩
      · obtain ⟨-, rfl⟩ := hacts.of_done hmake
        cases hlife'
        rw [hmake]
        exact hs
      · obtain ⟨-, rfl⟩ := hacts.of_done hmake
        cases hlife'
        rw [hmake]
        simp only [DescriptorTable.get_set, if_neg hne, if_pos, Option.bind_some, Option.map_some]
        rw [hs.1, hs.2]
        exact ⟨rfl, rfl⟩
  | noting level message next =>
    replace hacts : Machine.Acts _ m p proc
      (.call (.note level message) fun _ => .executing next) proc' store := hacts
    obtain ⟨-, rfl⟩ := hacts.of_done rfl
    cases hlife'
    exact hs
  | complain =>
    cases hacts
    cases hlife'
    exact hs
  | printing pieces =>
    rcases pieces with _ | ⟨_ | ⟨b, bs⟩, rest⟩
    · cases hacts
      cases hlife'
      exact Or.inl hs
    · cases hacts
      cases hlife'
      exact hs
    · rcases called rfl with ⟨reply, rfl⟩ | rfl
      · exact sides_afterPiece hs
      · exact hs
  | alarm pieces =>
    rcases pieces with _ | ⟨_ | ⟨b, bs⟩, rest⟩
    · cases hacts
      cases hlife'
      exact Or.inl hs
    · cases hacts
      cases hlife'
      exact hs
    · rcases called rfl with ⟨reply, rfl⟩ | rfl
      · exact sides_afterAlarm hs
      · exact hs
  | stranded =>
    obtain ⟨⟨reply, heq⟩, -⟩ := Machine.Acts.of_kill hacts hlife'
    cases heq
    cases reply <;> exact hs
  | exit =>
    cases hacts
    cases hlife'
  | launch =>
    cases hacts with
    | refused =>
      cases hlife'
      exact hs
    | became => cases hlife'
  | bind =>
    rcases called rfl with ⟨reply, rfl⟩ | rfl
    · exact hs
    · exact hs
  | release fd copied t =>
    rcases called rfl with ⟨reply, rfl⟩ | rfl
    · exact sides_afterRelease hs
    · exact hs
  | leave unneeded kept target t =>
    rcases called rfl with ⟨reply, rfl⟩ | rfl
    · exact sides_settle hs
    · exact hs
  | forkLeft ends left right =>
    have hgranted := granted_of_event? hp hlife rfl hforks
    cases hacts with
    | stranded _ _ hrefused => cases hgranted.symm.trans hrefused
    | forked =>
      cases hlife'
      simp only [event?, Machine.forkEvent_granted hgranted]
      exact ⟨hs.1, by rw [hs.2]; rfl⟩
  | forkRight ends left right =>
    have hgranted := granted_of_event? hp hlife rfl hforks
    cases hacts with
    | stranded _ _ hrefused => cases hgranted.symm.trans hrefused
    | forked =>
      cases hlife'
      simp only [event?, Machine.forkEvent_granted hgranted]
      exact ⟨hs.1, by rw [hs.2]; rfl⟩
  | closeEnds ends left right =>
    cases ends with
    | nil =>
      cases hacts
      cases hlife'
      exact hs
    | cons fd fds =>
      rcases called rfl with ⟨reply, rfl⟩ | rfl
      · exact hs
      · exact hs
  | waitLeft left right =>
    rcases wait_cases (hdues left (.head _)) rfl hacts hlife' with ⟨status, rfl, hended⟩ | rfl
    · exact sides_afterWait ⟨left, status, hs, Or.inr ⟨_, .head _, hended⟩, rfl⟩
    · exact hs
  | waitRight leftCode right =>
    rcases wait_cases (hdues right (.head _)) rfl hacts hlife' with ⟨status', rfl, hended'⟩ | rfl
    · obtain ⟨left, status, hpair, hended, hcode⟩ := hs
      exact sides_afterWait ⟨left, right, status, status', hpair, hended, hcode,
        Or.inr ⟨_, .head _, hended'⟩, rfl⟩
    · exact hs
  | connected =>
    cases hacts
    cases hlife'
    obtain ⟨left, right, _, _, hpair, -⟩ := hs
    exact Or.inr ⟨left, right, hpair⟩

end Control

/-! ## Every process -/

namespace LineStart

/-- Every process that runs a part of the line has done what its state tells. Everybody else has
made no pipe or has started both sides of it, unless a signal has ended it. Processes that could not
create another are left out. -/
theorem sides (L : LineStart m₀) (hrun : Run (Task.dynamics U ex) m₀ h m) :
    ∀ (x : Pid) (proc : Process (Task U.State)), m.processes[x]? = some proc →
      .stranded x ∉ events U ex h → (∀ c, proc.life = .active (.executing c) →
        c.Sides (pipesOf (events U ex h) x) (startedOf (events U ex h) x) (Ended h m)) ∧
      ((∀ c, proc.life ≠ .active (.executing c)) →
        Pursued (pipesOf (events U ex h) x) (startedOf (events U ex h) x) ∨
          ∃ signal, Ended h m x (.signaled signal)) := by
  induction hrun with
  | start =>
    intro x proc hx _
    refine ⟨fun c hlife => ?_, fun _ => Or.inl (Or.inl ⟨rfl, rfl⟩)⟩
    obtain rfl := L.alone x proc c hx hlife
    obtain rfl := Option.some.inj (L.process.symm.trans hx)
    cases hlife
    exact ⟨rfl, rfl⟩
  | @move h m m' hrun mv hm ih =>
    intro x proc' hx' hforks
    by_cases hlt : x < m.processes.length
    · have hx := List.getElem?_eq_getElem hlt
      have hbefore : .stranded x ∉ events U ex h :=
        fun hmem => hforks (mem_events_cons.mpr (Or.inr hmem))
      obtain ⟨hexecuting, hother⟩ := ih x _ hx hbefore
      by_cases hlife : ∃ c, m.processes[x].life = .active (.executing c)
      · obtain ⟨c, hlife⟩ := hlife
        have hs := hexecuting c hlife
        have hsame (hmv : mv ≠ .step x) := done_of_ne (m := m) ex h mv
          fun heq => absurd heq hmv
        cases Machine.make?_continues hm hx hlife hx' with
        | stepped hmv c' hlife' =>
          subst hmv
          obtain ⟨proc₁, hx₁, hacts⟩ := Machine.acts_of_step hm hx hlife
          obtain rfl := Option.some.inj (hx'.symm.trans hx₁)
          refine ⟨fun c₁ hlife₁ => ?_, fun hne => absurd hlife' (hne c')⟩
          have hdues := (L.dues hrun x _ c hx hlife).resolve_right fun hand => hbefore hand.1
          exact hs.step hx hlife hacts hlife₁ (fun y hy => (hdues.2 y).mpr hy) hforks m'
        | stayed hmv hlife' =>
          refine ⟨fun c₁ hlife₁ => ?_, fun hne => absurd hlife' (hne c)⟩
          cases hlife'.symm.trans hlife₁
          rw [(hsame hmv).1, (hsame hmv).2]
          exact hs.mono fun y status hy => hy.move mv m'
        | became hmv argv hc s hlife' =>
          subst hmv hc
          refine ⟨fun c₁ hlife₁ => ?_, fun _ => Or.inl (Or.inl ?_)⟩
          · cases hlife'.symm.trans hlife₁
          · rw [pipesOf_step hx hlife, startedOf_step hx hlife]
            exact hs
        | ended hmv status hlife' =>
          subst hmv
          obtain ⟨proc₁, hx₁, hacts⟩ := Machine.acts_of_step hm hx hlife
          obtain rfl := Option.some.inj (hx'.symm.trans hx₁)
          refine ⟨fun c₁ hlife₁ => ?_, fun _ => ?_⟩
          · cases hlife'.symm.trans hlife₁
          rcases hacts.ended_cases hlife hlife' with ⟨signal, rfl⟩ | ⟨code, ha, rfl⟩
          · exact Or.inr ⟨signal, .of_life hx' hlife'⟩
          · obtain rfl := Control.eq_exit_of_halt ha
            rw [pipesOf_step hx hlife, startedOf_step hx hlife]
            exact Or.inl hs
        | killed _ signal hlife' =>
          refine ⟨fun c₁ hlife₁ => ?_, fun _ => Or.inr ⟨signal, .of_life hx' hlife'⟩⟩
          cases hlife'.symm.trans hlife₁
      · replace hlife (c : Control) : m.processes[x].life ≠ .active (.executing c) :=
          fun heq => hlife ⟨c, heq⟩
        obtain ⟨hpipes, hstarted⟩ := done_of_ne ex h mv
          fun _ proc c hp => by
            obtain rfl := Option.some.inj (hx.symm.trans hp)
            exact hlife c
        refine ⟨fun c heq => absurd heq (Machine.not_executing_of_make? hm hx hlife hx' c),
          fun _ => ?_⟩
        rw [hpipes, hstarted]
        exact (hother hlife).imp_right fun ⟨signal, hended⟩ => ⟨signal, hended.move mv m'⟩
    · -- Who is new has done nothing.
      have hold := done_of_le hrun (Nat.not_lt.mp hlt)
      obtain ⟨hpipes, hstarted⟩ := done_of_ne ex h mv
        fun _ proc c hp => absurd (List.getElem?_eq_some_iff.mp hp).1 hlt
      rw [hpipes, hstarted]
      refine ⟨fun c hlife' => ?_, fun _ => Or.inl (Or.inl hold)⟩
      cases Machine.make?_proceeds hm hx' hlife' with
      | acted _ hp | kept _ hp | told _ hp =>
        exact absurd (List.getElem?_eq_some_iff.mp hp).1 hlt
      | left | right => exact hold

end LineStart

end PipeShell
