import Mathlib.Data.Prod.Lex
import PipeShell.Proofs.Executor.Sides

/-!
# Every step leads nearer to the end

A process that runs a part of a line can go on unless it waits for somebody else: for the other side
of a named pipe, for room on standard error, or for one of its own sides to end (`Control.Waits`).
Every step that it can take leads it nearer to the end of its part, or out of it
(`Machine.rank_lt`). The rank is lexicographic: how long the report of a failure is that cannot be
written depends on the reason.
-/

namespace PipeShell

/-- How far a tree is from its end, in the process that runs it. -/
def Command.distance : Command → Nat
  | exec _ => 7
  | redirect target _ _ => target.distance + 7
  | pipe .. => 16

/-- How far a state is from the end of a part. All of the printing of a report is one step. -/
def Control.distance : Control → Nat
  | run t => t.distance
  | noting _ _ next => next.distance + 1
  | stranded _ => 6
  | complain _ => 3
  | printing _ => 2
  | alarm _ => 1
  | exit _ => 0
  | launch _ => 5
  | bind _ _ t => t.distance + 5
  | release _ _ t => t.distance + 4
  | leave _ _ _ t => t.distance + 6
  | forkLeft .. => 15
  | forkRight .. => 13
  | closeEnds ends _ _ => ends.length + 9
  | waitLeft .. => 8
  | waitRight .. => 5
  | connected .. => 2

/-- A bound on the steps that are left of printing a report: one for each byte, and one for going on
to the next piece. -/
def Control.unprinted : Control → Nat
  | printing pieces | alarm pieces => pieces.flatten.length + pieces.length
  | _ => 0

/-- How far a process is from having run its part. A file that is still to be opened counts, since
the process may have to wait before it is open. -/
def Machine.rank {σ : Type} (m : Machine (Task σ)) (x : Pid) : ℕ ×ₗ ℕ :=
  match m.active? x with
  | some (proc, .executing c) =>
    toLex (c.distance, 2 * c.unprinted + if proc.context.opening.isNone then 2 else 1)
  | _ => toLex (0, 0)

/-- A process waits for something that others have to do. -/
def Control.Waits {σ : Type} (ex : Executor) (m : Machine (Task σ)) (context : Context) :
    Control → Prop
  | run (.redirect _ file direction) =>
    m.store.openFile context m.held file direction.flags ex.redirectMode = .blocked
  | printing ((b :: bs) :: _) | alarm ((b :: bs) :: _) =>
    m.store.write context m.held Fd.stderr (b :: bs) = .blocked
  | waitLeft left _ => (m.active? left).isSome
  | waitRight _ right => (m.active? right).isSome
  | _ => False

variable {U : Userland} {ex : Executor} {m m' : Machine (Task U.State)} {p x : Pid}
  {proc proc' : Process (Task U.State)} {c c' : Control}

theorem Command.distance_pos (t : Command) : 7 ≤ t.distance := by
  cases t <;> simp only [distance] <;> omega

/-! ## Steps that can be taken -/

namespace Machine

/-- Waiting for a child has no answer only while the child runs. -/
theorem active_of_await {κ : Type} {m : Machine κ} {child : Pid} (h : m.await p child = none) :
    (m.active? child).isSome := by
  unfold await at h
  split at h
  · next procx hx =>
    split at h
    · cases h
    · split at h
      · next state hlife =>
        rw [active?_eq_some.mpr ⟨hx, hlife⟩]
        rfl
      · cases h
      · cases h
  · cases h

/-- A call that does not make the process wait is a step. -/
theorem step_of_call {call : Call} {next : call.Reply → Control} (hp : m.processes[p]? = some proc)
    (hlife : proc.life = .active (.executing c)) (ha : c.action ex = .call call next)
    (hcall : call.perform m.store proc.context m.held (Pid.number p) (m.parentNumber proc) ≠
      .blocked) : (m.step (Task.dynamics U ex) p).isSome := by
  simp only [step, active?_eq_some.mpr ⟨hp, hlife⟩, Task.dynamics, ha, Action.map, act]
  split
  · next h => exact absurd h hcall
  all_goals rfl

/-- A process that waits for nobody can go on. -/
theorem step_of_not_waits (hp : m.processes[p]? = some proc)
    (hlife : proc.life = .active (.executing c)) (hw : ¬c.Waits ex m proc.context) :
    (m.step (Task.dynamics U ex) p).isSome := by
  have hactive := active?_eq_some.mpr ⟨hp, hlife⟩
  have awaited {child : Pid} {next : WaitReply → Control} (ha : c.action ex = .wait child next)
      (hchild : ¬(m.active? child).isSome) : (m.step (Task.dynamics U ex) p).isSome := by
    simp only [step, hactive, Task.dynamics, ha, Action.map, act]
    split
    · next hawait => exact absurd (active_of_await hawait) hchild
    · rfl
  cases c with
  | run t =>
    cases t with
    | exec argv => simp [step, hactive, Task.dynamics, Control.action, Action.map, act]
    | redirect t file direction => exact step_of_call hp hlife rfl hw
    | pipe left right =>
      refine step_of_call hp hlife rfl fun h => ?_
      replace h : m.store.makePipe proc.context = .blocked := h
      rcases Store.makePipe_cases m.store proc.context with ⟨e, hm⟩ |
        ⟨_, _, _, -, -, -, -, -, -, -, -, hm⟩
      all_goals simp [hm] at h
  | noting => exact step_of_call hp hlife rfl (by simp [Call.perform])
  | printing pieces | alarm pieces =>
    rcases pieces with _ | ⟨_ | ⟨b, bs⟩, rest⟩
    · simp [step, hactive, Task.dynamics, Control.action, Action.map, act]
    · simp [step, hactive, Task.dynamics, Control.action, Action.map, act]
    · exact step_of_call hp hlife rfl hw
  | stranded cause =>
    simp only [step, hactive, Task.dynamics, Control.action, Action.map, act]
    split <;> rfl
  | forkLeft | forkRight =>
    simp only [step, hactive, Task.dynamics, Control.action, Action.map, act]
    split <;> rfl
  | bind fd target =>
    refine step_of_call hp hlife rfl fun h => ?_
    replace h : m.store.duplicate proc.context fd target = .blocked := h
    unfold Store.duplicate at h
    repeat' split at h
    all_goals cases h
  | release fd =>
    refine step_of_call hp hlife rfl fun h => ?_
    replace h : m.store.close proc.context fd = .blocked := h
    unfold Store.close at h
    split at h <;> cases h
  | leave fd =>
    refine step_of_call hp hlife rfl fun h => ?_
    replace h : m.store.close proc.context fd = .blocked := h
    unfold Store.close at h
    split at h <;> cases h
  | closeEnds ends =>
    cases ends with
    | nil => simp [step, hactive, Task.dynamics, Control.action, Action.map, act]
    | cons fd fds =>
      refine step_of_call hp hlife rfl fun h => ?_
      replace h : m.store.close proc.context fd = .blocked := h
      unfold Store.close at h
      split at h <;> cases h
  | waitLeft | waitRight => exact awaited rfl hw
  | _ => simp [step, hactive, Task.dynamics, Control.action, Action.map, act]

end Machine

/-! ## Distances -/

namespace Control

theorem distance_settle (fd target : Fd) (t : Command) :
    (settle fd target t).distance ≤ t.distance + 5 := by
  unfold settle
  split <;> simp only [distance] <;> omega

theorem distance_afterWait (again : Control) (stage : Pid) {next : Option Nat → Control} {n : Nat}
    (hnext : ∀ code, (next code).distance = n) (status : ExitStatus) :
    (afterWait again stage next (.ended status)).distance ≤ n + 2 := by
  simp only [afterWait, Reap.verdict?]
  split <;> simp only [distance, hnext] <;> omega

/-- Writing a piece leaves less of it, or fails. -/
theorem left_length {b : UInt8} {bs piece : Bytes} {reply : Except Errno Nat}
    (h : Console.left (b :: bs) reply = .ok piece) : piece.length ≤ bs.length := by
  unfold Console.left at h
  split at h
  · cases h
  · next taken hne =>
    cases h
    have hpos : 0 < taken := Nat.pos_of_ne_zero fun heq => hne (heq ▸ rfl)
    simp only [List.length_drop, List.length_cons]
    omega
  · split at h
    · cases h
      exact Nat.zero_le _
    · cases h

/-- A step with a report leads nearer to its end, or to the end of the process. -/
theorem afterPiece_lt (console : Console) (b : UInt8) (bs : Bytes) (rest : List Bytes)
    (reply : Except Errno Nat) :
    (afterPiece console (b :: bs) rest reply).distance < (printing ((b :: bs) :: rest)).distance ∨
      (afterPiece console (b :: bs) rest reply).distance =
          (printing ((b :: bs) :: rest)).distance ∧
        (afterPiece console (b :: bs) rest reply).unprinted <
          (printing ((b :: bs) :: rest)).unprinted := by
  unfold afterPiece
  split
  · next piece hleft =>
    have := left_length hleft
    refine Or.inr ⟨rfl, ?_⟩
    simp only [unprinted, List.flatten_cons, List.length_append, List.length_cons]
    omega
  · exact Or.inl (by decide : 1 < 2)

theorem afterAlarm_lt (b : UInt8) (bs : Bytes) (rest : List Bytes) (reply : Except Errno Nat) :
    (afterAlarm (b :: bs) rest reply).distance < (alarm ((b :: bs) :: rest)).distance ∨
      (afterAlarm (b :: bs) rest reply).distance = (alarm ((b :: bs) :: rest)).distance ∧
        (afterAlarm (b :: bs) rest reply).unprinted < (alarm ((b :: bs) :: rest)).unprinted := by
  unfold afterAlarm
  split
  · next piece hleft =>
    have := left_length hleft
    refine Or.inr ⟨rfl, ?_⟩
    simp only [unprinted, List.flatten_cons, List.length_append, List.length_cons]
    omega
  · exact Or.inl (by decide : 0 < 1)

/-- A step leads nearer to the end, unless it prints some of a report, starts to open a file, or is
the interruption of a wait for somebody who runs. -/
theorem distance_step (hlife : proc.life = .active (.executing c)) {store : Store}
    (hacts : Machine.Acts (Task.dynamics U ex) m p proc
      ((Task.dynamics U ex).action (.executing c)) proc' store)
    (hlife' : proc'.life = .active (.executing c')) (hdues : ∀ y ∈ c.dues, y ∈ m.childrenOf p)
    (hw : ¬c.Waits ex m proc.context) :
    c'.distance < c.distance ∨ (c'.distance = c.distance ∧ c'.unprinted < c.unprinted) ∨
      c' = c ∧ proc.context.opening = none ∧ proc'.context.opening ≠ none := by
  have called {call : Call} {next : call.Reply → Control} (ha : c.action ex = .call call next)
      (hcall : ∀ s context, call.perform m.store proc.context m.held (Pid.number p)
        (m.parentNumber proc) ≠ .underway s context) : ∃ reply, c' = next reply :=
    (reply_or_eq_of_call hacts hlife hlife' ha).resolve_right fun hsame =>
      hsame.2.elim fun context => hcall store context
  have done {call : Call} {next : call.Reply → Control} (ha : c.action ex = .call call next)
      (hcall : ∀ s context, call.perform m.store proc.context m.held (Pid.number p)
        (m.parentNumber proc) ≠ .underway s context)
      (hlt : ∀ reply, (next reply).distance < c.distance) : c'.distance < c.distance := by
    obtain ⟨reply, rfl⟩ := called ha hcall
    exact hlt reply
  have gone {next : Control} (ha : c.action ex = .goOn next)
      (hlt : next.distance < c.distance) : c'.distance < c.distance :=
    eq_of_goOn hacts hlife' ha ▸ hlt
  have waited {child : Pid} {next : WaitReply → Control} (ha : c.action ex = .wait child next)
      (hchild : child ∈ m.childrenOf p) (hactive : ¬(m.active? child).isSome)
      (hlt : ∀ status, (next (.ended status)).distance < c.distance) :
      c'.distance < c.distance := by
    replace hacts : Machine.Acts _ m p proc ((c.action ex).map .executing) proc' store := hacts
    rw [ha] at hacts
    cases hacts with
    | waited _ hawait =>
      obtain ⟨status, rfl⟩ := Machine.await_of_mem_childrenOf hchild hawait
      cases hlife'
      exact hlt status
    | interrupted _ hawait => exact absurd (Machine.active_of_await hawait) hactive
  cases c with
  | run t =>
    cases t with
    | exec argv =>
      refine Or.inl (gone rfl ?_)
      unfold execute
      split
      · exact (by decide : 1 < 7)
      · split
        · exact (by decide : 6 < 7)
        · exact (by decide : 4 < 7)
    | redirect t file direction =>
      have hpos := t.distance_pos
      have hopen (fd : Fd) :
          (afterOpen t file direction (.ok fd)).distance <
            (t.redirect file direction).distance := by
        have := distance_settle fd direction.fd t
        simp only [afterOpen, distance, Command.distance]
        omega
      cases redirects_of_acts hacts hlife' with
      | failed =>
        cases hlife'
        left
        simp only [fail, distance, Command.distance]
        omega
      | opened | joined =>
        cases hlife'
        exact Or.inl (hopen _)
      | waiting o hsettled =>
        cases hlife.symm.trans hlife'
        exact Or.inr (Or.inr ⟨rfl, hsettled, by simp⟩)
    | pipe left right =>
      refine Or.inl (done rfl (fun s context h => ?_) fun reply => ?_)
      · replace h : m.store.makePipe proc.context = .underway s context := h
        rcases Store.makePipe_cases m.store proc.context with ⟨e, hm⟩ |
          ⟨_, _, _, -, -, -, -, -, -, -, -, hm⟩
        all_goals simp [hm] at h
      · cases reply with
        | error => exact (by decide : 4 < 16)
        | ok => exact (by decide : 15 < 16)
  | noting level message next =>
    exact Or.inl (done rfl (fun s context h => by cases h) fun _ => Nat.lt_succ_self _)
  | complain e => exact Or.inl (gone rfl (by decide : 2 < 3))
  | printing pieces =>
    rcases pieces with _ | ⟨_ | ⟨b, bs⟩, rest⟩
    · exact Or.inl (gone rfl (by decide : 1 < 2))
    · cases hacts
      cases hlife'
      exact Or.inr (Or.inl ⟨rfl, by simp [unprinted]⟩)
    · obtain ⟨reply, rfl⟩ := called rfl fun s context => Store.write_ne_underway
      exact (afterPiece_lt ex.console b bs rest reply).imp_right Or.inl
  | alarm pieces =>
    rcases pieces with _ | ⟨_ | ⟨b, bs⟩, rest⟩
    · exact Or.inl (gone rfl (by decide : 0 < 1))
    · cases hacts
      cases hlife'
      exact Or.inr (Or.inl ⟨rfl, by simp [unprinted]⟩)
    · obtain ⟨reply, rfl⟩ := called rfl fun s context => Store.write_ne_underway
      exact (afterAlarm_lt b bs rest reply).imp_right Or.inl
  | stranded cause =>
    obtain ⟨⟨reply, heq⟩, -⟩ := Machine.Acts.of_kill hacts hlife'
    cases heq
    cases reply with
    | ok => exact Or.inl (by decide : 4 < 6)
    | error => exact Or.inl (by decide : 5 < 6)
  | exit =>
    cases hacts
    cases hlife'
  | launch =>
    cases hacts with
    | refused =>
      cases hlife'
      exact Or.inl (by decide : 4 < 5)
    | became => cases hlife'
  | bind fd target t =>
    exact Or.inl (done rfl (fun s context => Store.duplicate_ne_underway)
      fun _ => Nat.lt_succ_self _)
  | release fd copied t =>
    refine Or.inl (done rfl (fun s context => Store.close_ne_underway) fun closed => ?_)
    have hpos := t.distance_pos
    cases copied <;> cases closed <;> simp only [afterRelease, fail, distance] <;> omega
  | leave unneeded kept target t =>
    refine Or.inl (done rfl (fun s context => Store.close_ne_underway) fun _ => ?_)
    exact Nat.lt_succ_of_le (distance_settle kept target t)
  | forkLeft =>
    cases hacts with
    | forked =>
      cases hlife'
      exact Or.inl (by decide : 14 < 15)
    | stranded =>
      cases hlife'
      exact Or.inl (by decide : 6 < 15)
  | forkRight =>
    cases hacts with
    | forked =>
      cases hlife'
      exact Or.inl (by decide : 12 < 13)
    | stranded =>
      cases hlife'
      exact Or.inl (by decide : 6 < 13)
  | closeEnds ends left right =>
    cases ends with
    | nil => exact Or.inl (gone rfl (by decide : 8 < 9))
    | cons fd fds =>
      refine Or.inl (done rfl (fun s context => Store.close_ne_underway) fun _ => ?_)
      simp only [distance, List.length_cons]
      omega
  | waitLeft left right =>
    refine Or.inl (waited rfl (hdues left (.head _)) hw fun status => ?_)
    have hnext (code : Option Nat) : (waitRight code right).distance = 5 := rfl
    exact Nat.lt_succ_of_le (distance_afterWait (waitLeft left right) left hnext status)
  | waitRight leftCode right =>
    refine Or.inl (waited rfl (hdues right (.head _)) hw fun status => ?_)
    have hnext (code : Option Nat) : (connected leftCode code).distance = 2 := rfl
    exact Nat.lt_succ_of_le (distance_afterWait (waitRight leftCode right) right hnext status)
  | connected => exact Or.inl (gone rfl (by decide : 1 < 2))

end Control

/-- A process that waits for nobody has a step that leads it nearer to the end of its part. -/
theorem Machine.rank_lt (hp : m.processes[p]? = some proc)
    (hlife : proc.life = .active (.executing c)) (hdues : ∀ y ∈ c.dues, y ∈ m.childrenOf p)
    (hw : ¬c.Waits ex m proc.context) :
    ∃ m', m.step (Task.dynamics U ex) p = some m' ∧ m'.rank p < m.rank p := by
  obtain ⟨m', hm⟩ := Option.isSome_iff_exists.mp (step_of_not_waits (U := U) hp hlife hw)
  refine ⟨m', hm, ?_⟩
  have hrank : m.rank p =
      toLex (c.distance, 2 * c.unprinted + if proc.context.opening.isNone then 2 else 1) := by
    simp only [rank, active?_eq_some.mpr ⟨hp, hlife⟩]
  obtain ⟨proc', hp', hacts⟩ := acts_of_step hm hp hlife
  have hpos : toLex (0, 0) < m.rank p := by
    rw [hrank, Prod.Lex.toLex_lt_toLex]
    simp only
    split <;> omega
  cases hactive : m'.active? p with
  | none =>
    simp only [rank, hactive]
    exact hpos
  | some s =>
    obtain ⟨proc₁, state⟩ := s
    obtain ⟨hp₁, hlife'⟩ := active?_eq_some.mp hactive
    obtain rfl := Option.some.inj (hp'.symm.trans hp₁)
    cases state with
    | executing c' =>
      have hrank' : m'.rank p = toLex (c'.distance, 2 * c'.unprinted +
          if proc'.context.opening.isNone then 2 else 1) := by
        simp only [rank, hactive]
      rw [hrank, hrank', Prod.Lex.toLex_lt_toLex]
      rcases Control.distance_step hlife hacts hlife' hdues hw with
        hlt | ⟨heq, hlt⟩ | ⟨rfl, hnone, hsome⟩
      · exact Or.inl hlt
      · refine Or.inr ⟨heq, ?_⟩
        simp only
        split <;> split <;> omega
      · simp [hnone, hsome]
    | attended | program =>
      simp only [rank, hactive]
      exact hpos

end PipeShell
