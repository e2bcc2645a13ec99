import PipeShell.Proofs.Executor.Events
import PipeShell.Proofs.Executor.Moves

/-!
# What a process is answered, and what it ends with

How a process that runs a part of a line ends depends on a few answers only: whether a file was
opened, a descriptor came to its place, a pipe was made, a process or a program was started, a
failure could be reported. The `answers` to a process are read off the history, as its events are.

`Command.Ends` says, by the tree alone, which answers there are until the process is done with it,
and what it ends with then. A process may be at any place in between, so `Control.Ends` says the
same of control states. `Control.ends_step` is the step lemma: what a process will end with after a
step is what it would have ended with before, the answers to the step coming first. A process that
becomes a program is answered nothing any more (`Control.ends_of_program`).
-/

namespace PipeShell

/-- An answer that the end of a process depends on. -/
inductive Answer
  /-- A file was opened for a redirection, or could not be. -/
  | opened (file : Bytes) (succeeded : Bool)
  /-- A descriptor came to its place among the standard ones, or could not be copied. -/
  | bound (succeeded : Bool)
  | piped (succeeded : Bool)
  /-- A program was started with these words, or could not be. -/
  | launched (argv : List Bytes) (succeeded : Bool)
  /-- A process could not be created for a side of a pipe. -/
  | stranded
  /-- The report of a failure was written, or could not be. -/
  | reported (succeeded : Bool)
deriving DecidableEq, Repr

/-- What a process is done with its part with. -/
inductive Fate
  /-- It ends with a code. -/
  | code (n : Nat)
  /-- It has become a program, which ends as it likes. -/
  | program
deriving DecidableEq, Repr

/-! ## Trees -/

/-- The answer to a process that reports a failure, and what it ends with. -/
inductive Reports : List Answer → Fate → Prop
  | written : Reports [.reported true] (.code Control.failureCode)
  | broken : Reports [.reported false] (.code Console.alarmCode)

theorem Reports.unique {answers : List Answer} {e e' : Fate} (h : Reports answers e)
    (h' : Reports answers e') : e = e' := by
  cases h <;> cases h' <;> rfl

/-- Only about the report is a process answered that reports a failure. -/
theorem Reports.mem {answers : List Answer} {e : Fate} (h : Reports answers e) {a : Answer}
    (ha : a ∈ answers) : ∃ succeeded, a = .reported succeeded := by
  cases h <;> exact ⟨_, List.mem_singleton.mp ha⟩

/-- All answers to a process that runs a tree, first to last, and what it is done with then. -/
inductive Command.Ends : Command → List Answer → Fate → Prop
  | nothing : Ends (exec []) [] (.code 0)
  /-- A word with NUL among its bytes cannot be handed to a program. -/
  | unpassable {argv : List Bytes} (hne : argv ≠ []) (hargv : Control.isPassable argv = false)
    {answers : List Answer} {e : Fate} (h : Reports answers e) : Ends (exec argv) answers e
  | refused {argv : List Bytes} (hne : argv ≠ []) (hargv : Control.isPassable argv = true)
    {answers : List Answer} {e : Fate} (h : Reports answers e) :
    Ends (exec argv) (.launched argv false :: answers) e
  | launched {argv : List Bytes} (hne : argv ≠ []) (hargv : Control.isPassable argv = true) :
    Ends (exec argv) [.launched argv true] .program
  | openFailed (target : Command) (file : Bytes) (direction : Direction) {answers : List Answer}
    {e : Fate} (h : Reports answers e) :
    Ends (redirect target file direction) (.opened file false :: answers) e
  | bindFailed (target : Command) (file : Bytes) (direction : Direction) {answers : List Answer}
    {e : Fate} (h : Reports answers e) :
    Ends (redirect target file direction) (.opened file true :: .bound false :: answers) e
  | redirected {target : Command} (file : Bytes) (direction : Direction) {answers : List Answer}
    {e : Fate} (h : Ends target answers e) :
    Ends (redirect target file direction) (.opened file true :: .bound true :: answers) e
  | pipeFailed (left right : Command) {answers : List Answer} {e : Fate} (h : Reports answers e) :
    Ends (pipe left right) (.piped false :: answers) e
  | stranded (left right : Command) {answers : List Answer} {e : Fate} (h : Reports answers e) :
    Ends (pipe left right) (.piped true :: .stranded :: answers) e
  | piped (left right : Command) : Ends (pipe left right) [.piped true] (.code 0)

/-- The answers to a process that has a descriptor to bring to its place before it runs a tree. -/
inductive Command.Binds (t : Command) : List Answer → Fate → Prop
  | failed {answers : List Answer} {e : Fate} (h : Reports answers e) :
    Binds t (.bound false :: answers) e
  | bound {answers : List Answer} {e : Fate} (h : t.Ends answers e) :
    Binds t (.bound true :: answers) e

theorem Command.Binds.redirect {t : Command} {answers : List Answer} {e : Fate}
    (h : t.Binds answers e) (file : Bytes) (direction : Direction) :
    (Command.redirect t file direction).Ends (.opened file true :: answers) e := by
  cases h with
  | failed h => exact .bindFailed t file direction h
  | bound h => exact .redirected file direction h

/-- The same answers lead to the same end. -/
theorem Command.Ends.unique {t : Command} {answers : List Answer} {e e' : Fate}
    (h : t.Ends answers e) (h' : t.Ends answers e') : e = e' := by
  induction h with
  | nothing =>
    cases h' with
    | nothing => rfl
    | unpassable hne => exact absurd rfl hne
  | unpassable hne hargv h =>
    cases h' with
    | nothing => exact absurd rfl hne
    | unpassable _ _ h' => exact h.unique h'
    | refused _ hargv' | launched _ hargv' => cases hargv.symm.trans hargv'
  | refused _ hargv h =>
    cases h' with
    | unpassable _ hargv' => cases hargv.symm.trans hargv'
    | refused _ _ h' => exact h.unique h'
  | launched _ hargv =>
    cases h' with
    | unpassable _ hargv' => cases hargv.symm.trans hargv'
    | launched => rfl
  | redirected _ _ _ ih =>
    cases h' with
    | redirected _ _ h' => exact ih h'
  | openFailed _ _ _ h =>
    cases h' with
    | openFailed _ _ _ h' => exact h.unique h'
  | bindFailed _ _ _ h =>
    cases h' with
    | bindFailed _ _ _ h' => exact h.unique h'
  | pipeFailed _ _ h =>
    cases h' with
    | pipeFailed _ _ h' => exact h.unique h'
  | stranded _ _ h =>
    cases h' with
    | stranded _ _ h' => exact h.unique h'
  | piped =>
    cases h'
    rfl

/-! ## Control states -/

namespace Control

/-- All answers to a process from a control state on, and what it is done with then. -/
def Ends : Control → List Answer → Fate → Prop
  | run t, answers, e => t.Ends answers e
  | noting _ _ next, answers, e => next.Ends answers e
  | complain _, answers, e | printing _, answers, e | stranded _, answers, e => Reports answers e
  | alarm _, answers, e => answers = [] ∧ e = .code Console.alarmCode
  | exit code, answers, e => answers = [] ∧ e = .code (code % 256)
  | launch argv, answers, e =>
    (∃ as, answers = .launched argv false :: as ∧ Reports as e) ∨
      answers = [.launched argv true] ∧ e = .program
  | forkLeft .., answers, e | forkRight .., answers, e =>
    (answers = [] ∧ e = .code 0) ∨ ∃ as, answers = .stranded :: as ∧ Reports as e
  | bind _ _ t, answers, e | leave _ _ _ t, answers, e => t.Binds answers e
  | release _ (.ok ()) t, answers, e => t.Ends answers e
  | release _ (.error _) _, answers, e => Reports answers e
  | _, answers, e => answers = [] ∧ e = .code 0

/-- A descriptor that is on its target already is in its place. -/
def placed (fd target : Fd) : List Answer := if fd = target then [.bound true] else []

/-- The answers to a step in a control state. -/
def answers {σ : Type} (ex : Executor) (m : Machine (Task σ)) (context : Context) :
    Control → List Answer
  | run (.redirect _ file direction) =>
    match m.store.openFile context m.held file direction.flags ex.redirectMode with
    | .done (.ok fd) .. => .opened file true :: placed fd direction.fd
    | .done (.error _) .. => [.opened file false]
    | _ => []
  | run (.pipe ..) =>
    match m.store.makePipe context with
    | .done reply .. => [.piped reply.isOk]
    | _ => []
  | bind fd target _ =>
    match m.store.duplicate context fd target with
    | .done reply .. => [.bound reply.isOk]
    | _ => []
  | leave _ kept target _ => placed kept target
  | launch argv =>
    [.launched argv
      (Image.find? m.store.files (m.store.view context) context.environment argv).isOk]
  | forkLeft .. | forkRight .. => if m.refusal?.isSome then [.stranded] else []
  | printing [] => [.reported true]
  | printing ((b :: bs) :: _) =>
    match m.store.write context m.held Fd.stderr (b :: bs) with
    | .done reply .. => if (Console.left (b :: bs) reply).isOk then [] else [.reported false]
    | _ => []
  | _ => []

variable {answers : List Answer} {e : Fate}

/-- A process binds a descriptor unless it is in its place. -/
theorem ends_settle {fd target : Fd} {t : Command} (h : (settle fd target t).Ends answers e) :
    t.Binds (placed fd target ++ answers) e := by
  unfold settle at h
  unfold placed
  split at h
  · next heq =>
    rw [if_pos heq]
    exact .bound h
  · next hne =>
    rw [if_neg hne]
    exact h

theorem ends_afterOpen {t : Command} {file : Bytes} {direction : Direction} {fd : Fd}
    (h : (afterOpen t file direction (.ok fd)).Ends answers e) :
    (run (.redirect t file direction)).Ends
      (.opened file true :: placed fd direction.fd ++ answers) e :=
  (ends_settle h).redirect file direction

theorem ends_afterRelease {copied : Except Errno Unit} {t : Command} {closed : Except Errno Unit}
    (fd : Fd) (h : (afterRelease copied t closed).Ends answers e) :
    (release fd copied t).Ends answers e := by
  cases copied with
  | ok => cases closed <;> exact h
  | error => cases closed <;> exact h

theorem ends_execute {argv : List Bytes} (h : (execute argv).Ends answers e) :
    (run (.exec argv)).Ends answers e := by
  unfold execute at h
  split at h
  · obtain ⟨rfl, rfl⟩ := h
    exact .nothing
  · next program rest =>
    split at h
    · next hargv =>
      rcases h with ⟨as, rfl, h⟩ | ⟨rfl, rfl⟩
      · exact .refused (List.cons_ne_nil _ _) hargv h
      · exact .launched (List.cons_ne_nil _ _) hargv
    · next hargv => exact .unpassable (List.cons_ne_nil _ _) (by simpa using hargv) h

theorem ends_afterWait {again : Control} {stage : Pid} {next : Option Nat → Control}
    {reply : WaitReply} (hagain : again.Ends answers e → answers = [] ∧ e = .code 0)
    (hnext : ∀ code, (next code).Ends answers e → answers = [] ∧ e = .code 0)
    (h : (afterWait again stage next reply).Ends answers e) : answers = [] ∧ e = .code 0 := by
  unfold afterWait at h
  split at h
  · exact hagain h
  · simp only at h
    split at h
    · exact hnext _ h
    · exact hnext _ h

end Control

/-- Printing is given up when a write is refused, or takes nothing, although there is something to
write to. -/
theorem Console.refused_of_left {piece : Bytes} {reply : Except Errno Nat} {e : Option Errno}
    (h : left piece reply = .error e) :
    reply = .ok 0 ∨ ∃ e, e ≠ .badDescriptor ∧ reply = .error e := by
  cases reply with
  | ok taken =>
    cases taken with
    | zero => exact Or.inl rfl
    | succ n => cases h
  | error e' =>
    simp only [left] at h
    split at h
    · cases h
    · next hne => exact Or.inr ⟨e', hne, rfl⟩

/-- A process finds standard error open, but some write to it is refused, or takes nothing. -/
def Machine.Rebuffs {κ : Type} (m : Machine κ) (context : Context) : Prop :=
  ∃ data reply store context', data ≠ [] ∧
    m.store.write context m.held Fd.stderr data = .done reply store context' ∧
    (reply = .ok 0 ∨ ∃ e, e ≠ .badDescriptor ∧ reply = .error e)

/-! ## One step -/

variable {U : Userland} {ex : Executor} {m m' : Machine (Task U.State)} {p : Pid}
  {proc proc' : Process (Task U.State)} {c c' : Control}

/-- What ends a process by an action of its own is a signal, unless the action is to halt. -/
theorem Machine.Acts.ended_cases {κ : Type} {d : Dynamics κ} {m : Machine κ} {a : Action κ}
    {proc proc' : Process κ} {store : Store} {state : κ} {status : ExitStatus}
    (h : Acts d m p proc a proc' store) (hlife : proc.life = .active state)
    (hlife' : proc'.life = .ended status) :
    (∃ signal, status = .signaled signal) ∨
      ∃ code, a = .halt code ∧ status = .exited (code % 256) := by
  cases h with
  | halted code =>
    cases hlife'
    exact Or.inr ⟨code, rfl, rfl⟩
  | killed | endedSelf =>
    cases hlife'
    exact Or.inl ⟨_, rfl⟩
  | underway => cases hlife.symm.trans hlife'
  | _ => cases hlife'

/-- A process that is about to become a program does so, or goes on to fail. -/
theorem Machine.launch_cases {argv : List Bytes}
    (hm : m.make? (Task.dynamics U ex) (.step p) = some m') (hp : m.processes[p]? = some proc)
    (hlife : proc.life = .active (.executing (.launch argv)))
    (hp' : m'.processes[p]? = some proc') :
    (∃ e, (Control.launch argv).answers ex m proc.context = [.launched argv false] ∧
        proc'.life =
          .active (.executing (.fail (.execFailed (Control.programOf argv) e)))) ∨
      ∃ s, (Control.launch argv).answers ex m proc.context = [.launched argv true] ∧
        proc'.life = .active (.program s) := by
  simp only [Machine.make?, Machine.step, Machine.active?_eq_some.mpr ⟨hp, hlife⟩, Task.dynamics,
    Control.action, Action.map, Machine.act, Option.some.injEq] at hm
  simp only [Control.answers]
  cases hfind : Image.find? m.store.files (m.store.view proc.context) proc.context.environment
    argv with
  | error e =>
    rw [hfind] at hm
    subst hm
    simp only [Machine.become, Machine.getElem?_setProcess hp, if_pos, Option.some.injEq] at hp'
    subst hp'
    exact Or.inl ⟨e, rfl, rfl⟩
  | ok image =>
    rw [hfind] at hm
    subst hm
    simp only [Machine.become, Machine.getElem?_setProcess hp, if_pos, Option.some.injEq] at hp'
    subst hp'
    exact Or.inr ⟨U.start image, rfl, rfl⟩

namespace Control

/-- What a process will end with after opening the file of a redirection. -/
theorem ends_step_redirect {t : Command} {file : Bytes} {direction : Direction} {store : Store}
    (hlife : proc.life = .active (.executing (.run (.redirect t file direction))))
    (hacts : Machine.Acts (Task.dynamics U ex) m p proc
      ((Task.dynamics U ex).action (.executing (.run (.redirect t file direction)))) proc' store)
    (hlife' : proc'.life = .active (.executing c')) {as : List Answer} {e : Fate}
    (h : c'.Ends as e) :
    (run (.redirect t file direction)).Ends
      ((run (.redirect t file direction)).answers ex m proc.context ++ as) e := by
  simp only [answers]
  cases redirects_of_acts hacts hlife' with
  | failed cause _ _ hopen =>
    cases hlife'
    rw [hopen]
    exact .openFailed t file direction h
  | opened _ _ hopen =>
    cases hlife'
    rw [hopen]
    exact ends_afterOpen h
  | waiting o _ _ _ hopen =>
    cases hlife.symm.trans hlife'
    rw [hopen]
    exact h
  | joined o _ _ hopen =>
    cases hlife'
    rw [hopen]
    exact ends_afterOpen h

/-- What a process will end with after a step with its report. -/
theorem ends_step_printing {pieces : List Bytes} {store : Store}
    (hlife : proc.life = .active (.executing (.printing pieces)))
    (hacts : Machine.Acts (Task.dynamics U ex) m p proc
      ((Task.dynamics U ex).action (.executing (.printing pieces))) proc' store)
    (hlife' : proc'.life = .active (.executing c')) {as : List Answer} {e : Fate}
    (h : c'.Ends as e) : Reports ((printing pieces).answers ex m proc.context ++ as) e := by
  rcases pieces with _ | ⟨_ | ⟨b, bs⟩, rest⟩
  · cases hacts
    cases hlife'
    obtain ⟨rfl, rfl⟩ := h
    exact .written
  · cases hacts
    cases hlife'
    exact h
  · replace hacts : Machine.Acts _ m p proc (.call (.write Fd.stderr (b :: bs)) fun reply =>
      .executing (afterPiece ex.console (b :: bs) rest reply)) proc' store := hacts
    simp only [answers]
    rcases hacts.call_cases hlife' with ⟨reply, context, hc, -, hstate⟩ | ⟨context, hc, -, hsame⟩
    · replace hc : m.store.write proc.context m.held Fd.stderr (b :: bs) =
        .done reply store context := hc
      rw [hc]
      obtain rfl := Task.executing.inj hstate
      unfold afterPiece at h
      cases hleft : Console.left (b :: bs) reply with
      | ok =>
        rw [hleft] at h
        simp only [hleft]
        exact h
      | error =>
        rw [hleft] at h
        obtain ⟨rfl, rfl⟩ := h
        simp only [hleft]
        exact .broken
    · replace hc : m.store.write proc.context m.held Fd.stderr (b :: bs) =
        .underway store context := hc
      rw [hc]
      cases hlife.symm.trans hsame
      exact h

/-- What a process will end with after a step with its last report. -/
theorem ends_step_alarm {pieces : List Bytes} {store : Store}
    (hlife : proc.life = .active (.executing (.alarm pieces)))
    (hacts : Machine.Acts (Task.dynamics U ex) m p proc
      ((Task.dynamics U ex).action (.executing (.alarm pieces))) proc' store)
    (hlife' : proc'.life = .active (.executing c')) {as : List Answer} {e : Fate}
    (h : c'.Ends as e) : as = [] ∧ e = .code Console.alarmCode := by
  rcases pieces with _ | ⟨_ | ⟨b, bs⟩, rest⟩
  · cases hacts
    cases hlife'
    exact h
  · cases hacts
    cases hlife'
    exact h
  · replace hacts : Machine.Acts _ m p proc (.call (.write Fd.stderr (b :: bs)) fun reply =>
      .executing (afterAlarm (b :: bs) rest reply)) proc' store := hacts
    rcases hacts.call_cases hlife' with ⟨reply, _, -, -, hstate⟩ | ⟨_, -, -, hsame⟩
    · obtain rfl := Task.executing.inj hstate
      unfold afterAlarm at h
      split at h <;> exact h
    · cases hlife.symm.trans hsame
      exact h

/-- What a process will end with after a step is what it would have ended with before, the answers
to the step coming first. -/
theorem ends_step (hm : m.make? (Task.dynamics U ex) (.step p) = some m')
    (hp : m.processes[p]? = some proc) (hlife : proc.life = .active (.executing c))
    (hp' : m'.processes[p]? = some proc') (hlife' : proc'.life = .active (.executing c'))
    {as : List Answer} {e : Fate} (h : c'.Ends as e) :
    c.Ends (c.answers ex m proc.context ++ as) e := by
  obtain ⟨proc₁, hp₁, hacts⟩ := Machine.acts_of_step hm hp hlife
  obtain rfl := Option.some.inj (hp₁.symm.trans hp')
  generalize m'.store = store at hacts
  cases c with
  | run t =>
    cases t with
    | exec argv =>
      cases hacts
      cases hlife'
      exact ends_execute h
    | redirect t file direction => exact ends_step_redirect hlife hacts hlife' h
    | pipe left right =>
      replace hacts : Machine.Acts _ m p proc (.call .makePipe
        fun reply => .executing (afterPipe left right reply)) proc₁ store := hacts
      simp only [answers]
      rcases Store.makePipe_cases m.store proc.context with ⟨cause, hmake⟩ |
        ⟨s', r, v, -, -, -, -, -, -, -, -, hmake⟩
      · obtain ⟨-, rfl⟩ := hacts.of_done hmake
        cases hlife'
        rw [hmake]
        exact .pipeFailed left right h
      · obtain ⟨-, rfl⟩ := hacts.of_done hmake
        cases hlife'
        rw [hmake]
        rcases h with ⟨rfl, rfl⟩ | ⟨as, rfl, h⟩
        · exact .piped left right
        · exact .stranded left right h
  | noting level message next =>
    replace hacts : Machine.Acts _ m p proc
      (.call (.note level message) fun _ => .executing next) proc₁ store := hacts
    obtain ⟨-, rfl⟩ := hacts.of_done rfl
    cases hlife'
    exact h
  | complain cause =>
    cases hacts
    cases hlife'
    exact h
  | printing pieces => exact ends_step_printing hlife hacts hlife' h
  | alarm pieces => exact ends_step_alarm hlife hacts hlife' h
  | stranded cause =>
    replace hacts : Machine.Acts _ m p proc (.kill (Pid.number ex.shell) endSignal
      fun reply => .executing (afterSignal ex.shell cause reply)) proc₁ store := hacts
    obtain ⟨⟨reply, heq⟩, -⟩ := hacts.of_kill hlife'
    cases heq
    cases reply <;> exact h
  | exit code =>
    cases hacts
    cases hlife'
  | launch argv =>
    rcases Machine.launch_cases hm hp hlife hp' with ⟨cause, hanswers, hfailed⟩ | ⟨s, -, hprogram⟩
    · cases hfailed.symm.trans hlife'
      rw [hanswers]
      exact Or.inl ⟨as, rfl, h⟩
    · cases hprogram.symm.trans hlife'
  | bind fd target t =>
    replace hacts : Machine.Acts _ m p proc (.call (.duplicate fd target)
      fun copied => .executing (.release fd copied t)) proc₁ store := hacts
    simp only [answers]
    rcases hacts.call_cases hlife' with ⟨reply, context, hc, -, hstate⟩ | ⟨context, hc, -, -⟩
    · cases hstate
      replace hc : m.store.duplicate proc.context fd target = .done reply store context := hc
      rw [hc]
      cases reply with
      | ok => exact .bound h
      | error => exact .failed h
    · exact absurd hc Store.duplicate_ne_underway
  | release fd copied t =>
    replace hacts : Machine.Acts _ m p proc (.call (.close fd)
      fun closed => .executing (afterRelease copied t closed)) proc₁ store := hacts
    obtain ⟨⟨closed, heq⟩, -⟩ := hacts.of_close hlife'
    cases heq
    exact ends_afterRelease fd h
  | leave unneeded kept target t =>
    replace hacts : Machine.Acts _ m p proc (.call (.close unneeded)
      fun _ => .executing (settle kept target t)) proc₁ store := hacts
    obtain ⟨⟨closed, heq⟩, -⟩ := hacts.of_close hlife'
    cases heq
    exact ends_settle h
  | forkLeft =>
    simp only [answers]
    cases hacts with
    | forked _ _ hgranted =>
      cases hlife'
      rw [hgranted]
      exact h
    | stranded _ _ hrefused =>
      cases hlife'
      rw [hrefused]
      exact Or.inr ⟨as, rfl, h⟩
  | forkRight =>
    simp only [answers]
    cases hacts with
    | forked _ _ hgranted =>
      cases hlife'
      rw [hgranted]
      exact Or.inl h
    | stranded _ _ hrefused =>
      cases hlife'
      rw [hrefused]
      exact Or.inr ⟨as, rfl, h⟩
  | connected =>
    cases hacts
    cases hlife'
    exact h
  | closeEnds ends left right =>
    cases ends with
    | nil =>
      cases hacts
      cases hlife'
      exact h
    | cons fd fds =>
      replace hacts : Machine.Acts _ m p proc (.call (.close fd)
        fun _ => .executing (.closeEnds fds left right)) proc₁ store := hacts
      obtain ⟨⟨closed, heq⟩, -⟩ := hacts.of_close hlife'
      cases heq
      exact h
  | waitLeft left right =>
    replace hacts : Machine.Acts _ m p proc (.wait left fun reply =>
      .executing (afterWait (.waitLeft left right) left (fun code => .waitRight code right) reply))
      proc₁ store := hacts
    obtain ⟨reply, rfl⟩ := hacts.of_wait
    cases hlife'
    exact ends_afterWait id (fun _ => id) h
  | waitRight leftCode right =>
    replace hacts : Machine.Acts _ m p proc (.wait right fun reply =>
      .executing (afterWait (.waitRight leftCode right) right (.connected leftCode) reply))
      proc₁ store := hacts
    obtain ⟨reply, rfl⟩ := hacts.of_wait
    cases hlife'
    exact ends_afterWait id (fun _ => id) h

/-- A report cannot be written if a write is refused, or takes nothing, although there is something
to write to. -/
theorem rebuffs_of_unreported {σ : Type} {m : Machine (Task σ)} {context : Context}
    (h : .reported false ∈ c.answers ex m context) : m.Rebuffs context := by
  unfold answers at h
  split at h
  · split at h
    · next fd _ _ _ =>
      unfold placed at h
      split at h <;> simp at h
    · simp at h
    · cases h
  · split at h
    · simp at h
    · cases h
  · split at h
    · simp at h
    · cases h
  · unfold placed at h
    split at h <;> simp at h
  · simp at h
  · split at h <;> simp at h
  · split at h <;> simp at h
  · simp at h
  · next b bs _ =>
    split at h
    · next reply store context' hwrite =>
      refine ⟨b :: bs, reply, store, context', List.cons_ne_nil _ _, hwrite, ?_⟩
      cases hleft : Console.left (b :: bs) reply with
      | ok rest =>
        rw [hleft] at h
        cases h
      | error e => exact Console.refused_of_left hleft
    · cases h
  · cases h

/-- A process that becomes a program has been answered that it was started. -/
theorem ends_of_program (hm : m.make? (Task.dynamics U ex) (.step p) = some m')
    (hp : m.processes[p]? = some proc) (hlife : proc.life = .active (.executing c))
    (hp' : m'.processes[p]? = some proc') {s : U.State}
    (hlife' : proc'.life = .active (.program s)) :
    c.Ends (c.answers ex m proc.context) .program := by
  obtain ⟨proc₁, hp₁, hacts⟩ := Machine.acts_of_step hm hp hlife
  obtain rfl := Option.some.inj (hp₁.symm.trans hp')
  rcases executing_becomes hlife hacts with ⟨c', hc'⟩ | ⟨status, rfl⟩ | ⟨argv, rfl⟩
  · cases hc'.symm.trans hlife'
  · cases hlife'
  · rcases Machine.launch_cases hm hp hlife hp' with ⟨_, -, hfailed⟩ | ⟨_, hanswers, -⟩
    · cases hfailed.symm.trans hlife'
    · rw [hanswers]
      exact Or.inr ⟨rfl, rfl⟩

theorem eq_exit_of_halt {code : Nat}
    (h : (Task.dynamics U ex).action (.executing c) = .halt code) : c = .exit code := by
  replace h : (c.action ex).map Task.executing = (.halt code : Action (Task U.State)) := h
  cases c.conduct ex with
  | exit =>
    cases h
    rfl
  | call ha | goOn ha =>
    rw [ha] at h
    cases h
  | _ => cases h

end Control

/-! ## Histories -/

/-- The answers of a move to a process. -/
def Machine.answers {σ : Type} (ex : Executor) (m : Machine (Task σ)) (mv : Move) (x : Pid) :
    List Answer :=
  match m.active? x with
  | some (proc, .executing c) => if mv = .step x then c.answers ex m proc.context else []
  | _ => []

/-- The answers to a process in a history, first to last. -/
def answers {σ : Type} (ex : Executor) : Past (Task σ) → Pid → List Answer
  | [], _ => []
  | (m, mv) :: h, x => answers ex h x ++ m.answers ex mv x

variable {h : Past (Task U.State)} {mv : Move} {x : Pid}

theorem answers_step (hp : m.processes[p]? = some proc)
    (hlife : proc.life = .active (.executing c)) :
    answers ex ((m, .step p) :: h) p = answers ex h p ++ c.answers ex m proc.context := by
  simp [answers, Machine.answers, Machine.active?_eq_some.mpr ⟨hp, hlife⟩]

/-- A process was answered by a step that it has taken while it ran its part. -/
theorem mem_answers {a : Answer} : a ∈ answers ex h x ↔
    ∃ m proc c, (m, .step x) ∈ h ∧ m.processes[x]? = some proc ∧
      proc.life = .active (.executing c) ∧ a ∈ c.answers ex m proc.context := by
  induction h with
  | nil => simp [answers]
  | cons r h ih =>
    obtain ⟨m, mv⟩ := r
    have hnow : a ∈ m.answers ex mv x ↔ ∃ proc c, mv = .step x ∧ m.processes[x]? = some proc ∧
        proc.life = .active (.executing c) ∧ a ∈ c.answers ex m proc.context := by
      constructor
      · intro ha
        unfold Machine.answers at ha
        split at ha
        · next proc c hactive =>
          obtain ⟨hx, hlife⟩ := Machine.active?_eq_some.mp hactive
          split at ha
          · next hmv => exact ⟨proc, c, hmv, hx, hlife, ha⟩
          · cases ha
        · cases ha
      · rintro ⟨proc, c, rfl, hx, hlife, ha⟩
        simpa [Machine.answers, Machine.active?_eq_some.mpr ⟨hx, hlife⟩] using ha
    rw [answers, List.mem_append, ih, hnow]
    constructor
    · rintro (⟨m', proc, c, hmem, hx⟩ | ⟨proc, c, rfl, hx⟩)
      · exact ⟨m', proc, c, .tail _ hmem, hx⟩
      · exact ⟨m, proc, c, .head _, hx⟩
    · rintro ⟨m', proc, c, hmem, hx⟩
      rcases List.mem_cons.mp hmem with heq | hmem
      · cases heq
        exact Or.inr ⟨proc, c, rfl, hx⟩
      · exact Or.inl ⟨m', proc, c, hmem, hx⟩

/-- Nobody is answered by the moves of others. -/
theorem answers_of_ne (hmv : mv ≠ .step x) :
    answers ex ((m, mv) :: h) x = answers ex h x := by
  rw [answers, Machine.answers]
  split
  · rw [if_neg hmv, List.append_nil]
  · rw [List.append_nil]

/-- Only who runs a part of a line is answered. -/
theorem answers_of_not_executing
    (hx : ∀ proc c, m.processes[x]? = some proc → proc.life ≠ .active (.executing c)) :
    answers ex ((m, mv) :: h) x = answers ex h x := by
  rw [answers, Machine.answers]
  split
  · next proc c hactive =>
    obtain ⟨hp, hlife⟩ := Machine.active?_eq_some.mp hactive
    exact absurd hlife (hx proc c hp)
  · rw [List.append_nil]

/-- Only a step of its own in which it runs its part answers a process. -/
theorem answers_of_idle (hx : ¬(mv = .step x ∧ ∃ proc c, m.processes[x]? = some proc ∧
    proc.life = .active (.executing c))) : answers ex ((m, mv) :: h) x = answers ex h x := by
  by_cases hmv : mv = .step x
  · exact answers_of_not_executing fun proc c hp hlife => hx ⟨hmv, proc, c, hp, hlife⟩
  · exact answers_of_ne hmv

/-- At some moment a process found standard error open, but could not write to it. -/
def Rebuffed {σ : Type} (h : Past (Task σ)) (x : Pid) : Prop :=
  ∃ m proc, (m, .step x) ∈ h ∧ m.processes[x]? = some proc ∧ m.Rebuffs proc.context

theorem rebuffed_of_unreported (ha : .reported false ∈ answers ex h x) : Rebuffed h x := by
  obtain ⟨m, proc, c, hmv, hx, -, ha⟩ := mem_answers.mp ha
  exact ⟨m, proc, hmv, hx, Control.rebuffs_of_unreported ha⟩

end PipeShell
