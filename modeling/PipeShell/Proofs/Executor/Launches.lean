import PipeShell.Proofs.Command.Shape
import PipeShell.Proofs.Executor.Outcomes

/-!
# The programs that the processes of a line become

What a process has been answered so far can always be completed to what the tree that it was started
for allows (`LineStart.exists_runs`). So the process of a stage makes no pipe and tries to become
the program of its stage, once at most (`LineStart.launches_of_isStage`), and the process of a pipe
does not try to become any program (`LineStart.launches_of_pipe`).

A line is run (`LineStart.Ran`) when none of its processes can go on, each having been left to do
its part. By then the process of a pipe has started both sides (`LineStart.Ran.paired`), and the
process of a stage has tried to become its program if nothing was in the way
(`LineStart.Ran.launches_eq`).
-/

namespace PipeShell

variable {U : Userland} {ex : Executor} {m₀ m m' : Machine (Task U.State)}
  {h : Past (Task U.State)} {mv : Move} {p x : Pid} {proc proc' : Process (Task U.State)}
  {c c' : Control} {w : Wiring} {status : ExitStatus} {t : Command} {as : List Answer} {e : Fate}

/-! ## Answers so far -/

theorem Command.exists_ends (t : Command) : ∃ as e, t.Ends as e := by
  cases t with
  | exec argv =>
    by_cases hne : argv = []
    · subst hne
      exact ⟨_, _, .nothing⟩
    · cases hargv : Control.isPassable argv with
      | false => exact ⟨_, _, .unpassable hne hargv .written⟩
      | true => exact ⟨_, _, .refused hne hargv .written⟩
  | redirect target file direction => exact ⟨_, _, .openFailed target file direction .written⟩
  | pipe left right => exact ⟨_, _, .pipeFailed left right .written⟩

namespace Control

theorem exists_ends (c : Control) : ∃ as e, c.Ends as e := by
  induction c with
  | run t => exact t.exists_ends
  | noting _ _ _ ih => exact ih
  | launch argv => exact ⟨_, _, Or.inr ⟨rfl, rfl⟩⟩
  | bind | leave => exact ⟨_, _, .failed .written⟩
  | release _ copied t =>
    cases copied with
    | ok => exact t.exists_ends
    | error => exact ⟨_, _, .written⟩
  | complain | printing | stranded => exact ⟨_, _, .written⟩
  | forkLeft | forkRight => exact ⟨_, _, Or.inl ⟨rfl, rfl⟩⟩
  | _ => exact ⟨_, _, rfl, rfl⟩

/-- Whatever the answers to the next step are, more of them can come after it. -/
theorem exists_ends_answers (c : Control) (ex : Executor) (m : Machine (Task U.State))
    (context : Context) : ∃ as e, c.Ends (c.answers ex m context ++ as) e := by
  have placing (fd target : Fd) (t : Command) : ∃ as e, t.Binds (placed fd target ++ as) e := by
    unfold placed
    split
    · obtain ⟨as, e, he⟩ := t.exists_ends
      exact ⟨as, e, .bound he⟩
    · exact ⟨_, _, .failed .written⟩
  cases c with
  | run t =>
    cases t with
    | exec argv => exact exists_ends (.run (.exec argv))
    | redirect t file direction =>
      simp only [answers]
      split
      · next fd _ _ _ =>
        obtain ⟨as, e, he⟩ := placing fd direction.fd t
        exact ⟨as, e, he.redirect file direction⟩
      · exact ⟨_, _, .openFailed t file direction .written⟩
      · exact exists_ends (.run (.redirect t file direction))
    | pipe left right =>
      simp only [answers]
      split
      · next reply _ _ _ =>
        cases reply with
        | error => exact ⟨_, _, .pipeFailed left right .written⟩
        | ok => exact ⟨[], _, .piped left right⟩
      · exact exists_ends (.run (.pipe left right))
  | launch argv =>
    simp only [answers]
    cases (Image.find? m.store.files (m.store.view context) context.environment argv).isOk with
    | false => exact ⟨_, _, Or.inl ⟨_, rfl, .written⟩⟩
    | true => exact ⟨[], _, Or.inr ⟨rfl, rfl⟩⟩
  | bind fd target t =>
    simp only [answers]
    split
    · next reply _ _ _ =>
      cases reply with
      | error => exact ⟨_, _, .failed .written⟩
      | ok =>
        obtain ⟨as, e, he⟩ := t.exists_ends
        exact ⟨as, e, .bound he⟩
    · exact exists_ends (.bind fd target t)
  | leave _ kept target t => exact placing kept target t
  | forkLeft | forkRight =>
    simp only [answers]
    split
    · exact ⟨_, _, Or.inr ⟨_, rfl, .written⟩⟩
    · exact ⟨_, _, Or.inl ⟨rfl, rfl⟩⟩
  | printing pieces =>
    rcases pieces with _ | ⟨_ | ⟨b, bs⟩, rest⟩
    · exact ⟨[], _, .written⟩
    · exact exists_ends (.printing ([] :: rest))
    · simp only [answers]
      split
      · split
        · exact ⟨_, _, .written⟩
        · exact ⟨[], _, .broken⟩
      · exact ⟨_, _, .written⟩
  | _ => exact exists_ends _

end Control

namespace LineStart

variable (L : LineStart m₀)

/-- What a process has been answered so far can be completed to what its part allows. -/
theorem exists_runs (hrun : Run (Task.dynamics U ex) m₀ h m) :
    ∀ x w, L.given (events U ex h) x = some w →
      ∃ as e, L.Runs x w.part (answers ex h x ++ as) e := by
  have none_yet (x : Pid) (t : Command) : ∃ as e, L.Runs x t as e := by
    unfold Runs
    split
    · exact t.exists_ends
    · exact ⟨_, _, .failed .written⟩
  induction hrun with
  | start => exact fun x w _ => none_yet x w.part
  | @move h m m' hrun mv hm ih =>
    intro x w hgiven
    by_cases hlt : x < m.processes.length
    · rw [L.given_of_lt hlt] at hgiven
      by_cases hx : mv = .step x ∧ ∃ proc c, m.processes[x]? = some proc ∧
          proc.life = .active (.executing c)
      · obtain ⟨rfl, proc, c, hx, hlife⟩ := hx
        obtain ⟨as, e, he⟩ := c.exists_ends_answers ex m proc.context
        refine ⟨as, e, ?_⟩
        rw [answers_step hx hlife, List.append_assoc]
        exact (L.tallies hrun x w hgiven).executing proc c _ e hx hlife he
      · rw [answers_of_idle hx]
        exact ih x w hgiven
    · rw [answers_cons_of_le hrun (Nat.not_lt.mp hlt)]
      exact none_yet x w.part

/-- Who was given nothing is answered nothing. -/
theorem answers_of_given_eq_none (hrun : Run (Task.dynamics U ex) m₀ h m)
    (hx : L.given (events U ex h) x = none) : answers ex h x = [] := by
  induction hrun with
  | start => rfl
  | @move h m m' hrun mv hm ih =>
    by_cases hlt : x < m.processes.length
    · rw [L.given_of_lt hlt] at hx
      rw [answers_of_not_executing fun proc c hp hlife => by
        obtain ⟨w, hw⟩ := L.given_of_executing hrun x proc c hp hlife
        cases hx.symm.trans hw]
      exact ih hx
    · exact answers_cons_of_le hrun (Nat.not_lt.mp hlt) mv

end LineStart

/-! ## The pipes that were made -/

theorem Control.piped_notMem_answers (ex : Executor) (m : Machine (Task U.State))
    (context : Context) (hc : ∀ left right, c ≠ .run (.pipe left right)) (succeeded : Bool) :
    .piped succeeded ∉ c.answers ex m context := by
  have placed (fd target : Fd) : .piped succeeded ∉ Control.placed fd target := by
    unfold Control.placed
    split <;> simp
  cases c with
  | run t =>
    cases t with
    | exec => exact List.not_mem_nil
    | redirect t file direction =>
      simp only [answers]
      split <;> simp [placed]
    | pipe left right => exact absurd rfl (hc left right)
  | bind =>
    simp only [answers]
    split <;> simp
  | leave _ kept target t => exact placed kept target
  | launch => simp [answers]
  | forkLeft | forkRight =>
    simp only [answers]
    split <;> simp
  | printing pieces =>
    rcases pieces with _ | ⟨_ | ⟨b, bs⟩, rest⟩
    · simp [answers]
    · exact List.not_mem_nil
    · simp only [answers]
      split
      · split <;> simp
      · exact List.not_mem_nil
  | _ => exact List.not_mem_nil

/-- A step makes a pipe if it is answered one. -/
theorem Control.length_ends (c : Control) (ex : Executor) (m : Machine (Task U.State)) (p : Pid)
    (context : Context) : ((c.event? ex m p context).bind Event.ends?).toList.length =
      (c.answers ex m context).count (.piped true) := by
  by_cases hc : ∃ left right, c = .run (.pipe left right)
  · obtain ⟨left, right, rfl⟩ := hc
    simp only [event?, answers]
    rcases Store.makePipe_cases m.store context with ⟨cause, hmake⟩ |
      ⟨s', r, v, -, -, -, -, hne, -, -, -, hmake⟩
    · rw [hmake]
      rfl
    · rw [hmake]
      simp [DescriptorTable.get_set, hne, Event.ends?, Except.isOk, Except.toBool]
  · rw [List.count_eq_zero_of_not_mem (piped_notMem_answers ex m context
      (fun left right heq => hc ⟨left, right, heq⟩) true)]
    cases he : c.event? ex m p context with
    | none => rfl
    | some e =>
      cases makes_of_event? he with
      | piped => exact absurd ⟨_, _, rfl⟩ hc
      | _ => rfl

/-- The pipes that a process has made are those that it was answered. -/
theorem length_pipesOf (h : Past (Task U.State)) (x : Pid) :
    (pipesOf (events U ex h) x).length = (answers ex h x).count (.piped true) := by
  induction h with
  | nil => rfl
  | cons r h ih =>
    obtain ⟨m, mv⟩ := r
    by_cases hx : mv = .step x ∧ ∃ proc c, m.processes[x]? = some proc ∧
        proc.life = .active (.executing c)
    · obtain ⟨rfl, proc, c, hp, hlife⟩ := hx
      rw [pipesOf_step hp hlife, answers_step hp hlife, List.length_append, List.count_append, ih,
        c.length_ends, Nat.add_comm]
    · have hquiet : mv = .step x → ∀ proc c, m.processes[x]? = some proc →
          proc.life ≠ .active (.executing c) :=
        fun hmv proc c hp hlife => hx ⟨hmv, proc, c, hp, hlife⟩
      rw [(done_of_ne ex h mv hquiet).1, ih, answers_of_idle hx]

/-! ## Stages and pipes -/

/-- The words of the program that a process has tried to become. -/
def Answer.launched? : Answer → Option (List Bytes)
  | launched argv _ => some argv
  | _ => none

/-- The file that was opened. -/
def Answer.opened? : Answer → Option Bytes
  | opened file true => some file
  | _ => none

/-- The programs that a process has tried to become, as their words, first to last. -/
def launches {σ : Type} (ex : Executor) (h : Past (Task σ)) (x : Pid) : List (List Bytes) :=
  (answers ex h x).filterMap Answer.launched?

/-- The files that a process has opened for the redirections around its program, first to last. -/
def openings {σ : Type} (ex : Executor) (h : Past (Task σ)) (x : Pid) : List Bytes :=
  (answers ex h x).filterMap Answer.opened?

/-- What all answers to the process of a stage come to. -/
structure Command.StageAnswers (t : Command) (as : List Answer) : Prop where
  unpiped : ∀ succeeded, .piped succeeded ∉ as
  launches : as.filterMap Answer.launched? = [] ∨ as.filterMap Answer.launched? = [t.argv]
  refused : ∀ file, .opened file false ∈ as →
    (as.filterMap Answer.opened?).length < t.redirectionCount
  /-- If nothing is in the way, it tries to become its program. -/
  launched : t.argv ≠ [] → Control.isPassable t.argv →
    (as.filterMap Answer.opened?).length = t.redirectionCount → .bound false ∉ as →
    as.filterMap Answer.launched? = [t.argv]

/-- An end of a pipe comes to its place before the stage begins. -/
theorem Command.StageAnswers.bound (hs : t.StageAnswers as) :
    t.StageAnswers (.bound true :: as) where
  unpiped succeeded hp := hs.unpiped succeeded (by simpa using hp)
  launches := hs.launches
  refused file hf := hs.refused file (by simpa using hf)
  launched hargv hpass hopened hbound := hs.launched hargv hpass hopened (by simpa using hbound)

/-- Answers about a report say nothing about the stage. -/
structure Unrelated (as : List Answer) : Prop where
  unpiped : ∀ succeeded, .piped succeeded ∉ as
  launches : as.filterMap Answer.launched? = []
  openings : as.filterMap Answer.opened? = []
  unopened : ∀ file succeeded, .opened file succeeded ∉ as
  unbound : ∀ succeeded, .bound succeeded ∉ as

theorem unrelated_of_reported (has : ∀ a ∈ as, ∃ succeeded, a = .reported succeeded) :
    Unrelated as where
  unpiped _ ha := by
    obtain ⟨_, heq⟩ := has _ ha
    cases heq
  launches := List.filterMap_eq_nil_iff.mpr fun a ha => by
    obtain ⟨_, rfl⟩ := has a ha
    rfl
  openings := List.filterMap_eq_nil_iff.mpr fun a ha => by
    obtain ⟨_, rfl⟩ := has a ha
    rfl
  unopened _ _ ha := by
    obtain ⟨_, heq⟩ := has _ ha
    cases heq
  unbound _ ha := by
    obtain ⟨_, heq⟩ := has _ ha
    cases heq

theorem Reports.unrelated (h : Reports as e) : Unrelated as :=
  unrelated_of_reported fun _ ha => h.mem ha

theorem Command.Ends.stageAnswers (he : t.Ends as e) (ht : t.isStage) : t.StageAnswers as := by
  induction he with
  | nothing => exact ⟨by simp, Or.inl rfl, by simp, fun hargv => absurd rfl hargv⟩
  | unpassable hne hargv h =>
    have hn := h.unrelated
    refine ⟨hn.unpiped, Or.inl hn.launches, fun file hf => (hn.unopened _ _ hf).elim,
      fun _ hpass => ?_⟩
    cases hargv.symm.trans hpass
  | @refused argv _ _ answers _ h =>
    have hn := h.unrelated
    have hlaunches : (Answer.launched argv false :: answers).filterMap Answer.launched? = [argv] :=
      congrArg (argv :: ·) hn.launches
    exact ⟨by simpa using hn.unpiped, Or.inr hlaunches,
      fun file hf => (hn.unopened file false (by simpa using hf)).elim, fun _ _ _ _ => hlaunches⟩
  | launched => exact ⟨by simp, Or.inr rfl, by simp, fun _ _ _ _ => rfl⟩
  | @openFailed target file direction answers _ h =>
    have hn := h.unrelated
    have hopenings : (Answer.opened file false :: answers).filterMap Answer.opened? = [] :=
      hn.openings
    refine ⟨by simpa using hn.unpiped, Or.inl hn.launches, fun _ _ => ?_, fun _ _ hopened => ?_⟩
    · rw [hopenings]
      exact Nat.succ_pos _
    · rw [hopenings] at hopened
      cases hopened
  | bindFailed _ _ _ h =>
    have hn := h.unrelated
    exact ⟨by simpa using hn.unpiped, Or.inl hn.launches,
      fun file hf => (hn.unopened file false (by simpa using hf)).elim,
      fun _ _ _ hbound => by simp at hbound⟩
  | redirected file direction _ ih =>
    obtain ⟨hunpiped, hlaunches, hrefused, hlaunched⟩ := ih ht
    refine ⟨by simpa using hunpiped, hlaunches, fun file' hf => ?_,
      fun hargv hpass hopened hbound => ?_⟩
    · exact Nat.succ_lt_succ (hrefused file' (by simpa using hf))
    · exact hlaunched hargv hpass (Nat.succ.inj hopened) (by simpa using hbound)
  | pipeFailed | stranded | piped => cases ht

namespace LineStart

variable {L : LineStart m₀} {left right : Command}

theorem Runs.stageAnswers (hr : L.Runs x t as e) (ht : t.isStage) : t.StageAnswers as := by
  unfold Runs at hr
  split at hr
  · exact hr.stageAnswers ht
  · cases hr with
    | failed h =>
      have hn := h.unrelated
      exact ⟨by simpa using hn.unpiped, Or.inl hn.launches,
        fun file hf => (hn.unopened file false (by simpa using hf)).elim,
        fun _ _ _ hbound => by simp at hbound⟩
    | bound he => exact (he.stageAnswers ht).bound

/-- The process of a pipe is answered about no program and no file. -/
theorem Runs.of_pipe (hr : L.Runs x (.pipe left right) as e) :
    (∀ argv succeeded, .launched argv succeeded ∉ as) ∧
      ∀ file succeeded, .opened file succeeded ∉ as := by
  have reports {as : List Answer} {e : Fate} (h : Reports as e) :
      (∀ argv succeeded, .launched argv succeeded ∉ as) ∧
        ∀ file succeeded, .opened file succeeded ∉ as := by
    cases h <;> simp
  have ends {as : List Answer} {e : Fate} (he : (Command.pipe left right).Ends as e) :
      (∀ argv succeeded, .launched argv succeeded ∉ as) ∧
        ∀ file succeeded, .opened file succeeded ∉ as := by
    cases he with
    | pipeFailed _ _ h | stranded _ _ h => simpa using reports h
    | piped => simp
  unfold Runs at hr
  split at hr
  · exact ends hr
  · cases hr with
    | failed h => simpa using reports h
    | bound he => simpa using ends he

variable (L)

/-- The process of a stage makes no pipe. -/
theorem pipesOf_of_isStage (hrun : Run (Task.dynamics U ex) m₀ h m)
    (hw : L.given (events U ex h) x = some w) (ht : w.part.isStage) :
    pipesOf (events U ex h) x = [] := by
  obtain ⟨as, e, hr⟩ := L.exists_runs hrun x w hw
  refine List.length_eq_zero_iff.mp ?_
  rw [length_pipesOf]
  exact List.count_eq_zero_of_not_mem fun hp =>
    (hr.stageAnswers ht).unpiped true (List.mem_append_left _ hp)

/-- The process of a stage creates no process, so none can be refused to it. -/
theorem not_stranded_of_isStage (hrun : Run (Task.dynamics U ex) m₀ h m)
    (hw : L.given (events U ex h) x = some w) (ht : w.part.isStage) :
    .stranded x ∉ events U ex h := by
  intro hx
  induction hrun with
  | start => simp [events] at hx
  | @move h m m' hrun mv hm ih =>
    rcases mem_events_cons.mp hx with he | hx
    · rcases event?_eq_some he with ⟨_, _, heq, -⟩ | ⟨q, proc, c, rfl, hq, hlife, hc⟩
      · cases heq
      have hsides := (L.sides hrun q proc hq (not_stranded_of_event? hrun hq hlife hc)).1 c hlife
      cases Control.makes_of_event? hc with
      | noLeft | noRight =>
        rw [L.given_of_lt (List.getElem?_eq_some_iff.mp hq).1] at hw
        have hone := hsides.1
        rw [L.pipesOf_of_isStage hrun hw ht] at hone
        cases hone
    · rw [L.given_of_lt (isLeaving_of_stranded hrun hx).1] at hw
      exact ih hw hx

/-- The process of a stage tries to become the program of the stage, once at most. -/
theorem launches_of_isStage (hrun : Run (Task.dynamics U ex) m₀ h m)
    (hw : L.given (events U ex h) x = some w) (ht : w.part.isStage) :
    launches ex h x = [] ∨ launches ex h x = [w.part.argv] := by
  obtain ⟨as, e, hr⟩ := L.exists_runs hrun x w hw
  rcases (hr.stageAnswers ht).launches with hnone | hone
  · rw [List.filterMap_append, List.append_eq_nil_iff] at hnone
    exact Or.inl hnone.1
  · rw [List.filterMap_append, List.append_eq_singleton_iff] at hone
    exact hone.imp And.left And.left

/-- The process of a pipe does not try to become a program. -/
theorem launches_of_pipe (hrun : Run (Task.dynamics U ex) m₀ h m)
    (hw : L.given (events U ex h) x = some w) (hpart : w.part = .pipe left right) :
    launches ex h x = [] := by
  obtain ⟨as, e, hr⟩ := L.exists_runs hrun x w hw
  rw [hpart] at hr
  refine List.filterMap_eq_nil_iff.mpr fun a ha => ?_
  cases a with
  | launched argv succeeded =>
    exact (hr.of_pipe.1 argv succeeded (List.mem_append_left _ ha)).elim
  | _ => rfl

end LineStart

/-! ## When a line is run -/

/-- Whoever is gone has ended. -/
theorem Ended.of_reaped (hrun : Run (Task.dynamics U ex) m₀ h m)
    (hx₀ : ∀ proc, m₀.processes[x]? = some proc → proc.life ≠ .reaped)
    (hx : m.processes[x]? = some proc) (hlife : proc.life = .reaped) :
    ∃ status, Ended h m x status := by
  induction hrun generalizing proc with
  | start => exact absurd hlife (hx₀ proc hx)
  | @move h m m' hrun mv hm ih =>
    have before {status : ExitStatus} (he : Ended h m x status) :
        ∃ status, Ended ((m, mv) :: h) m' x status := ⟨status, he.move mv m'⟩
    cases Machine.make?_becomes hm hx with
    | acted _ _ hactive hacts =>
      rcases hacts.active_or_finished hactive with ⟨state, hlife'⟩ | ⟨status, rfl⟩
      · cases hlife'.symm.trans hlife
      · cases hlife
    | interrupted => cases hlife
    | touched hp _ ht =>
      cases ht with
      | unchanged | told =>
        obtain ⟨status, he⟩ := ih hp hlife
        exact before he
      | killed => cases hlife
      | reaped _ hended => exact before (.of_life hp hended)
    | born => cases hlife

namespace LineStart

variable {L : LineStart m₀} {left right : Command}

/-- Who was given a part of the line runs it, or has become a program, or has ended. -/
theorem life_of_given (L : LineStart m₀) (hrun : Run (Task.dynamics U ex) m₀ h m)
    (hw : L.given (events U ex h) x = some w) :
    (∃ proc c, m.processes[x]? = some proc ∧ proc.life = .active (.executing c)) ∨
      (∃ proc s, m.processes[x]? = some proc ∧ proc.life = .active (.program s)) ∨
      ∃ status, Ended h m x status := by
  have hlt := L.lt_of_given hrun hw
  have hx := List.getElem?_eq_getElem hlt
  cases hlife : m.processes[x].life with
  | active state =>
    cases state with
    | attended =>
      refine absurd hlife (L.ne_attended hrun x _ ?_ hx)
      rcases L.forked_of_given hw with rfl | ⟨p, side, hf⟩
      · exact .self
      · obtain ⟨-, -, proc, hx', rfl⟩ := child_of_forked hrun hf
        exact .child hx' (L.descends_of_forked hrun hf)
    | executing c => exact Or.inl ⟨_, c, hx, hlife⟩
    | program s => exact Or.inr (Or.inl ⟨_, s, hx, hlife⟩)
  | ended status => exact Or.inr (Or.inr ⟨status, .of_life hx hlife⟩)
  | reaped =>
    refine Or.inr (Or.inr (Ended.of_reaped hrun (fun proc hx₀ hlife₀ => ?_) hx hlife))
    rcases L.forked_of_given hw with rfl | ⟨p, side, hf⟩
    · obtain rfl := Option.some.inj (L.process.symm.trans hx₀)
      cases hlife₀
    · exact absurd (List.getElem?_eq_some_iff.mp hx₀).1
        (Nat.not_lt_of_le (child_of_forked hrun hf).1)

/-- A line is run: none of its processes can go on, none of them was refused a process for a side of
its pipe, and no signal has ended one of them before it was done with its part or had become a
program. -/
structure Ran (L : LineStart m₀) (ex : Executor) (h : Past (Task U.State))
    (m : Machine (Task U.State)) : Prop where
  idle : ∀ x, ¬m.Goes ex x
  granted : ∀ x, .stranded x ∉ events U ex h
  unharmed : ∀ x w signal, L.given (events U ex h) x = some w →
    Ended h m x (.signaled signal) → ∃ argv, .launched argv true ∈ answers ex h x

namespace Ran

/-- Once a line is run, each of its processes has been answered all that its part allows, but for
its report, or waits for the sides of its pipe, or for the other side of a named pipe that it is to
open. -/
theorem settled (hran : L.Ran ex h m) (hrun : Run (Task.dynamics U ex) m₀ h m)
    (hw : L.given (events U ex h) x = some w) :
    (∃ later e, L.Runs x w.part (answers ex h x ++ later) e ∧
        ∀ a ∈ later, ∃ succeeded, a = .reported succeeded) ∨
      (∃ left right,
        Paired (pipesOf (events U ex h) x) (startedOf (events U ex h) x) left right) ∨
      (∃ file later e, L.Runs x w.part (answers ex h x ++ .opened file false :: later) e) ∨
      ∃ argv, .launched argv true ∈ answers ex h x := by
  have ht := L.tallies hrun x w hw
  have done {e : Fate} (hr : L.Runs x w.part (answers ex h x) e) : ∃ later e,
      L.Runs x w.part (answers ex h x ++ later) e ∧
        ∀ a ∈ later, ∃ succeeded, a = .reported succeeded :=
    ⟨[], e, by rwa [List.append_nil], fun _ ha => by cases ha⟩
  rcases L.life_of_given hrun hw with ⟨proc, c, hx, hlife⟩ | ⟨proc, s, hx, hlife⟩ | ⟨status, he⟩
  · have hwaits : c.Waits ex m proc.context := by
      by_contra hgoes
      exact hran.idle x ⟨proc, c, hx, hlife, hgoes⟩
    have hs := (L.sides hrun x proc hx (hran.granted x)).1 c hlife
    cases c with
    | run t =>
      cases t with
      | redirect t file direction =>
        exact Or.inr (Or.inr (Or.inl ⟨file, _, _, ht.executing proc _ _ _ hx hlife
          (.openFailed t file direction .written)⟩))
      | exec | pipe => exact hwaits.elim
    | printing =>
      exact Or.inl ⟨_, _, ht.executing proc _ _ _ hx hlife .written,
        fun _ ha => Reports.written.mem ha⟩
    | alarm =>
      have hr := ht.executing proc _ [] _ hx hlife ⟨rfl, rfl⟩
      rw [List.append_nil] at hr
      exact Or.inl (done hr)
    | waitLeft left right => exact Or.inr (Or.inl ⟨left, right, hs⟩)
    | waitRight _ right =>
      obtain ⟨left, _, hpair, -⟩ := hs
      exact Or.inr (Or.inl ⟨left, right, hpair⟩)
    | _ => exact hwaits.elim
  · exact Or.inl (done (ht.program proc s hx hlife))
  · rcases ht.ended status he with ⟨signal, rfl⟩ | ⟨e, hr, -⟩
    · exact Or.inr (Or.inr (Or.inr (hran.unharmed x w signal hw he)))
    · exact Or.inl (done hr)

/-- Once a line is run, the process of a pipe that could be made has started both sides. -/
theorem paired (hran : L.Ran ex h m) (hrun : Run (Task.dynamics U ex) m₀ h m)
    (hw : L.given (events U ex h) x = some w) (hpart : w.part = .pipe left right)
    (hpiped : .piped false ∉ answers ex h x) :
    ∃ l r, Paired (pipesOf (events U ex h) x) (startedOf (events U ex h) x) l r := by
  have unlaunched {argv : List Bytes} (ha : .launched argv true ∈ answers ex h x) : False := by
    obtain ⟨as, e, hr⟩ := L.exists_runs hrun x w hw
    rw [hpart] at hr
    exact hr.of_pipe.1 argv true (List.mem_append_left _ ha)
  rcases hran.settled hrun hw with ⟨later, e, hr, hlater⟩ | hpair | ⟨file, later, e, hr⟩ |
    ⟨argv, ha⟩
  · have hn := unrelated_of_reported hlater
    obtain ⟨as, has, hends⟩ := L.ends_of_runs hrun hw hr hlater
    rw [hpart] at hends
    have made (hp : .piped true ∈ as ++ later) : ∃ l r,
        Paired (pipesOf (events U ex h) x) (startedOf (events U ex h) x) l r := by
      have hmem := (List.mem_append.mp hp).resolve_right (hn.unpiped true)
      have hpipes : pipesOf (events U ex h) x ≠ [] := by
        rw [← List.length_pos_iff, length_pipesOf, List.count_pos_iff, has]
        exact List.mem_append_right _ hmem
      rcases L.paired hrun hw hpipes (hran.granted x) with hpair | hgoes | ⟨signal, he⟩
      · exact hpair
      · exact absurd hgoes (hran.idle x)
      · obtain ⟨argv, ha⟩ := hran.unharmed x w signal hw he
        exact (unlaunched ha).elim
    generalize hall : as ++ later = all at hends made
    cases hends with
    | pipeFailed =>
      have hmem : .piped false ∈ as :=
        (List.mem_append.mp (hall ▸ .head _)).resolve_right (hn.unpiped false)
      exact absurd (has ▸ List.mem_append_right _ hmem) hpiped
    | stranded | piped => exact made (.head _)
  · exact hpair
  · rw [hpart] at hr
    exact (hr.of_pipe.2 file false (List.mem_append_right _ (.head _))).elim
  · exact (unlaunched ha).elim

/-- Once a line is run, the process of a stage has tried to become the program of the stage, if
there is one, its words can be handed over and nothing was in the way. -/
theorem launches_eq (hran : L.Ran ex h m) (hrun : Run (Task.dynamics U ex) m₀ h m)
    (hw : L.given (events U ex h) x = some w) (ht : w.part.isStage) (hargv : w.part.argv ≠ [])
    (hpass : Control.isPassable w.part.argv)
    (hopened : (openings ex h x).length = w.part.redirectionCount)
    (hbound : .bound false ∉ answers ex h x) : launches ex h x = [w.part.argv] := by
  rcases hran.settled hrun hw with ⟨later, e, hr, hlater⟩ | ⟨left, right, hpair⟩ |
    ⟨file, later, e, hr⟩ | ⟨argv, ha⟩
  · have hn := unrelated_of_reported hlater
    have hall := (hr.stageAnswers ht).launched hargv hpass
      (by rw [List.filterMap_append, hn.openings, List.append_nil]; exact hopened)
      (fun hb => (List.mem_append.mp hb).elim hbound (hn.unbound false))
    rwa [List.filterMap_append, hn.launches, List.append_nil] at hall
  · have hone := hpair.1
    rw [L.pipesOf_of_isStage hrun hw ht] at hone
    cases hone
  · -- A file that could not be opened would be missing among those that were.
    have hlt := (hr.stageAnswers ht).refused file (List.mem_append_right _ (.head _))
    rw [List.filterMap_append, ← hopened, List.length_append] at hlt
    exact absurd hlt (Nat.not_lt_of_le (Nat.le_add_right _ _))
  · refine (L.launches_of_isStage hrun hw ht).resolve_left fun hnone => ?_
    have hmem : argv ∈ launches ex h x := List.mem_filterMap.mpr ⟨_, ha, rfl⟩
    rw [hnone] at hmem
    cases hmem

end Ran

end LineStart

end PipeShell
