import Mathlib
import PipeShell.Proofs.Executor.Reaping
import PipeShell.Proofs.Executor.Sides
import PipeShell.Proofs.Shell.Reports

/-!
# Waiting for a line

A session lets all processes move until the process of its line has ended, and takes its end. This
is a run like any other (`Session.waiting`), so what holds of all runs holds when the session goes
on: nothing of the line is left (`LineStart.nobody_left`). A session does not go on that a signal
has ended meanwhile, or whose line is not over when the bound on the moves is reached
(`Session.reap_ensures`).
-/

namespace PipeShell

variable {U : Userland} {ex : Executor} {m₀ m m' : Machine (Task U.State)}

/-! ## Work that waits -/

theorem Machine.endOf?_of_ended {κ : Type} {m : Machine κ} {p : Pid} {proc : Process κ}
    {status : ExitStatus} (hp : m.processes[p]? = some proc) (hended : proc.life = .ended status) :
    m.endOf? p = some status := by
  obtain ⟨parent, context, life⟩ := proc
  subst hended
  simp [endOf?, hp]

theorem Machine.endOf?_of_active {κ : Type} {m : Machine κ} {p : Pid} {proc : Process κ} {state : κ}
    (hp : m.processes[p]? = some proc) (hactive : proc.life = .active state) :
    m.endOf? p = none := by
  obtain ⟨parent, context, life⟩ := proc
  subst hactive
  simp [endOf?, hp]

/-- A child that waiting for gives nothing yet has not ended. -/
theorem Machine.endOf?_of_await {κ : Type} {m : Machine κ} {p child : Pid}
    (h : m.await p child = none) : m.endOf? child = none := by
  unfold await at h
  split at h
  · next proc hp =>
    split at h
    · cases h
    · split at h
      · next hlife => exact endOf?_of_active hp hlife
      · cases h
      · cases h
  · cases h

/-- A process that is moved from outside waits for a child of its own whose end nobody has taken; it
may have been killed meanwhile. -/
structure Machine.Attends (m : Machine (Task U.State)) (p child : Pid) : Prop where
  waits : ∃ proc, m.processes[p]? = some proc ∧
    (proc.life = .active .attended ∨ ∃ signal, proc.life = .ended (.signaled signal))
  due : ∃ proc, m.processes[child]? = some proc ∧ proc.parent = p ∧ proc.life ≠ .reaped

/-- A move of the machine leaves a process alone that is moved from outside, or tells it a signal,
or kills it. -/
theorem Machine.attended_or_killed {p : Pid} {proc : Process (Task U.State)} {mv : Move}
    (hm : m.make? (Task.dynamics U ex) mv = some m') (hp : m.processes[p]? = some proc)
    (hlife : proc.life = .active .attended) : ∃ proc', m'.processes[p]? = some proc' ∧
      ((proc'.life = .active .attended ∧
        proc'.context.descriptors = proc.context.descriptors ∧
        proc'.context.directory = proc.context.directory) ∨
      ∃ signal, proc'.life = .ended (.signaled signal)) := by
  obtain ⟨proc', hp'⟩ := exists_of_make? hm hp
  refine ⟨proc', hp', ?_⟩
  cases make?_becomes hm hp' with
  | acted _ hp₀ hlife₀ hacts =>
    obtain rfl := Option.some.inj (hp.symm.trans hp₀)
    cases hlife.symm.trans hlife₀
    cases hacts
  | interrupted _ hp₀ hlife₀ _ _ hwait =>
    obtain rfl := Option.some.inj (hp.symm.trans hp₀)
    cases hlife.symm.trans hlife₀
    cases hwait
  | touched hp₀ _ ht =>
    obtain rfl := Option.some.inj (hp.symm.trans hp₀)
    cases ht with
    | unchanged | told => exact Or.inl ⟨hlife, rfl, rfl⟩
    | killed => exact Or.inr ⟨_, rfl⟩
    | reaped _ hended => cases hlife.symm.trans hended
  | born _ _ _ hlength =>
    exact absurd hlength (Nat.ne_of_lt (List.getElem?_eq_some_iff.mp hp).1)

/-- Steps of others and time leave it at that as long as the process is not killed. -/
theorem Machine.Attends.make? {p child : Pid} {mv : Move} (ha : m.Attends p child)
    (hend : m.endOf? p = none) (hmv : mv = .elapse ∨ ∃ q, mv = .step q)
    (hm : m.make? (Task.dynamics U ex) mv = some m') : m'.Attends p child := by
  obtain ⟨⟨proc, hp, hwaits⟩, procc, hc, hparent, hdue⟩ := ha
  have hlife : proc.life = .active .attended := by
    refine hwaits.resolve_right fun ⟨signal, hended⟩ => ?_
    rw [endOf?_of_ended hp hended] at hend
    cases hend
  constructor
  · obtain ⟨proc', hp', hkept⟩ := attended_or_killed hm hp hlife
    exact ⟨proc', hp', hkept.imp_left And.left⟩
  · obtain ⟨procc', hc', hparent'⟩ := parent_of_make? hm hc
    refine ⟨procc', hc', hparent'.trans hparent, fun hreaped => ?_⟩
    have hr := ((reaped_iff_of_make? hm hc hc').mp hreaped).resolve_left hdue
    have hasking := (Option.filter_eq_some_iff.mp hr).1
    rcases hmv with rfl | ⟨q, rfl⟩
    · cases hasking
    · obtain rfl := asking?_step hasking
      rw [hparent] at hasking
      simp [asking?, active?_eq_some.mpr ⟨hp, hlife⟩, Task.dynamics] at hasking

/-- A process that was not killed takes the end that it has waited for. -/
theorem Machine.Attends.collect {p child : Pid} {reply : WaitReply} (ha : m.Attends p child)
    (hkilled : ∀ signal, m.endOf? p ≠ some (.signaled signal))
    (hawait : m.await p child = some (reply, m')) :
    m.make? (Task.dynamics U ex) (.collect p child) = some m' ∧ m'.reaper? child = some p ∧
      ∃ status, reply = .ended status ∧ m.endOf? child = some status := by
  obtain ⟨⟨proc, hp, hwaits⟩, procc, hc, hparent, hdue⟩ := ha
  have hlife : proc.life = .active .attended :=
    hwaits.resolve_right fun ⟨signal, hended⟩ => hkilled signal (endOf?_of_ended hp hended)
  constructor
  · simp only [Machine.make?, collect?, active?_eq_some.mpr ⟨hp, hlife⟩]
    simp [Task.dynamics, hawait]
  · rcases await_cases hawait with ⟨-, -, hgone⟩ | ⟨procc₀, status, hc₀, hparent₀, hended, rfl, rfl⟩
    · exact absurd (hgone procc hc hparent) hdue
    · refine ⟨reaper?_eq_some.mpr ⟨{ procc₀ with life := .reaped }, ?_, rfl, hparent₀⟩, status, rfl,
        endOf?_of_ended hc₀ hended⟩
      rw [getElem?_setProcess hc₀, if_pos rfl]

/-! ## What stays as it is -/

/-- Process `p` is moved from outside, has these descriptors open and these children left, and is in
this directory. -/
structure Machine.Hosts (m : Machine (Task U.State)) (p : Pid) (table : DescriptorTable)
    (directory : NodeId) (children : List Pid) : Prop where
  process : ∃ proc, m.processes[p]? = some proc ∧ proc.life = .active .attended ∧
    proc.context.descriptors = table ∧ proc.context.directory = directory
  children : ∀ y, y ∈ m.childrenOf p ↔ y ∈ children

namespace Machine.Hosts

variable {p child : Pid} {table : DescriptorTable} {directory : NodeId} {children : List Pid}

theorem congr (hh : m.Hosts p table directory children) (hprocesses : m'.processes = m.processes) :
    m'.Hosts p table directory children where
  process := by
    rw [hprocesses]
    exact hh.process
  children y := by
    rw [mem_childrenOf, hprocesses, ← mem_childrenOf]
    exact hh.children y

/-- A move that is not one of the process leaves it as it is, unless it is killed. -/
theorem make? {mv : Move} (hh : m.Hosts p table directory children)
    (hmv : ∀ q, mv ≠ .collect p q) (hend : m'.endOf? p = none)
    (hm : m.make? (Task.dynamics U ex) mv = some m') : m'.Hosts p table directory children := by
  obtain ⟨⟨proc, hp, hlife, htable, hdirectory⟩, hchildren⟩ := hh
  have hactive := active?_eq_some.mpr ⟨hp, hlife⟩
  constructor
  · obtain ⟨proc', hp', ⟨hlife', htable', hdirectory'⟩ | ⟨signal, hended⟩⟩ :=
      attended_or_killed hm hp hlife
    · exact ⟨proc', hp', hlife', htable'.trans htable, hdirectory'.trans hdirectory⟩
    · rw [endOf?_of_ended hp' hended] at hend
      cases hend
  · refine fun y => ((Renews.refl (fun y hr => ?_) fun hb => ?_).congr
      (childrenOf_of_make? hm p) (fun y => Iff.rfl) y).symm.trans (hchildren y)
    · have hasking := (Option.filter_eq_some_iff.mp hr).1
      cases mv with
      | step q =>
        obtain rfl := asking?_step hasking
        simp [asking?, hactive, Task.dynamics] at hasking
      | collect q y =>
        cases hasking
        exact hmv y rfl
      | _ => cases hasking
    · obtain ⟨proc₀, state, _, _, -, hp₀, hlife₀, ha, -⟩ := bearing?_eq_some hb
      obtain rfl := Option.some.inj (hp.symm.trans hp₀)
      cases hlife.symm.trans hlife₀
      cases ha

/-- When the process has taken the end of a child, this child is not left any more. -/
theorem collect {status : ExitStatus} (hh : m.Hosts p table directory children)
    (hawait : m.await p child = some (.ended status, m')) :
    m'.Hosts p table directory (children.filter fun y => y ≠ child) := by
  obtain ⟨⟨proc, hp, hlife, hcontext⟩, hchildren⟩ := hh
  rcases await_cases hawait with ⟨-, heq, -⟩ | ⟨procc, _, hc, -, hended, -, rfl⟩
  · cases heq
  have hne : p ≠ child := by
    rintro rfl
    obtain rfl := Option.some.inj (hp.symm.trans hc)
    cases hlife.symm.trans hended
  constructor
  · refine ⟨proc, ?_, hlife, hcontext⟩
    rw [getElem?_setProcess hc, if_neg hne]
    exact hp
  · intro y
    rw [List.mem_filter, ← hchildren y, mem_childrenOf, mem_childrenOf, getElem?_setProcess hc]
    by_cases hy : y = child
    · simp [hy]
    · simp [hy]

end Machine.Hosts

/-! ## Taking the end of a child -/

namespace Session

variable {r : Runner U} {p child : Pid}

/-- The machine when process `p` has stopped waiting for a child: one of them has ended, or nobody
can move any more, or the bound on the moves is reached. -/
def awaited (r : Runner U) (child p : Pid) (m : Machine (Task U.State)) : Machine (Task U.State) :=
  m.runUntil (Task.dynamics U r.executor) r.policy
    (fun m => (m.endOf? child).isSome || (m.endOf? p).isSome) r.fuel

/-- The moves until then. -/
def awaiting (r : Runner U) (child p : Pid) (m : Machine (Task U.State)) : Past (Task U.State) :=
  m.historyUntil (Task.dynamics U r.executor) r.policy
    (fun m => (m.endOf? child).isSome || (m.endOf? p).isSome) r.fuel []

/-- The moves up to the last, by which process `p` takes the end of the child. -/
def waiting (r : Runner U) (child p : Pid) (m : Machine (Task U.State)) : Past (Task U.State) :=
  (awaited r child p m, .collect p child) :: awaiting r child p m

/-- Waiting is a run, which leaves the process that waits as it was unless a signal ends it. -/
theorem run_awaited (r : Runner U) (ha : m.Attends p child) :
    Run (Task.dynamics U r.executor) m (awaiting r child p m) (awaited r child p m) ∧
      (awaited r child p m).Attends p child ∧ ∀ table directory children,
        m.Hosts p table directory children → (awaited r child p m).endOf? p = none →
          (awaited r child p m).Hosts p table directory children := by
  have hstep (m₁ : Machine (Task U.State)) (mv : Move) (m₂ : Machine (Task U.State))
      (hkeeps : m₁.Attends p child ∧ ∀ table directory children,
        m.Hosts p table directory children → m₁.endOf? p = none →
          m₁.Hosts p table directory children)
      (hstop : ((m₁.endOf? child).isSome || (m₁.endOf? p).isSome) = false)
      (hmv : mv = .elapse ∨ ∃ q, mv = .step q)
      (hm : m₁.make? (Task.dynamics U r.executor) mv = some m₂) :
      m₂.Attends p child ∧ ∀ table directory children,
        m.Hosts p table directory children → m₂.endOf? p = none →
          m₂.Hosts p table directory children := by
    rw [Bool.or_eq_false_iff, Option.isSome_eq_false_iff, Option.isSome_eq_false_iff,
      Option.isNone_iff_eq_none, Option.isNone_iff_eq_none] at hstop
    refine ⟨hkeeps.1.make? hstop.2 hmv hm, fun table directory children hh hend =>
      (hkeeps.2 table directory children hh hstop.2).make? (fun q heq => ?_) hend hm⟩
    rcases hmv with rfl | ⟨q, rfl⟩ <;> cases heq
  exact Run.start.runUntil r.policy _ r.fuel hstep ⟨ha, fun _ _ _ hh _ => hh⟩

/-- A process that waits for a child takes the end of the child, or is ended by a signal, or none
of them has ended when it is not waited for any longer. -/
theorem wait_ensures (r : Runner U) (ha : m.Attends p child) :
    (Work.wait (Task.dynamics U r.executor) r.policy r.fuel child p m).Ensures
      (fun reply m' => ∃ status, reply = .ended status ∧
        Run (Task.dynamics U r.executor) m (waiting r child p m) m' ∧ m'.reaper? child = some p ∧
        (awaited r child p m).endOf? child = some status ∧ ∀ table directory children,
          m.Hosts p table directory children →
            m'.Hosts p table directory (children.filter fun y => y ≠ child))
      (fun status m' => m' = awaited r child p m ∧ ∃ signal, status = .signaled signal ∧
        m'.endOf? p = some (.signaled signal))
      ((awaited r child p m).endOf? child = none ∧ (awaited r child p m).endOf? p = none) := by
  obtain ⟨hrun, ha', hhosts⟩ := run_awaited r ha
  simp only [Work.wait]
  split
  · next status hend =>
    change (awaited r child p m).endOf? p = some status at hend
    obtain ⟨proc, hp, hlife | ⟨signal, hended⟩⟩ := ha'.waits
    · rw [Machine.endOf?_of_active hp hlife] at hend
      cases hend
    · rw [Machine.endOf?_of_ended hp hended] at hend
      cases hend
      exact ⟨rfl, signal, rfl, Machine.endOf?_of_ended hp hended⟩
  · next hend =>
    change (awaited r child p m).endOf? p = none at hend
    split
    · next reply m' hawait =>
      have hkilled (signal : Nat) : (awaited r child p m).endOf? p ≠ some (.signaled signal) := by
        rw [hend]
        exact (Option.some_ne_none _).symm
      obtain ⟨hcollect, hreaper, status, rfl, hstatus⟩ := ha'.collect hkilled hawait
      exact ⟨status, rfl, hrun.move _ hcollect, hreaper, hstatus,
        fun table directory children hh =>
          (hhosts table directory children hh hend).collect hawait⟩
    · next hawait => exact ⟨Machine.endOf?_of_await hawait, hend⟩

/-- A session that waits for a child has the number for the end of the child when it goes on. All
that was done by then was a run, and records. -/
theorem reap_ensures (r : Runner U) (ha : m.Attends p child) :
    (reap r child p m).Ensures
      (fun result m' => ∃ m₁ status,
        Run (Task.dynamics U r.executor) m (waiting r child p m) m₁ ∧ m₁.reaper? child = some p ∧
        m₁.Noted m' ∧ (awaited r child p m).endOf? child = some status ∧
        result = Reap.code status ∧
        ∀ table directory children, m.Hosts p table directory children →
          m₁.Hosts p table directory (children.filter fun y => y ≠ child))
      (fun status m' => m' = awaited r child p m ∧ ∃ signal, status = .signaled signal ∧
        m'.endOf? p = some (.signaled signal))
      ((awaited r child p m).endOf? child = none ∧ (awaited r child p m).endOf? p = none) := by
  refine Work.ensures_bind (Q := fun answer m₁ => ∃ status,
    answer = (.ended status, Reap.code status) ∧
      Run (Task.dynamics U r.executor) m (waiting r child p m) m₁ ∧ m₁.reaper? child = some p ∧
      (awaited r child p m).endOf? child = some status ∧ ∀ table directory children,
        m.Hosts p table directory children →
          m₁.Hosts p table directory (children.filter fun y => y ≠ child)) ?_ ?_
  · refine Work.ensures_bind (wait_ensures r ha) ?_
    -- The first answer is the end of the child, which decides.
    rintro _ m₁ ⟨status, rfl, h⟩
    exact ⟨status, rfl, h⟩
  · rintro _ m₁ ⟨status, rfl, hrun, hreaper, hended, hhosts⟩
    cases hrecord : Reap.record? child (.ended status) with
    | none =>
      simp only [hrecord]
      exact ⟨m₁, status, hrun, hreaper, .refl _, hended, rfl, hhosts⟩
    | some record =>
      simp only [hrecord]
      obtain ⟨proc, hp, -⟩ := ha.waits
      have hlt := Nat.lt_of_lt_of_le (List.getElem?_eq_some_iff.mp hp).1 hrun.length_le
      refine Work.ensures_note (List.getElem?_eq_getElem hlt) ?_
      exact ⟨m₁, status, hrun, hreaper, Work.noted_noted m₁ p .trace record, hended, rfl, hhosts⟩

end Session

/-! ## Starting a line -/

theorem Machine.getElem?_spawn {κ : Type} {m : Machine κ} {p x : Pid} {proc : Process κ}
    (hp : m.processes[p]? = some proc) (child next : κ) :
    (m.spawn p proc child next).processes[x]? =
      if x = m.processes.length then some ⟨p, { proc.context with pending := [] }, .active child⟩
      else if x = p then some { proc with life := .active next } else m.processes[x]? := by
  have hlt := (List.getElem?_eq_some_iff.mp hp).1
  rw [← getElem?_setProcess hp { proc with life := .active next } x]
  simp only [spawn, setProcess, List.getElem?_append, List.length_set]
  split
  · next hx => rw [if_neg (Nat.ne_of_lt hx)]
  · next hx =>
    split
    · next heq => simp [heq]
    · next hne =>
      have hlt' := Nat.lt_of_le_of_ne (Nat.le_of_not_lt hx) (Ne.symm hne)
      rw [List.getElem?_eq_none (Nat.succ_le_of_lt (Nat.sub_pos_of_lt hlt')),
        List.getElem?_eq_none (by simpa using Nat.le_of_not_lt hx)]

/-- Starting a process leaves a sound machine. -/
theorem Machine.Sound.spawn {κ : Type} {m : Machine κ} {p : Pid} {proc : Process κ} (hs : m.Sound)
    (hp : m.processes[p]? = some proc) (child next : κ) : (m.spawn p proc child next).Sound := by
  have hlength : (m.spawn p proc child next).processes.length = m.processes.length + 1 := by
    simp [Machine.spawn, Machine.setProcess]
  refine ⟨hs.store, fun x procx hx => ?_, fun x procx hx => ?_⟩
  · rw [getElem?_spawn hp] at hx
    split at hx
    · cases hx
      exact hs.tables p proc hp
    · split at hx
      · cases hx
        exact hs.tables p proc hp
      · exact hs.tables x procx hx
  · rw [getElem?_spawn hp] at hx
    rw [hlength]
    split at hx
    · cases hx
      exact Nat.lt_succ_of_lt (List.getElem?_eq_some_iff.mp hp).1
    · split at hx
      · cases hx
        exact Nat.lt_succ_of_lt (hs.parents p proc hp)
      · exact Nat.lt_succ_of_lt (hs.parents x procx hx)

/-- A session that attends to nothing else starts a line in a process of its own. -/
def LineStart.spawn {m : Machine (Task U.State)} (p : Pid) (proc : Process (Task U.State))
    (hs : m.Sound) (hp : m.processes[p]? = some proc) (hopening : proc.context.opening = none)
    (hidle : ∀ (x : Pid) (procx : Process (Task U.State)) (c : Control),
      m.processes[x]? = some procx → procx.life ≠ .active (.executing c)) (t : Command) :
    LineStart (m.spawn p proc (.executing (.run t)) .attended) where
  root := m.processes.length
  tree := t
  parent := p
  context := { proc.context with pending := [] }
  process := by rw [Machine.getElem?_spawn hp, if_pos rfl]
  settled := hopening
  alone x procx c hx hlife := by
    rw [Machine.getElem?_spawn hp] at hx
    split at hx
    · next heq => exact heq
    · split at hx
      · cases hx
        cases hlife
      · exact absurd hlife (hidle x procx c hx)
  childless x procx hx hparent := by
    rw [Machine.getElem?_spawn hp] at hx
    split at hx
    · next heq => exact heq
    · split at hx
      · cases hx
        exact absurd hparent (Nat.ne_of_lt (hs.parents p proc hp))
      · exact absurd hparent (Nat.ne_of_lt (hs.parents x procx hx))
  sound := hs.spawn hp _ _

/-- A machine whose only process is a session, which has nothing open. -/
def Machine.shell (U : Userland) : Machine (Task U.State) :=
  ⟨⟨.empty, [], [], [], .silent, 0⟩, [⟨0, .bare, .active .attended⟩], []⟩

/-- A way to run lines: the oldest process moves that can, a line takes at most a hundred moves, and
paths are taken as they are. -/
def Runner.brisk (U : Userland) : Runner U :=
  ⟨.bare, fun _ path => path, Machine.oldestFirst (Task.dynamics U .bare), 100⟩

theorem Machine.sound_shell (U : Userland) : (shell U).Sound :=
  sound_singleton ⟨by simp, FileSystem.pipesBelow_empty⟩ (DescriptorTable.valid_empty _) rfl

/-! ## Nobody is left behind -/

namespace LineStart

/-- If all end in order, whoever is started for a side of a pipe has its end taken once, by the one
who has started it; a process that has made a pipe ends only when this is so for both sides; and
nothing of the line is left when its process has ended. So nothing is left when a session that waits
for the line goes on, and the end of the line's process was taken once as well. -/
theorem nobody_left (L : LineStart m₀) :
    (∀ h m, Run (Task.dynamics U ex) m₀ h m → orderly U ex h →
        (∀ p side child, .forked p side child ∈ events U ex h →
          reapings (events U ex h) child = [] ∨
            reapings (events U ex h) child = [.reaped p child]) ∧
        (∀ p pipe readEnd writeEnd, .piped p pipe readEnd writeEnd ∈ events U ex h →
          m.active? p = none → ∃ left right, left ≠ right ∧
            .forked p .left left ∈ events U ex h ∧ .forked p .right right ∈ events U ex h ∧
            reapings (events U ex h) left = [.reaped p left] ∧
            reapings (events U ex h) right = [.reaped p right]) ∧
        (m.active? L.root = none → L.Over (events U ex h) m)) ∧
      ∀ (r : Runner U) (shell : Process (Task U.State)) (result : Except ExecError Nat)
        (m' : Machine (Task U.State)), r.executor = ex →
        m₀.active? L.parent = some (shell, .attended) →
        Session.reap r L.root L.parent m₀ = .finished result m' →
        ∃ m, Run (Task.dynamics U ex) m₀ (Session.waiting r L.root L.parent m₀) m ∧
          m'.processes = m.processes ∧
          (orderly U ex (Session.waiting r L.root L.parent m₀) →
            L.Over (events U ex (Session.waiting r L.root L.parent m₀)) m ∧
              reapings (events U ex (Session.waiting r L.root L.parent m₀)) L.root =
                [.reaped L.parent L.root]) := by
  refine ⟨fun h m hrun ho => ⟨fun p side child hf => reapings_of_forked hrun hf,
    fun p pipe readEnd writeEnd hp hended => L.sides_of_ended hrun ho hp hended,
    L.over_of_ended hrun ho⟩, ?_⟩
  rintro r shell result m' rfl hshell hreap
  obtain ⟨hp, hlife⟩ := Machine.active?_eq_some.mp hshell
  have hattends : m₀.Attends L.parent L.root :=
    ⟨⟨shell, hp, Or.inl hlife⟩, _, L.process, rfl, by simp⟩
  have hensures := Session.reap_ensures r hattends
  rw [hreap] at hensures
  obtain ⟨m, -, hrun, hreaper, hnoted, -⟩ := hensures
  refine ⟨m, hrun, hnoted.processes, fun ho => ⟨L.over_of_ended hrun ho ?_, ?_⟩⟩
  · obtain ⟨proc, hx, hreaped, -⟩ := Machine.reaper?_eq_some.mp hreaper
    refine Machine.active?_eq_none.mpr fun proc' state hx' => ?_
    obtain rfl := Option.some.inj (hx.symm.trans hx')
    simp [hreaped]
  · have hroot : m₀.reaper? L.root = none := by
      simp [Machine.reaper?, L.process]
    rw [reapings_eq hrun hroot, hreaper]
    rfl

/-- Two empty stages, whose ends are taken in the order that they do not come in; and a session that
waits for the same line. -/
theorem nobody_left_empty_stages :
    (∃ h m, Run (Task.dynamics .idle .bare) (.bare .idle .empty (.pipe (.exec []) (.exec []))) h m ∧
        m.active? 0 = none ∧ reapings (events .idle .bare h) 1 = [.reaped 0 1] ∧
        reapings (events .idle .bare h) 2 = [.reaped 0 2]) ∧
      ∃ result m',
        Session.reap (.brisk .idle) 1 0 ((Machine.shell .idle).spawn 0 ⟨0, .bare, .active .attended⟩
          (.executing (.run (.pipe (.exec []) (.exec [])))) .attended) = .finished result m' ∧
        reapings (events .idle .bare (Session.waiting (.brisk .idle) 1 0
          ((Machine.shell .idle).spawn 0 ⟨0, .bare, .active .attended⟩
            (.executing (.run (.pipe (.exec []) (.exec [])))) .attended))) 1 = [.reaped 0 1] := by
  let t : Command := .pipe (.exec []) (.exec [])
  constructor
  · have hreached : (Run.replay (Task.dynamics .idle .bare) [] (.bare .idle .empty t)
        (List.replicate 8 (Move.step 0) ++ List.replicate 4 (Move.step 2) ++
          List.replicate 4 (Move.step 1) ++ List.replicate 9 (Move.step 0))).map
            (fun r => (events .idle .bare r.1, orderly .idle .bare r.1, (r.2.active? 0).isSome)) =
        some ([.reaped 0 2, .reaped 0 1, .forked 0 .right 2, .forked 0 .left 1,
          .piped 0 0 ⟨0, false⟩ ⟨1, false⟩], true, false) := by
      decide +kernel
    obtain ⟨⟨h, m⟩, hr, hsummary⟩ := Option.map_eq_some_iff.mp hreached
    simp only [Prod.mk.injEq] at hsummary
    obtain ⟨hevents, ho, hended⟩ := hsummary
    have hended : m.active? 0 = none := by simpa using hended
    have hrun := Run.of_replay .start hr
    have hover := ((nobody_left (LineStart.bare .idle FileSystem.pipesBelow_empty t)).1 h m hrun
      ho).2.2 hended
    refine ⟨h, m, hrun, hended, hover.reaped 0 .left 1 ?_, hover.reaped 0 .right 2 ?_⟩
    · rw [hevents]
      exact .tail _ (.tail _ (.tail _ (.head _)))
    · rw [hevents]
      exact .tail _ (.tail _ (.head _))
  · let m₀ := (Machine.shell .idle).spawn 0 ⟨0, .bare, .active .attended⟩ (.executing (.run t))
      .attended
    have hreap : (Session.reap (.brisk .idle) 1 0 m₀).isFinished = true := by
      decide +kernel
    have ho : orderly .idle .bare (Session.waiting (.brisk .idle) 1 0 m₀) = true := by
      decide +kernel
    obtain ⟨result, m', hreap⟩ := Progress.exists_of_isFinished hreap
    let L := LineStart.spawn 0 ⟨0, .bare, .active .attended⟩ (Machine.sound_shell .idle) rfl rfl
      (fun x procx c hx hlife => by
        obtain rfl := Nat.lt_one_iff.mp (List.getElem?_eq_some_iff.mp hx).1
        cases hx
        cases hlife) t
    obtain ⟨m, hrun, hprocesses, hover⟩ := (@nobody_left .idle .bare _ L).2 _ _ _ _ rfl rfl hreap
    exact ⟨result, m', hreap, (hover ho).2⟩

end LineStart

end PipeShell
