import PipeShell.Proofs.Command.Reading
import PipeShell.Proofs.Executor.Outcomes
import PipeShell.Proofs.Shell.Waiting
import PipeShell.Shell.Conversation

/-!
# Sessions line by line

What a session does with a list of lines (`Session.handleAll`) is said line by line
(`Session.Course`, `Session.Serves`): a line ends the session, or goes to a directory, or is
refused, or is run by a process of its own. Only the last of these starts a process. After every
line the process of the session has the descriptors open that it had before the session, is in the
directory that was entered last, and has no more children to wait for than before
(`Session.course`).

The process of a session need not live to the end of a line. A signal may end it while the line
runs, it may be unable to print what it has to say, and no process may be left for the line
(`Session.Breaks`). What is said of the lines before holds all the same. A line need not be over
either, if there is never room for a message, or if its process does not end (`Session.Stalls`).
-/

namespace PipeShell

variable {U : Userland} {m m' : Machine (Task U.State)} {r : Runner U} {p : Pid}
  {table : DescriptorTable} {directory : NodeId} {children : List Pid} {line : Bytes}
  {lines : List Bytes} {status status' : Nat}

/-! ## What a line asks for -/

namespace Request

theorem afterCd?_eq_some {path : Bytes} :
    afterCd? line = some path ↔ line = 0x63 :: 0x64 :: 0x20 :: path := by
  unfold afterCd?
  split
  · simp [eq_comm]
  · next hcd =>
    constructor
    · intro h
      cases h
    · rintro rfl
      exact absurd rfl (hcd path)

/-- A line is `exit`, but for white space around it. -/
def Leaves (line : Bytes) : Prop := Text.trimAscii line = exitWord

/-- A line is `cd` and a path, and not `exit`. -/
structure Moves (line path : Bytes) : Prop where
  stays : ¬Leaves line
  starts : line = 0x63 :: 0x64 :: 0x20 :: path

/-- A line is neither `exit` nor `cd` and a path. -/
structure IsCommand (line : Bytes) : Prop where
  stays : ¬Leaves line
  starts : ∀ path, line ≠ 0x63 :: 0x64 :: 0x20 :: path

/-- A line asks for the first of these that it can be. -/
theorem ofLine_cases (line : Bytes) :
    Leaves line ∧ ofLine line = leave ∨
      (∃ path, Moves line path ∧ ofLine line = changeDirectory (Text.trimAscii path)) ∨
        IsCommand line ∧
          ((∃ e, Command.parse line = .error e ∧ ofLine line = refused e) ∨
            ∃ t, Command.parse line = .ok t ∧ ofLine line = run t) := by
  unfold ofLine
  split
  · next hexit => exact Or.inl ⟨hexit, rfl⟩
  · next hexit =>
    refine Or.inr ?_
    cases hcd : afterCd? line with
    | some path => exact Or.inl ⟨path, ⟨hexit, afterCd?_eq_some.mp hcd⟩, rfl⟩
    | none =>
      refine Or.inr ⟨⟨hexit, fun path heq => ?_⟩, ?_⟩
      · rw [afterCd?_eq_some.mpr heq] at hcd
        cases hcd
      · cases hparse : Command.parse line with
        | error e => exact Or.inl ⟨e, rfl, rfl⟩
        | ok t => exact Or.inr ⟨t, rfl, rfl⟩

end Request

/-! ## The process of a session -/

namespace Machine.Hosts

variable {proc : Process (Task U.State)}

/-- Another directory is all that can be different after a change of the process's context that
leaves its descriptors open. -/
theorem setProcess {context : Context} (hh : m.Hosts p table directory children)
    (hp : m.processes[p]? = some proc)
    (hprocesses : m'.processes = (m.setProcess p { proc with context }).processes)
    (htable : context.descriptors = proc.context.descriptors) :
    m'.Hosts p table context.directory children := by
  obtain ⟨⟨proc₀, hp₀, hlife, htable₀, -⟩, hchildren⟩ := hh
  obtain rfl := Option.some.inj (hp.symm.trans hp₀)
  have hget (y : Pid) : m'.processes[y]? =
      if y = p then some { proc with context } else m.processes[y]? := by
    rw [hprocesses, getElem?_setProcess hp]
  refine ⟨⟨{ proc with context }, by rw [hget, if_pos rfl], hlife, htable.trans htable₀, rfl⟩,
    fun y => ?_⟩
  rw [← hchildren y, mem_childrenOf, mem_childrenOf, hget]
  by_cases hy : y = p
  · simp [hy]
  · rw [if_neg hy]

theorem reported (hh : m.Hosts p table directory children) (hreported : m.Reported m' p) :
    m'.Hosts p table directory children := by
  obtain ⟨proc, store, context, hp, rfl, htable, hdirectory, -⟩ := hreported
  obtain ⟨proc₀, hp₀, -, -, hdirectory₀⟩ := hh.process
  obtain rfl := Option.some.inj (hp.symm.trans hp₀)
  have hh' : ({ m with store }.setProcess p { proc with context }).Hosts p table
      context.directory children := hh.setProcess hp rfl htable
  rwa [hdirectory, hdirectory₀] at hh'

/-- A process that was started for a line is one more child. -/
theorem spawn (hh : m.Hosts p table directory children) (hp : m.processes[p]? = some proc)
    (child : Task U.State) :
    (m.spawn p proc child .attended).Hosts p table directory (m.processes.length :: children) := by
  obtain ⟨⟨proc₀, hp₀, -, hcontext⟩, hchildren⟩ := hh
  obtain rfl := Option.some.inj (hp.symm.trans hp₀)
  have hlt := (List.getElem?_eq_some_iff.mp hp).1
  refine ⟨⟨{ proc with life := .active .attended }, ?_, rfl, hcontext⟩, fun y => ?_⟩
  · rw [getElem?_spawn hp, if_neg (Nat.ne_of_lt hlt), if_pos rfl]
  · rw [List.mem_cons, ← hchildren y, mem_childrenOf, mem_childrenOf, getElem?_spawn hp]
    by_cases hnew : y = m.processes.length
    · simp [hnew, Nat.ne_of_gt hlt]
    · by_cases hy : y = p
      · simp [hy, Nat.ne_of_lt hlt]
      · simp [hnew, hy]

end Machine.Hosts

theorem Machine.attends_spawn {proc : Process (Task U.State)} (hp : m.processes[p]? = some proc)
    (child : Task U.State) : (m.spawn p proc child .attended).Attends p m.processes.length := by
  have hlt := (List.getElem?_eq_some_iff.mp hp).1
  refine ⟨⟨{ proc with life := .active .attended }, ?_, Or.inl rfl⟩,
    ⟨p, { proc.context with pending := [] }, .active child⟩, ?_, rfl, by simp⟩
  · rw [getElem?_spawn hp, if_neg (Nat.ne_of_lt hlt), if_pos rfl]
  · rw [getElem?_spawn hp, if_pos rfl]

namespace Session

/-! ## Lists of lines -/

/-- A session that is given its lines, in a state that is what is left of them and the last
status. -/
def listed (r : Runner U) : Batch (StateT (List Bytes × Nat) (Work (Task U.State))) Errno where
  next := fun (lines, status) => match lines with
    | [] => pure (.ok none, [], status)
    | line :: lines => pure (.ok (some line), lines, status)
  handle line := fun (lines, status) => do
    let (flow, status) ← handle r line status
    return (flow, lines, status)

/-- Handles lines until one of them ends the session; gives how it ended, the lines that were not
looked at, and the last status. -/
def handleAll (r : Runner U) (lines : List Bytes) (status : Nat) :
    Work (Task U.State) (Ending Errno × List Bytes × Nat) :=
  (listed r).run (lines.length + 1) (lines, status)

theorem handleAll_cons : handleAll r (line :: lines) status =
    handle r line status >>= fun result => match result.1 with
      | .leave => pure (.left, lines, result.2)
      | .goOn => handleAll r lines result.2 := by
  funext p m
  simp only [handleAll, listed, Batch.run, List.length_cons, bind, StateT.bind, pure]
  cases handle r line status p m with
  | finished result m₁ =>
    obtain ⟨flow, status'⟩ := result
    cases flow <;> rfl
  | ended => rfl
  | stuck => rfl

/-! ## One line -/

/-- The status for the end of the process of a line. -/
def statusOf (s : ExitStatus) : Nat :=
  match Reap.code s with
  | .ok code => code
  | .error _ => failedStatus

/-- The machine in which process `p` has started a process for a line. -/
def launched (m : Machine (Task U.State)) (p : Pid) (proc : Process (Task U.State)) (t : Command) :
    Machine (Task U.State) :=
  m.attempted.spawn p proc (.executing (.run t)) .attended

/-- A path leads a process to a directory that it may enter. -/
def Leads (r : Runner U) (m : Machine (Task U.State)) (proc : Process (Task U.State)) (path : Bytes)
    (id : NodeId) : Prop :=
  Call.enterDirectory m.store proc.context (target r.expand proc.context.environment path) =
    .done (.ok ()) m.store { proc.context with directory := id }

/-- A path leads a process nowhere, or to what is no directory, or to one that it may not enter. -/
def Bars (r : Runner U) (m : Machine (Task U.State)) (proc : Process (Task U.State))
    (path : Bytes) : Prop :=
  ∃ e, Call.enterDirectory m.store proc.context (target r.expand proc.context.environment path) =
    .done (.error e) m.store proc.context

/-- A path leads to a directory or it does not. -/
theorem leads_or_bars (r : Runner U) (m : Machine (Task U.State)) (proc : Process (Task U.State))
    (path : Bytes) : (∃ id, Leads r m proc path id) ∨ Bars r m proc path := by
  unfold Leads Bars Call.enterDirectory
  split
  · exact Or.inr ⟨_, rfl⟩
  · next id node _ =>
    split
    · exact Or.inl ⟨id, rfl⟩
    · exact Or.inr ⟨_, rfl⟩

/-- All that comes of a line is a message, and this status: there is no such directory to enter, or
the line cannot be read. -/
inductive Complains (r : Runner U) (p : Pid) (m : Machine (Task U.State)) (line : Bytes) :
    Nat → Prop
  | stayed {path : Bytes} {proc : Process (Task U.State)} (hline : Request.Moves line path)
    (hp : m.processes[p]? = some proc) (hbars : Bars r m proc (Text.trimAscii path)) :
    Complains r p m line 1
  | refused {e : SyntaxError} (hline : Request.IsCommand line)
    (hparse : Command.parse line = .error e) : Complains r p m line 2

/-- A process was started for a tree, and its end was taken. -/
inductive Ran (r : Runner U) (p : Pid) (m : Machine (Task U.State)) (t : Command) :
    ExitStatus → Machine (Task U.State) → Prop
  | intro {proc : Process (Task U.State)} {m₁ m₂ m' : Machine (Task U.State)} {s : ExitStatus}
    (hp : m.processes[p]? = some proc) (hrefusal : m.refusal? = none) (hbefore : m.Noted m₁)
    (hrun : Run (Task.dynamics U r.executor) (launched m₁ p proc t)
      (waiting r m.processes.length p (launched m₁ p proc t)) m₂)
    (hended : (awaited r m.processes.length p (launched m₁ p proc t)).endOf? m.processes.length =
      some s)
    (hreaped : m₂.reaper? m.processes.length = some p) (hafter : m₂.Noted m') : Ran r p m t s m'

/-- How the process of a session ends that has a tree to run. -/
inductive RunBreaks (r : Runner U) (p : Pid) (m : Machine (Task U.State)) (t : Command) :
    ExitStatus → Machine (Task U.State) → Prop
  /-- No process can be created. This is reported, and ends the session. -/
  | stranded {m' : Machine (Task U.State)} (hrefusal : m.refusal? ≠ none)
    (hreported : m.attempted.Reported m' p) :
    RunBreaks r p m t (.exited Control.failureCode)
      (m'.finish p (.exited Control.failureCode))
  /-- No process can be created, and this cannot be reported. -/
  | unsaid {s : ExitStatus} {m' : Machine (Task U.State)} (hrefusal : m.refusal? ≠ none)
    (hbreaks : m.attempted.Breaks p s m') : RunBreaks r p m t s m'
  /-- A signal ends the session while the tree runs. -/
  | struck {proc : Process (Task U.State)} {m₁ : Machine (Task U.State)} {signal : Nat}
    (hp : m.processes[p]? = some proc) (hrefusal : m.refusal? = none) (hbefore : m.Noted m₁)
    (hended : (awaited r m.processes.length p (launched m₁ p proc t)).endOf? p =
      some (.signaled signal)) :
    RunBreaks r p m t (.signaled signal) (awaited r m.processes.length p (launched m₁ p proc t))

/-- How a session goes on for ever with a tree, or for longer than it may take. -/
inductive RunStalls (r : Runner U) (p : Pid) (m : Machine (Task U.State)) (t : Command) : Prop
  /-- No process can be created, and there is no room for the report. -/
  | stranded (hrefusal : m.refusal? ≠ none) (hclogs : m.attempted.Clogs p)
  /-- The process of the tree has not ended by the time when it is not waited for any longer. -/
  | running {proc : Process (Task U.State)} {m₁ : Machine (Task U.State)}
    (hp : m.processes[p]? = some proc) (hrefusal : m.refusal? = none) (hbefore : m.Noted m₁)
    (hchild : (awaited r m.processes.length p (launched m₁ p proc t)).endOf? m.processes.length =
      none)
    (hself : (awaited r m.processes.length p (launched m₁ p proc t)).endOf? p = none)

/-- What a line does that does not end the session of process `p`: the directory that it enters, if
it does, and the status and the machine that it leaves. -/
inductive Serves (r : Runner U) (p : Pid) (m : Machine (Task U.State)) (line : Bytes) :
    Option NodeId → Nat → Machine (Task U.State) → Prop
  /-- Nothing but the directory is another one afterwards, the journal apart. -/
  | entered {path : Bytes} {proc : Process (Task U.State)} {id : NodeId}
    {m' : Machine (Task U.State)} (hline : Request.Moves line path)
    (hp : m.processes[p]? = some proc) (hleads : Leads r m proc (Text.trimAscii path) id)
    (hnoted : (m.setProcess p { proc with
      context := { proc.context with directory := id } }).Noted m') :
    Serves r p m line (some id) 0 m'
  | complained {status : Nat} {m' : Machine (Task U.State)} (hline : Complains r p m line status)
    (hreported : m.Reported m' p) : Serves r p m line none status m'
  | ran {t : Command} {s : ExitStatus} {m₁ m' : Machine (Task U.State)}
    (hline : Request.IsCommand line) (hparse : Command.parse line = .ok t) (hnoted : m.Noted m₁)
    (hran : Ran r p m₁ t s m') : Serves r p m line none (statusOf s) m'

/-- How the process of a session ends in the midst of a line: a message cannot be printed, or it
ends over running the line. -/
inductive Breaks (r : Runner U) (p : Pid) (m : Machine (Task U.State)) (line : Bytes) :
    ExitStatus → Machine (Task U.State) → Prop
  | unsaid {status : Nat} {s : ExitStatus} {m' : Machine (Task U.State)}
    (hline : Complains r p m line status) (hbreaks : m.Breaks p s m') : Breaks r p m line s m'
  | run {t : Command} {s : ExitStatus} {m₁ m' : Machine (Task U.State)}
    (hline : Request.IsCommand line) (hparse : Command.parse line = .ok t) (hnoted : m.Noted m₁)
    (hbreaks : RunBreaks r p m₁ t s m') : Breaks r p m line s m'

/-- How a line goes on for ever, or for longer than it may take: there is no room for a message, or
running it is not over. -/
inductive Stalls (r : Runner U) (p : Pid) (m : Machine (Task U.State)) (line : Bytes) : Prop
  | unsaid {status : Nat} (hline : Complains r p m line status) (hclogs : m.Clogs p)
  | run {t : Command} {m₁ : Machine (Task U.State)} (hline : Request.IsCommand line)
    (hparse : Command.parse line = .ok t) (hnoted : m.Noted m₁) (hstalls : RunStalls r p m₁ t)

variable {proc : Process (Task U.State)}

/-- Where a session is after it was asked to go to a directory. -/
theorem changeDirectory_ensures (r : Runner U) (path : Bytes) (hp : m.processes[p]? = some proc) :
    (changeDirectory r path p m).Ensures
      (fun status' m' =>
        (∃ id, Leads r m proc path id ∧ status' = 0 ∧ (m.setProcess p { proc with
          context := { proc.context with directory := id } }).Noted m') ∨
        Bars r m proc path ∧ status' = 1 ∧ m.Reported m' p)
      (fun s m' => Bars r m proc path ∧ m.Breaks p s m') (Bars r m proc path ∧ m.Clogs p) := by
  let destination := target r.expand proc.context.environment path
  refine Work.ensures_bind (Q := fun environment m₁ =>
    environment = proc.context.environment ∧ m = m₁)
      (Work.ensures_call (c := .environment) hp ⟨rfl, (Machine.setProcess_self hp).symm⟩) ?_
  rintro _ _ ⟨rfl, rfl⟩
  refine Work.ensures_bind (Q := fun reply m₁ =>
    (∃ id, Leads r m proc path id ∧ reply = .ok () ∧ m.setProcess p { proc with
      context := { proc.context with directory := id } } = m₁) ∨
    ∃ e, Bars r m proc path ∧ reply = .error e ∧ m = m₁)
      (Work.ensures_call (c := .changeDirectory destination) hp ?_) ?_
  · rcases leads_or_bars r m proc path with ⟨id, hleads⟩ | ⟨e, hfailed⟩
    · simp only [Call.perform]
      rw [hleads]
      exact Or.inl ⟨id, hleads, rfl, rfl⟩
    · simp only [Call.perform]
      rw [hfailed]
      exact Or.inr ⟨e, ⟨e, hfailed⟩, rfl, (Machine.setProcess_self hp).symm⟩
  · rintro reply _ (⟨id, hleads, rfl, rfl⟩ | ⟨e, hbars, rfl, rfl⟩)
    · have hmoved : (m.setProcess p { proc with context := { proc.context with
          directory := id } }).processes[p]? = some _ :=
        (Machine.getElem?_setProcess hp _ p).trans (if_pos rfl)
      refine Work.ensures_note hmoved ?_
      exact Or.inl ⟨id, hleads, rfl, Work.noted_noted _ p _ _⟩
    · refine Work.ensures_bind ((r.warn_ensures hp (cdComplaint path e)).mono (fun _ m₂ h => h)
        (fun s m₂ h => ⟨hbars, h⟩) fun h => ⟨hbars, h⟩) fun _ m₂ hreported => ?_
      exact Or.inr ⟨hbars, rfl, hreported⟩

/-- A failure of the session itself ends it. -/
theorem fail_ensures {α : Type} (r : Runner U) (e : ExecError) (hp : m.processes[p]? = some proc) :
    ((fail r e : Work (Task U.State) α) p m).Ensures (fun _ _ => False)
      (fun s m' => (∃ m₁, m.Reported m₁ p ∧ s = .exited Control.failureCode ∧
        m' = m₁.finish p (.exited Control.failureCode)) ∨ m.Breaks p s m') (m.Clogs p) := by
  have hnoted := (Work.noted_noted m p .error e.message).reported hp
  refine Work.ensures_note hp ?_
  obtain ⟨_, _, -, hp₁, -⟩ := hnoted.exists_getElem?
  refine Work.ensures_bind ((Work.print_ensures hp₁ r.executor.console (Control.complaint e)).mono
    (fun _ _ => hnoted.trans) (fun _ _ h => Or.inr (hnoted.breaks h)) hnoted.clogs) ?_
  intro _ m₁ hreported
  obtain ⟨_, proc₁, -, hp₁, -⟩ := hreported.exists_getElem?
  refine Work.ensures_note hp₁ ?_
  exact Or.inl ⟨_, hreported.trans ((Work.noted_noted m₁ p _ _).reported hp₁), rfl, rfl⟩

/-- What a session notes when the process of a tree has ended, and the status for that. -/
theorem conclude_ensures (r : Runner U) {child : Pid} (ha : m.Attends p child) :
    (conclude r child p m).Ensures
      (fun status' m' => ∃ m₁ s,
        Run (Task.dynamics U r.executor) m (waiting r child p m) m₁ ∧
        (awaited r child p m).endOf? child = some s ∧ m₁.reaper? child = some p ∧ m₁.Noted m' ∧
        status' = statusOf s ∧ ∀ table directory children, m.Hosts p table directory children →
          m'.Hosts p table directory (children.filter fun y => y ≠ child))
      (fun s m' => m' = awaited r child p m ∧ ∃ signal, s = .signaled signal ∧
        m'.endOf? p = some (.signaled signal))
      ((awaited r child p m).endOf? child = none ∧ (awaited r child p m).endOf? p = none) := by
  refine Work.ensures_bind (reap_ensures r ha) ?_
  rintro _ m₂ ⟨m₁, s, hrun, hreaped, hnoted, hended, rfl, hhosts⟩
  obtain ⟨proc, hp, -⟩ := ha.waits
  have hp₂ : ∃ proc₂, m₂.processes[p]? = some proc₂ := by
    rw [hnoted.processes]
    exact ⟨_, List.getElem?_eq_getElem (Nat.lt_of_lt_of_le
      (List.getElem?_eq_some_iff.mp hp).1 hrun.length_le)⟩
  obtain ⟨proc₂, hp₂⟩ := hp₂
  have hkeeps (level : Level) (message : Bytes) :=
    hnoted.trans (Work.noted_noted m₂ p level message)
  unfold statusOf
  cases hcode : Reap.code s with
  | ok code =>
    refine Work.ensures_note hp₂ ?_
    exact ⟨m₁, s, hrun, hended, hreaped, hkeeps _ _, by rw [hcode],
      fun table directory children hh =>
        (hhosts table directory children hh).congr (hkeeps _ _).processes⟩
  | error e =>
    refine Work.ensures_note hp₂ ?_
    exact ⟨m₁, s, hrun, hended, hreaped, hkeeps _ _, by rw [hcode],
      fun table directory children hh =>
        (hhosts table directory children hh).congr (hkeeps _ _).processes⟩

/-- When the end of the process of a tree is taken, no more children are left than before. -/
theorem hosts_of_launched {t : Command} {m₁ : Machine (Task U.State)}
    (hp : m.processes[p]? = some proc) (hh : m.Hosts p table directory children)
    (hprocesses : m₁.processes = m.processes)
    (hhosts : ∀ table directory children, (launched m₁ p proc t).Hosts p table directory children →
      m'.Hosts p table directory (children.filter fun y => y ≠ m.processes.length)) :
    m'.Hosts p table directory children := by
  have hspawn :
      (launched m₁ p proc t).Hosts p table directory (m.processes.length :: children) := by
    have hattempted : m₁.attempted.Hosts p table directory children := hh.congr hprocesses
    have hspawn := hattempted.spawn (by rw [← hp, ← hprocesses]; rfl) (.executing (.run t))
    rwa [show m₁.attempted.processes.length = m.processes.length from
      congrArg List.length hprocesses] at hspawn
  obtain ⟨hprocess, hchildren⟩ := hhosts _ _ _ hspawn
  refine ⟨hprocess, fun y => (hchildren y).trans ?_⟩
  -- The new process is the only child that is gone.
  have hnew : m.processes.length ∉ children := by
    rw [← hh.children, Machine.mem_childrenOf]
    rintro ⟨_, hx, -⟩
    exact absurd (List.getElem?_eq_some_iff.mp hx).1 (Nat.lt_irrefl _)
  have hne (hy : y ∈ children) : y ≠ m.processes.length := fun heq => hnew (heq ▸ hy)
  simp only [ne_eq, decide_not, List.mem_filter, List.mem_cons, Bool.not_eq_true',
    decide_eq_false_iff_not]
  exact ⟨fun ⟨hy, hy'⟩ => hy.resolve_left hy', fun hy => ⟨Or.inr hy, hne hy⟩⟩

/-- What becomes of a session that runs a tree. -/
theorem run_ensures (r : Runner U) (t : Command) (hp : m.processes[p]? = some proc)
    (hlife : proc.life = .active .attended) :
    (run r t p m).Ensures
      (fun status' m' => ∃ s, status' = statusOf s ∧ Ran r p m t s m' ∧
        ∀ table directory children, m.Hosts p table directory children →
          m'.Hosts p table directory children)
      (RunBreaks r p m t) (RunStalls r p m t) := by
  let m₀ := Work.noted m p .debug (runRecord t)
  refine Work.ensures_note hp ?_
  refine Work.ensures_fork (m := m₀) hp hlife (fun e hcause => ?_) fun hcreated => ?_
  · have hrefusal : m.refusal? ≠ none := by
      rw [show m.refusal? = some e from hcause]
      exact Option.some_ne_none e
    have hnoted : m.attempted.Reported m₀.attempted p := by
      obtain ⟨files, heq, hwritten⟩ := m.store.exists_note (Pid.number p) .debug (runRecord t)
      refine Machine.Noted.reported ⟨files, ?_, hwritten⟩ hp
      simp only [m₀, Work.noted, Machine.attempted, heq]
    refine (fail_ensures r (.forkFailed e) (m := m₀.attempted) hp).mono (fun _ _ => False.elim)
      ?_ fun hclogs => .stranded hrefusal (hnoted.clogs hclogs)
    rintro s m' (⟨m₁, hreported, rfl, rfl⟩ | hbreaks)
    · exact .stranded hrefusal (hnoted.trans hreported)
    · exact .unsaid hrefusal (hnoted.breaks hbreaks)
  · replace hcreated : m.refusal? = none := hcreated
    -- The record of the new process might as well have been written before it was started.
    let m₁ := Work.noted m₀ p .trace (Control.forkRecord m.processes.length)
    have hnoted : m.Noted m₁ := (Work.noted_noted m p _ _).trans (Work.noted_noted m₀ p _ _)
    have hattends : (launched m₁ p proc t).Attends p m.processes.length :=
      Machine.attends_spawn (m := m₁.attempted) hp _
    obtain ⟨_, hlaunched, -⟩ := hattends.waits
    refine Work.ensures_note (m := launched m₀ p proc t) hlaunched ?_
    refine (conclude_ensures r hattends).mono ?_ ?_ ?_
    · rintro _ m' ⟨m₂, s, hrun, hended, hreaped, hafter, rfl, hhosts⟩
      exact ⟨s, rfl, .intro hp hcreated hnoted hrun hended hreaped hafter,
        fun table directory children hh => hosts_of_launched hp hh hnoted.processes hhosts⟩
    · rintro _ _ ⟨rfl, signal, rfl, hended⟩
      exact .struck hp hcreated hnoted hended
    · rintro ⟨hchild, hself⟩
      exact .running hp hcreated hnoted hchild hself

/-- What becomes of a session that handles a line. -/
theorem handle_ensures (r : Runner U) (line : Bytes) (status : Nat)
    (hp : m.processes[p]? = some proc) (hlife : proc.life = .active .attended) :
    (handle r line status p m).Ensures
      (fun result m' =>
        Request.Leaves line ∧ result = (.leave, status) ∧ m' = m ∨
        result.1 = .goOn ∧ ∃ entered, Serves r p m line entered result.2 m' ∧
          ∀ table directory children, m.Hosts p table directory children →
            m'.Hosts p table (entered.getD directory) children)
      (Breaks r p m line) (Stalls r p m line) := by
  unfold handle
  rcases Request.ofLine_cases line with ⟨hexit, hline⟩ | ⟨path, hcd, hline⟩ |
    ⟨hcommand, ⟨e, hparse, hline⟩ | ⟨t, hparse, hline⟩⟩
  · rw [hline]
    exact Or.inl ⟨hexit, rfl, rfl⟩
  · rw [hline]
    refine Work.ensures_bind ((changeDirectory_ensures r _ hp).mono (fun _ _ h => h)
      (fun s m₁ h => .unsaid (.stayed hcd hp h.1) h.2)
      fun h => .unsaid (.stayed hcd hp h.1) h.2) ?_
    rintro _ m₁ (⟨id, hleads, rfl, hnoted⟩ | ⟨hbars, rfl, hreported⟩)
    · exact Or.inr ⟨rfl, some id, .entered hcd hp hleads hnoted,
        fun table directory children hh => hh.setProcess hp hnoted.processes rfl⟩
    · exact Or.inr ⟨rfl, none, .complained (.stayed hcd hp hbars) hreported,
        fun table directory children hh => hh.reported hreported⟩
  · rw [hline]
    have hnoted := (Work.noted_noted m p .warn (refusalRecord e line)).reported hp
    obtain ⟨_, _, -, hp₁, -⟩ := hnoted.exists_getElem?
    refine Work.ensures_note hp ?_
    refine Work.ensures_bind ((r.warn_ensures hp₁ _).mono (fun _ _ h => h)
      (fun s m₁ h => .unsaid (.refused hcommand hparse) (hnoted.breaks h))
      fun h => .unsaid (.refused hcommand hparse) (hnoted.clogs h)) ?_
    intro _ m₁ hreported
    replace hreported := hnoted.trans hreported
    exact Or.inr ⟨rfl, none, .complained (.refused hcommand hparse) hreported,
      fun table directory children hh => hh.reported hreported⟩
  · rw [hline]
    have hnoted := Work.noted_noted m p .debug (Bytes.ofString "解析结果: " ++ t.dump)
    refine Work.ensures_note hp ?_
    refine Work.ensures_bind ((run_ensures r t (m := Work.noted m p _ _) hp hlife).mono
      (fun _ _ h => h) (fun s m₁ h => .run hcommand hparse hnoted h)
      fun h => .run hcommand hparse hnoted h) ?_
    rintro _ m₁ ⟨s, rfl, hran, hhosts⟩
    exact Or.inr ⟨rfl, none, .ran hcommand hparse hnoted hran,
      fun table directory children hh =>
        hhosts table directory children (hh.congr hnoted.processes)⟩

/-! ## Sessions -/

/-- How a session goes, that has these descriptors open, is in a directory and has these children
left, and what becomes of it. It ends with the first line that is `exit`, and the lines after it are
left. -/
inductive Course (r : Runner U) (p : Pid) (table : DescriptorTable) (children : List Pid) :
    NodeId → Machine (Task U.State) → Nat → List Bytes →
      Progress (Task U.State) (Ending Errno × List Bytes × Nat) → Prop
  | over (directory : NodeId) (m : Machine (Task U.State)) (status : Nat) :
    Course r p table children directory m status [] (.finished (.endOfInput, [], status) m)
  | left (directory : NodeId) (m : Machine (Task U.State)) (status : Nat) {line : Bytes}
    (hexit : Request.Leaves line) (lines : List Bytes) :
    Course r p table children directory m status (line :: lines)
      (.finished (.left, lines, status) m)
  /-- The session is as it was after the line, in the directory that the line has entered if it
  has. -/
  | line {directory : NodeId} {m m' : Machine (Task U.State)} {status status' : Nat} {line : Bytes}
    {lines : List Bytes} {entered : Option NodeId}
    {outcome : Progress (Task U.State) (Ending Errno × List Bytes × Nat)}
    (hline : Serves r p m line entered status' m')
    (hhosts : m'.Hosts p table (entered.getD directory) children)
    (hlines : Course r p table children (entered.getD directory) m' status' lines outcome) :
    Course r p table children directory m status (line :: lines) outcome
  /-- The lines after a line in which the session has ended are not looked at. -/
  | broken {directory : NodeId} {m m' : Machine (Task U.State)} {status : Nat} {s : ExitStatus}
    {line : Bytes} (hline : Breaks r p m line s m') (lines : List Bytes) :
    Course r p table children directory m status (line :: lines) (.ended s m')
  | stalled {directory : NodeId} {m : Machine (Task U.State)} {status : Nat} {line : Bytes}
    (hline : Stalls r p m line) (lines : List Bytes) :
    Course r p table children directory m status (line :: lines) .stuck

end Session

/-- A session with one program among its files. -/
def Machine.equipped (U : Userland) : Machine (Task U.State) :=
  ⟨⟨⟨[.directory 0o755 0 [([0x61], 1)], .program 0o755 [0x61]]⟩, [], [], [], .silent, 0⟩,
    [⟨0, .bare, .active .attended⟩], []⟩

end PipeShell
