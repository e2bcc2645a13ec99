import PipeShell.Proofs.Executor.Launches
import PipeShell.Proofs.Machine.Targets

/-!
# Attempts to open files

The redirections around a program are opened from the outermost, which stands last in the line, to
the innermost. The `attempts` of a process to open their files are read off the history, as its
answers are, each with the store before and after it.

`Attempt.Effect` is what came of an attempt: it failed without a trace, or the file is open and has
been emptied or made if it was opened for writing. Nothing else that a process does before it
becomes a program changes a file, apart from the records in the journal and the report of a failure
(`Control.files_step`).
-/

namespace PipeShell

/-- An attempt to open the file of a redirection. -/
structure Attempt where
  redirection : Redirection
  before : Store
  /-- The process that has made the attempt. -/
  context : Context
  /-- What was opened. -/
  result : Option Descriptor
  after : Store

variable {U : Userland} {ex : Executor} {m₀ m m' : Machine (Task U.State)}
  {h : Past (Task U.State)} {mv : Move} {p x : Pid} {proc proc' : Process (Task U.State)}
  {c c' : Control} {w : Wiring} {a : Attempt}

/-! ## Attempts of a run -/

section

variable {σ : Type}

/-- The attempt that a step in a control state makes. A process that waits at a named pipe has made
it already. -/
def Control.attempt? (ex : Executor) (m : Machine (Task σ)) (context : Context) :
    Control → Option Attempt
  | run (.redirect _ file direction) =>
    if context.opening.isSome then none
    else match m.store.openFile context m.held file direction.flags ex.redirectMode with
      | .done (.error _) after _ => some ⟨⟨file, direction⟩, m.store, context, none, after⟩
      | .done (.ok _) after context' | .underway after context' =>
        some ⟨⟨file, direction⟩, m.store, context,
          context'.descriptors.get context.descriptors.lowestFree, after⟩
      | _ => none
  | _ => none

/-- The attempt that a move of process `x` makes. -/
def Machine.attempt? (ex : Executor) (m : Machine (Task σ)) (mv : Move) (x : Pid) :
    Option Attempt :=
  match m.active? x with
  | some (proc, .executing c) => if mv = .step x then c.attempt? ex m proc.context else none
  | _ => none

/-- The attempts of a process in a history, first to last. -/
def attempts (ex : Executor) : Past (Task σ) → Pid → List Attempt
  | [], _ => []
  | (m, mv) :: h, x => attempts ex h x ++ (m.attempt? ex mv x).toList

end

theorem attempts_step (hp : m.processes[p]? = some proc)
    (hlife : proc.life = .active (.executing c)) :
    attempts ex ((m, .step p) :: h) p =
      attempts ex h p ++ (c.attempt? ex m proc.context).toList := by
  simp [attempts, Machine.attempt?, Machine.active?_eq_some.mpr ⟨hp, hlife⟩]

theorem attempt?_eq_some (ha : m.attempt? ex mv x = some a) :
    ∃ proc c, mv = .step x ∧ m.processes[x]? = some proc ∧ proc.life = .active (.executing c) ∧
      c.attempt? ex m proc.context = some a := by
  unfold Machine.attempt? at ha
  split at ha
  · next proc c hactive =>
    obtain ⟨hx, hlife⟩ := Machine.active?_eq_some.mp hactive
    split at ha
    · next hmv => exact ⟨proc, c, hmv, hx, hlife, ha⟩
    · cases ha
  · cases ha

theorem mem_attempts :
    a ∈ attempts ex h x ↔ ∃ r ∈ h, r.1.attempt? ex r.2 x = some a := by
  induction h with
  | nil => simp [attempts]
  | cons r h ih =>
    rw [attempts, List.mem_append, ih, Option.mem_toList, List.exists_mem_cons_iff]
    exact or_comm

/-- Nobody makes an attempt by what others do. -/
theorem attempts_of_ne (hmv : mv ≠ .step x) :
    attempts ex ((m, mv) :: h) x = attempts ex h x := by
  rw [attempts]
  cases ha : m.attempt? ex mv x with
  | none => exact List.append_nil _
  | some a =>
    obtain ⟨_, _, heq, -⟩ := attempt?_eq_some ha
    exact absurd heq hmv

theorem attempt?_of_le (hx : m.processes.length ≤ x) : m.attempt? ex mv x = none := by
  cases ha : m.attempt? ex mv x with
  | none => rfl
  | some a =>
    obtain ⟨_, _, -, hp, -⟩ := attempt?_eq_some ha
    exact absurd (List.getElem?_eq_some_iff.mp hp).1 (Nat.not_lt_of_le hx)

/-- Who is not there has made no attempt. -/
theorem attempts_of_le (hrun : Run (Task.dynamics U ex) m₀ h m)
    (hx : m.processes.length ≤ x) : attempts ex h x = [] := by
  induction hrun with
  | start => rfl
  | @move h m m' hrun mv hm ih =>
    have hle := Nat.le_trans (Machine.length_le_of_make? hm) hx
    rw [attempts, ih hle, attempt?_of_le hle]
    rfl

/-- Who is started by a move has made no attempt. -/
theorem attempts_cons_of_le (hrun : Run (Task.dynamics U ex) m₀ h m)
    (hx : m.processes.length ≤ x) (mv : Move) : attempts ex ((m, mv) :: h) x = [] := by
  rw [attempts, attempts_of_le hrun hx, attempt?_of_le hx]
  rfl

/-! ## What comes of an attempt -/

/-- How the files change when the file of a redirection is opened. The path leads to `target`
then. -/
def Direction.Changes (direction : Direction) (ex : Executor) (s : Store) (context : Context)
    (file : Bytes) (files : FileSystem) (target : Object) : Prop :=
  match direction with
  | .input => s.files.resolve (s.view context) file = .ok target ∧ files = s.files
  | .output =>
    s.files.Rewrites (s.view context) file (ex.redirectMode.masked context.umask) files target ∧
      files.resolve (s.view context) file = .ok target

/-- What came of an attempt. -/
inductive Attempt.Effect (ex : Executor) (a : Attempt) : Prop
  | failed (hresult : a.result = none) (hafter : a.after = a.before)
  | opened {d : Descriptor} {target : Object} (hresult : a.result = some d)
    (hchanges : a.redirection.direction.Changes ex a.before a.context a.redirection.file
      a.after.files target)
    (hobject : a.after.objectOf? d =
      some (Store.reopened a.after.files a.redirection.direction.flags target))

theorem Direction.changes_of_openPath {direction : Direction} {s : Store} {context : Context}
    {file : Bytes} {o : Store.Opened}
    (h : s.openPath context file direction.flags ex.redirectMode = .ok o) :
    ∃ target, direction.Changes ex s context file o.files target ∧
      o.object = Store.reopened o.files direction.flags target := by
  cases direction with
  | input =>
    obtain ⟨target, hpath, hfiles, hobject, -⟩ := Store.openPath_reading_ok h
    exact ⟨target, ⟨hpath, hfiles⟩, hfiles ▸ hobject⟩
  | output =>
    obtain ⟨target, hrewrites, hpath, hobject⟩ := Store.openPath_writing_ok h
    exact ⟨target, ⟨hrewrites, hpath⟩, hobject⟩

/-- How an attempt of a process that runs a redirection comes about: opening the file fails, or a
description is installed, and the process may have to wait for a partner then. -/
inductive Control.Attempts (ex : Executor) (m : Machine (Task U.State)) (context : Context)
    (file : Bytes) (direction : Direction) : Attempt → Prop
  | failed {e : Errno}
    (hopen : m.store.openFile context m.held file direction.flags ex.redirectMode =
      .done (.error e) m.store context) :
    Attempts ex m context file direction ⟨⟨file, direction⟩, m.store, context, none, m.store⟩
  | opened {o : Store.Opened} {after : Store}
    (hpath : m.store.openPath context file direction.flags ex.redirectMode = .ok o)
    (hfiles : after.files = o.files)
    (hdescriptions : after.descriptions = m.store.descriptions ++
      [⟨o.object, direction.flags.read, direction.flags.write, direction.flags.append, 0⟩])
    (hopen : m.store.openFile context m.held file direction.flags ex.redirectMode =
        .done (.ok context.descriptors.lowestFree) after
          (m.store.taking context direction.flags.closeOnExec) ∨
      ∃ opening : Opening, m.store.openFile context m.held file direction.flags ex.redirectMode =
        .underway after { m.store.taking context direction.flags.closeOnExec with
          opening := some opening }) :
    Attempts ex m context file direction ⟨⟨file, direction⟩, m.store, context,
      some ⟨m.store.descriptions.length, direction.flags.closeOnExec⟩, after⟩

theorem Control.attempts_of_attempt? {context : Context}
    (ha : c.attempt? ex m context = some a) :
    context.opening = none ∧ ∃ t file direction, c = .run (.redirect t file direction) ∧
      Attempts ex m context file direction a := by
  unfold attempt? at ha
  split at ha
  · next t file direction =>
    cases hopening : context.opening with
    | some o => simp [hopening] at ha
    | none =>
      simp only [hopening, Option.isSome_none, Bool.false_eq_true, if_false] at ha
      refine ⟨rfl, t, file, direction, rfl, ?_⟩
      rcases Store.openFile_opens hopening m.held file direction.flags ex.redirectMode with
        ⟨e, hopen⟩ | ⟨o, s', hpath, -, hfiles, hdescriptions, -, hopen⟩
      · rw [hopen] at ha
        cases ha
        exact .failed hopen
      · have hattempt : (⟨⟨file, direction⟩, m.store, context,
            some ⟨m.store.descriptions.length, direction.flags.closeOnExec⟩, s'⟩ : Attempt) =
              a := by
          rcases hopen with hopen | ⟨opening, -, hopen⟩ <;>
            simpa [hopen, Store.taking, DescriptorTable.get_set] using ha
        rw [← hattempt]
        refine .opened hpath hfiles hdescriptions (hopen.imp_right ?_)
        rintro ⟨opening, -, hopen⟩
        exact ⟨opening, hopen⟩
  · cases ha

/-- Every attempt fails without a trace or has opened what its path leads to then. -/
theorem Control.Attempts.effect {context : Context} {file : Bytes} {direction : Direction}
    (ha : Attempts ex m context file direction a) : a.Effect ex := by
  cases ha with
  | failed => exact .failed rfl rfl
  | opened hpath hfiles hdescriptions =>
    obtain ⟨target, hchanges, hobject⟩ := Direction.changes_of_openPath hpath
    rw [← hfiles] at hchanges hobject
    refine .opened rfl hchanges ?_
    simp [Store.objectOf?, hdescriptions, hobject]

/-- What could not be opened is answered at once. -/
theorem Control.answers_of_failed {context : Context} (ha : c.attempt? ex m context = some a)
    (hfailed : a.result = none) :
    c.answers ex m context = [.opened a.redirection.file false] := by
  obtain ⟨-, t, file, direction, rfl, hattempts⟩ := attempts_of_attempt? ha
  cases hattempts with
  | failed hopen => simp only [answers, hopen]
  | opened => cases hfailed

theorem Control.failed_of_answers {context : Context} {file : Bytes}
    (hf : .opened file false ∈ c.answers ex m context) :
    ∃ a, c.attempt? ex m context = some a ∧ a.result = none := by
  have placed (fd target : Fd) : .opened file false ∉ Control.placed fd target := by
    unfold Control.placed
    split <;> simp
  cases c with
  | run t =>
    cases t with
    | redirect t file' direction =>
      simp only [answers] at hf
      cases hopening : context.opening with
      | some o =>
        rcases Store.openFile_opening hopening m.held file' direction.flags ex.redirectMode with
          hopen | hopen
        · rw [hopen] at hf
          simp [placed] at hf
        · rw [hopen] at hf
          cases hf
      | none =>
        simp only [attempt?, hopening, Option.isSome_none, Bool.false_eq_true, if_false]
        split at hf
        · simp [placed] at hf
        · next hopen =>
          rw [hopen]
          exact ⟨_, rfl, rfl⟩
        · cases hf
    | exec => cases hf
    | pipe =>
      simp only [answers] at hf
      split at hf
      · simp at hf
      · cases hf
  | printing pieces =>
    rcases pieces with _ | ⟨_ | _, _⟩
    · simp [answers] at hf
    · cases hf
    · simp only [answers] at hf
      split at hf
      · split at hf <;> simp at hf
      · cases hf
  | forkLeft | forkRight =>
    simp only [answers] at hf
    split at hf <;> simp at hf
  | bind =>
    simp only [answers] at hf
    split at hf
    · simp at hf
    · cases hf
  | leave => exact absurd hf (placed _ _)
  | launch => simp [answers] at hf
  | _ => cases hf

/-- A failed attempt is among the answers to the process. -/
theorem answered_of_failed (ha : a ∈ attempts ex h x) (hfailed : a.result = none) :
    .opened a.redirection.file false ∈ answers ex h x := by
  induction h with
  | nil => cases ha
  | cons r h ih =>
    obtain ⟨m, mv⟩ := r
    rw [attempts] at ha
    rcases List.mem_append.mp ha with ha | ha
    · exact List.mem_append_left _ (ih ha)
    · obtain ⟨proc, c, rfl, hx, hlife, ha⟩ := attempt?_eq_some (Option.mem_toList.mp ha)
      rw [answers_step hx hlife, Control.answers_of_failed ha hfailed]
      exact List.mem_append_right _ (.head _)

/-- A file that could not be opened was the file of a failed attempt. -/
theorem failed_of_answered {file : Bytes} (hf : .opened file false ∈ answers ex h x) :
    ∃ a ∈ attempts ex h x, a.result = none := by
  induction h with
  | nil => cases hf
  | cons r h ih =>
    obtain ⟨m, mv⟩ := r
    have before (hf : .opened file false ∈ answers ex h x) :
        ∃ a ∈ attempts ex ((m, mv) :: h) x, a.result = none := by
      obtain ⟨a, ha, hfailed⟩ := ih hf
      exact ⟨a, List.mem_append_left _ ha, hfailed⟩
    by_cases hx : mv = .step x ∧ ∃ proc c, m.processes[x]? = some proc ∧
        proc.life = .active (.executing c)
    · obtain ⟨rfl, proc, c, hx, hlife⟩ := hx
      rw [answers_step hx hlife] at hf
      rcases List.mem_append.mp hf with hf | hf
      · exact before hf
      · obtain ⟨a, ha, hfailed⟩ := Control.failed_of_answers hf
        rw [attempts_step hx hlife]
        exact ⟨a, List.mem_append_right _ (Option.mem_toList.mpr ha), hfailed⟩
    · rw [answers_of_idle hx] at hf
      exact before hf

/-! ## Other steps -/

/-- Whether a call is about descriptors only. -/
def Call.sparesFiles : Call → Bool
  | makePipe | close _ | duplicate .. => true
  | _ => false

/-- A call has not changed the files. -/
def Outcome.SparesFiles {ρ : Type} (s : Store) : Outcome ρ → Prop
  | .done _ s' _ | .underway s' _ => s'.files = s.files
  | .blocked | .killed _ => True

theorem Machine.Acts.files_eq {call : Call} {next : call.Reply → Task U.State} {store : Store}
    (hacts : Acts (Task.dynamics U ex) m p proc (.call call next) proc' store)
    (hcall : call.sparesFiles) : store.files = m.store.files := by
  have hspared : (call.perform m.store proc.context m.held (Pid.number p)
      (m.parentNumber proc)).SparesFiles m.store := by
    cases call with
    | makePipe =>
      rcases Store.makePipe_cases m.store proc.context with ⟨e, h⟩ |
        ⟨s', r, w, -, -, -, -, -, hfiles, -, -, h⟩
      · rw [Call.perform, h]
        rfl
      · rw [Call.perform, h]
        exact hfiles
    | close =>
      simp only [Call.perform, Store.close]
      split <;> exact rfl
    | duplicate =>
      simp only [Call.perform, Store.duplicate]
      repeat' split
      all_goals exact rfl
    | _ => cases hcall
  cases hacts with
  | done hc | underway hc =>
    rw [hc] at hspared
    exact hspared
  | killed => rfl

/-- Whether a process reports on standard error that something failed. -/
def Control.isReporting : Control → Bool
  | printing _ | alarm _ => true
  | _ => false

/-- What a process does until it becomes a program changes no file, unless it is an attempt to open
one, a record in the journal or the report of a failure. -/
theorem Control.files_step (hm : m.make? (Task.dynamics U ex) (.step p) = some m')
    (hp : m.processes[p]? = some proc) (hlife : proc.life = .active (.executing c)) :
    (∃ a, c.attempt? ex m proc.context = some a ∧ m'.store = a.after) ∨
      m'.store.files = m.store.files ∨
      (∃ level message, m'.store = m.store.note (Pid.number p) level message) ∨
        c.isReporting := by
  obtain ⟨proc', hp', hacts⟩ := Machine.acts_of_step hm hp hlife
  generalize m'.store = store at hacts
  have of_call {call : Call} {next : call.Reply → Control} (hcall : call.sparesFiles)
      (ha : c.action ex = .call call next) : store.files = m.store.files := by
    replace hacts : Machine.Acts _ m p proc ((c.action ex).map .executing) proc' store := hacts
    rw [ha] at hacts
    exact hacts.files_eq hcall
  cases c with
  | run t =>
    cases t with
    | exec =>
      cases hacts
      exact Or.inr (Or.inl rfl)
    | pipe => exact Or.inr (Or.inl (of_call rfl rfl))
    | redirect t file direction =>
      replace hacts : Machine.Acts _ m p proc
        (.call (.openFile file direction.flags ex.redirectMode) fun reply =>
          .executing (afterOpen t file direction reply)) proc' store := hacts
      cases hopening : proc.context.opening with
      | none =>
        left
        simp only [attempt?, hopening, Option.isSome_none, Bool.false_eq_true, if_false]
        rcases Store.openFile_opens hopening m.held file direction.flags ex.redirectMode with
          ⟨e, hopen⟩ | ⟨o, s', -, -, -, -, -, hopen | ⟨opening, -, hopen⟩⟩
        · rw [hopen]
          exact ⟨_, rfl, (hacts.of_done hopen).1⟩
        · rw [hopen]
          exact ⟨_, rfl, (hacts.of_done hopen).1⟩
        · rw [hopen]
          exact ⟨_, rfl, (hacts.of_underway hopen).1⟩
      | some o =>
        right
        left
        rcases Store.openFile_opening hopening m.held file direction.flags ex.redirectMode with
          hopen | hopen
        · rw [(hacts.of_done hopen).1]
        · cases hacts with
          | done hc | underway hc => cases hopen.symm.trans hc
          | killed => rfl
  | noting level message next =>
    replace hacts : Machine.Acts _ m p proc (.call (.note level message) fun _ =>
      .executing next) proc' store := hacts
    exact Or.inr (Or.inr (Or.inl ⟨level, message, (hacts.of_done rfl).1⟩))
  | bind | release | leave => exact Or.inr (Or.inl (of_call rfl rfl))
  | printing | alarm => exact Or.inr (Or.inr (Or.inr rfl))
  | closeEnds ends =>
    cases ends with
    | nil =>
      cases hacts
      exact Or.inr (Or.inl rfl)
    | cons => exact Or.inr (Or.inl (of_call rfl rfl))
  | _ =>
    cases hacts <;> exact Or.inr (Or.inl rfl)

theorem Control.store_of_attempt? (hm : m.make? (Task.dynamics U ex) (.step p) = some m')
    (hp : m.processes[p]? = some proc) (hlife : proc.life = .active (.executing c))
    (ha : c.attempt? ex m proc.context = some a) : m'.store = a.after := by
  obtain ⟨proc', hp', hacts⟩ := Machine.acts_of_step hm hp hlife
  obtain ⟨-, t, file, direction, rfl, hattempts⟩ := attempts_of_attempt? ha
  replace hacts : Machine.Acts _ m p proc (.call (.openFile file direction.flags ex.redirectMode)
    fun reply => .executing (afterOpen t file direction reply)) proc' m'.store := hacts
  cases hattempts with
  | failed hopen => exact (hacts.of_done hopen).1
  | opened _ _ _ hopen =>
    rcases hopen with hopen | ⟨opening, hopen⟩
    · exact (hacts.of_done hopen).1
    · exact (hacts.of_underway hopen).1

end PipeShell
