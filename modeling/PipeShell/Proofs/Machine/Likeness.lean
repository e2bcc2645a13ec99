import PipeShell.Proofs.Machine.Discretion
import PipeShell.Proofs.Machine.Runs

/-!
# Machines that are seen alike

Two machines are `Veil.Alike` if the same is seen of them: they may differ in how far standard input
was read, in what the outputs hold, and in open files that nobody has open any more.
What a process does then depends on what is seen only, as long as its step is discreet
(`Streams.steps`): the step is made in both machines or in neither, and they stay alike
(`Veil.Alike.step`).
-/

namespace PipeShell

/-! ## Discreet steps -/

namespace Streams

/-- Whether an action neither looks at what cannot be seen nor changes what is to be read. Programs
are not started as long as an output could be one. -/
def permits {κ : Type} (st : Streams) (s : Store) (c : Context) : Action κ → Bool
  | .call call _ => st.isDiscreet s c call
  | .exec .. | .execFile .. => s.files.isInert st.outputs
  | _ => true

/-- Whether the next step of a process is discreet. -/
def steps {κ : Type} (st : Streams) (d : Dynamics κ) (m : Machine κ) (p : Pid) : Bool :=
  match m.active? p with
  | some (proc, state) => st.permits m.store proc.context (d.action state)
  | none => true

end Streams

namespace Veil

variable {κ : Type} {v : Veil} {m m' n n' : Machine κ} {p : Pid} {proc proc' : Process κ}

/-! ## Machines -/

/-- What is seen of a process. -/
def process (v : Veil) (proc : Process κ) : Process κ :=
  { proc with context := v.context proc.context }

/-- Of two machines the same is seen; the second one has more descriptions. -/
structure Alike (v : Veil) (m m' : Machine κ) : Prop where
  fits : v.Fits m.store
  store : v.bare.store m'.store = v.store m.store
  processes : m'.processes.map v.bare.process = m.processes.map v.process
  refusals : m'.refusals = m.refusals

theorem Alike.fits_bare (h : v.Alike m m') : v.bare.Fits m'.store where
  input := h.fits.input
  place := by
    have hplace := place_le_store (v := v) (s := m.store) h.fits.place
    rwa [← h.store, Veil.store, List.length_mapIdx, placed_bare] at hplace
  outputs := by
    intro id hid
    have hlt := h.fits.outputs id hid
    rwa [← FileSystem.length_nodes_blanked _ v.outputs, ← files_store, ← h.store, files_store,
      FileSystem.length_nodes_blanked] at hlt

theorem Alike.files (h : v.Alike m m') :
    m'.store.files.blanked v.outputs = m.store.files.blanked v.outputs :=
  congrArg Store.files h.store

theorem Alike.isInert (h : v.Alike m m') :
    m'.store.files.isInert v.outputs = m.store.files.isInert v.outputs := by
  rw [← FileSystem.isInert_blanked, h.files, FileSystem.isInert_blanked]

theorem Alike.length (h : v.Alike m m') : m'.processes.length = m.processes.length := by
  simpa using congrArg List.length h.processes

theorem Alike.getElem? (h : v.Alike m m') (p : Pid) :
    (m'.processes[p]?).map v.bare.process = (m.processes[p]?).map v.process := by
  simpa using congrArg (fun l => l[p]?) h.processes

/-- A process has a counterpart. -/
theorem Alike.exists_process (h : v.Alike m m') (hp : m.processes[p]? = some proc) :
    ∃ proc', m'.processes[p]? = some proc' ∧ v.bare.process proc' = v.process proc := by
  have hget := h.getElem? p
  rw [hp, Option.map_some] at hget
  exact Option.map_eq_some_iff.mp hget

theorem Alike.eq_none (h : v.Alike m m') (hp : m.processes[p]? = none) :
    m'.processes[p]? = none := by
  have hget := h.getElem? p
  rw [hp, Option.map_none] at hget
  exact Option.map_eq_none_iff.mp hget

theorem process_eq (h : v.bare.process proc' = v.process proc) :
    proc'.parent = proc.parent ∧ v.bare.context proc'.context = v.context proc.context ∧
      proc'.life = proc.life := by
  simpa only [process, Process.mk.injEq] using h

/-- What is open in a process. -/
theorem holds_store (hplace : v.place ≤ m.store.descriptions.length) (object : Object) :
    Machine.Holds (v.store m.store) (v.process proc) object =
      Machine.Holds m.store proc object := by
  simp only [Machine.Holds, process, context, DescriptorTable.held_seen, List.any_map]
  congr 1
  funext id
  simp only [Function.comp_apply, store, List.getElem?_mapIdx, getElem?_placed hplace]
  cases m.store.descriptions[id]? with
  | none => rfl
  | some d => simp only [Option.map_some, Streams.object_description]

theorem Alike.held (h : v.Alike m m') : m'.held = m.held := by
  funext object
  have hseen (v : Veil) (m : Machine κ) (hplace : v.place ≤ m.store.descriptions.length) :
      (m.processes.map v.process).any (Machine.Holds (v.store m.store) · object) =
        m.held object := by
    simp only [Machine.held, List.any_map]
    congr 1
    funext proc
    exact holds_store hplace object
  rw [← hseen v m h.fits.place, ← hseen v.bare m' h.fits_bare.place, h.store, h.processes]

theorem Alike.active? (h : v.Alike m m') {state : κ} (hp : m.active? p = some (proc, state)) :
    ∃ proc', m'.active? p = some (proc', state) ∧ v.bare.process proc' = v.process proc := by
  obtain ⟨hp, hlife⟩ := Machine.active?_eq_some.mp hp
  obtain ⟨proc', hp', hproc⟩ := h.exists_process hp
  exact ⟨proc', Machine.active?_eq_some.mpr ⟨hp', (process_eq hproc).2.2.trans hlife⟩, hproc⟩

theorem Alike.active?_eq_none (h : v.Alike m m') (hp : m.active? p = none) :
    m'.active? p = none := by
  refine Option.eq_none_iff_forall_ne_some.mpr ?_
  rintro ⟨proc', state⟩ hactive'
  obtain ⟨hp', hlife'⟩ := Machine.active?_eq_some.mp hactive'
  cases hproc : m.processes[p]? with
  | none => simp [h.eq_none hproc] at hp'
  | some proc =>
    obtain ⟨proc'', hp'', heq⟩ := h.exists_process hproc
    obtain rfl := Option.some.inj (hp'.symm.trans hp'')
    have hactive := Machine.active?_eq_some.mpr ⟨hproc, (process_eq heq).2.2.symm.trans hlife'⟩
    simp [hp] at hactive

theorem Alike.parentNumber (h : v.Alike m m') (hproc : v.bare.process proc' = v.process proc) :
    m'.parentNumber proc' = m.parentNumber proc := by
  unfold Machine.parentNumber
  rw [(process_eq hproc).1]
  cases hparent : m.processes[proc.parent]? with
  | none => rw [h.eq_none hparent]
  | some parent =>
    obtain ⟨parent', hparent', heq⟩ := h.exists_process hparent
    obtain ⟨_, _, life⟩ := parent
    obtain ⟨_, _, life'⟩ := parent'
    obtain rfl : life' = life := (process_eq heq).2.2
    rw [hparent']
    cases life' <;> rfl

/-! ## Changes -/

/-- Where the same is seen, the same is done to a process. -/
theorem Alike.setProcess (h : v.Alike m m') {s s' : Store} (hfits : v.Fits s)
    (hs : v.bare.store s' = v.store s) (p : Pid) (hproc : v.bare.process proc' = v.process proc) :
    v.Alike ({ m with store := s }.setProcess p proc)
      ({ m' with store := s' }.setProcess p proc') where
  fits := hfits
  store := hs
  processes := by
    simp only [Machine.setProcess, List.map_set, h.processes, hproc]
  refusals := h.refusals

theorem Alike.setProcess_same (h : v.Alike m m') (p : Pid)
    (hproc : v.bare.process proc' = v.process proc) :
    v.Alike (m.setProcess p proc) (m'.setProcess p proc') :=
  h.setProcess h.fits h.store p hproc

theorem process_life (h : v.bare.process proc' = v.process proc) (life : Life κ) :
    v.bare.process { proc' with life } = v.process { proc with life } := by
  obtain ⟨hparent, hcontext, -⟩ := process_eq h
  simp only [process, hparent, hcontext]

theorem process_context (h : v.bare.process proc' = v.process proc) {c c' : Context}
    (hc : v.bare.context c' = v.context c) :
    v.bare.process { proc' with context := c' } = v.process { proc with context := c } := by
  obtain ⟨hparent, -, hlife⟩ := process_eq h
  simp only [process, hparent, hc, hlife]

/-- What belongs to two processes of which the same is seen. -/
structure SameContext (v : Veil) (c c' : Context) : Prop where
  descriptors : c'.descriptors.seen v.bare.entry = c.descriptors.seen v.entry
  limit : c'.limit = c.limit
  directory : c'.directory = c.directory
  umask : c'.umask = c.umask
  environment : c'.environment = c.environment
  dispositions : c'.dispositions = c.dispositions
  pending : c'.pending = c.pending
  opening : c'.opening = c.opening
  wakes : c'.wakes = c.wakes

theorem sameContext_iff {c c' : Context} :
    v.SameContext c c' ↔ v.bare.context c' = v.context c := by
  simp only [context, Context.mk.injEq]
  constructor
  · rintro ⟨h1, h2, h3, h4, h5, h6, h7, h8, h9⟩
    exact ⟨h1, h2, h3, h4, h5, h6, h7, h8, h9⟩
  · rintro ⟨h1, h2, h3, h4, h5, h6, h7, h8, h9⟩
    exact ⟨h1, h2, h3, h4, h5, h6, h7, h8, h9⟩

theorem sameContext (h : v.bare.process proc' = v.process proc) :
    v.SameContext proc.context proc'.context :=
  sameContext_iff.mpr (process_eq h).2.1

theorem process_finished (h : v.bare.process proc' = v.process proc) (status : ExitStatus) :
    v.bare.process (proc'.finished status) = v.process (proc.finished status) := by
  obtain ⟨hparent, -, -⟩ := process_eq h
  have hc := sameContext h
  have hcontext : v.bare.context (proc'.finished status).context =
      v.context (proc.finished status).context := sameContext_iff.mp { hc with descriptors := rfl }
  simp only [process, hcontext]
  simp only [Process.finished, hparent]

theorem process_told (h : v.bare.process proc' = v.process proc) (signal : Nat) :
    v.bare.process (proc'.told signal) = v.process (proc.told signal) := by
  have hc := sameContext h
  exact process_context h (sameContext_iff.mp
    { hc with pending := congrArg (· ++ [signal]) hc.pending })

theorem context_onExec {c c' : Context} (h : v.bare.context c' = v.context c) :
    v.bare.context c'.onExec = v.context c.onExec := by
  have hc := sameContext_iff.mpr h
  have htable : c'.descriptors.onExec.seen v.bare.entry = c.descriptors.onExec.seen v.entry := by
    refine DescriptorTable.seen_eq_seen fun fd => ?_
    have hget := congrArg (fun t => t.get fd) hc.descriptors
    simp only [DescriptorTable.get_seen] at hget
    rw [DescriptorTable.get_onExec, DescriptorTable.get_onExec]
    cases hd' : c'.descriptors.get fd with
    | none =>
      rw [hd'] at hget
      rw [Option.map_eq_none_iff.mp hget.symm]
      rfl
    | some d' =>
      rw [hd'] at hget
      obtain ⟨d, hd, heq⟩ := Option.map_eq_some_iff.mp hget.symm
      have hclose : d.closeOnExec = d'.closeOnExec  := (Descriptor.mk.inj heq).2
      rw [hd]
      cases hkept : d'.closeOnExec <;> simp [Option.filter, hclose, hkept, heq]
  exact sameContext_iff.mp
    { hc with
      descriptors := htable
      dispositions := congrArg (List.filter _) hc.dispositions
      pending := rfl }

theorem Alike.finish (h : v.Alike m m') (p : Pid) (status : ExitStatus) :
    v.Alike (m.finish p status) (m'.finish p status) := by
  cases hp : m.processes[p]? with
  | none =>
    simp only [Machine.finish, hp, h.eq_none hp]
    exact h
  | some proc =>
    obtain ⟨proc', hp', hproc⟩ := h.exists_process hp
    rw [Machine.finish_eq hp, Machine.finish_eq hp']
    exact h.setProcess_same p (process_finished hproc status)

theorem Alike.resume (h : v.Alike m m') (p : Pid) (next : κ) :
    v.Alike (m.resume p next) (m'.resume p next) := by
  cases hp : m.processes[p]? with
  | none =>
    simp only [Machine.resume, hp, h.eq_none hp]
    exact h
  | some proc =>
    obtain ⟨proc', hp', hproc⟩ := h.exists_process hp
    by_cases hlife : ∃ state, proc.life = .active state
    · obtain ⟨state, hlife⟩ := hlife
      rw [Machine.resume_eq hp hlife, Machine.resume_eq hp' ((process_eq hproc).2.2.trans hlife)]
      exact h.setProcess_same p (process_life hproc _)
    · rw [not_exists] at hlife
      rw [Machine.resume_of_ended hp hlife,
        Machine.resume_of_ended hp' fun state => (process_eq hproc).2.2 ▸ hlife state]
      exact h

theorem Alike.spawn (h : v.Alike m m') (p : Pid) (hproc : v.bare.process proc' = v.process proc)
    (child next : κ) : v.Alike (m.spawn p proc child next) (m'.spawn p proc' child next) := by
  have hnext := h.setProcess_same p (process_life hproc (.active next))
  have hborn : v.bare.context { proc'.context with pending := [] } =
      v.context { proc.context with pending := [] } :=
    sameContext_iff.mp { sameContext hproc with pending := rfl }
  refine ⟨hnext.fits, hnext.store, ?_, hnext.refusals⟩
  simp only [Machine.spawn, List.map_append, hnext.processes, List.map_cons, List.map_nil, process,
    hborn]

theorem Alike.refusal? (h : v.Alike m m') : m'.refusal? = m.refusal? := by
  rw [Machine.refusal?, Machine.refusal?, h.refusals]

theorem Alike.attempted (h : v.Alike m m') : v.Alike m.attempted m'.attempted :=
  ⟨h.fits, h.store, h.processes, congrArg List.tail h.refusals⟩

/-! ## Steps -/

/-- Where outputs are no programs, the same programs are found. -/
theorem find?_store {s : Store} {c : Context} (hplace : v.place ≤ s.descriptions.length)
    (hinert : s.files.isInert v.outputs = true) (argv : List Bytes) :
    Image.find? (v.store s).files ((v.store s).view (v.context c)) (v.context c).environment argv =
      Image.find? s.files (s.view c) c.environment argv := by
  rw [view_store hplace, files_store, Image.find?_blanked hinert]
  rfl

theorem ofPath?_store {s : Store} {c : Context} (hplace : v.place ≤ s.descriptions.length)
    (hinert : s.files.isInert v.outputs = true) (path : Bytes) (argv : List Bytes) :
    Image.ofPath? (v.store s).files ((v.store s).view (v.context c)) (v.context c).environment path
        argv = Image.ofPath? s.files (s.view c) c.environment path argv := by
  rw [view_store hplace, files_store, Image.ofPath?_blanked hinert]
  rfl

theorem Alike.become (h : v.Alike m m') (d : Dynamics κ) (p : Pid)
    (hproc : v.bare.process proc' = v.process proc) (refused : Errno → κ)
    (result : Except Errno Image) :
    v.Alike (m.become d p proc refused result) (m'.become d p proc' refused result) := by
  cases result with
  | error e => exact h.setProcess_same p (process_life hproc _)
  | ok image =>
    refine h.setProcess_same p ?_
    obtain ⟨hparent, hcontext, -⟩ := process_eq hproc
    simp only [process, hparent, context_onExec hcontext]

/-- Waiting gives the same answer. -/
theorem Alike.await (h : v.Alike m m') (p child : Pid) :
    Option.Rel (fun r r' => r'.1 = r.1 ∧ v.Alike r.2 r'.2) (m.await p child)
      (m'.await p child) := by
  unfold Machine.await
  cases hchild : m.processes[child]? with
  | none =>
    rw [h.eq_none hchild]
    exact .some ⟨rfl, h⟩
  | some proc =>
    obtain ⟨proc', hchild', hproc⟩ := h.exists_process hchild
    obtain ⟨hparent, -, hlife⟩ := process_eq hproc
    have hother : (proc'.parent ≠ p) = (proc.parent ≠ p) := by rw [hparent]
    simp only [hchild', hother, hlife]
    split
    · exact .some ⟨rfl, h⟩
    · cases proc.life with
      | active => exact .none
      | ended status => exact .some ⟨rfl, h.setProcess_same child (process_life hproc _)⟩
      | reaped => exact .some ⟨rfl, h⟩

/-- A signal does the same. -/
theorem Alike.deliver (h : v.Alike m m') (target : Pid) (signal : Nat) :
    (∃ e, m.deliver target signal = .error e ∧ m'.deliver target signal = .error e) ∨
      ∃ n n', m.deliver target signal = .ok n ∧ m'.deliver target signal = .ok n' ∧
        v.Alike n n' := by
  unfold Machine.deliver
  cases hp : m.processes[target]? with
  | none =>
    rw [h.eq_none hp]
    exact Or.inl ⟨_, rfl, rfl⟩
  | some proc =>
    obtain ⟨⟨parent', context', life'⟩, hp', hproc⟩ := h.exists_process hp
    obtain ⟨parent, context, life⟩ := proc
    obtain ⟨-, -, rfl⟩ : _ ∧ _ ∧ life' = life := process_eq hproc
    have hdispositions : context'.dispositions = context.dispositions :=
      (sameContext hproc).dispositions
    have hdisposition : context'.disposition signal = context.disposition signal := by
      rw [Context.disposition, Context.disposition, hdispositions]
    simp only [hp', hdisposition]
    cases life' with
    | active state =>
      simp only
      split
      · exact Or.inl ⟨_, rfl, rfl⟩
      split
      · exact Or.inr ⟨m, m', rfl, rfl, h⟩
      cases context.disposition signal with
      | untouched =>
        refine Or.inr ⟨_, _, rfl, rfl, ?_⟩
        split
        · exact h.finish target _
        · exact h
      | ignored => exact Or.inr ⟨m, m', rfl, rfl, h⟩
      | caught =>
        exact Or.inr ⟨_, _, rfl, rfl, h.setProcess_same target (process_told hproc signal)⟩
    | ended => exact Or.inr ⟨m, m', rfl, rfl, h⟩
    | reaped => exact Or.inl ⟨_, rfl, rfl⟩

/-- Whether a call is discreet does not depend on what cannot be seen. -/
theorem isDiscreet_store {s : Store} {c : Context} (hf : v.Fits s) (call : Call) :
    v.isDiscreet (v.store s) (v.context c) call = v.isDiscreet s c call := by
  have hinput := entry_bne_input hf.input
  cases call with
  | read fd | statusFd fd =>
    simp only [Streams.isDiscreet, description?_store hf.place]
    cases s.description? c fd with
    | none => rfl
    | some found =>
      simp only [Option.map_some, Option.all_some]
      rw [Streams.shows_description, shows_entry hf.input]
  | write fd | rewind fd =>
    simp only [Streams.isDiscreet, description?_store hf.place]
    cases s.description? c fd with
    | none => rfl
    | some found =>
      simp only [Option.map_some, Option.all_some, hinput, Streams.object_description]
  | openFile path flags mode =>
    simp only [Streams.isDiscreet, openPath_store hf]
    cases s.openPath c path flags mode <;> rfl
  | status | statusOfName =>
    simp only [Streams.isDiscreet, view_store hf.place, files_store, FileSystem.resolve_blanked,
      FileSystem.resolveLink_blanked]
  | _ => rfl

theorem Alike.isDiscreet (h : v.Alike m m') (hproc : v.bare.process proc' = v.process proc)
    (call : Call) :
    v.isDiscreet m'.store proc'.context call = v.isDiscreet m.store proc.context call := by
  have hbare := isDiscreet_store (v := v.bare) (c := proc'.context) h.fits_bare call
  rw [h.store, (process_eq hproc).2.1, toStreams_bare] at hbare
  rw [← hbare, isDiscreet_store h.fits]

/-- The effect of a discreet call is the same. -/
theorem Alike.perform (h : v.Alike m m') (hproc : v.bare.process proc' = v.process proc)
    {call : Call} (hcall : v.isDiscreet m.store proc.context call = true) (pid : Nat) :
    v.bare.outcome (call.perform m'.store proc'.context m'.held pid (m'.parentNumber proc')) =
      v.outcome (call.perform m.store proc.context m.held pid (m.parentNumber proc)) := by
  have hcall' := (h.isDiscreet hproc call).trans hcall
  rw [h.held, h.parentNumber hproc]
  have hlaw := perform_store h.fits m.held pid (m.parentNumber proc) hcall
  rw [← h.store, ← (process_eq hproc).2.1] at hlaw
  rw [← hlaw]
  exact (perform_store (v := v.bare) h.fits_bare m.held pid (m.parentNumber proc) hcall').symm

/-- The files that are started by either machine are the same. -/
theorem Alike.find? (h : v.Alike m m') (hproc : v.bare.process proc' = v.process proc)
    (hinert : m.store.files.isInert v.outputs = true) (argv : List Bytes) :
    Image.find? m'.store.files (m'.store.view proc'.context) proc'.context.environment argv =
      Image.find? m.store.files (m.store.view proc.context) proc.context.environment argv := by
  have hinert' : m'.store.files.isInert v.outputs = true := h.isInert.trans hinert
  rw [← find?_store (v := v.bare) h.fits_bare.place hinert', h.store, (process_eq hproc).2.1,
    find?_store h.fits.place hinert]

theorem Alike.ofPath? (h : v.Alike m m') (hproc : v.bare.process proc' = v.process proc)
    (hinert : m.store.files.isInert v.outputs = true) (path : Bytes) (argv : List Bytes) :
    Image.ofPath? m'.store.files (m'.store.view proc'.context) proc'.context.environment path
        argv =
      Image.ofPath? m.store.files (m.store.view proc.context) proc.context.environment path
        argv := by
  have hinert' : m'.store.files.isInert v.outputs = true := h.isInert.trans hinert
  rw [← ofPath?_store (v := v.bare) h.fits_bare.place hinert', h.store, (process_eq hproc).2.1,
    ofPath?_store h.fits.place hinert]

/-- Effects of which the same is seen. -/
theorem outcome_cases {ρ : Type} {o o' : Outcome ρ} (h : v.bare.outcome o' = v.outcome o) :
    (∃ reply s c s' c', o = .done reply s c ∧ o' = .done reply s' c' ∧
        v.bare.store s' = v.store s ∧ v.bare.context c' = v.context c) ∨
      (∃ s c s' c', o = .underway s c ∧ o' = .underway s' c' ∧
        v.bare.store s' = v.store s ∧ v.bare.context c' = v.context c) ∨
      (o = .blocked ∧ o' = .blocked) ∨ ∃ signal, o = .killed signal ∧ o' = .killed signal := by
  cases o with
  | done reply s c =>
    cases o' <;> simp only [outcome, Outcome.done.injEq, reduceCtorEq] at h
    obtain ⟨rfl, hs, hc⟩ := h
    exact Or.inl ⟨_, _, _, _, _, rfl, rfl, hs, hc⟩
  | underway s c =>
    cases o' <;> simp only [outcome, Outcome.underway.injEq, reduceCtorEq] at h
    exact Or.inr (Or.inl ⟨_, _, _, _, rfl, rfl, h.1, h.2⟩)
  | blocked =>
    cases o' <;> simp only [outcome, reduceCtorEq] at h
    exact Or.inr (Or.inr (Or.inl ⟨rfl, rfl⟩))
  | killed signal =>
    cases o' <;> simp only [outcome, Outcome.killed.injEq, reduceCtorEq] at h
    exact Or.inr (Or.inr (Or.inr ⟨signal, rfl, by rw [h]⟩))

/-- A discreet action does the same, provided that what is seen is still there. -/
theorem Alike.act (h : v.Alike m m') {d : Dynamics κ}
    (hproc : v.bare.process proc' = v.process proc) {a : Action κ}
    (ha : v.permits m.store proc.context a = true)
    (hfits : ∀ n, m.act d p proc a = some n → v.Fits n.store) :
    Option.Rel v.Alike (m.act d p proc a) (m'.act d p proc' a) := by
  cases a with
  | rest => exact .none
  | goOn next => exact .some (h.setProcess_same p (process_life hproc _))
  | halt code => exact .some (h.finish p _)
  | call c next =>
    simp only [Machine.act] at hfits ⊢
    rcases outcome_cases (h.perform hproc ha (Pid.number p)) with
      ⟨reply, s, context, s', context', ho, ho', hs, hcontext⟩ |
      ⟨s, context, s', context', ho, ho', hs, hcontext⟩ | ⟨ho, ho'⟩ | ⟨signal, ho, ho'⟩ <;>
      rw [ho] at hfits ⊢ <;> rw [ho']
    · exact .some (h.setProcess (hfits _ rfl) hs p
        (process_life (process_context hproc hcontext) _))
    · exact .some (h.setProcess (hfits _ rfl) hs p (process_context hproc hcontext))
    · exact .none
    · exact .some (h.finish p _)
  | fork child next =>
    simp only [Machine.act, h.length, h.refusal?]
    cases m.refusal? with
    | some e => exact .some (h.attempted.setProcess_same p (process_life hproc _))
    | none => exact .some (h.attempted.spawn p hproc child _)
  | exec argv refused =>
    simp only [Machine.act, h.find? hproc ha]
    exact .some (h.become d p hproc refused _)
  | execFile path argv refused =>
    simp only [Machine.act, h.ofPath? hproc ha]
    exact .some (h.become d p hproc refused _)
  | wait child next =>
    have hpending := (sameContext hproc).pending
    have hawait := h.await p child
    simp only [Machine.act, hpending]
    generalize m.await p child = r, m'.await p child = r' at hawait
    cases hawait with
    | none =>
      simp only
      split
      · exact .none
      · exact .some (h.resume p _)
    | some hr =>
      obtain ⟨hreply, hn⟩ := hr
      simp only [hreply]
      exact .some (hn.resume p _)
  | poll child next =>
    have hawait := h.await p child
    simp only [Machine.act]
    generalize m.await p child = r, m'.await p child = r' at hawait
    cases hawait with
    | none => exact .some (h.resume p _)
    | some hr =>
      obtain ⟨hreply, hn⟩ := hr
      simp only [hreply]
      exact .some (hn.resume p _)
  | kill target signal next =>
    simp only [Machine.act]
    cases Pid.ofNumber? target with
    | none => exact .some (h.resume p _)
    | some q =>
      simp only [Option.elim_some]
      rcases h.deliver q signal with ⟨e, he, he'⟩ | ⟨n, n', hn, hn', hlike⟩
      · rw [he, he']
        exact .some (h.resume p _)
      · rw [hn, hn']
        exact .some (hlike.resume p _)

/-- Whether a step is discreet does not depend on what cannot be seen. -/
theorem Alike.steps (h : v.Alike m m') (d : Dynamics κ) (p : Pid) :
    v.steps d m' p = v.steps d m p := by
  unfold Streams.steps
  cases hactive : m.active? p with
  | none => rw [h.active?_eq_none hactive]
  | some found =>
    obtain ⟨proc, state⟩ := found
    obtain ⟨proc', hactive', hproc⟩ := h.active? hactive
    simp only [hactive']
    cases d.action state with
    | call c next => exact h.isDiscreet hproc c
    | exec | execFile => exact h.isInert
    | _ => rfl

/-- A discreet step does the same, provided that what is seen is still there. -/
theorem Alike.step (h : v.Alike m m') {d : Dynamics κ} (hp : v.steps d m p = true)
    (hfits : ∀ n, m.step d p = some n → v.Fits n.store) :
    Option.Rel v.Alike (m.step d p) (m'.step d p) := by
  unfold Machine.step at hfits ⊢
  cases hactive : m.active? p with
  | none =>
    rw [h.active?_eq_none hactive]
    exact .none
  | some found =>
    obtain ⟨proc, state⟩ := found
    obtain ⟨proc', hactive', hproc⟩ := h.active? hactive
    simp only [hactive] at hfits
    simp only [hactive']
    refine h.act hproc ?_ hfits
    simpa only [Streams.steps, hactive] using hp

/-! ## Time and ends -/

theorem Alike.endOf? (h : v.Alike m m') (p : Pid) : m'.endOf? p = m.endOf? p := by
  unfold Machine.endOf?
  cases hp : m.processes[p]? with
  | none => rw [h.eq_none hp]
  | some proc =>
    obtain ⟨⟨parent', context', life'⟩, hp', hproc⟩ := h.exists_process hp
    obtain ⟨parent, context, life⟩ := proc
    obtain ⟨-, -, rfl⟩ : _ ∧ _ ∧ life' = life := process_eq hproc
    rw [hp']
    cases life' <;> rfl

theorem Alike.clock (h : v.Alike m m') : m'.store.clock = m.store.clock :=
  show (v.bare.store m'.store).clock = (v.store m.store).clock by rw [h.store]

theorem Alike.moments (h : v.Alike m m') : m'.moments = m.moments := by
  have hseen (v : Veil) (procs : List (Process κ)) :
      (⟨m.store, procs.map v.process, []⟩ : Machine κ).moments =
        (⟨m.store, procs, []⟩ : Machine κ).moments := by
    simp only [Machine.moments, List.filterMap_map]
    rfl
  calc m'.moments
    _ = (⟨m.store, m'.processes.map v.bare.process, []⟩ : Machine κ).moments :=
      (hseen v.bare m'.processes).symm
    _ = (⟨m.store, m.processes.map v.process, []⟩ : Machine κ).moments := by rw [h.processes]
    _ = m.moments := hseen v m.processes

theorem Alike.withClock (h : v.Alike m m') (clock : Nat) :
    v.Alike { m with store := { m.store with clock } }
      { m' with store := { m'.store with clock } } where
  fits := ⟨h.fits.input, h.fits.place, h.fits.outputs⟩
  store := congrArg (fun s : Store => { s with clock }) h.store
  processes := h.processes
  refusals := h.refusals

/-- Time goes by in both machines or in neither. -/
theorem Alike.elapse? (h : v.Alike m m') : Option.Rel v.Alike m.elapse? m'.elapse? := by
  unfold Machine.elapse?
  rw [h.moments, h.clock]
  cases (m.moments.filter (m.store.clock < ·)).min? with
  | none => exact .none
  | some clock => exact .some (h.withClock clock)

end Veil

end PipeShell
