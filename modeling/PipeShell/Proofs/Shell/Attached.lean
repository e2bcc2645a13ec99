import PipeShell.Proofs.Machine.Stillness
import PipeShell.Proofs.Shell.Readers
import PipeShell.Proofs.Shell.Waiting

/-!
# A session and its streams

A session is `Machine.Attached` to its streams as long as it lives and its journal is one of them.
If standard input is one of them as well, it is open and holds what was not read yet, and standard
output and error go to files or devices that have room (`Machine.Uses`). Whatever discreet steps the
other processes make, the session stays attached, with the same left to be read, unless it is killed
(`Machine.Attached.make?`); and so it does when it makes a discreet call itself, starts a process,
or takes the end of one. Only reading takes something off what is left (`Machine.Attached.drains`).
-/

namespace PipeShell

/-! ## What is open -/

namespace Machine

variable {κ : Type} {d : Dynamics κ} {m m' : Machine κ} {mv : Move} {st : Streams} {object : Object}

/-- All that is open in a process was open in some process of another machine, or is new since. -/
def TablesFrom (m m' : Machine κ) : Prop :=
  ∀ (x : Pid) (proc' : Process κ), m'.processes[x]? = some proc' →
    ∃ (y : Pid) (proc : Process κ), m.processes[y]? = some proc ∧
      proc'.context.descriptors.From proc.context.descriptors m.store.descriptions.length

theorem TablesFrom.of_make? (h : m.make? d mv = some m') : TablesFrom m m' := by
  intro x proc' hx
  cases make?_becomes h hx with
  | @acted proc _ _ _ hp _ hacts => exact ⟨x, proc, hp, hacts.keeps⟩
  | @interrupted proc _ _ hp => exact ⟨x, proc, hp, .refl _ _⟩
  | @touched proc _ hp _ ht =>
    refine ⟨x, proc, hp, ?_⟩
    cases ht with
    | killed => exact .empty _ _
    | _ => exact .refl _ _
  | @born p proc _ _ hp => exact ⟨p, proc, hp, .refl _ _⟩

/-- What is held was held before, or it is open through a new description. -/
theorem TablesFrom.held (hfrom : TablesFrom m m') (hs : m.Sound) (hgrows : m.store.Grows m'.store)
    (hheld : m'.held object = true) : m.held object = true ∨
      ∃ id desc, m.store.descriptions.length ≤ id ∧ m'.store.descriptions[id]? = some desc ∧
        desc.object = object := by
  obtain ⟨x, proc', fd, e, hx, he, hobject⟩ := exists_of_held hheld
  obtain ⟨y, proc, hy, hfrom⟩ := hfrom x proc' hx
  rcases hfrom fd e he with ⟨fd', e', he', heq⟩ | hnew
  · refine Or.inl (held_of_get hy he' ?_)
    rw [← hgrows.objectOf?_eq (hs.tables y proc hy fd' e' he'), ← hobject, Store.objectOf?,
      Store.objectOf?, heq]
  · obtain ⟨desc, hdesc, rfl⟩ := Option.map_eq_some_iff.mp hobject
    exact Or.inr ⟨_, desc, hnew, hdesc, rfl⟩

end Machine

namespace Streams

variable {κ : Type} {d : Dynamics κ} {m m' : Machine κ} {mv : Move} {st : Streams}

/-- Nobody gets hold of the other end of the pipe that standard input comes from. -/
theorem Quiet.of_tables (hq : st.Quiet m) (hsource : ∀ pipe, st.source ≠ some (.writeEnd pipe))
    (hs : m.Sound) (hgrows : m.store.Grows m'.store) (hkeeps : st.Keeps m.store m'.store)
    (hfrom : Machine.TablesFrom m m') : st.Quiet m' := by
  intro pipe hpipe
  by_contra hheld
  rw [Bool.not_eq_false] at hheld
  rcases hfrom.held hs hgrows hheld with hheld | ⟨id, desc, hnew, hdesc, hobject⟩
  · rw [hq pipe hpipe] at hheld
    cases hheld
  · have hsource' : st.isSource desc.object = true := by
      rw [hobject]
      exact (Bool.or_comm ..).trans hpipe
    have heq := hkeeps.fresh id desc hnew hdesc hsource'
    exact hsource pipe (heq.symm.trans (congrArg some hobject))

/-- A discreet action leaves alone what is to be read. -/
theorem Keeps.of_make? (hopen : st.IsOpen m.store m.held)
    (hmv : ∀ q, mv = .step q → st.steps d m q = true) (h : m.make? d mv = some m') :
    st.Keeps m.store m'.store := by
  have hsame := Keeps.refl st m.store
  rcases Machine.store_of_make? h with ⟨clock, hstore⟩ |
    ⟨q, proc, state, proc', rfl, hq, hlife, hacts⟩
  · rw [hstore]
    exact ⟨hsame.nodes, fun _ _ => rfl, hsame.file, fun _ _ => rfl, hsame.fresh, rfl⟩
  · have hsteps := hmv q rfl
    simp only [steps, Machine.active?_eq_some.mpr ⟨hq, hlife⟩] at hsteps
    generalize d.action state = a at hacts hsteps
    generalize m'.store = store at hacts ⊢
    cases hacts with
    | done hc =>
      have hstill := Call.perform_still hopen (Pid.number q) (m.parentNumber proc) hsteps
      rwa [hc] at hstill
    | underway hc =>
      have hstill := Call.perform_still hopen (Pid.number q) (m.parentNumber proc) hsteps
      rwa [hc] at hstill
    | _ => exact hsame

end Streams

/-! ## Sessions -/

variable {U : Userland} {ex : Executor} {m m' : Machine (Task U.State)} {mv : Move} {p : Pid}
  {st : Streams} {rest : Bytes} {proc : Process (Task U.State)}

/-- Process `p` reads from one of the streams, of which `rest` was not read yet, and its standard
output and error go to others, which have room. -/
structure Machine.Uses (m : Machine (Task U.State)) (p : Pid) (st : Streams) (rest : Bytes) :
    Prop extends m.Feeds p st rest where
  outputs : ∃ proc, m.processes[p]? = some proc ∧
    ∀ fd e, fd = Fd.stdout ∨ fd = Fd.stderr → proc.context.descriptors.get fd = some e →
      ∃ id ∈ st.outputs, m.store.objectOf? e = some (.node id)
  room : ∀ id ∈ st.outputs, m.store.files.node? id ≠ some .fullDevice

/-- Standard output and standard error are open on the outputs. -/
theorem Machine.Uses.object_of_output (huses : m.Uses p st rest)
    (hp : m.processes[p]? = some proc) {fd : Fd} (hfd : fd = Fd.stdout ∨ fd = Fd.stderr)
    {id : DescriptionId} {d : Description}
    (hd : m.store.description? proc.context fd = some (id, d)) :
    ∃ node ∈ st.outputs, d.object = .node node := by
  obtain ⟨procp, hprocp, houtputs⟩ := huses.outputs
  obtain rfl := Option.some.inj (hp.symm.trans hprocp)
  obtain ⟨hdesc, e, he, rfl⟩ := Store.mem_of_description? hd
  obtain ⟨node, hnode, hobject⟩ := houtputs fd e hfd he
  rw [Store.objectOf?, hdesc, Option.map_some, Option.some.injEq] at hobject
  exact ⟨node, hnode, hobject⟩

/-- Process `p` is a session with these streams, its journal's among them. If standard input is one
of them, `rest` is what was not read of it yet. -/
structure Machine.Attached (m : Machine (Task U.State)) (p : Pid) (st : Streams) (rest : Bytes) :
    Prop where
  sound : m.Sound
  attended : ∃ proc, m.processes[p]? = some proc ∧ proc.life = .active .attended
  outputs : ∀ id ∈ st.outputs, id < m.store.files.nodes.length
  apart : ∀ id ∈ st.outputs, st.source ≠ some (.node id)
  journal : ∀ id, m.store.journal.file = some id → id ∈ st.outputs
  source : st.input = none → st.source = none
  uses : st.input.isSome = true → m.Uses p st rest

namespace Machine.Attached

/-- Either nothing but outputs is among the streams, or the session uses them. -/
theorem streams_cases (ha : m.Attached p st rest) :
    st.input = none ∧ st.source = none ∨ m.Uses p st rest := by
  cases hinput : st.input with
  | none => exact Or.inl ⟨rfl, ha.source hinput⟩
  | some => exact Or.inr (ha.uses (by rw [hinput, Option.isSome_some]))

theorem source_ne_writeEnd (ha : m.Attached p st rest) (pipe : PipeId) :
    st.source ≠ some (.writeEnd pipe) := by
  rcases ha.streams_cases with ⟨-, hnone⟩ | huses
  · simp [hnone]
  · obtain ⟨-, d, -, -, -, hobject, hunread⟩ := huses.unread
    intro hsource
    have hend : d.object = .writeEnd pipe := Option.some.inj (hobject.symm.trans hsource)
    simp [Store.unread?, hend] at hunread

theorem isOpen (ha : m.Attached p st rest) : st.IsOpen m.store m.held where
  input id hid := by
    obtain ⟨id', d, hid', hd, -⟩ := (ha.uses (by rw [hid, Option.isSome_some])).unread
    obtain rfl := Option.some.inj (hid.symm.trans hid')
    exact (List.getElem?_eq_some_iff.mp hd).1
  source := ha.source_ne_writeEnd
  pipe pipe hsource := by
    rcases ha.streams_cases with ⟨-, hnone⟩ | huses
    · rw [hnone] at hsource
      cases hsource
    · obtain ⟨proc, id, d, hp, -, hd, -, hobject, hunread⟩ := huses.description?
      have hend : d.object = .readEnd pipe := Option.some.inj (hobject.symm.trans hsource)
      refine ⟨?_, hend ▸ Veil.held_of_description? hp hd⟩
      simp only [Store.unread?, hend] at hunread
      exact (List.getElem?_eq_some_iff.mp hunread).1
  journal id hid := ha.apart id (ha.journal id hid)

theorem quiet (ha : m.Attached p st rest) : st.Quiet m := by
  rcases ha.streams_cases with ⟨-, hnone⟩ | huses
  · intro pipe hpipe
    simp [Streams.isSource, hnone] at hpipe
  · exact huses.quiet

/-- The session goes on as it was if nothing has happened to its input and its table. -/
theorem of_keeps (ha : m.Attached p st rest) {proc' : Process (Task U.State)}
    (hp : m.processes[p]? = some proc) (hp' : m'.processes[p]? = some proc')
    (hlife : proc'.life = .active .attended)
    (htable : ∀ fd, proc'.context.descriptors.get fd = proc.context.descriptors.get fd)
    (hsound : m'.Sound)
    (hgrows : m.store.Grows m'.store) (hkeeps : st.Keeps m.store m'.store)
    (hfrom : TablesFrom m m') : m'.Attached p st rest where
  sound := hsound
  attended := ⟨proc', hp', hlife⟩
  outputs id hid := Nat.lt_of_lt_of_le (ha.outputs id hid) hkeeps.nodes.length
  apart := ha.apart
  journal id hid := ha.journal id (hkeeps.journal ▸ hid)
  source := ha.source
  uses hinput := by
    have huses := ha.uses hinput
    refine ⟨⟨?_, ?_, ?_⟩, ?_, ?_⟩
    · obtain ⟨procp, e, hprocp, he, hid⟩ := huses.process
      obtain rfl := Option.some.inj (hp.symm.trans hprocp)
      exact ⟨proc', e, hp', (htable _).trans he, hid⟩
    · obtain ⟨id, d, hid, hd, hreadable, hobject, hunread⟩ := huses.unread
      refine ⟨id, d, hid, (hkeeps.input id hid).trans hd, hreadable, hobject, ?_⟩
      unfold Store.unread? at hunread ⊢
      cases hsource : d.object with
      | node node =>
        simp only [hsource] at hunread ⊢
        split at hunread
        · next mode data hfile =>
          obtain ⟨mode', hfile'⟩ := hkeeps.file node mode data (hsource ▸ hobject) hfile
          simpa only [hfile'] using hunread
        · cases hunread
      | readEnd pipe =>
        simp only [hsource] at hunread ⊢
        rwa [hkeeps.pipe pipe (hsource ▸ hobject)]
      | writeEnd pipe => simp [hsource] at hunread
    · exact ha.quiet.of_tables ha.source_ne_writeEnd ha.sound hgrows hkeeps hfrom
    · obtain ⟨procp, hprocp, houtputs⟩ := huses.outputs
      obtain rfl := Option.some.inj (hp.symm.trans hprocp)
      refine ⟨proc', hp', fun fd e hfd he => ?_⟩
      obtain ⟨id, hid, hobject⟩ := houtputs fd e hfd ((htable fd).symm.trans he)
      exact ⟨id, hid, hgrows.objectOf? hobject⟩
    · exact fun id hid hfull => huses.room id hid (hkeeps.nodes.room id (ha.outputs id hid) hfull)

/-- Discreet steps of others and time leave a session as it was, unless it is killed. -/
theorem make? (ha : m.Attached p st rest) (hmv : mv = .elapse ∨ ∃ q, mv = .step q)
    (hsteps : ∀ q, mv = .step q → st.steps (Task.dynamics U ex) m q = true)
    (h : m.make? (Task.dynamics U ex) mv = some m') :
    m'.Attached p st rest ∨ ∃ signal, m'.endOf? p = some (.signaled signal) := by
  obtain ⟨proc, hp, hlife⟩ := ha.attended
  obtain ⟨proc', hp'⟩ := exists_of_make? h hp
  have hgoes (hlife' : proc'.life = .active .attended)
      (htable : proc'.context.descriptors = proc.context.descriptors) : m'.Attached p st rest :=
    ha.of_keeps hp hp' hlife' (fun fd => congrArg (·.get fd) htable) (ha.sound.make? h)
      (ha.sound.grows h).1 (.of_make? ha.isOpen hsteps h) (.of_make? h)
  cases make?_becomes h hp' with
  | acted _ hp₀ hlife₀ hacts =>
    obtain rfl := Option.some.inj (hp.symm.trans hp₀)
    cases hlife.symm.trans hlife₀
    cases hacts
  | interrupted hinterrupt =>
    rcases hmv with rfl | ⟨q, rfl⟩ <;> cases hinterrupt
  | touched hp₀ _ ht =>
    obtain rfl := Option.some.inj (hp.symm.trans hp₀)
    cases ht with
    | unchanged | told => exact Or.inl (hgoes hlife rfl)
    | killed _ _ signal => exact Or.inr ⟨signal, endOf?_of_ended hp' rfl⟩
    | reaped _ hended => cases hlife.symm.trans hended
  | born _ _ _ hlength =>
    exact absurd hlength (Nat.ne_of_lt (List.getElem?_eq_some_iff.mp hp).1)

/-- A call of the session itself that is discreet and not about descriptors. -/
theorem call (ha : m.Attached p st rest) (hp : m.processes[p]? = some proc) {c : Call}
    (hc : c.isOnTable = false) (hdiscreet : st.isDiscreet m.store proc.context c = true)
    {reply : c.Reply} {store : Store} {context : Context}
    (hdone : c.perform m.store proc.context m.held (Pid.number p) (m.parentNumber proc) =
      .done reply store context) :
    m.store.Grows store ∧
      ({ m with store }.setProcess p { proc with context }).Attached p st rest := by
  obtain ⟨procp, hprocp, hlife⟩ := ha.attended
  obtain rfl := Option.some.inj (hp.symm.trans hprocp)
  have hsound := Call.perform_sound ha.sound.store (ha.sound.tables p proc hp) m.held (Pid.number p)
    (m.parentNumber proc) c
  have hstill := Call.perform_still ha.isOpen (Pid.number p) (m.parentNumber proc) hdiscreet
  have hleaves : (c.perform m.store proc.context m.held (Pid.number p)
    (m.parentNumber proc)).Leaves _ := Call.perform_leaves _ _ _ hc
  rw [hdone] at hsound hstill hleaves
  obtain ⟨hgrows, hstore, hvalid⟩ := hsound
  have hget (x : Pid) := getElem?_setProcess (m := { m with store }) hp { proc with context } x
  refine ⟨hgrows, ha.of_keeps hp ((hget p).trans (if_pos rfl)) hlife
    (fun fd => congrArg (·.get fd) hleaves.1) ⟨hstore, ?_, ?_⟩ hgrows hstill ?_⟩
  · intro x procx hx
    rw [hget] at hx
    split at hx
    · cases hx
      exact hvalid
    · exact (ha.sound.tables x procx hx).grows hgrows
  · intro x procx hx
    rw [length_setProcess]
    rw [hget] at hx
    split at hx
    · cases hx
      exact ha.sound.parents p proc hp
    · exact ha.sound.parents x procx hx
  · intro x procx hx
    rw [hget] at hx
    split at hx
    · cases hx
      exact ⟨p, proc, hp, hleaves.1 ▸ .refl _ _⟩
    · exact ⟨x, procx, hx, .refl _ _⟩

theorem spawn (ha : m.Attached p st rest) (hp : m.processes[p]? = some proc)
    (child : Task U.State) : (m.spawn p proc child .attended).Attached p st rest := by
  have hlt := (List.getElem?_eq_some_iff.mp hp).1
  have hp' : (m.spawn p proc child .attended).processes[p]? =
      some { proc with life := .active .attended } := by
    rw [getElem?_spawn hp, if_neg (Nat.ne_of_lt hlt), if_pos rfl]
  refine ha.of_keeps hp hp' rfl (fun _ => rfl) (ha.sound.spawn hp child .attended) (.refl _)
    (.refl st _) ?_
  intro x procx hx
  rw [getElem?_spawn hp] at hx
  split at hx
  · cases hx
    exact ⟨p, proc, hp, .refl _ _⟩
  · split at hx
    · cases hx
      exact ⟨p, proc, hp, .refl _ _⟩
    · exact ⟨x, procx, hx, .refl _ _⟩

/-- The session takes the end of a child. -/
theorem await (ha : m.Attached p st rest) {child : Pid} {reply : WaitReply}
    (h : m.await p child = some (reply, m')) : m'.Attached p st rest := by
  obtain ⟨proc, hp, hlife⟩ := ha.attended
  have hm : m.make? (Task.dynamics U .bare) (.collect p child) = some m' := by
    simp only [Machine.make?, collect?, active?_eq_some.mpr ⟨hp, hlife⟩]
    simp [Task.dynamics, h]
  obtain ⟨hp', -⟩ := await_other hp hlife h
  have hkeeps : st.Keeps m.store m'.store :=
    .of_make? ha.isOpen (fun q heq => by cases heq) hm
  exact ha.of_keeps hp hp' hlife (fun _ => rfl) (ha.sound.make? hm) (ha.sound.grows hm).1 hkeeps
    (.of_make? hm)

/-- A refused attempt to create a process is nothing but an attempt. -/
theorem attempted (ha : m.Attached p st rest) : m.attempted.Attached p st rest where
  sound := ⟨ha.sound.store, ha.sound.tables, ha.sound.parents⟩
  attended := ha.attended
  outputs := ha.outputs
  apart := ha.apart
  journal := ha.journal
  source := ha.source
  uses hinput :=
    have huses := ha.uses hinput
    ⟨⟨huses.process, huses.unread, huses.quiet⟩, huses.outputs, huses.room⟩

/-- The session reads on. -/
theorem drains (ha : m.Attached p st rest) (hinput : st.input.isSome = true)
    (hdrains : Drains st m m') {rest' : Bytes} (hfeeds : m'.Feeds p st rest') :
    m'.Attached p st rest' := by
  obtain ⟨offset, waiting, -, rfl⟩ := hdrains
  have hgrows := st.grows_drained m.store offset waiting
  refine ⟨⟨⟨?_, ?_⟩, fun x procx hx => (ha.sound.tables x procx hx).grows hgrows,
    ha.sound.parents⟩, ha.attended, ha.outputs, ha.apart, ha.journal, ha.source,
    fun _ => ⟨hfeeds, ?_, (ha.uses hinput).room⟩⟩
  · intro d hd pipe hpipe
    have hlength := st.length_pipes_drained m.store offset waiting
    rw [hlength]
    obtain ⟨id, hid⟩ := List.getElem?_of_mem hd
    rw [Streams.getElem?_drained] at hid
    obtain ⟨d₀, hd₀, rfl⟩ := Option.map_eq_some_iff.mp hid
    refine ha.sound.store.descriptions d₀ (List.mem_of_getElem? hd₀) pipe ?_
    rw [← hpipe]
    split <;> rfl
  · intro node hnode
    have hlength := st.length_pipes_drained m.store offset waiting
    rw [hlength]
    exact ha.sound.store.files node hnode
  · obtain ⟨proc, hp, houtputs⟩ := (ha.uses hinput).outputs
    refine ⟨proc, hp, fun fd e hfd he => ?_⟩
    obtain ⟨id, hid, hobject⟩ := houtputs fd e hfd he
    exact ⟨id, hid, hgrows.objectOf? hobject⟩

/-- To write to standard output or error is discreet. -/
theorem isDiscreet_write (ha : m.Attached p st rest) (hp : m.processes[p]? = some proc) {fd : Fd}
    (hfd : fd = Fd.stdout ∨ fd = Fd.stderr) (data : Bytes) :
    st.isDiscreet m.store proc.context (.write fd data) = true := by
  simp only [Streams.isDiscreet]
  cases hd : m.store.description? proc.context fd with
  | none => rfl
  | some found =>
    obtain ⟨id, d⟩ := found
    rcases ha.streams_cases with ⟨hinput, hsource⟩ | huses
    · simp [hinput, hsource, Streams.isSource]
    · obtain ⟨node, hnode, hobject⟩ := huses.object_of_output hp hfd hd
      have hapart := ha.apart node hnode
      have hid : some id ≠ st.input := by
        intro heq
        obtain ⟨id', d', hid', hd', -, hobject', -⟩ := huses.unread
        obtain rfl := Option.some.inj (heq.trans hid')
        obtain rfl := Option.some.inj ((Store.mem_of_description? hd).1.symm.trans hd')
        exact hapart (hobject'.trans (congrArg some hobject))
      simp [hid, hobject, Streams.isSource, Object.partner, Ne.symm hapart]

end Machine.Attached

end PipeShell
