import Mathlib
import PipeShell.Proofs.Executor.Dues
import PipeShell.Proofs.Executor.Origins

/-!
# Pipelines see the end of the file

A process that has passed its set-up (`Control.isSettled`) is about to become a program, or waits
for the two sides of its pipe, or is on its way out. In a pipeline it then has a write end of a pipe
only as its standard output (`LineStart.writeEnd_of_isSettled`): it runs the stage before this pipe,
or a redirection of its own led to the end. Later on, an end that a pipe was made with is only with
processes that still run a part of the line, and with those that have what goes with this end
(`GoesWith`, `LineStart.holder_of`): for a write end, they descend from that stage
(`LineStart.holder`), whatever programs do. So once these have ended, the next stage can see the end
of the file (`LineStart.pipeline_end_of_file`).
-/

namespace PipeShell

set_option synthInstance.maxSize 500

variable {U : Userland} {ex : Executor} {m₀ m m' : Machine (Task U.State)}
  {h : Past (Task U.State)} {mv : Move} {p x : Pid} {proc proc' : Process (Task U.State)}
  {c c' : Control} {es : List Event} {w : Wiring}

/-! ## Processes that have passed their set-up -/

/-- Whether a process has passed its set-up: it is about to become a program, waits for the sides of
its pipe, or is on its way out. -/
def Control.isSettled : Control → Bool
  | launch _ | waitLeft .. | waitRight .. | connected .. => true
  | complain _ | printing _ | alarm _ | exit _ => true
  | noting _ _ next => next.isSettled
  | _ => false

/-- Whether all processes that run a part of a line have passed their set-up. -/
def Machine.isSettled {σ : Type} (m : Machine (Task σ)) : Bool :=
  m.processes.all fun proc =>
    match proc.life with
    | .active (.executing c) => c.isSettled
    | _ => true

theorem Machine.isSettled_of_active {σ : Type} {m : Machine (Task σ)} {proc : Process (Task σ)}
    (h : m.isSettled) (hx : m.processes[x]? = some proc)
    (hlife : proc.life = .active (.executing c)) : c.isSettled := by
  have hproc := List.all_eq_true.mp h proc (List.mem_of_getElem? hx)
  rwa [hlife] at hproc

theorem Stance.table_of_isSettled {base : Fd → Option Descriptor} {context : Context}
    (h : Stance base context w c) (hc : c.isSettled) :
    context.descriptors.get = w.table base ∨
      c.isLeaving ∧ (context.limit ≤ 1 ∨ w.stranded = true) := by
  induction h with
  | noting _ _ _ ih => exact ih hc
  | complain _ h | printing _ h | alarm _ h | exit _ h => exact h.imp_right fun h => ⟨rfl, h⟩
  | waitLeft _ _ htable | waitRight _ _ htable | connected _ _ htable | launch _ _ htable =>
    exact Or.inl htable
  | _ => cases hc

/-- A pipe takes two descriptors. -/
theorem LineStart.one_lt_limit (L : LineStart m₀) (hrun : Run (Task.dynamics U ex) m₀ h m)
    {pipe : PipeId} {readEnd writeEnd : Descriptor}
    (hp : .piped p pipe readEnd writeEnd ∈ events U ex h) : 1 < L.context.limit := by
  induction hrun with
  | start => simp [events] at hp
  | move hrun mv hm ih =>
    rcases mem_events_cons.mp hp with he | hp
    · obtain ⟨⟨proc, left, right, -, hx, hlife, hlt, -⟩, -⟩ := piped_of_event? hm he
      rwa [← (L.stance hrun p proc _ hx hlife).1]
    · exact ih hp

/-- A pipe was made once. -/
theorem piped_unique {q q' : Pid} {pipe : PipeId} {readEnd writeEnd readEnd' writeEnd' : Descriptor}
    (hnodup : (es.filterMap Event.pipe?).Nodup) (h : .piped q pipe readEnd writeEnd ∈ es)
    (h' : .piped q' pipe readEnd' writeEnd' ∈ es) :
    q = q' ∧ readEnd = readEnd' ∧ writeEnd = writeEnd' := by
  have hsymm : Std.Symm fun e e' : Event =>
      ∀ b, e.pipe? = some b → ∀ b', e'.pipe? = some b' → b ≠ b' :=
    ⟨fun e e' he b hb b' hb' heq => he b' hb' b hb heq.symm⟩
  by_contra hne
  have hdistinct := (List.pairwise_filterMap.mp hnodup).forall h h' (by simpa using hne)
  exact hdistinct pipe rfl pipe rfl rfl

/-- Once a pipe was made, a process that has passed its set-up has open what its wiring says, unless
it is on its way out because it could not create a process. -/
theorem LineStart.table_of_isSettled (L : LineStart m₀) (hrun : Run (Task.dynamics U ex) m₀ h m)
    (hx : m.processes[x]? = some proc) (hlife : proc.life = .active (.executing c))
    (hc : c.isSettled) (hforks : c.isLeaving → .stranded x ∉ events U ex h) {q : Pid}
    {pipe : PipeId} {readEnd writeEnd : Descriptor}
    (hp : .piped q pipe readEnd writeEnd ∈ events U ex h) :
    ∃ w, L.wiring (events U ex h) x = some w ∧ Stance L.base proc.context w c ∧
      proc.context.descriptors.get = w.table L.base := by
  obtain ⟨hlimit, w, hw, hst⟩ := L.stance hrun x proc c hx hlife
  refine ⟨w, hw, hst, (hst.table_of_isSettled hc).resolve_right ?_⟩
  rintro ⟨hleaving, hle | hstranded⟩
  · exact Nat.not_le_of_lt (hlimit ▸ L.one_lt_limit hrun hp) hle
  · exact hforks hleaving (L.mem_of_stranded _ x w hw hstranded)

/-- A process of a pipeline that has passed its set-up has a write end of a pipe as its standard
output only, and only if it was started for the side that writes to this pipe or opened the end
anew. -/
theorem LineStart.writeEnd_of_isSettled (L : LineStart m₀) (hshape : L.tree.isPipeline)
    (hrun : Run (Task.dynamics U ex) m₀ h m) (hx : m.processes[x]? = some proc)
    (hlife : proc.life = .active (.executing c)) (hc : c.isSettled)
    (hforks : c.isLeaving → .stranded x ∉ events U ex h) {q : Pid} {pipe : PipeId}
    {readEnd writeEnd : Descriptor} (hp : .piped q pipe readEnd writeEnd ∈ events U ex h)
    {fd : Fd} {d : Descriptor} (hd : proc.context.descriptors.get fd = some d)
    (hobject : m.store.objectOf? d = some (.writeEnd pipe)) :
    fd = Fd.stdout ∧ (d = writeEnd ∧ .forked q .left x ∈ events U ex h ∨
      .opened x .output d ∈ events U ex h) := by
  obtain ⟨w, hw, hst, htable⟩ := L.table_of_isSettled hrun hx hlife hc hforks hp
  obtain ⟨hends, hnodup⟩ := pipes_new L.sound hrun
  have ho := L.origin hshape (events U ex h) x w hw
  have hnew := (hends q pipe readEnd writeEnd hp).1
  have hbase {fd : Fd} (hd : L.base fd = some d) : False :=
    absurd (L.pipe_lt_of_base hrun hd hobject rfl) (Nat.not_lt_of_le hnew)
  rw [htable, w.table_apply] at hd
  split at hd
  · rcases ho.input with hinput | ⟨q', pipe', readEnd', writeEnd', hp', hinput⟩ |
      ⟨-, d', hopened, hinput⟩
    · exact (hbase (hinput ▸ hd)).elim
    · cases hinput.symm.trans hd
      obtain ⟨-, -, hread, -⟩ := hends q' pipe' d writeEnd' hp'
      cases hread.symm.trans hobject
    · cases hinput.symm.trans hd
      exact absurd hobject (((L.apart hrun).1 x .input d hopened).reads rfl pipe)
  · split at hd
    · next h1 =>
      refine ⟨h1, ?_⟩
      rcases ho.output with houtput | ⟨-, ⟨q', pipe', readEnd', writeEnd', hp', hf, houtput⟩ |
        ⟨d', hopened, houtput⟩⟩
      · exact (hbase (houtput ▸ hd)).elim
      · cases houtput.symm.trans hd
        obtain ⟨-, -, -, hwrite⟩ := hends q' pipe' readEnd' d hp'
        cases hwrite.symm.trans hobject
        obtain ⟨rfl, rfl, rfl⟩ := piped_unique hnodup hp hp'
        exact Or.inl ⟨rfl, hf⟩
      · cases houtput.symm.trans hd
        exact Or.inr hopened
    · exact (hbase hd).elim

/-! ## Who holds an end of a pipe -/

/-- What was opened just now is with the process that makes a pipe in this move only. -/
theorem executing_of_piped (hs : m.Sound) (hm : m.make? (Task.dynamics U ex) mv = some m')
    {q : Pid} {pipe : PipeId} {readEnd writeEnd : Descriptor}
    (he : m.event? U ex mv = some (.piped q pipe readEnd writeEnd)) {fd : Fd} {d : Descriptor}
    (hx : m'.processes[x]? = some proc') (hd : proc'.context.descriptors.get fd = some d)
    (hnew : m.store.descriptions.length ≤ d.description) :
    ∃ c, proc'.life = .active (.executing c) := by
  obtain ⟨⟨proc₀, left, right, rfl, hq, hlife, -⟩, -⟩ := piped_of_event? hm he
  have hold {y : Pid} {procy : Process (Task U.State)} (hy : m.processes[y]? = some procy)
      (hd : procy.context.descriptors.get fd = some d) : False :=
    absurd (hs.tables y procy hy fd d hd) (Nat.not_lt_of_le hnew)
  cases Machine.make?_becomes hm hx with
  | acted hmv hx₀ hlife₀ hacts =>
    cases hmv
    obtain rfl := Option.some.inj (hq.symm.trans hx₀)
    cases hlife.symm.trans hlife₀
    rcases executing_becomes hlife hacts with hlife' | ⟨status, rfl⟩ | ⟨argv, hc⟩
    · exact hlife'
    · rw [Process.get_finished] at hd
      cases hd
    · cases hc
  | interrupted hmv => cases hmv
  | touched hx₀ _ ht =>
    cases ht with
    | killed =>
      rw [Process.get_finished] at hd
      cases hd
    | _ => exact (hold hx₀ hd).elim
  | born _ hx₀ => exact (hold hx₀ hd).elim

/-- A property of processes goes with a description that event `e` has made: those have it that
become a program with the description open, nobody loses it, and those who are started by somebody
with it have it too. -/
structure GoesWith (U : Userland) (ex : Executor) (m₀ : Machine (Task U.State)) (e : Event)
    (id : DescriptionId) (P : Past (Task U.State) → Machine (Task U.State) → Pid → Prop) :
    Prop where
  become : ∀ {h m m' x proc proc' argv s fd d}, Run (Task.dynamics U ex) m₀ h m →
    e ∈ events U ex h → m.make? (Task.dynamics U ex) (.step x) = some m' →
    m.processes[x]? = some proc → proc.life = .active (.executing (.launch argv)) →
    proc.context.descriptors.get fd = some d → d.description = id →
    m'.processes[x]? = some proc' → proc'.life = .active (.program s) →
    P ((m, .step x) :: h) m' x
  keep : ∀ {h m mv m' x}, Run (Task.dynamics U ex) m₀ h m →
    m.make? (Task.dynamics U ex) mv = some m' → x < m.processes.length → P h m x →
    P ((m, mv) :: h) m' x
  start : ∀ {h m x proc}, m.processes[x]? = some proc → P h m proc.parent → P h m x

/-- Who still has an end that a pipe was made with runs, and it runs a part of the line or has the
property that goes with this end, whatever programs do. -/
theorem LineStart.holder_of (L : LineStart m₀) {q : Pid} {pipe : PipeId}
    {readEnd writeEnd : Descriptor} {id : DescriptionId}
    (hid : id = readEnd.description ∨ id = writeEnd.description)
    {P : Past (Task U.State) → Machine (Task U.State) → Pid → Prop}
    (hP : GoesWith U ex m₀ (.piped q pipe readEnd writeEnd) id P)
    (hrun : Run (Task.dynamics U ex) m₀ h m)
    (hp : .piped q pipe readEnd writeEnd ∈ events U ex h) {fd : Fd} {d : Descriptor}
    (hx : m.processes[x]? = some proc) (hd : proc.context.descriptors.get fd = some d)
    (hsame : d.description = id) :
    ∃ state, proc.life = .active state ∧ ((∃ c, state = .executing c) ∨ P h m x) := by
  induction hrun generalizing x proc fd d with
  | start => simp [events] at hp
  | @move h m m' hrun mv hm ih =>
    rcases mem_events_cons.mp hp with he | hold
    · obtain ⟨hread, hwrite⟩ := ends_new_of_event? (hrun.sound L.sound) hm he
      have hnew : m.store.descriptions.length ≤ d.description := by
        rcases hid with rfl | rfl <;> rwa [hsame]
      obtain ⟨c, hlife⟩ := executing_of_piped (hrun.sound L.sound) hm he hx hd hnew
      exact ⟨_, hlife, Or.inl ⟨c, rfl⟩⟩
    · have hlt : id < m.store.descriptions.length := by
        obtain ⟨-, -, hread, hwrite⟩ := (pipes_new L.sound hrun).1 q pipe readEnd writeEnd hold
        rcases hid with rfl | rfl
        · exact Store.lt_of_objectOf? hread
        · exact Store.lt_of_objectOf? hwrite
      have later {y : Pid} {procy : Process (Task U.State)} (hy : m.processes[y]? = some procy)
          (hPy : P h m y) : P ((m, mv) :: h) m' y :=
        hP.keep hrun hm (List.getElem?_eq_some_iff.mp hy).1 hPy
      cases Machine.make?_becomes hm hx with
      | @acted proc₀ _ _ hmv hx₀ hlife hacts =>
        subst hmv
        obtain ⟨fd₀, d₀, hd₀, hsame₀⟩ := (hacts.keeps fd d hd).resolve_right
          (Nat.not_le_of_lt (hsame ▸ hlt))
        obtain ⟨_, hlife₀, hwho⟩ := ih hold hx₀ hd₀ (hsame₀.trans hsame)
        cases hlife.symm.trans hlife₀
        rcases hacts.active_or_finished hlife with ⟨state', hlife'⟩ | ⟨status, rfl⟩
        · refine ⟨state', hlife', ?_⟩
          rcases hwho with ⟨c, rfl⟩ | hPx
          · cases Machine.make?_continues hm hx₀ hlife hx with
            | stepped _ c' hlife'' =>
              cases hlife'.symm.trans hlife''
              exact Or.inl ⟨c', rfl⟩
            | stayed hmv => exact absurd rfl hmv
            | became _ argv hc s hlife'' =>
              subst hc
              exact Or.inr (hP.become hrun hold hm hx₀ hlife hd₀ (hsame₀.trans hsame) hx hlife'')
            | ended _ status hlife'' => cases hlife'.symm.trans hlife''
            | killed hmv => exact absurd rfl hmv
          · exact Or.inr (later hx₀ hPx)
        · rw [Process.get_finished] at hd
          cases hd
      | interrupted _ hx₀ hlife child next ha =>
        obtain ⟨_, hlife₀, hwho⟩ := ih hold hx₀ hd hsame
        cases hlife.symm.trans hlife₀
        refine ⟨_, rfl, ?_⟩
        rcases hwho with ⟨c, rfl⟩ | hPx
        · exact Or.inl ⟨c, executing_interrupted ha⟩
        · exact Or.inr (later hx₀ hPx)
      | touched hx₀ _ ht =>
        cases ht with
        | unchanged | told =>
          obtain ⟨state, hlife, hwho⟩ := ih hold hx₀ hd hsame
          exact ⟨state, hlife, hwho.imp_right (later hx₀)⟩
        | killed =>
          rw [Process.get_finished] at hd
          cases hd
        | reaped status hended =>
          obtain ⟨state, hlife, -⟩ := ih hold hx₀ hd hsame
          cases hended.symm.trans hlife
      | born _ hy hlife _ childState next ha =>
        obtain ⟨_, hlife₀, hwho⟩ := ih hold hy hd hsame
        cases hlife.symm.trans hlife₀
        refine ⟨childState, rfl, ?_⟩
        rcases hwho with ⟨c, rfl⟩ | hPy
        · exact Or.inl (executing_of_forks ha)
        · exact Or.inr (hP.start hx (later hy hPy))

/-- Who becomes a program with a write end open was started for the left side of the pipe. -/
theorem LineStart.goesWith_writeEnd (L : LineStart m₀) (hshape : L.tree.isPipeline) {q : Pid}
    {pipe : PipeId} {readEnd writeEnd : Descriptor} :
    GoesWith U ex m₀ (.piped q pipe readEnd writeEnd) writeEnd.description fun h m x =>
      ∃ child, .forked q .left child ∈ events U ex h ∧ m.Descends child x where
  become {h m m' x proc proc' argv s fd d} hrun hp hm hx hlife hd hsame _ _ := by
    obtain ⟨-, -, -, hwrite⟩ := (pipes_new L.sound hrun).1 q pipe readEnd writeEnd hp
    have hobject : m.store.objectOf? d = some (.writeEnd pipe) := by
      rw [← hwrite, Store.objectOf?, Store.objectOf?, hsame]
    rcases (L.writeEnd_of_isSettled hshape hrun hx hlife rfl (fun h => by cases h) hp hd
      hobject).2 with
      ⟨-, hf⟩ | hopened
    · exact ⟨x, mem_events_cons.mpr (Or.inr hf), .self⟩
    · exact absurd hsame (((L.apart hrun).1 x .output d hopened).ne q pipe readEnd writeEnd hp)
  keep _ hm _ := fun ⟨child, hf, hdesc⟩ =>
    ⟨child, mem_events_cons.mpr (Or.inr hf), hdesc.make? hm⟩
  start hx := fun ⟨child, hf, hdesc⟩ => ⟨child, hf, .child hx hdesc⟩

/-- Who still has the write end that a pipe was made with runs, and it runs a part of the line or
descends from the process that was started for the left side of the pipe. -/
theorem LineStart.holder (L : LineStart m₀) (hshape : L.tree.isPipeline)
    (hrun : Run (Task.dynamics U ex) m₀ h m) {q : Pid} {pipe : PipeId}
    {readEnd writeEnd : Descriptor} (hp : .piped q pipe readEnd writeEnd ∈ events U ex h)
    {fd : Fd} {d : Descriptor} (hx : m.processes[x]? = some proc)
    (hd : proc.context.descriptors.get fd = some d)
    (hsame : d.description = writeEnd.description) :
    ∃ state, proc.life = .active state ∧ ((∃ c, state = .executing c) ∨
      ∃ child, .forked q .left child ∈ events U ex h ∧ m.Descends child x) :=
  L.holder_of (Or.inr rfl) (L.goesWith_writeEnd hshape) hrun hp hx hd hsame

/-! ## The end of the file -/

/-- Reading from a pipe whose write end nobody holds never waits: it gives what is in the pipe, and
the end of the file if there is nothing. -/
theorem Store.read_of_not_held {s : Store} {context : Context} {held : Object → Bool} {fd : Fd}
    {id : DescriptionId} {desc : Description} {pipe : PipeId}
    (h : s.description? context fd = some (id, desc)) (hobject : desc.object = .readEnd pipe)
    (hreadable : desc.readable) (hheld : held (.writeEnd pipe) = false) (count : Nat) :
    ∃ s', s.read context held fd count =
      .done (.ok (((s.pipes[pipe]?).getD []).take count)) s' context := by
  simp only [read, h, hobject, hreadable, hheld]
  cases hwaiting : (s.pipes[pipe]?).getD [] with
  | nil => exact ⟨s, by simp⟩
  | cons b waiting => exact ⟨_, rfl⟩

/-- A process of a line that has passed its set-up holds the write end of a pipe as its standard
output only, and only if it runs the stage before the pipe or its own redirection led to that end.
So if all processes of the line have passed their set-up, nobody opened the end anew, and the stage
before the pipe and all that descends from it have ended, then nobody holds the end, and whoever
reads from the pipe can see the end of the file. A process that leaves because it could not create
another is through with its set-up only when it has ended. -/
theorem LineStart.pipeline_end_of_file (L : LineStart m₀) {line : Bytes}
    (hparse : Command.parse line = .ok L.tree) (hrun : Run (Task.dynamics U ex) m₀ h m)
    {q : Pid} {pipe : PipeId} {readEnd writeEnd : Descriptor}
    (hp : .piped q pipe readEnd writeEnd ∈ events U ex h) :
    (∀ x proc c, m.active? x = some (proc, .executing c) → c.isSettled →
      (c.isLeaving → .stranded x ∉ events U ex h) →
      ∀ fd d, proc.context.descriptors.get fd = some d →
        m.store.objectOf? d = some (.writeEnd pipe) →
        fd = Fd.stdout ∧ (d = writeEnd ∧ .forked q .left x ∈ events U ex h ∨
          .opened x .output d ∈ events U ex h)) ∧
      (m.isSettled → (∀ x, .stranded x ∈ events U ex h → m.active? x = none) →
        (∀ child x, .forked q .left child ∈ events U ex h → m.Descends child x →
          m.active? x = none) →
        (∀ d, m.store.objectOf? d = some (.writeEnd pipe) →
          d.description = writeEnd.description) →
        m.held (.writeEnd pipe) = false ∧
          ∀ context fd id desc count, m.store.description? context fd = some (id, desc) →
            desc.object = .readEnd pipe → desc.readable →
            ∃ s', m.store.read context m.held fd count =
              .done (.ok (((m.store.pipes[pipe]?).getD []).take count)) s' context) := by
  have hshape := Command.isPipeline_of_parse hparse
  have hsettled (x : Pid) (proc : Process (Task U.State)) (c : Control)
      (hx : m.active? x = some (proc, .executing c)) (hc : c.isSettled)
      (hforks : c.isLeaving → .stranded x ∉ events U ex h) (fd : Fd) (d : Descriptor)
      (hd : proc.context.descriptors.get fd = some d)
      (hobject : m.store.objectOf? d = some (.writeEnd pipe)) :
      fd = Fd.stdout ∧ (d = writeEnd ∧ .forked q .left x ∈ events U ex h ∨
        .opened x .output d ∈ events U ex h) := by
    obtain ⟨hx, hlife⟩ := Machine.active?_eq_some.mp hx
    exact L.writeEnd_of_isSettled hshape hrun hx hlife hc hforks hp hd hobject
  refine ⟨hsettled, fun hall hforks hended hsole => ?_⟩
  have hheld : m.held (.writeEnd pipe) = false := by
    rw [Bool.eq_false_iff]
    intro hheld
    obtain ⟨x, proc, fd, d, hx, hd, hobject⟩ := Machine.exists_of_held hheld
    have hsame := hsole d hobject
    obtain ⟨state, hlife, hwho⟩ := L.holder hshape hrun hp hx hd hsame
    have hactive := Machine.active?_eq_some.mpr ⟨hx, hlife⟩
    rcases hwho with ⟨c, rfl⟩ | ⟨child, hf, hdesc⟩
    · have hc := Machine.isSettled_of_active hall hx hlife
      have hforks' (_ : c.isLeaving) : .stranded x ∉ events U ex h := fun hmem => by
        rw [hforks x hmem] at hactive
        cases hactive
      rcases (hsettled x proc c hactive hc hforks' fd d hd hobject).2 with ⟨-, hf⟩ | hopened
      · rw [hended x x hf .self] at hactive
        cases hactive
      · exact ((L.apart hrun).1 x .output d hopened).ne q pipe readEnd writeEnd hp hsame
    · rw [hended child x hf hdesc] at hactive
      cases hactive
  exact ⟨hheld, fun context fd id desc count hdesc hobject hreadable =>
    Store.read_of_not_held hdesc hobject hreadable hheld count⟩

/-- The first stage is empty and ends by itself; the second one is about to become a program. -/
theorem LineStart.pipeline_end_of_file_empty_stage : ∃ h m proc,
    Run (Task.dynamics .idle .bare) (.bare .idle .empty (.pipe (.exec []) (.exec [[0x62]]))) h m ∧
      m.active? 2 = some (proc, .executing (.launch [[0x62]])) ∧
      proc.context.descriptors.get Fd.stdin = some ⟨0, false⟩ ∧
      m.store.objectOf? ⟨0, false⟩ = some (.readEnd 0) ∧ m.held (.writeEnd 0) = false := by
  let t : Command := .pipe (.exec []) (.exec [[0x62]])
  let L := LineStart.bare .idle FileSystem.pipesBelow_empty t
  have hparse : Command.parse [0x7C, 0x62] = .ok t := by
    decide +kernel
  have hreached : (Run.replay (Task.dynamics .idle .bare) [] (.bare .idle .empty t)
      [.step 0, .step 0, .step 0, .step 0, .step 0, .step 0, .step 0, .step 0, .step 1, .step 1,
        .step 1, .step 1, .step 2, .step 2, .step 2]).map (fun r => (events .idle .bare r.1,
      (r.2.active? 2).map fun s => (s.2, s.1.context.descriptors.get Fd.stdin),
      r.2.store.descriptions.map (·.object), r.2.processes.map (·.parent),
      r.2.isSettled, (r.2.active? 1).isSome)) =
        some ([.forked 0 .right 2, .forked 0 .left 1, .piped 0 0 ⟨0, false⟩ ⟨1, false⟩],
          some (.executing (.launch [[0x62]]), some ⟨0, false⟩),
          [.readEnd 0, .writeEnd 0], [0, 0, 0], true, false) := by
    decide +kernel
  obtain ⟨⟨h, m⟩, hr, hsummary⟩ := Option.map_eq_some_iff.mp hreached
  simp only [Prod.mk.injEq] at hsummary
  obtain ⟨hevents, hp, hobjects, hparents, hsettled, hended⟩ := hsummary
  obtain ⟨⟨proc, state⟩, hp, hstate⟩ := Option.map_eq_some_iff.mp hp
  obtain ⟨rfl, hstdin⟩ := Prod.mk.inj hstate
  have hrun := Run.of_replay .start hr
  have hobject (d : Descriptor) : m.store.objectOf? d =
      [Object.readEnd 0, .writeEnd 0][d.description]? := by
    rw [Store.objectOf?, ← List.getElem?_map, hobjects]
  have hpiped : .piped 0 0 ⟨0, false⟩ ⟨1, false⟩ ∈ events .idle .bare h := by
    rw [hevents]
    exact .tail _ (.tail _ (.head _))
  refine ⟨h, m, proc, hrun, hp, hstdin, hobject _, ?_⟩
  refine ((pipeline_end_of_file L hparse hrun hpiped).2 hsettled (fun x hmem => ?_)
    (fun child x hf hdesc => ?_) fun d hd => ?_).1
  · rw [hevents] at hmem
    simp at hmem
  · rw [hevents] at hf
    obtain rfl : child = 1 := by simpa using hf
    obtain rfl := hdesc.eq_of_childless fun y procy hy hparent => by
      have hmem : procy.parent ∈ m.processes.map (·.parent) :=
        List.mem_map.mpr ⟨procy, List.mem_of_getElem? hy, rfl⟩
      rw [hparents, hparent] at hmem
      simp at hmem
    simpa using hended
  · rw [hobject] at hd
    rcases hid : d.description with _ | _ | n
    · simp [hid] at hd
    · rfl
    · simp [hid] at hd

/-- Programs that leave a process behind, which goes on for ever. -/
def Userland.leaving : Userland where
  State := Option Bool
  action
    | none => .fork (some false) fun _ => some true
    | some false => .goOn (some false)
    | some true => .halt 0
  start _ := none

instance : DecidableEq Userland.leaving.State := inferInstanceAs (DecidableEq (Option Bool))

/-- The write end of a pipe may be elsewhere than with the stage before it. In `a|b>fd/0` the second
stage has opened its own standard input for writing; in `/a|b` the program of the first stage has
ended, and the process that it left behind still has the end. -/
theorem LineStart.writeEnd_elsewhere :
    (∃ files t, Command.parse [0x61, 0x7C, 0x62, 0x3E, 0x66, 0x64, 0x2F, 0x30] = .ok t ∧
        FileSystem.PipesBelow files 0 ∧ ∃ h m proc d,
          Run (Task.dynamics .idle .bare) (.bare .idle files t) h m ∧
          m.active? 2 = some (proc, .executing (.launch [[0x62]])) ∧
          proc.context.descriptors.get Fd.stdout = some d ∧
          m.store.objectOf? d = some (.writeEnd 0) ∧
          events .idle .bare h = [.opened 2 .output d, .forked 0 .right 2, .forked 0 .left 1,
            .piped 0 0 ⟨0, false⟩ ⟨1, false⟩]) ∧
      ∃ files t, Command.parse [0x2F, 0x61, 0x7C, 0x62] = .ok t ∧
        FileSystem.PipesBelow files 0 ∧ ∃ h m,
          Run (Task.dynamics .leaving .bare) (.bare .leaving files t) h m ∧
          events .leaving .bare h = [.forked 0 .right 2, .forked 0 .left 1,
            .piped 0 0 ⟨0, false⟩ ⟨1, false⟩] ∧
          m.isSettled ∧ m.endOf? 1 = some (.exited 0) ∧ m.held (.writeEnd 0) := by
  constructor
  · let files : FileSystem := ⟨[.directory 0o755 0 [([0x66, 0x64], 1)], .descriptorList 0]⟩
    let t : Command := .pipe (.exec [[0x61]])
      (.redirect (.exec [[0x62]]) [0x66, 0x64, 0x2F, 0x30] .output)
    have hreached : (Run.replay (Task.dynamics .idle .bare) [] (.bare .idle files t)
        [.step 0, .step 0, .step 0, .step 0, .step 2, .step 2, .step 2, .step 2, .step 2]).map
          (fun r => ((r.2.active? 2).map fun s => (s.2, s.1.context.descriptors.get Fd.stdout),
            r.2.store.objectOf? ⟨2, false⟩, events .idle .bare r.1)) =
        some (some (.executing (.launch [[0x62]]), some ⟨2, false⟩), some (.writeEnd 0),
          [.opened 2 .output ⟨2, false⟩, .forked 0 .right 2, .forked 0 .left 1,
            .piped 0 0 ⟨0, false⟩ ⟨1, false⟩]) := by
      decide +kernel
    obtain ⟨⟨h, m⟩, hr, hsummary⟩ := Option.map_eq_some_iff.mp hreached
    simp only [Prod.mk.injEq] at hsummary
    obtain ⟨hp, hobject, hevents⟩ := hsummary
    obtain ⟨⟨proc, state⟩, hp, hstate⟩ := Option.map_eq_some_iff.mp hp
    obtain ⟨rfl, hstdout⟩ := Prod.mk.inj hstate
    refine ⟨files, t, ?_, by simp [files, FileSystem.PipesBelow], h, m, proc, ⟨2, false⟩,
      Run.of_replay .start hr, hp, hstdout, hobject, hevents⟩
    decide +kernel
  · let files : FileSystem := ⟨[.directory 0o755 0 [([0x61], 1)], .program 0o755 [0x61]]⟩
    let t : Command := .pipe (.exec [[0x2F, 0x61]]) (.exec [[0x62]])
    have hreached : (Run.replay (Task.dynamics .leaving .bare) [] (.bare .leaving files t)
        [.step 0, .step 0, .step 0, .step 0, .step 0, .step 0, .step 0, .step 0, .step 1, .step 1,
          .step 1, .step 1, .step 1, .step 1, .step 2, .step 2, .step 2]).map
          (fun r => (events .leaving .bare r.1, r.2.isSettled, r.2.endOf? 1,
            r.2.held (.writeEnd 0))) =
        some ([.forked 0 .right 2, .forked 0 .left 1, .piped 0 0 ⟨0, false⟩ ⟨1, false⟩], true,
          some (.exited 0), true) := by
      decide +kernel
    obtain ⟨⟨h, m⟩, hr, hsummary⟩ := Option.map_eq_some_iff.mp hreached
    simp only [Prod.mk.injEq] at hsummary
    refine ⟨files, t, ?_, by simp [files, FileSystem.PipesBelow], h, m, Run.of_replay .start hr,
      hsummary⟩
    decide +kernel

end PipeShell
