import PipeShell.Proofs.Executor.Parts

/-!
# Readers that are left over

A process that waits for the sides of its pipe has closed both ends of this pipe. It still has what
it was started with, though, and a process that was started for the right side of a pipe has the
read end of that pipe as its standard input (`LineStart.reads`). So a line of three stages or more
has processes that wait with a read end open which they do not need, and these are all the ends of
pipes that are open in waiting processes (`LineStart.waiting_holds`).

Hence a pipe can outlive the stage that reads from it: the process between the two has to end as
well before nobody holds the read end. When both have, and what descends from the stage, writing to
the pipe breaks it (`LineStart.pipeline_broken_pipe`). This is all there is to do for the last pipe
of a line only, whose reading stage is that process itself. In `a||c` the first stage writes to a
pipe that nobody will ever read from, and is not told as long as the last stage runs
(`LineStart.reader_left_over`).
-/

namespace PipeShell

set_option synthInstance.maxSize 2000

variable {U : Userland} {ex : Executor} {m₀ m m' : Machine (Task U.State)}
  {h : Past (Task U.State)} {mv : Move} {p q x y : Pid} {proc proc' : Process (Task U.State)}
  {c c' : Control} {es : List Event} {w : Wiring} {input : Option Descriptor}

/-! ## Who was started with a read end -/

/-- The input that process `x` was given with a pipeline to run: that of the line, or the read end
of the pipe for whose right side it was started. -/
def LineStart.Fed (L : LineStart m₀) (es : List Event) (x : Pid) (input : Option Descriptor) :
    Prop :=
  x = L.root ∧ input = L.base Fd.stdin ∨
    ∃ q pipe readEnd writeEnd, .piped q pipe readEnd writeEnd ∈ es ∧ .forked q .right x ∈ es ∧
      input = some readEnd

/-- Where the standard input of process `x` comes from in a pipeline. Only a stage can have it from
the process that started it, for the left side of a pipe, or from a file of its own. -/
def LineStart.Reads (L : LineStart m₀) (es : List Event) (x : Pid) (w : Wiring) : Prop :=
  L.Fed es x w.input ∨ w.part.isStage ∧
    ((∃ y, .forked y .left x ∈ es ∧ L.Fed es y w.input) ∨
      ∃ d, .opened x .input d ∈ es ∧ w.input = some d)

namespace LineStart

variable (L : LineStart m₀)

theorem Fed.cons {L : LineStart m₀} (hfed : L.Fed es x input) (e : Event) :
    L.Fed (e :: es) x input :=
  hfed.imp_right fun ⟨q, pipe, readEnd, writeEnd, hp, hf, hinput⟩ =>
    ⟨q, pipe, readEnd, writeEnd, .tail _ hp, .tail _ hf, hinput⟩

theorem Reads.cons {L : LineStart m₀} (hreads : L.Reads es x w) (e : Event) :
    L.Reads (e :: es) x w := by
  rcases hreads with hfed | ⟨hstage, ⟨y, hf, hfed⟩ | ⟨d, hopened, hinput⟩⟩
  · exact Or.inl (hfed.cons e)
  · exact Or.inr ⟨hstage, Or.inl ⟨y, .tail _ hf, hfed.cons e⟩⟩
  · exact Or.inr ⟨hstage, Or.inr ⟨d, .tail _ hopened, hinput⟩⟩

theorem Reads.opens {L : LineStart m₀} (hreads : L.Reads es x w) (hshape : w.part.isPipeline)
    (direction : Direction) (d : Descriptor) :
    L.Reads (.opened x direction d :: es) x (w.opens direction d) := by
  have hreads' := hreads.cons (.opened x direction d)
  cases hpart : w.part with
  | exec | pipe =>
    have hsame : w.opens direction d = w := by cases direction <;> simp [Wiring.opens, hpart]
    rwa [hsame]
  | redirect t file direction' =>
    rw [hpart] at hshape
    have hpart' : (w.opens direction d).part = t := by
      cases direction <;> simp [Wiring.opens, hpart]
    have hstage : (w.opens direction d).part.isStage := hpart'.symm ▸ hshape
    cases direction with
    | input =>
      refine Or.inr ⟨hstage, Or.inr ⟨d, .head _, ?_⟩⟩
      simp [Wiring.opens, hpart]
    | output =>
      have hinput : (w.opens .output d).input = w.input := by simp [Wiring.opens, hpart]
      unfold Reads at hreads' ⊢
      rw [hinput]
      exact hreads'.imp_right fun hor => ⟨hstage, hor.2⟩

theorem Reads.side {L : LineStart m₀} {side : Side} {w' : Wiring} (hreads : L.Reads es p w)
    (ho : Origin L es p w) (hside : w.side? side = some w') :
    L.Reads (.forked p side x :: es) x w' := by
  unfold Wiring.side? at hside
  split at hside
  · next left right readEnd writeEnd hpart hends =>
    cases hside
    have hshape := ho.shape
    rw [hpart, Command.isPipeline, Bool.and_eq_true] at hshape
    rcases hreads with hfed | ⟨hstage, -⟩
    · exact Or.inr ⟨hshape.1, Or.inl ⟨p, .head _, hfed.cons _⟩⟩
    · rw [hpart] at hstage
      cases hstage
  · next left right readEnd writeEnd hpart hends =>
    cases hside
    obtain ⟨pipe, hp⟩ := ho.ends readEnd writeEnd hends
    exact Or.inl (Or.inr ⟨p, pipe, readEnd, writeEnd, .tail _ hp, .head _, rfl⟩)
  · cases hside

/-- Every process of a pipeline has its standard input from there. -/
theorem reads (hshape : L.tree.isPipeline) (es : List Event) :
    ∀ (x : Pid) (w : Wiring), L.wiring es x = some w → L.Reads es x w := by
  refine L.wiring_induction (Or.inl (Or.inl ⟨rfl, rfl⟩)) (fun e es x w ih hw => ?_) es
  cases hw with
  | kept e hw₀ => exact (ih x w hw₀).cons e
  | opened direction d hw₀ =>
    exact (ih x _ hw₀).opens (L.origin hshape es x _ hw₀).shape direction d
  | piped pipe readEnd writeEnd hw₀ => exact (ih x _ hw₀).cons _
  | forked p side hw₀ hside => exact (ih p _ hw₀).side (L.origin hshape es p _ hw₀) hside
  | stranded hw₀ => exact (ih x _ hw₀).cons _

/-- Who was given a read end was started for the right side of its pipe. -/
theorem forked_of_fed (hrun : Run (Task.dynamics U ex) m₀ h m) {pipe : PipeId}
    {readEnd writeEnd : Descriptor} (hp : .piped q pipe readEnd writeEnd ∈ events U ex h)
    {d : Descriptor} (hsame : d.description = readEnd.description)
    (hfed : L.Fed (events U ex h) x (some d)) : .forked q .right x ∈ events U ex h := by
  obtain ⟨hends, hnodup⟩ := pipes_new L.sound hrun
  obtain ⟨hnew, -, hread, -⟩ := hends q pipe readEnd writeEnd hp
  have hobject : m.store.objectOf? d = some (.readEnd pipe) := by
    rw [← hread, Store.objectOf?, Store.objectOf?, hsame]
  rcases hfed with ⟨-, hinput⟩ | ⟨q', pipe', readEnd', writeEnd', hp', hf, hinput⟩
  · exact absurd (L.pipe_lt_of_base hrun hinput.symm hobject rfl) (Nat.not_lt_of_le hnew)
  · cases hinput
    obtain ⟨-, -, hread', -⟩ := hends q' pipe' d writeEnd' hp'
    cases hread'.symm.trans hobject
    obtain ⟨rfl, -, -⟩ := piped_unique hnodup hp' hp
    exact hf

/-- A process of a pipeline that has passed its set-up has the read end that a pipe was made with as
its standard input only, and only if it was started for the right side of the pipe, or for the left
side of a pipe by such a process. -/
theorem readEnd_of_isSettled (hshape : L.tree.isPipeline)
    (hrun : Run (Task.dynamics U ex) m₀ h m) (hx : m.processes[x]? = some proc)
    (hlife : proc.life = .active (.executing c)) (hc : c.isSettled)
    (hforks : c.isLeaving → .stranded x ∉ events U ex h) {pipe : PipeId}
    {readEnd writeEnd : Descriptor} (hp : .piped q pipe readEnd writeEnd ∈ events U ex h)
    {fd : Fd} {d : Descriptor} (hd : proc.context.descriptors.get fd = some d)
    (hsame : d.description = readEnd.description) :
    fd = Fd.stdin ∧ (.forked q .right x ∈ events U ex h ∨
      ∃ y, .forked q .right y ∈ events U ex h ∧ .forked y .left x ∈ events U ex h) := by
  obtain ⟨w, hw, hst, htable⟩ := L.table_of_isSettled hrun hx hlife hc hforks hp
  obtain ⟨hnew, -, hread, -⟩ := (pipes_new L.sound hrun).1 q pipe readEnd writeEnd hp
  have hobject : m.store.objectOf? d = some (.readEnd pipe) := by
    rw [← hread, Store.objectOf?, Store.objectOf?, hsame]
  have hbase {fd : Fd} (hd : L.base fd = some d) : False :=
    absurd (L.pipe_lt_of_base hrun hd hobject rfl) (Nat.not_lt_of_le hnew)
  have hopens {direction : Direction} (hopened : .opened x direction d ∈ events U ex h) :
      False :=
    ((L.apart hrun).1 x direction d hopened).neRead q pipe readEnd writeEnd hp hsame
  rw [htable, w.table_apply] at hd
  split at hd
  · next h0 =>
    refine ⟨h0, ?_⟩
    rcases L.reads hshape (events U ex h) x w hw with hfed | ⟨-, ⟨y, hf, hfed⟩ |
      ⟨d', hopened, hinput⟩⟩
    · exact Or.inl (L.forked_of_fed hrun hp hsame (hd ▸ hfed))
    · exact Or.inr ⟨y, L.forked_of_fed hrun hp hsame (hd ▸ hfed), hf⟩
    · cases hinput.symm.trans hd
      exact (hopens hopened).elim
  · split at hd
    · rcases (L.origin hshape (events U ex h) x w hw).output with houtput |
        ⟨-, ⟨q', pipe', readEnd', writeEnd', hp', -, houtput⟩ | ⟨d', hopened, houtput⟩⟩
      · exact (hbase (houtput ▸ hd)).elim
      · cases houtput.symm.trans hd
        obtain ⟨-, -, -, hwrite⟩ := (pipes_new L.sound hrun).1 q' pipe' readEnd' d hp'
        cases hwrite.symm.trans hobject
      · cases houtput.symm.trans hd
        exact (hopens hopened).elim
    · exact (hbase hd).elim

end LineStart

/-! ## Processes that wait -/

/-- Whether a process waits for one of the sides of its pipe, or is through with both. -/
def Control.isWaiting : Control → Bool
  | waitLeft .. | waitRight .. | connected .. => true
  | noting _ _ next => next.isWaiting
  | _ => false

theorem Control.isSettled_of_isWaiting (hc : c.isWaiting) : c.isSettled := by
  induction c with
  | noting _ _ _ ih => exact ih hc
  | waitLeft | waitRight | connected => rfl
  | _ => cases hc

theorem Control.not_isLeaving_of_isWaiting (hc : c.isWaiting) : c.isLeaving = false := by
  induction c with
  | noting _ _ _ ih => exact ih hc
  | waitLeft | waitRight | connected => rfl
  | _ => cases hc

/-- A process that waits has started both sides of its pipe. -/
theorem Control.Sides.paired_of_isWaiting {pipes : List (Descriptor × Descriptor)}
    {started : List (Side × Pid)} {ended : Pid → ExitStatus → Prop}
    (hs : c.Sides pipes started ended) (hc : c.isWaiting) :
    ∃ left right, Paired pipes started left right := by
  induction c with
  | noting _ _ _ ih => exact ih hs hc
  | waitLeft left right => exact ⟨left, right, hs⟩
  | waitRight leftCode right =>
    obtain ⟨left, -, hpair, -⟩ := hs
    exact ⟨left, right, hpair⟩
  | connected =>
    obtain ⟨left, right, -, -, hpair, -⟩ := hs
    exact ⟨left, right, hpair⟩
  | _ => cases hc

namespace LineStart

variable (L : LineStart m₀)

/-- A process that waits in a pipeline runs a pipe, and has open what its wiring says. -/
theorem pipe_of_isWaiting (hrun : Run (Task.dynamics U ex) m₀ h m)
    (hx : m.processes[x]? = some proc) (hlife : proc.life = .active (.executing c))
    (hc : c.isWaiting) : ∃ w left right, L.wiring (events U ex h) x = some w ∧
      w.part = .pipe left right ∧ proc.context.descriptors.get = w.table L.base := by
  have hstay := Control.not_isLeaving_of_isWaiting hc
  have hforks : .stranded x ∉ events U ex h := fun hmem => by
    rw [(isLeaving_of_stranded hrun hmem).2 proc c hx hlife] at hstay
    cases hstay
  obtain ⟨left, right, -, hstarted⟩ :=
    ((L.sides hrun x proc hx hforks).1 c hlife).paired_of_isWaiting hc
  have hf : .forked x .left left ∈ events U ex h :=
    mem_startedOf.mp (hstarted ▸ .tail _ (.head _))
  obtain ⟨pipe, readEnd, writeEnd, hp⟩ := L.piped_of_forked hrun hf
  obtain ⟨w, hw, -, htable⟩ := L.table_of_isSettled hrun hx hlife
    (Control.isSettled_of_isWaiting hc) (fun _ => hforks) hp
  obtain ⟨w₀, w', hw₀, hside, -⟩ := L.given_of_forked hrun hf
  obtain rfl := Option.some.inj (hw.symm.trans hw₀)
  unfold Wiring.side? at hside
  split at hside
  · next hpart _ _ => exact ⟨w, _, _, hw, hpart, htable⟩
  · next hpart _ _ => exact ⟨w, _, _, hw, hpart, htable⟩
  · cases hside

/-- Of all pipes that were made since the line was started, a process that waits holds one end at
most. It holds none if it is the first process of the line. Otherwise it holds the read end of the
pipe for whose right side it was started, as its standard input. -/
theorem waiting_holds (hshape : L.tree.isPipeline) (hrun : Run (Task.dynamics U ex) m₀ h m)
    (hx : m.processes[x]? = some proc) (hlife : proc.life = .active (.executing c))
    (hc : c.isWaiting) :
    (∀ fd d object pipe, proc.context.descriptors.get fd = some d →
        m.store.objectOf? d = some object → object.pipe? = some pipe →
        m₀.store.pipes.length ≤ pipe → x ≠ L.root ∧ fd = Fd.stdin) ∧
      (x ≠ L.root → ∃ q pipe readEnd writeEnd, .piped q pipe readEnd writeEnd ∈ events U ex h ∧
        .forked q .right x ∈ events U ex h ∧
        proc.context.descriptors.get Fd.stdin = some readEnd ∧
        m.store.objectOf? readEnd = some (.readEnd pipe) ∧ m.held (.readEnd pipe)) := by
  obtain ⟨w, left, right, hw, hpart, htable⟩ := L.pipe_of_isWaiting hrun hx hlife hc
  have hfed : L.Fed (events U ex h) x w.input := by
    rcases L.reads hshape (events U ex h) x w hw with hfed | ⟨hstage, -⟩
    · exact hfed
    · rw [hpart] at hstage
      cases hstage
  have houtput := (L.origin hshape (events U ex h) x w hw).output_of_pipe hpart
  refine ⟨fun fd d object pipe hd hobject hpipe hnew => ?_, fun hroot => ?_⟩
  · have hbase {fd : Fd} (hd : L.base fd = some d) : False :=
      absurd (L.pipe_lt_of_base hrun hd hobject hpipe) (Nat.not_lt_of_le hnew)
    rw [htable, w.table_apply] at hd
    split at hd
    · next h0 =>
      refine ⟨?_, h0⟩
      rintro rfl
      rcases hfed with ⟨-, hinput⟩ | ⟨q, _, _, _, -, hf, -⟩
      · exact hbase (hinput ▸ hd)
      · obtain ⟨hle, -⟩ := child_of_forked hrun hf
        exact absurd (List.getElem?_eq_some_iff.mp L.process).1 (Nat.not_lt_of_le hle)
    · split at hd
      · exact (hbase (houtput ▸ hd)).elim
      · exact (hbase hd).elim
  · obtain ⟨q, pipe, readEnd, writeEnd, hp, hf, hinput⟩ :=
      hfed.resolve_left fun hand => hroot hand.1
    obtain ⟨-, -, hread, -⟩ := (pipes_new L.sound hrun).1 q pipe readEnd writeEnd hp
    have hd : proc.context.descriptors.get Fd.stdin = some readEnd := by
      rw [htable, w.table_apply, hinput]
      rfl
    exact ⟨q, pipe, readEnd, writeEnd, hp, hf, hd, hread, Machine.held_of_get hx hd hread⟩

end LineStart

/-! ## Who holds a read end -/

/-- Process `y` was started for the stage after the pipe of process `q`: by the process for the
right side of this pipe, or it is that process, if that one has started nobody. -/
def StageAfter (es : List Event) (q y : Pid) : Prop :=
  ∃ x, .forked q .right x ∈ es ∧ (.forked x .left y ∈ es ∨ y = x ∧ startedOf es x = [])

/-- Who becomes a program with a read end open was started for the stage after the pipe. -/
theorem LineStart.goesWith_readEnd (L : LineStart m₀) (hshape : L.tree.isPipeline) {pipe : PipeId}
    {readEnd writeEnd : Descriptor} :
    GoesWith U ex m₀ (.piped q pipe readEnd writeEnd) readEnd.description fun h m x =>
      ∃ y, ((∃ z, .forked q .right z ∈ events U ex h ∧ .forked z .left y ∈ events U ex h) ∨
        .forked q .right y ∈ events U ex h ∧ startedOf (events U ex h) y = [] ∧
          ∀ proc c, m.processes[y]? = some proc → proc.life ≠ .active (.executing c)) ∧
        m.Descends y x where
  become {h m m' x proc proc' argv s fd d} hrun hp hm hx hlife hd hsame hx' hlife' := by
    refine ⟨x, ?_, .self⟩
    have hforks : .stranded x ∉ events U ex h := fun hmem => by
      cases (isLeaving_of_stranded hrun hmem).2 proc _ hx hlife
    rcases (L.readEnd_of_isSettled hshape hrun hx hlife rfl (fun _ => hforks) hp hd hsame).2 with
      hf | ⟨y, hf, hf'⟩
    · have hs : pipesOf _ x = [] ∧ startedOf _ x = [] := (L.sides hrun x proc hx hforks).1 _ hlife
      refine Or.inr ⟨mem_events_cons.mpr (Or.inr hf), ?_, fun proc₁ c hx₁ hlife₁ => ?_⟩
      · rw [startedOf_step hx hlife, hs.2]
        rfl
      · obtain rfl := Option.some.inj (hx'.symm.trans hx₁)
        cases hlife'.symm.trans hlife₁
    · exact Or.inl ⟨y, mem_events_cons.mpr (Or.inr hf), mem_events_cons.mpr (Or.inr hf')⟩
  keep {h m mv m' x} hrun hm _ := by
    rintro ⟨y, ⟨z, hf, hf'⟩ | ⟨hf, hnone, hother⟩, hdesc⟩
    · exact ⟨y, Or.inl ⟨z, mem_events_cons.mpr (Or.inr hf), mem_events_cons.mpr (Or.inr hf')⟩,
        hdesc.make? hm⟩
    · obtain ⟨-, -, procy, hy, -⟩ := child_of_forked hrun hf
      refine ⟨y, Or.inr ⟨mem_events_cons.mpr (Or.inr hf), ?_, fun proc' c hy' => ?_⟩,
        hdesc.make? hm⟩
      · rw [(done_of_ne ex h mv fun _ => hother).2, hnone]
      · exact Machine.not_executing_of_make? hm hy (fun c => hother procy c hy) hy' c
  start hx := fun ⟨y, hwho, hdesc⟩ => ⟨y, hwho, .child hx hdesc⟩

/-! ## Broken pipes -/

/-- Writing to a pipe whose read end nobody holds never waits: the writer is ended by a signal, or
told that the pipe is broken if it does something else about the signal. -/
theorem Store.write_of_not_held {s : Store} {context : Context} {held : Object → Bool} {fd : Fd}
    {id : DescriptionId} {desc : Description} {pipe : PipeId}
    (h : s.description? context fd = some (id, desc)) (hobject : desc.object = .writeEnd pipe)
    (hwritable : desc.writable) (hheld : held (.readEnd pipe) = false) (data : Bytes) :
    (context.disposition pipeSignal = .untouched →
        s.write context held fd data = .killed pipeSignal) ∧
      (context.disposition pipeSignal ≠ .untouched →
        ∃ context', s.write context held fd data = .done (.error .brokenPipe) s context') := by
  simp only [write, h, hobject, hwritable, hheld]
  cases context.disposition pipeSignal <;> simp

/-- In a pipeline, a process that waits for the sides of its pipe holds no end of it, nor of any
other pipe of the line, except that a process which was started for the right side of a pipe keeps
its read end. So when all processes have passed their set-up, nobody holds the read end of a pipe if
also the process for its right side has ended, and the stage after the pipe with all that descends
from it, and nobody opened the end anew; whoever writes to the pipe then finds it broken. A process
that leaves because it could not create another is through with its set-up only when it has ended.
-/
theorem LineStart.pipeline_broken_pipe (L : LineStart m₀) {line : Bytes}
    (hparse : Command.parse line = .ok L.tree) (hrun : Run (Task.dynamics U ex) m₀ h m) :
    (∀ x proc c, m.active? x = some (proc, .executing c) → c.isWaiting →
      (∀ fd d object pipe, proc.context.descriptors.get fd = some d →
        m.store.objectOf? d = some object → object.pipe? = some pipe →
        m₀.store.pipes.length ≤ pipe → x ≠ L.root ∧ fd = Fd.stdin) ∧
      (x ≠ L.root → ∃ q pipe readEnd writeEnd, .piped q pipe readEnd writeEnd ∈ events U ex h ∧
        .forked q .right x ∈ events U ex h ∧
        proc.context.descriptors.get Fd.stdin = some readEnd ∧
        m.store.objectOf? readEnd = some (.readEnd pipe) ∧ m.held (.readEnd pipe))) ∧
    ∀ q pipe readEnd writeEnd, .piped q pipe readEnd writeEnd ∈ events U ex h → m.isSettled →
      (∀ x, .stranded x ∈ events U ex h → m.active? x = none) →
      (∀ x, .forked q .right x ∈ events U ex h → m.active? x = none) →
      (∀ y x, StageAfter (events U ex h) q y → m.Descends y x → m.active? x = none) →
      (∀ d, m.store.objectOf? d = some (.readEnd pipe) → d.description = readEnd.description) →
      m.held (.readEnd pipe) = false ∧
        ∀ context fd id desc data, m.store.description? context fd = some (id, desc) →
          desc.object = .writeEnd pipe → desc.writable →
          (context.disposition pipeSignal = .untouched →
              m.store.write context m.held fd data = .killed pipeSignal) ∧
            (context.disposition pipeSignal ≠ .untouched →
              ∃ context', m.store.write context m.held fd data =
                .done (.error .brokenPipe) m.store context') := by
  have hshape := Command.isPipeline_of_parse hparse
  refine ⟨fun x proc c hactive hc => ?_,
    fun q pipe readEnd writeEnd hp hsettled hforks hright hstage hsole => ?_⟩
  · obtain ⟨hx, hlife⟩ := Machine.active?_eq_some.mp hactive
    exact L.waiting_holds hshape hrun hx hlife hc
  have hheld : m.held (.readEnd pipe) = false := by
    rw [Bool.eq_false_iff]
    intro hheld
    obtain ⟨x, proc, fd, d, hx, hd, hobject⟩ := Machine.exists_of_held hheld
    have hsame := hsole d hobject
    obtain ⟨state, hlife, hwho⟩ :=
      L.holder_of (Or.inl rfl) (L.goesWith_readEnd hshape) hrun hp hx hd hsame
    have hactive := Machine.active?_eq_some.mpr ⟨hx, hlife⟩
    have hended : m.active? x = none := by
      rcases hwho with ⟨c, rfl⟩ | ⟨y, ⟨z, hf, hf'⟩ | ⟨hf, hnone, -⟩, hdesc⟩
      · have hc := Machine.isSettled_of_active hsettled hx hlife
        have hforks' (_ : c.isLeaving) : .stranded x ∉ events U ex h := fun hmem => by
          rw [hforks x hmem] at hactive
          cases hactive
        rcases (L.readEnd_of_isSettled hshape hrun hx hlife hc hforks' hp hd hsame).2 with
          hf | ⟨y, hf, hf'⟩
        · exact hright x hf
        · exact hstage x x ⟨y, hf, Or.inl hf'⟩ .self
      · exact hstage y x ⟨z, hf, Or.inl hf'⟩ hdesc
      · exact hstage y x ⟨y, hf, Or.inr ⟨rfl, hnone⟩⟩ hdesc
    rw [hended] at hactive
    cases hactive
  exact ⟨hheld, fun context fd id desc data hdesc hobject hwritable =>
    Store.write_of_not_held hdesc hobject hwritable hheld data⟩

/-- In `a|b` there is no program for the second stage, which has ended; the first one is about to
become a program and will find its pipe broken. -/
theorem LineStart.pipeline_broken_pipe_missing_program : ∃ h m proc,
    Run (Task.dynamics .idle .bare)
      (.bare .idle .empty (.pipe (.exec [[0x61]]) (.exec [[0x62]]))) h m ∧
      m.active? 1 = some (proc, .executing (.launch [[0x61]])) ∧
      proc.context.descriptors.get Fd.stdout = some ⟨1, false⟩ ∧
      m.store.objectOf? ⟨1, false⟩ = some (.writeEnd 0) ∧ m.held (.readEnd 0) = false := by
  let t : Command := .pipe (.exec [[0x61]]) (.exec [[0x62]])
  let L := LineStart.bare .idle FileSystem.pipesBelow_empty t
  have hparse : Command.parse [0x61, 0x7C, 0x62] = .ok t := by
    decide +kernel
  have hreached : (Run.replay (Task.dynamics .idle .bare) [] (.bare .idle .empty t)
      [.step 0, .step 0, .step 0, .step 0, .step 0, .step 0, .step 0, .step 0, .step 1, .step 1,
        .step 1, .step 2, .step 2, .step 2, .step 2, .step 2, .step 2, .step 2, .step 2, .step 2,
        .step 2, .step 2]).map
          (fun r => (events .idle .bare r.1,
            (r.2.active? 1).map fun s => (s.2, s.1.context.descriptors.get Fd.stdout),
            r.2.store.descriptions.map (·.object), r.2.processes.map (·.parent),
            r.2.isSettled, (r.2.active? 2).isSome)) =
        some ([.forked 0 .right 2, .forked 0 .left 1, .piped 0 0 ⟨0, false⟩ ⟨1, false⟩],
          some (.executing (.launch [[0x61]]), some ⟨1, false⟩),
          [.readEnd 0, .writeEnd 0], [0, 0, 0], true, false) := by
    decide +kernel
  obtain ⟨⟨h, m⟩, hr, hsummary⟩ := Option.map_eq_some_iff.mp hreached
  simp only [Prod.mk.injEq] at hsummary
  obtain ⟨hevents, hp, hobjects, hparents, hsettled, hended⟩ := hsummary
  obtain ⟨⟨proc, state⟩, hp, hstate⟩ := Option.map_eq_some_iff.mp hp
  obtain ⟨rfl, hstdout⟩ := Prod.mk.inj hstate
  have hrun := Run.of_replay .start hr
  have hobject (d : Descriptor) : m.store.objectOf? d =
      [Object.readEnd 0, .writeEnd 0][d.description]? := by
    rw [Store.objectOf?, ← List.getElem?_map, hobjects]
  have hpiped : .piped 0 0 ⟨0, false⟩ ⟨1, false⟩ ∈ events .idle .bare h := by
    rw [hevents]
    exact .tail _ (.tail _ (.head _))
  refine ⟨h, m, proc, hrun, hp, hstdout, hobject _, ?_⟩
  refine ((pipeline_broken_pipe L hparse hrun).2 0 0 ⟨0, false⟩ ⟨1, false⟩ hpiped hsettled
    (fun x hmem => ?_) (fun x hf => ?_) (fun y x hstage hdesc => ?_) fun d hd => ?_).1
  · rw [hevents] at hmem
    simp at hmem
  · rw [hevents] at hf
    obtain rfl : x = 2 := by simpa using hf
    simpa using hended
  · rw [hevents] at hstage
    obtain ⟨rfl, -⟩ : y = 2 ∧ _ := by simpa [StageAfter] using hstage
    obtain rfl := hdesc.eq_of_childless fun y procy hy hparent => by
      have hmem : procy.parent ∈ m.processes.map (·.parent) :=
        List.mem_map.mpr ⟨procy, List.mem_of_getElem? hy, rfl⟩
      rw [hparents, hparent] at hmem
      simp at hmem
    simpa using hended
  · rw [hobject] at hd
    rcases hid : d.description with _ | _ | n
    · rfl
    · simp [hid] at hd
    · simp [hid] at hd

/-- The answer to a call that is over. -/
def Outcome.reply? {ρ : Type} : Outcome ρ → Option ρ
  | done reply .. => some reply
  | underway .. | blocked | killed _ => none

theorem Outcome.exists_of_reply? {ρ : Type} {o : Outcome ρ} {reply : ρ}
    (h : o.reply? = some reply) : ∃ store context, o = .done reply store context := by
  cases o with
  | done reply' store context =>
    cases h
    exact ⟨store, context, rfl⟩
  | underway | blocked | killed => cases h

/-- In `a||c` the second stage is empty and has ended. The process that waits for it and for the
last stage has the read end of the first pipe open all the same, so the first stage can write to
this pipe. -/
theorem LineStart.reader_left_over : ∃ t, Command.parse [0x61, 0x7C, 0x7C, 0x63] = .ok t ∧
    ∃ h m writer waiter, Run (Task.dynamics .idle .bare) (.bare .idle .empty t) h m ∧ m.isSettled ∧
      .piped 0 0 ⟨0, false⟩ ⟨1, false⟩ ∈ events .idle .bare h ∧
      (∀ y x, StageAfter (events .idle .bare h) 0 y → m.Descends y x → m.active? x = none) ∧
      m.active? 2 = some (waiter, .executing (.waitLeft 3 4)) ∧
      waiter.context.descriptors.get Fd.stdin = some ⟨0, false⟩ ∧
      m.store.objectOf? ⟨0, false⟩ = some (.readEnd 0) ∧ m.held (.readEnd 0) ∧
      m.active? 1 = some (writer, .executing (.launch [[0x61]])) ∧
      ∃ store context, m.store.write writer.context m.held Fd.stdout [0x61] =
        .done (.ok 1) store context := by
  let t : Command := .pipe (.exec [[0x61]]) (.pipe (.exec []) (.exec [[0x63]]))
  have hparse : Command.parse [0x61, 0x7C, 0x7C, 0x63] = .ok t := by
    decide +kernel
  have hreached : (Run.replay (Task.dynamics .idle .bare) [] (.bare .idle .empty t)
      [.step 0, .step 0, .step 0, .step 0, .step 0, .step 0, .step 0, .step 0, .step 1, .step 1,
        .step 1, .step 2, .step 2, .step 2, .step 2, .step 2, .step 2, .step 2, .step 2, .step 2,
        .step 3, .step 3, .step 3, .step 3, .step 3, .step 3, .step 4, .step 4, .step 4, .step 4,
        .step 4]).map (fun r => (events .idle .bare r.1,
          (r.2.active? 2).map fun s => (s.2, s.1.context.descriptors.get Fd.stdin),
          (r.2.active? 1).map fun s =>
            (s.2, (r.2.store.write s.1.context r.2.held Fd.stdout [0x61]).reply?),
          r.2.store.objectOf? ⟨0, false⟩, r.2.processes.map (·.parent), r.2.isSettled,
          (r.2.active? 3).isSome, r.2.held (.readEnd 0))) =
        some ([.forked 2 .right 4, .forked 2 .left 3, .piped 2 1 ⟨2, false⟩ ⟨3, false⟩,
            .forked 0 .right 2, .forked 0 .left 1, .piped 0 0 ⟨0, false⟩ ⟨1, false⟩],
          some (.executing (.waitLeft 3 4), some ⟨0, false⟩),
          some (.executing (.launch [[0x61]]), some (.ok 1)), some (.readEnd 0), [0, 0, 0, 2, 2],
          true, false, true) := by
    decide +kernel
  obtain ⟨⟨h, m⟩, hr, hsummary⟩ := Option.map_eq_some_iff.mp hreached
  simp only [Prod.mk.injEq] at hsummary
  obtain ⟨hevents, hwaiter, hwriter, hobject, hparents, hsettled, hended, hheld⟩ := hsummary
  obtain ⟨⟨waiter, state⟩, hwaiter, hstate⟩ := Option.map_eq_some_iff.mp hwaiter
  obtain ⟨rfl, hstdin⟩ := Prod.mk.inj hstate
  obtain ⟨⟨writer, state⟩, hwriter, hstate⟩ := Option.map_eq_some_iff.mp hwriter
  obtain ⟨rfl, hwrite⟩ := Prod.mk.inj hstate
  refine ⟨t, hparse, h, m, writer, waiter, Run.of_replay .start hr, hsettled, ?_,
    fun y x hstage hdesc => ?_, hwaiter, hstdin, hobject, hheld, hwriter, ?_⟩
  · rw [hevents]
    simp
  · rw [hevents] at hstage
    obtain rfl : y = 3 := by simpa [StageAfter, startedOf, Event.started?, Event.mover] using hstage
    obtain rfl := hdesc.eq_of_childless fun z procz hz hparent => by
      have hmem : procz.parent ∈ m.processes.map (·.parent) :=
        List.mem_map.mpr ⟨procz, List.mem_of_getElem? hz, rfl⟩
      rw [hparents, hparent] at hmem
      simp at hmem
    simpa using hended
  · exact Outcome.exists_of_reply? hwrite

end PipeShell
