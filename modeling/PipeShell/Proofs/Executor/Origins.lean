import PipeShell.Proofs.Command.Shape
import PipeShell.Proofs.Executor.Wiring

/-!
# Where standard input and output come from

In a pipeline, the wiring of a process has an `Origin`: its standard output is that of the line, or
the write end of the pipe for whose left side it was started, or a file that it opened itself; and
likewise for its standard input. Such a file is `Apart` from the ends that the pipes of the line
were made with (`LineStart.apart`), even if opening it led to one of these pipes again.
-/

namespace PipeShell

variable {U : Userland} {ex : Executor} {m₀ m m' : Machine (Task U.State)}
  {h : Past (Task U.State)} {mv : Move} {p x : Pid} {proc proc' : Process (Task U.State)}
  {c c' : Control} {es : List Event} {w : Wiring}

/-! ## Where standard input and output come from -/

/-- Where the wiring of process `x` comes from in a pipeline. Only what is no pipe itself can have
the write end of a pipe, or a file, as its standard output. -/
structure Origin (L : LineStart m₀) (es : List Event) (x : Pid) (w : Wiring) : Prop where
  shape : w.part.isPipeline
  output : w.output = L.base Fd.stdout ∨ w.part.isStage ∧
    ((∃ q pipe readEnd writeEnd, .piped q pipe readEnd writeEnd ∈ es ∧ .forked q .left x ∈ es ∧
        w.output = some writeEnd) ∨
      ∃ d, .opened x .output d ∈ es ∧ w.output = some d)
  input : w.input = L.base Fd.stdin ∨
    (∃ q pipe readEnd writeEnd, .piped q pipe readEnd writeEnd ∈ es ∧ w.input = some readEnd) ∨
    w.part.isStage ∧ ∃ d, .opened x .input d ∈ es ∧ w.input = some d
  ends : ∀ readEnd writeEnd, w.ends = some (readEnd, writeEnd) →
    ∃ pipe, .piped x pipe readEnd writeEnd ∈ es

namespace Origin

variable {L : LineStart m₀}

theorem cons (ho : Origin L es x w) (e : Event) : Origin L (e :: es) x w := by
  refine ⟨ho.shape, ?_, ?_, fun readEnd writeEnd hends => ?_⟩
  · rcases ho.output with hbase | ⟨hstage, ⟨q, pipe, readEnd, writeEnd, hp, hf, hw⟩ | ⟨d, hd, hw⟩⟩
    · exact Or.inl hbase
    · exact Or.inr ⟨hstage, Or.inl ⟨q, pipe, readEnd, writeEnd, .tail _ hp, .tail _ hf, hw⟩⟩
    · exact Or.inr ⟨hstage, Or.inr ⟨d, .tail _ hd, hw⟩⟩
  · rcases ho.input with hbase | ⟨q, pipe, readEnd, writeEnd, hp, hw⟩ | ⟨hstage, d, hd, hw⟩
    · exact Or.inl hbase
    · exact Or.inr (Or.inl ⟨q, pipe, readEnd, writeEnd, .tail _ hp, hw⟩)
    · exact Or.inr (Or.inr ⟨hstage, d, .tail _ hd, hw⟩)
  · obtain ⟨pipe, hp⟩ := ho.ends readEnd writeEnd hends
    exact ⟨pipe, .tail _ hp⟩

theorem opens (ho : Origin L es x w) (direction : Direction) (d : Descriptor) :
    Origin L (.opened x direction d :: es) x (w.opens direction d) := by
  have ho' := ho.cons (.opened x direction d)
  cases hpart : w.part with
  | exec | pipe =>
    have hsame : w.opens direction d = w := by cases direction <;> simp [Wiring.opens, hpart]
    rwa [hsame]
  | redirect t file direction' =>
    have hstage : t.isStage := by
      have hshape := ho.shape
      rw [hpart] at hshape
      exact hshape
    have hstage' : w.part.isStage := hpart ▸ hstage
    cases direction with
    | input =>
      have heq : w.opens .input d = { w with part := t, input := some d } := by
        simp [Wiring.opens, hpart]
      rw [heq]
      refine ⟨Command.isPipeline_of_isStage hstage, ?_, ?_, ho'.ends⟩
      · exact ho'.output.imp_right fun hor => ⟨hstage, hor.2⟩
      · exact Or.inr (Or.inr ⟨hstage, d, .head _, rfl⟩)
    | output =>
      have heq : w.opens .output d = { w with part := t, output := some d } := by
        simp [Wiring.opens, hpart]
      rw [heq]
      refine ⟨Command.isPipeline_of_isStage hstage, ?_, ?_, ho'.ends⟩
      · exact Or.inr ⟨hstage, Or.inr ⟨d, .head _, rfl⟩⟩
      · exact ho'.input.imp_right (Or.imp_right fun hand => ⟨hstage, hand.2⟩)

/-- A pipe is no stage, so its process was given its standard output at the start of the line. -/
theorem output_of_pipe (ho : Origin L es x w) {left right : Command}
    (hpart : w.part = .pipe left right) : w.output = L.base Fd.stdout := by
  refine ho.output.resolve_right fun ⟨hstage, _⟩ => ?_
  rw [hpart] at hstage
  cases hstage

theorem side (ho : Origin L es p w) {side : Side} {child : Pid} {w' : Wiring}
    (hside : w.side? side = some w') : Origin L (.forked p side child :: es) child w' := by
  unfold Wiring.side? at hside
  split at hside
  · next left right readEnd writeEnd hpart hends =>
    cases hside
    have hshape := ho.shape
    rw [hpart, Command.isPipeline, Bool.and_eq_true] at hshape
    obtain ⟨pipe, hpiped⟩ := ho.ends readEnd writeEnd hends
    refine ⟨Command.isPipeline_of_isStage hshape.1, ?_, ?_, fun _ _ h => by cases h⟩
    · exact Or.inr ⟨hshape.1, Or.inl ⟨p, pipe, readEnd, writeEnd, .tail _ hpiped, .head _, rfl⟩⟩
    · rcases ho.input with hbase | ⟨q, pipe, readEnd, writeEnd, hp, hw⟩ | ⟨hstage, -⟩
      · exact Or.inl hbase
      · exact Or.inr (Or.inl ⟨q, pipe, readEnd, writeEnd, .tail _ hp, hw⟩)
      · rw [hpart] at hstage
        cases hstage
  · next left right readEnd writeEnd hpart hends =>
    cases hside
    have hshape := ho.shape
    rw [hpart, Command.isPipeline, Bool.and_eq_true] at hshape
    obtain ⟨pipe, hpiped⟩ := ho.ends readEnd writeEnd hends
    refine ⟨hshape.2, Or.inl (ho.output_of_pipe hpart), ?_, fun _ _ h => by cases h⟩
    exact Or.inr (Or.inl ⟨p, pipe, readEnd, writeEnd, .tail _ hpiped, rfl⟩)
  · cases hside

end Origin

/-- How the wiring of a process comes about when an event is added. -/
inductive LineStart.Wired (L : LineStart m₀) (es : List Event) (x : Pid) : Event → Wiring → Prop
  | kept (e : Event) {w : Wiring} (hw : L.wiring es x = some w) : Wired L es x e w
  | opened (direction : Direction) (d : Descriptor) {w : Wiring} (hw : L.wiring es x = some w) :
    Wired L es x (.opened x direction d) (w.opens direction d)
  | piped (pipe : PipeId) (readEnd writeEnd : Descriptor) {w : Wiring}
    (hw : L.wiring es x = some w) :
    Wired L es x (.piped x pipe readEnd writeEnd) { w with ends := some (readEnd, writeEnd) }
  | forked (p : Pid) (side : Side) {w w' : Wiring} (hw : L.wiring es p = some w)
    (hside : w.side? side = some w') : Wired L es x (.forked p side x) w'
  | stranded {w : Wiring} (hw : L.wiring es x = some w) :
    Wired L es x (.stranded x) { w with stranded := true }

theorem LineStart.wired (L : LineStart m₀) {e : Event} (hw : L.wiring (e :: es) x = some w) :
    L.Wired es x e w := by
  replace hw : e.after (L.wiring es) x = some w := hw
  have advanced (h : Function.update (L.wiring es) e.mover
      ((L.wiring es e.mover).map fun w => e.advance w) x = some w) :
      L.wiring es x = some w ∨
        e.mover = x ∧ ∃ w₀, L.wiring es x = some w₀ ∧ e.advance w₀ = w := by
    rw [Function.update_apply] at h
    split at h
    · next hx =>
      subst hx
      exact Or.inr ⟨rfl, Option.map_eq_some_iff.mp h⟩
    · exact Or.inl h
  cases e with
  | forked p side child =>
    simp only [Event.after, Function.update_apply] at hw
    split at hw
    · next hx =>
      subst hx
      obtain ⟨w₀, hw₀, hside⟩ := Option.bind_eq_some_iff.mp hw
      exact .forked p side hw₀ hside
    · exact .kept _ hw
  | opened p direction d =>
    rcases advanced hw with hw | ⟨rfl, w₀, hw₀, rfl⟩
    · exact .kept _ hw
    · exact .opened direction d hw₀
  | piped p pipe readEnd writeEnd =>
    rcases advanced hw with hw | ⟨rfl, w₀, hw₀, rfl⟩
    · exact .kept _ hw
    · exact .piped pipe readEnd writeEnd hw₀
  | stranded p =>
    rcases advanced hw with hw | ⟨rfl, w₀, hw₀, rfl⟩
    · exact .kept _ hw
    · exact .stranded hw₀
  | reaped p child =>
    rcases advanced hw with hw | ⟨-, w₀, hw₀, rfl⟩
    · exact .kept _ hw
    · exact .kept _ hw₀

/-- What holds of the wiring that a line starts with, and of every wiring that comes about while it
holds of all, holds of every wiring. -/
theorem LineStart.wiring_induction (L : LineStart m₀) {P : List Event → Pid → Wiring → Prop}
    (start : P [] L.root L.whole)
    (next : ∀ e es x w, (∀ y w, L.wiring es y = some w → P es y w) → L.Wired es x e w →
      P (e :: es) x w)
    (es : List Event) : ∀ (x : Pid) (w : Wiring), L.wiring es x = some w → P es x w := by
  induction es with
  | nil =>
    intro x w hw
    by_cases hx : x = L.root
    · subst hx
      rw [L.wiring_nil_root] at hw
      cases hw
      exact start
    · simp [wiring, hx] at hw
  | cons e es ih => exact fun x w hw => next e es x w ih (L.wired hw)

/-- The wiring of every process of a pipeline has an origin. -/
theorem LineStart.origin (L : LineStart m₀) (hshape : L.tree.isPipeline) (es : List Event) :
    ∀ (x : Pid) (w : Wiring), L.wiring es x = some w → Origin L es x w := by
  refine L.wiring_induction ⟨hshape, Or.inl rfl, Or.inl rfl, fun _ _ h => by cases h⟩
    (fun e es x w ih hw => ?_) es
  cases hw with
  | kept e hw₀ => exact (ih x w hw₀).cons e
  | opened direction d hw₀ => exact (ih x _ hw₀).opens direction d
  | piped pipe readEnd writeEnd hw₀ =>
    have ho := (ih x _ hw₀).cons (.piped x pipe readEnd writeEnd)
    refine ⟨ho.shape, ho.output, ho.input, fun _ _ h => ⟨pipe, ?_⟩⟩
    cases h
    exact .head _
  | forked p side hw₀ hside => exact (ih p _ hw₀).side hside
  | stranded hw₀ =>
    have ho := (ih x _ hw₀).cons (.stranded x)
    exact ⟨ho.shape, ho.output, ho.input, ho.ends⟩

/-- The wiring knows who could not create a process. -/
theorem LineStart.mem_of_stranded (L : LineStart m₀) (es : List Event) :
    ∀ (x : Pid) (w : Wiring), L.wiring es x = some w → w.stranded = true → .stranded x ∈ es := by
  refine L.wiring_induction (P := fun es x w => w.stranded = true → .stranded x ∈ es)
    (fun h => by cases h) (fun e es x w ih hw hstranded => ?_) es
  cases hw with
  | kept e hw₀ => exact .tail _ (ih x _ hw₀ hstranded)
  | opened direction d hw₀ =>
    refine .tail _ (ih x _ hw₀ ?_)
    rwa [Wiring.stranded_opens] at hstranded
  | piped pipe readEnd writeEnd hw₀ => exact .tail _ (ih x _ hw₀ hstranded)
  | forked p side hw₀ hside =>
    rw [Wiring.stranded_side? hside] at hstranded
    cases hstranded
  | stranded => exact .head _

/-! ## Opened files -/

/-- A file that a redirection opened is none of the ends that a pipe was made with. Opened for
reading, it is no write end at all. -/
structure Apart {σ : Type} (m : Machine (Task σ)) (es : List Event) (direction : Direction)
    (d : Descriptor) : Prop where
  known : d.description < m.store.descriptions.length
  reads : direction = .input → ∀ pipe, m.store.objectOf? d ≠ some (.writeEnd pipe)
  ne : ∀ q pipe readEnd writeEnd, .piped q pipe readEnd writeEnd ∈ es →
    d.description ≠ writeEnd.description
  neRead : ∀ q pipe readEnd writeEnd, .piped q pipe readEnd writeEnd ∈ es →
    d.description ≠ readEnd.description

theorem Apart.move {direction : Direction} {d : Descriptor} (hs : m.Sound)
    (hm : m.make? (Task.dynamics U ex) mv = some m')
    (ha : Apart m (events U ex h) direction d) :
    Apart m' (events U ex ((m, mv) :: h)) direction d := by
  obtain ⟨hgrows, -⟩ := hs.grows hm
  refine ⟨Nat.lt_of_lt_of_le ha.known hgrows.length_le, fun hdirection pipe => ?_,
    fun q pipe readEnd writeEnd hp => ?_, fun q pipe readEnd writeEnd hp => ?_⟩
  · rw [hgrows.objectOf?_eq ha.known]
    exact ha.reads hdirection pipe
  · rcases mem_events_cons.mp hp with he | hp
    · exact Nat.ne_of_lt (Nat.lt_of_lt_of_le ha.known (ends_new_of_event? hs hm he).2)
    · exact ha.ne q pipe readEnd writeEnd hp
  · rcases mem_events_cons.mp hp with he | hp
    · exact Nat.ne_of_lt (Nat.lt_of_lt_of_le ha.known (ends_new_of_event? hs hm he).1)
    · exact ha.neRead q pipe readEnd writeEnd hp

/-- A file that is opened just now is apart from all pipes that were made. -/
theorem Apart.of_opens {t : Command} {file : Bytes} {direction : Direction} {object : Object}
    (hs : m₀.Sound) (hrun : Run (Task.dynamics U ex) m₀ h m)
    (hm : m.make? (Task.dynamics U ex) (.step x) = some m') (hx : m.processes[x]? = some proc)
    (hlife : proc.life = .active (.executing (.run (.redirect t file direction))))
    (hopens : m.store.Opens proc.context direction.flags object m'.store) :
    Apart m' (events U ex ((m, .step x) :: h)) direction
      ⟨m.store.descriptions.length, direction.flags.closeOnExec⟩ := by
  have hobject : m'.store.objectOf?
      ⟨m.store.descriptions.length, direction.flags.closeOnExec⟩ = some object := by
    simp [Store.objectOf?, hopens.descriptions]
  have hpiped {q : Pid} {pipe : PipeId} {readEnd writeEnd : Descriptor}
      (hp : .piped q pipe readEnd writeEnd ∈ events U ex ((m, .step x) :: h)) :
      m.store.descriptions.length ≠ writeEnd.description ∧
        m.store.descriptions.length ≠ readEnd.description := by
    rcases mem_events_cons.mp hp with he | hp
    · obtain ⟨⟨proc', left, right, hmv, hx', hlife', -⟩, -⟩ := piped_of_event? hm he
      cases hmv
      cases hx.symm.trans hx'
      cases hlife.symm.trans hlife'
    · obtain ⟨-, -, hread, hwrite⟩ := (pipes_new hs hrun).1 q pipe readEnd writeEnd hp
      exact ⟨(Nat.ne_of_lt (Store.lt_of_objectOf? hwrite)).symm,
        (Nat.ne_of_lt (Store.lt_of_objectOf? hread)).symm⟩
  refine ⟨Store.lt_of_objectOf? hobject, fun hdirection pipe hwrite => ?_,
    fun _ _ _ _ hp => (hpiped hp).1, fun _ _ _ _ hp => (hpiped hp).2⟩
  subst hdirection
  rw [hobject, Option.some.injEq] at hwrite
  rcases hopens.findable with ⟨id, hnode⟩ | ⟨pipe', hend, -⟩
  · rw [hnode] at hwrite
    cases hwrite
  · rw [hend] at hwrite
    cases hwrite

/-- Only a redirection opens a file. -/
theorem action_ne_openFile (hc : ∀ t file direction, c ≠ .run (.redirect t file direction))
    (path : Bytes) (flags : OpenFlags) (mode : Mode)
    (next : (Call.openFile path flags mode).Reply → Task U.State) :
    (Task.dynamics U ex).action (.executing c) ≠ .call (.openFile path flags mode) next := by
  intro h
  replace h : (c.action ex).map .executing = .call (.openFile path flags mode) next := h
  cases c with
  | run t =>
    cases t with
    | exec | pipe => cases h
    | redirect t file direction => exact hc t file direction rfl
  | closeEnds ends => cases ends <;> cases h
  | printing pieces | alarm pieces => rcases pieces with _ | ⟨_ | _, _⟩ <;> cases h
  | _ => cases h

/-- A process that waits for a partner runs a redirection, and the file that is on its number
already is apart from the pipes of the line. -/
def OpensApart {σ : Type} (m : Machine (Task σ)) (es : List Event) (context : Context)
    (c : Control) : Prop :=
  ∀ o, context.opening = some o → ∃ t file direction, c = .run (.redirect t file direction) ∧
    ∀ d, context.descriptors.get o.fd = some d → Apart m es direction d

namespace OpensApart

/-- Moves of others leave it at that. -/
theorem move (ha : OpensApart m (events U ex h) proc.context c) (hs : m.Sound)
    (hm : m.make? (Task.dynamics U ex) mv = some m') :
    OpensApart m' (events U ex ((m, mv) :: h)) proc.context c := by
  intro o hopening
  obtain ⟨t, file, direction, heq, hapart⟩ := ha o hopening
  exact ⟨t, file, direction, heq, fun d hd => (hapart d hd).move hs hm⟩

/-- A process that opens a file waits for a partner only with the file on its number. -/
theorem step_redirect {t : Command} {file : Bytes} {direction : Direction} (hs : m₀.Sound)
    (hrun : Run (Task.dynamics U ex) m₀ h m)
    (hm : m.make? (Task.dynamics U ex) (.step x) = some m') (hx : m.processes[x]? = some proc)
    (hlife : proc.life = .active (.executing (.run (.redirect t file direction))))
    (hacts : Machine.Acts (Task.dynamics U ex) m x proc
      ((Task.dynamics U ex).action (.executing (.run (.redirect t file direction)))) proc'
      m'.store)
    (hlife' : proc'.life = .active (.executing c')) :
    OpensApart m' (events U ex ((m, .step x) :: h)) proc'.context c' := by
  intro o hopening
  cases redirects_of_acts hacts hlife' with
  | failed _ hsettled | opened hsettled => cases hsettled.symm.trans hopening
  | waiting o' _ hopens hfd =>
    cases hopening
    cases hlife.symm.trans hlife'
    refine ⟨t, file, direction, rfl, fun d hd => ?_⟩
    simp only [Store.taking, hfd, DescriptorTable.get_set, if_pos, Option.some.injEq] at hd
    exact hd ▸ .of_opens hs hrun hm hx hlife hopens
  | joined => cases hopening

/-- So do the steps of the process itself. -/
theorem step (ha : OpensApart m (events U ex h) proc.context c) (hs : m₀.Sound)
    (hrun : Run (Task.dynamics U ex) m₀ h m)
    (hm : m.make? (Task.dynamics U ex) (.step x) = some m') (hx : m.processes[x]? = some proc)
    (hlife : proc.life = .active (.executing c))
    (hacts : Machine.Acts (Task.dynamics U ex) m x proc
      ((Task.dynamics U ex).action (.executing c)) proc' m'.store)
    (hlife' : proc'.life = .active (.executing c')) :
    OpensApart m' (events U ex ((m, .step x) :: h)) proc'.context c' := by
  by_cases hc : ∃ t file direction, c = .run (.redirect t file direction)
  · obtain ⟨t, file, direction, rfl⟩ := hc
    exact step_redirect hs hrun hm hx hlife hacts hlife'
  · intro o hopening
    rw [hacts.opening_eq (action_ne_openFile fun t file direction heq =>
      hc ⟨t, file, direction, heq⟩)] at hopening
    obtain ⟨t, file, direction, heq, -⟩ := ha o hopening
    exact absurd ⟨t, file, direction, heq⟩ hc

end OpensApart

/-- A file that a redirection has opened in a move is apart from all pipes that were made. -/
theorem Apart.of_opened {direction : Direction} {d : Descriptor} (hs : m₀.Sound)
    (hrun : Run (Task.dynamics U ex) m₀ h m)
    (hm : m.make? (Task.dynamics U ex) mv = some m')
    (he : m.event? U ex mv = some (.opened x direction d))
    (ha : ∀ (proc : Process (Task U.State)) (c : Control), m.processes[x]? = some proc →
      proc.life = .active (.executing c) → OpensApart m (events U ex h) proc.context c) :
    Apart m' (events U ex ((m, mv) :: h)) direction d := by
  rcases event?_eq_some he with ⟨q, child, hreaped, -⟩ | ⟨q, proc, c, rfl, hq, hlife, hc⟩
  · cases hreaped
  cases Control.makes_of_event? hc with
  | @opened t file _ fd s' context' _ hopen hget =>
    obtain ⟨proc', -, hacts⟩ := Machine.acts_of_step hm hq hlife
    replace hacts : Machine.Acts _ m x proc (.call (.openFile file direction.flags ex.redirectMode)
      fun reply => .executing (Control.afterOpen t file direction reply)) proc' m'.store := hacts
    have hlife' := congrArg Process.life (hacts.of_done hopen).2
    cases redirects_of_acts hacts hlife' with
    | failed _ _ _ hopen' | waiting _ _ _ _ hopen' => cases hopen.symm.trans hopen'
    | opened _ hopens hopen' =>
      cases hopen.symm.trans hopen'
      simp only [Store.taking, DescriptorTable.get_set, if_pos, Option.some.injEq] at hget
      exact hget ▸ .of_opens hs hrun hm hq hlife hopens
    | joined o hopening _ hopen' =>
      cases hopen.symm.trans hopen'
      obtain ⟨t', file', direction', heq, hapart⟩ := ha proc _ hq hlife o hopening
      cases heq
      exact (hapart d hget).move (hrun.sound hs) hm

/-- All that redirections opened, and what they wait for with the file on its number already, is
apart from the pipes of the line. -/
theorem LineStart.apart (L : LineStart m₀) (hrun : Run (Task.dynamics U ex) m₀ h m) :
    (∀ x direction d, .opened x direction d ∈ events U ex h →
        Apart m (events U ex h) direction d) ∧
      ∀ (x : Pid) (proc : Process (Task U.State)) (c : Control), m.processes[x]? = some proc →
        proc.life = .active (.executing c) → OpensApart m (events U ex h) proc.context c := by
  induction hrun with
  | start =>
    refine ⟨fun x direction d hd => by simp [events] at hd, fun x proc c hx hlife o hopening => ?_⟩
    obtain rfl := L.alone x proc c hx hlife
    obtain rfl := Option.some.inj (L.process.symm.trans hx)
    rw [L.settled] at hopening
    cases hopening
  | @move h m m' hrun mv hm ih =>
    obtain ⟨ihopened, ihopening⟩ := ih
    have hs := hrun.sound L.sound
    refine ⟨fun x direction d hd => ?_, fun x proc' c' hx hlife' => ?_⟩
    · rcases mem_events_cons.mp hd with he | hd
      · exact .of_opened L.sound hrun hm he (ihopening x)
      · exact (ihopened x direction d hd).move hs hm
    · cases Machine.make?_proceeds hm hx hlife' with
      | acted hmv hp hlife hacts =>
        subst hmv
        exact (ihopening x _ _ hp hlife).step L.sound hrun hm hp hlife hacts hlife'
      | kept _ hp hlife | told _ hp hlife => exact (ihopening x _ c' hp hlife).move hs hm
      | left _ hp hlife | right _ hp hlife =>
        intro o hopening
        obtain ⟨t, file, direction, heq, -⟩ := ihopening _ _ _ hp hlife o hopening
        cases heq

end PipeShell
