import PipeShell.Proofs.Executor.Dues

/-!
# Ends are taken

The end of a process is taken once or never (`reapings_eq`), and only by its parent, which for those
who were started for the sides of pipes is the process that has made the pipe (`child_of_forked`).

The rest needs processes to end in order (`orderly`): who runs a part of a line is not killed by
others and can create the processes for its pipe, and programs leave nobody behind who runs. Then a
process that has started somebody goes on until it has taken the end (`LineStart.executing_of_due`),
and one that has made a pipe starts both sides (`started_of_piped`). So it ends after both of them,
whichever ends first (`LineStart.sides_of_ended`), and when the process of the line has ended,
nothing of the line is left (`LineStart.over_of_ended`).
-/

namespace PipeShell

variable {U : Userland} {ex : Executor} {m₀ m m' : Machine (Task U.State)}
  {h : Past (Task U.State)} {mv : Move} {p q x y : Pid} {proc proc' : Process (Task U.State)}
  {c c' : Control} {es : List Event}

/-! ## Whose ends were taken -/

/-- The process whose end was taken. -/
def Event.reaped? : Event → Option Pid
  | reaped _ child => some child
  | _ => none

/-- The events in which the end of a process was taken. -/
def reapings (es : List Event) (child : Pid) : List Event :=
  es.filter fun e => e.reaped? == some child

theorem event?_eq_reaped :
    m.event? U ex mv = some (.reaped p y) ↔
      m.reaping? (Task.dynamics U ex) mv = some (p, y) := by
  constructor
  · intro he
    rcases event?_eq_some he with ⟨q, child, heq, hr⟩ | ⟨q, proc, c, -, -, -, hc⟩
    · cases heq
      exact hr
    · cases Control.makes_of_event? hc
  · intro hr
    simp only [Machine.event?, hr]

/-- The end of a process was taken once or never. -/
theorem reapings_eq (hrun : Run (Task.dynamics U ex) m₀ h m) (hx : m₀.reaper? x = none) :
    reapings (events U ex h) x = ((m.reaper? x).map (.reaped · x)).toList := by
  induction hrun with
  | start => simp [events, reapings, hx]
  | @move h m m' hrun mv hm ih =>
    rw [events_cons, reapings, List.filter_append]
    by_cases hr : ∃ p, m.reaping? (Task.dynamics U ex) mv = some (p, x)
    · obtain ⟨p, hr⟩ := hr
      obtain ⟨hnone, hreaper⟩ := Machine.reaper?_of_reaping? hm hr
      rw [hnone] at ih
      rw [event?_eq_reaped.mpr hr, hreaper, show List.filter _ (events U ex h) = [] from ih]
      simp [Event.reaped?]
    · have hevent : (m.event? U ex mv).toList.filter (fun e => e.reaped? == some x) = [] := by
        rw [List.filter_eq_nil_iff]
        intro e he heq
        cases e with
        | reaped p child =>
          obtain rfl : child = x := by simpa [Event.reaped?] using heq
          exact hr ⟨p, event?_eq_reaped.mp (by simpa using he)⟩
        | _ => cases heq
      rw [hevent, Machine.reaper?_of_make? hm fun p hp => hr ⟨p, hp⟩]
      exact ih

/-! ## Who was started -/

/-- The one who is started in a move is new, and the one who starts it runs a part of the line. -/
theorem forked_of_event? {side : Side} {child : Pid}
    (he : m.event? U ex mv = some (.forked p side child)) :
    child = m.processes.length ∧ m.bearing? (Task.dynamics U ex) mv = some p ∧
      ∃ proc c, m.processes[p]? = some proc ∧ proc.life = .active (.executing c) ∧
        c.mayEnd = false := by
  rcases event?_eq_some he with ⟨_, _, heq, -⟩ | ⟨q, proc, c, rfl, hq, hlife, hc⟩
  · cases heq
  · cases Control.makes_of_event? hc with
    | left _ _ _ hgranted | right _ _ _ hgranted =>
      exact ⟨rfl, Machine.bearing?_of_fork hq hlife rfl hgranted, proc, _, hq, hlife, rfl⟩

/-- Those who were started for the sides of pipes are new processes, and children of those who
started them. -/
theorem child_of_forked (hrun : Run (Task.dynamics U ex) m₀ h m) {side : Side} {child : Pid}
    (hf : .forked p side child ∈ events U ex h) :
    m₀.processes.length ≤ child ∧ p < child ∧
      ∃ proc, m.processes[child]? = some proc ∧ proc.parent = p := by
  induction hrun with
  | start => simp [events] at hf
  | move hrun mv hm ih =>
    rcases mem_events_cons.mp hf with he | hf
    · obtain ⟨rfl, hb, proc, c, hp, -⟩ := forked_of_event? he
      obtain ⟨proc', state, hx', hparent, -⟩ := Machine.born_of_bearing? hm hb
      exact ⟨hrun.length_le, (List.getElem?_eq_some_iff.mp hp).1, proc', hx', hparent⟩
    · obtain ⟨hnew, hlt, proc, hx, hparent⟩ := ih hf
      obtain ⟨proc', hx', hparent'⟩ := Machine.parent_of_make? hm hx
      exact ⟨hnew, hlt, proc', hx', hparent'.trans hparent⟩

/-- Nobody was started twice. -/
theorem forked_unique (hrun : Run (Task.dynamics U ex) m₀ h m) {q : Pid} {side side' : Side}
    {child : Pid} (hf : .forked p side child ∈ events U ex h)
    (hf' : .forked q side' child ∈ events U ex h) : side = side' := by
  induction hrun with
  | start => simp [events] at hf
  | @move h m m' hrun mv hm ih =>
    have hnew {p : Pid} {side : Side} (hf : .forked p side child ∈ events U ex h)
        (hchild : child = m.processes.length) : False := by
      obtain ⟨-, -, proc, hx, -⟩ := child_of_forked hrun hf
      exact absurd hchild (Nat.ne_of_lt (List.getElem?_eq_some_iff.mp hx).1)
    rcases mem_events_cons.mp hf with he | hf <;> rcases mem_events_cons.mp hf' with he' | hf'
    · cases he.symm.trans he'
      rfl
    · exact (hnew hf' (forked_of_event? he).1).elim
    · exact (hnew hf (forked_of_event? he').1).elim
    · exact ih hf hf'

/-! ## Ends in order -/

/-- Whether all who end in a move do so in order: who runs a part of a line ends by a step of its
own, and a program ends when nobody runs that it has started. -/
def Machine.endsOrderly {σ : Type} (m m' : Machine (Task σ)) (mv : Move) : Bool :=
  m.processes.zipIdx.all fun (proc, x) =>
    (m'.active? x).isSome ||
      match proc.life with
      | .active (.executing _) => mv == .step x
      | .active (.program _) => m'.processes.zipIdx.all fun (child, y) =>
          child.parent != x || y == x || (m'.active? y).isNone
      | _ => true

/-- Whether the event is that a process could not be created. -/
def Event.strands : Event → Bool
  | stranded _ => true
  | _ => false

/-- Whether all who ended in a history have ended in order, and all processes for the sides of pipes
could be created. -/
def orderly (U : Userland) (ex : Executor) (h : Past (Task U.State)) : Bool :=
  h.all (fun (m, mv) => (m.make? (Task.dynamics U ex) mv).all fun m' => m.endsOrderly m' mv) &&
    (events U ex h).all fun e => !e.strands

theorem orderly_cons (hm : m.make? (Task.dynamics U ex) mv = some m')
    (ho : orderly U ex ((m, mv) :: h)) : m.endsOrderly m' mv ∧ orderly U ex h := by
  simp only [orderly, List.all_cons, hm, Option.all_some, events_cons, List.all_append,
    Bool.and_eq_true] at ho ⊢
  exact ⟨ho.1.1, ho.1.2, ho.2.2⟩

theorem not_stranded_of_orderly (ho : orderly U ex h) (p : Pid) : .stranded p ∉ events U ex h := by
  intro hmem
  have hall := List.all_eq_true.mp (Bool.and_eq_true_iff.mp ho).2 _ hmem
  cases hall

namespace Machine

theorem step_of_ended {σ : Type} {m m' : Machine (Task σ)} {proc : Process (Task σ)}
    (ho : m.endsOrderly m' mv) (hx : m.processes[x]? = some proc)
    (hlife : proc.life = .active (.executing c)) (hended : m'.active? x = none) :
    mv = .step x := by
  have hall := List.all_eq_true.mp ho (proc, x) (List.mem_zipIdx_iff_getElem?.mpr hx)
  simpa [hended, hlife] using hall

theorem inactive_of_ended {σ : Type} {m m' : Machine (Task σ)} {proc child : Process (Task σ)}
    {s : σ} (ho : m.endsOrderly m' mv) (hx : m.processes[x]? = some proc)
    (hlife : proc.life = .active (.program s)) (hended : m'.active? x = none)
    (hy : m'.processes[y]? = some child) (hparent : child.parent = x) (hne : y ≠ x) :
    m'.active? y = none := by
  have hall := List.all_eq_true.mp ho (proc, x) (List.mem_zipIdx_iff_getElem?.mpr hx)
  simp only [hended, hlife, Option.isSome_none, Bool.false_or] at hall
  have hchild := List.all_eq_true.mp hall (child, y) (List.mem_zipIdx_iff_getElem?.mpr hy)
  simpa [hparent, hne] using hchild

/-- If all end in order, a process that runs a part of a line goes on with it until nobody is
due. -/
theorem executing_or_mayEnd (ho : m.endsOrderly m' mv)
    (hm : m.make? (Task.dynamics U ex) mv = some m') (hx : m.processes[x]? = some proc)
    (hlife : proc.life = .active (.executing c)) :
    (∃ proc' c', m'.processes[x]? = some proc' ∧ proc'.life = .active (.executing c')) ∨
      c.mayEnd := by
  obtain ⟨proc', hx'⟩ := exists_of_make? hm hx
  cases make?_becomes hm hx' with
  | acted _ hp hactive hacts =>
    obtain rfl := Option.some.inj (hx.symm.trans hp)
    cases hlife.symm.trans hactive
    rcases executing_becomes hlife hacts with ⟨c', hlife'⟩ | ⟨status, rfl⟩ | ⟨argv, rfl⟩
    · exact Or.inl ⟨proc', c', hx', hlife'⟩
    · exact Or.inr (Control.mayEnd_of_ended hlife hacts rfl)
    · exact Or.inr rfl
  | interrupted _ hp hactive child next ha =>
    obtain rfl := Option.some.inj (hx.symm.trans hp)
    cases hlife.symm.trans hactive
    exact Or.inl ⟨_, c, hx', by rw [executing_interrupted ha]⟩
  | touched hp hstep ht =>
    obtain rfl := Option.some.inj (hx.symm.trans hp)
    cases ht with
    | unchanged => exact Or.inl ⟨_, c, hx', hlife⟩
    | told => exact Or.inl ⟨_, c, hx', hlife⟩
    | killed =>
      have hended : m'.active? x = none := active?_eq_none.mpr fun proc' state hp' => by
        obtain rfl := Option.some.inj (hx'.symm.trans hp')
        simp [Process.finished]
      exact absurd (step_of_ended ho hx hlife hended) hstep
    | reaped _ hended => cases hlife.symm.trans hended
  | born _ _ _ hlength =>
    exact absurd hlength (Nat.ne_of_lt (List.getElem?_eq_some_iff.mp hx).1)

end Machine

/-! ## Those who wait -/

/-- Who has started a process for a side of a pipe and has not taken its end goes on running its
part of the line. -/
theorem LineStart.executing_of_due (L : LineStart m₀) (hrun : Run (Task.dynamics U ex) m₀ h m)
    (ho : orderly U ex h) {side : Side} {child : Pid}
    (hf : .forked p side child ∈ events U ex h) (hdue : child ∈ m.childrenOf p) :
    ∃ proc c, m.processes[p]? = some proc ∧ proc.life = .active (.executing c) := by
  induction hrun with
  | start => simp [events] at hf
  | @move h m m' hrun mv hm ih =>
    have hforks := not_stranded_of_orderly ho
    obtain ⟨hmove, ho⟩ := orderly_cons hm ho
    rcases mem_events_cons.mp hf with he | hf
    · obtain ⟨-, -, proc, c, hp, hlife, hc⟩ := forked_of_event? he
      obtain ⟨proc', c', hp', hlife'⟩ :=
        (Machine.executing_or_mayEnd hmove hm hp hlife).resolve_right (by simp [hc])
      exact ⟨proc', c', hp', hlife'⟩
    · obtain ⟨-, -, proc₀, hx, -⟩ := child_of_forked hrun hf
      have hlt := (List.getElem?_eq_some_iff.mp hx).1
      have hold : child ∈ m.childrenOf p :=
        (((Machine.childrenOf_of_make? hm p child).mp hdue).resolve_right fun hnew =>
          absurd hnew.2 (Nat.ne_of_lt hlt)).1
      obtain ⟨proc, c, hp, hlife⟩ := ih ho hf hold
      rcases Machine.executing_or_mayEnd hmove hm hp hlife with ⟨proc', c', hp', hlife'⟩ | hc
      · exact ⟨proc', c', hp', hlife'⟩
      · -- A process that ends has nobody to wait for.
        have hdues := (L.dues hrun p proc c hp hlife).resolve_right
          fun hand => not_stranded_of_orderly ho p hand.1
        have hnone := (hdues.2 child).mp hold
        rw [Control.dues_of_mayEnd hc] at hnone
        cases hnone

/-- Both sides of the pipe of a process were started. -/
def BothForked (es : List Event) (p : Pid) : Prop :=
  ∃ left right, .forked p .left left ∈ es ∧ .forked p .right right ∈ es

/-- What a process that has made a pipe has started already when it is in a state. -/
def Control.Started (es : List Event) (p : Pid) : Control → Prop
  | forkLeft .. => True
  | forkRight .. => ∃ left, .forked p .left left ∈ es
  | noting _ _ next => next.Started es p
  | _ => BothForked es p

theorem BothForked.mono {es' : List Event} (hb : BothForked es p) (hle : ∀ e ∈ es, e ∈ es') :
    BothForked es' p := by
  obtain ⟨left, right, hl, hr⟩ := hb
  exact ⟨left, right, hle _ hl, hle _ hr⟩

theorem BothForked.started (hb : BothForked es p) (c : Control) : c.Started es p := by
  induction c with
  | forkLeft => trivial
  | forkRight =>
    obtain ⟨left, _, hl, -⟩ := hb
    exact ⟨left, hl⟩
  | noting _ _ _ ih => exact ih
  | _ => exact hb

theorem Control.Started.both (hs : c.Started es p) (hc : c.mayEnd) : BothForked es p := by
  cases c <;> first | exact hs | cases hc

theorem Control.Started.mono {es' : List Event} (hs : c.Started es p) (hle : ∀ e ∈ es, e ∈ es') :
    c.Started es' p := by
  induction c with
  | forkLeft => trivial
  | forkRight =>
    obtain ⟨left, hl⟩ := hs
    exact ⟨left, hle _ hl⟩
  | noting _ _ _ ih => exact ih hs
  | _ => exact BothForked.mono hs hle

/-- A step of a process that has made a pipe starts its sides one after the other. -/
theorem Control.Started.step (hs : c.Started (events U ex h) p) (hp : m.processes[p]? = some proc)
    (hlife : proc.life = .active (.executing c)) {store : Store}
    (hacts : Machine.Acts (Task.dynamics U ex) m p proc
      ((Task.dynamics U ex).action (.executing c)) proc' store)
    (hlife' : proc'.life = .active (.executing c'))
    (hforks : .stranded p ∉ events U ex ((m, .step p) :: h)) :
    c'.Started (events U ex ((m, .step p) :: h)) p := by
  have hle (e : Event) (he : e ∈ events U ex h) : e ∈ events U ex ((m, .step p) :: h) :=
    mem_events_cons.mpr (Or.inr he)
  cases c with
  | forkLeft ends left right =>
    have hgranted := granted_of_event? hp hlife rfl hforks
    have he : m.event? U ex (.step p) = _ :=
      event?_of_control hp hlife (congrArg some (Machine.forkEvent_granted hgranted p .left))
    cases hacts with
    | stranded _ _ hrefused => cases hgranted.symm.trans hrefused
    | forked =>
      cases hlife'
      exact ⟨_, mem_events_cons.mpr (Or.inl he)⟩
  | forkRight ends left right =>
    have hgranted := granted_of_event? hp hlife rfl hforks
    have he : m.event? U ex (.step p) = _ :=
      event?_of_control hp hlife (congrArg some (Machine.forkEvent_granted hgranted p .right))
    cases hacts with
    | stranded _ _ hrefused => cases hgranted.symm.trans hrefused
    | forked =>
      cases hlife'
      obtain ⟨left, hl⟩ := hs
      exact ⟨left, _, hle _ hl, mem_events_cons.mpr (Or.inl he)⟩
  | noting level message next =>
    replace hacts : Machine.Acts _ m p proc
      (.call (.note level message) fun _ => .executing next) proc' store := hacts
    obtain ⟨-, rfl⟩ := hacts.of_done rfl
    cases hlife'
    exact Started.mono (c := c') hs hle
  | _ => exact (BothForked.mono hs hle).started c'

/-- If all end in order, a process that has made a pipe starts both sides before it ends. -/
theorem started_of_piped (hrun : Run (Task.dynamics U ex) m₀ h m) (ho : orderly U ex h)
    {pipe : PipeId} {readEnd writeEnd : Descriptor}
    (hp : .piped p pipe readEnd writeEnd ∈ events U ex h) :
    ∃ proc, m.processes[p]? = some proc ∧
      ((∃ c, proc.life = .active (.executing c) ∧ c.Started (events U ex h) p) ∨
        BothForked (events U ex h) p) := by
  induction hrun with
  | start => simp [events] at hp
  | @move h m m' hrun mv hm ih =>
    have hforks := not_stranded_of_orderly ho
    obtain ⟨hmove, ho⟩ := orderly_cons hm ho
    have hle (e : Event) (he : e ∈ events U ex h) : e ∈ events U ex ((m, mv) :: h) :=
      mem_events_cons.mpr (Or.inr he)
    rcases mem_events_cons.mp hp with he | hp
    · obtain ⟨⟨proc, left, right, rfl, hx, hlife, -, ⟨readFd, writeFd⟩, _, _, hmake⟩, -⟩ :=
        piped_of_event? hm he
      obtain ⟨proc', hx', hacts⟩ := Machine.acts_of_step hm hx hlife
      replace hacts : Machine.Acts _ m p proc (.call .makePipe
        fun reply => .executing (Control.afterPipe left right reply)) proc' m'.store := hacts
      obtain ⟨-, rfl⟩ := hacts.of_done hmake
      exact ⟨_, hx', Or.inl ⟨.forkLeft ⟨readFd, writeFd⟩ left right, rfl, trivial⟩⟩
    · obtain ⟨proc, hx, hstarted⟩ := ih ho hp
      obtain ⟨proc', hx'⟩ := Machine.exists_of_make? hm hx
      refine ⟨proc', hx', ?_⟩
      rcases hstarted with ⟨c, hlife, hstarted⟩ | hboth
      · rcases Machine.executing_or_mayEnd hmove hm hx hlife with ⟨proc₁, c', hx₁, hlife'⟩ | hc
        · obtain rfl := Option.some.inj (hx'.symm.trans hx₁)
          refine Or.inl ⟨c', hlife', ?_⟩
          by_cases hmv : mv = .step p
          · subst hmv
            obtain ⟨proc₁, hx₁, hacts⟩ := Machine.acts_of_step hm hx hlife
            obtain rfl := Option.some.inj (hx'.symm.trans hx₁)
            exact hstarted.step hx hlife hacts hlife' (hforks p)
          · obtain rfl := Machine.executing_of_ne hm hx hlife hx' hlife' hmv
            exact hstarted.mono hle
        · exact Or.inr ((hstarted.both hc).mono hle)
      · exact Or.inr (hboth.mono hle)

/-! ## Those who descend from the process of a line -/

theorem Control.mayEnd_of_fork {child : Task U.State} {next : Except Errno Pid → Task U.State}
    (ha : (Task.dynamics U ex).action (.executing c) = .fork child next) :
    c.mayEnd = false := by
  replace ha : (c.action ex).map .executing = .fork child next := ha
  cases c.conduct ex with
  | forkLeft | forkRight => rfl
  | call hc | goOn hc =>
    rw [hc] at ha
    cases ha
  | _ => cases ha

namespace LineStart

/-- All who run a part of the line descend from its process. -/
theorem descends_of_executing (L : LineStart m₀) (hrun : Run (Task.dynamics U ex) m₀ h m) :
    ∀ (x : Pid) (proc : Process (Task U.State)) (c : Control), m.processes[x]? = some proc →
      proc.life = .active (.executing c) → m.Descends L.root x := by
  induction hrun with
  | start =>
    intro x proc c hx hlife
    rw [L.alone x proc c hx hlife]
    exact .self
  | @move h m m' hrun mv hm ih =>
    intro x proc' c' hx hlife'
    cases Machine.make?_proceeds hm hx hlife' with
    | acted _ hp hlife | kept _ hp hlife | told _ hp hlife => exact (ih x _ _ hp hlife).make? hm
    | left _ hp hlife | right _ hp hlife => exact .child hx ((ih _ _ _ hp hlife).make? hm)

theorem descends_of_forked (L : LineStart m₀) (hrun : Run (Task.dynamics U ex) m₀ h m)
    {side : Side} {child : Pid} (hf : .forked p side child ∈ events U ex h) :
    m.Descends L.root p := by
  induction hrun with
  | start => simp [events] at hf
  | move hrun mv hm ih =>
    rcases mem_events_cons.mp hf with he | hf
    · obtain ⟨-, -, proc, c, hp, hlife, -⟩ := forked_of_event? he
      exact (L.descends_of_executing hrun p proc c hp hlife).make? hm
    · exact (ih hf).make? hm

/-- Nobody who descends from the process of the line is moved from outside. -/
theorem ne_attended (L : LineStart m₀) (hrun : Run (Task.dynamics U ex) m₀ h m) :
    ∀ (x : Pid) (proc : Process (Task U.State)), m.Descends L.root x →
      m.processes[x]? = some proc → proc.life ≠ .active .attended := by
  induction hrun with
  | start =>
    intro x proc hd hx
    obtain rfl := hd.eq_of_childless L.childless
    obtain rfl := Option.some.inj (L.process.symm.trans hx)
    simp
  | @move h m m' hrun mv hm ih =>
    intro x proc' hd hx hlife'
    obtain ⟨proc, hx₀, hlife⟩ := Machine.attended_of_make? hm hx hlife'
    have hd₀ := hd.of_make? (hrun.sound L.sound) hm (List.getElem?_eq_some_iff.mp hx₀).1
    exact ih x proc hd₀ hx₀ hlife

/-- If all end in order, whoever of the line has ended has left nobody behind who runs. -/
theorem alone_of_ended (L : LineStart m₀) (hrun : Run (Task.dynamics U ex) m₀ h m)
    (ho : orderly U ex h) :
    ∀ (x y : Pid) (child : Process (Task U.State)), m.Descends L.root x →
      m.active? x = none → m.processes[y]? = some child → child.parent = x → y ≠ x →
      m.active? y = none := by
  induction hrun with
  | start =>
    intro x y child hd hended hy hparent hne
    obtain rfl := hd.eq_of_childless L.childless
    exact absurd (L.childless y child hy hparent) hne
  | @move h m m' hrun mv hm ih =>
    have hforks := not_stranded_of_orderly ho
    obtain ⟨hmove, ho⟩ := orderly_cons hm ho
    intro x y child hd hended hy hparent hne
    have hs := hrun.sound L.sound
    by_cases hlt : x < m.processes.length
    · have hx := List.getElem?_eq_getElem hlt
      have hd := hd.of_make? hs hm hlt
      have old {child : Process (Task U.State)} (hy : m.processes[y]? = some child)
          (hended : m.active? y = none) : m'.active? y = none :=
        Machine.active?_of_make? hm (List.getElem?_eq_some_iff.mp hy).1 hended
      cases hlife : m.processes[x].life with
      | active state =>
        cases state with
        | attended => exact absurd hlife (L.ne_attended hrun x _ hd hx)
        | program s => exact Machine.inactive_of_ended hmove hx hlife hended hy hparent hne
        | executing c =>
          rcases Machine.executing_or_mayEnd hmove hm hx hlife with ⟨_, _, hx', hlife'⟩ | hc
          · rw [Machine.active?_eq_some.mpr ⟨hx', hlife'⟩] at hended
            cases hended
          · rcases Machine.child_of_make? hm hy hparent with ⟨child₀, hy₀, hparent₀⟩ | ⟨hb, -⟩
            · refine old hy₀ (Machine.active?_eq_none.mpr fun proc state hproc hactive => ?_)
              obtain rfl := Option.some.inj (hy₀.symm.trans hproc)
              have hdues := (L.dues hrun x _ c hx hlife).resolve_right
                fun hand => not_stranded_of_orderly ho x hand.1
              have hdue := (hdues.2 y).mp (Machine.mem_childrenOf.mpr
                ⟨_, hy₀, hparent₀, hne, by simp [hactive]⟩)
              rw [Control.dues_of_mayEnd hc] at hdue
              cases hdue
            · obtain ⟨_, _, _, _, -, hx₀, hlife₀, ha, -⟩ := Machine.bearing?_eq_some hb
              obtain rfl := Option.some.inj (hx.symm.trans hx₀)
              cases hlife.symm.trans hlife₀
              rw [Control.mayEnd_of_fork ha] at hc
              cases hc
      | ended | reaped =>
        have hended₀ : m.active? x = none := Machine.active?_eq_none.mpr fun proc state hproc => by
          obtain rfl := Option.some.inj (hx.symm.trans hproc)
          simp [hlife]
        rcases Machine.child_of_make? hm hy hparent with ⟨child₀, hy₀, hparent₀⟩ | ⟨hb, -⟩
        · exact old hy₀ (ih ho x y child₀ hd hended₀ hy₀ hparent₀ hne)
        · obtain ⟨_, _, _, _, -, hx₀, hlife₀, -⟩ := Machine.bearing?_eq_some hb
          rw [Machine.active?_eq_some.mpr ⟨hx₀, hlife₀⟩] at hended₀
          cases hended₀
    · -- Nobody has started anyone before being there.
      rcases Machine.child_of_make? hm hy hparent with ⟨child₀, hy₀, hparent₀⟩ | ⟨hb, -⟩
      · exact absurd (hparent₀ ▸ hs.parents y child₀ hy₀) hlt
      · obtain ⟨_, _, _, _, -, hx₀, -⟩ := Machine.bearing?_eq_some hb
        exact absurd (List.getElem?_eq_some_iff.mp hx₀).1 hlt

/-! ## What is left of a line -/

/-- Whoever was started for a side of a pipe has its end taken by the one who started it, once at
most. -/
theorem reapings_of_forked (hrun : Run (Task.dynamics U ex) m₀ h m) {side : Side} {child : Pid}
    (hf : .forked p side child ∈ events U ex h) :
    reapings (events U ex h) child = [] ∨
      reapings (events U ex h) child = [.reaped p child] := by
  obtain ⟨hnew, -, proc, hx, hparent⟩ := child_of_forked hrun hf
  rw [reapings_eq hrun (Machine.reaper?_eq_none_of_le hnew)]
  cases hreaper : m.reaper? child with
  | none => exact Or.inl rfl
  | some q =>
    obtain ⟨proc', hx', -, rfl⟩ := Machine.reaper?_eq_some.mp hreaper
    obtain rfl := Option.some.inj (hx.symm.trans hx')
    exact Or.inr (by rw [hparent]; rfl)

/-- If all end in order, who has ended has taken the ends of all that it had started for the sides
of its pipe. -/
theorem reapings_of_ended (L : LineStart m₀) (hrun : Run (Task.dynamics U ex) m₀ h m)
    (ho : orderly U ex h) {side : Side} {child : Pid}
    (hf : .forked p side child ∈ events U ex h) (hended : m.active? p = none) :
    reapings (events U ex h) child = [.reaped p child] := by
  obtain ⟨hnew, hlt, proc, hx, hparent⟩ := child_of_forked hrun hf
  have hreaped : proc.life = .reaped := by
    by_contra hlife
    obtain ⟨procp, c, hp, hactive⟩ := L.executing_of_due hrun ho hf
      (Machine.mem_childrenOf.mpr ⟨proc, hx, hparent, (Nat.ne_of_lt hlt).symm, hlife⟩)
    rw [Machine.active?_eq_some.mpr ⟨hp, hactive⟩] at hended
    cases hended
  rw [reapings_eq hrun (Machine.reaper?_eq_none_of_le hnew),
    Machine.reaper?_eq_some.mpr ⟨proc, hx, hreaped, hparent⟩]
  rfl

/-- Nothing of a line is left: all who descend from its process have ended, and the ends of those
who were started for the sides of pipes were taken once each, by those who had started them. -/
structure Over (L : LineStart m₀) (es : List Event) (m : Machine (Task U.State)) : Prop where
  ended : ∀ x, m.Descends L.root x → m.active? x = none
  reaped : ∀ p side child, .forked p side child ∈ es → reapings es child = [.reaped p child]

/-- If all end in order, nothing of a line is left when its process has ended. -/
theorem over_of_ended (L : LineStart m₀) (hrun : Run (Task.dynamics U ex) m₀ h m)
    (ho : orderly U ex h) (hroot : m.active? L.root = none) : L.Over (events U ex h) m := by
  have hended (x : Pid) (hd : m.Descends L.root x) : m.active? x = none := by
    induction hd with
    | self => exact hroot
    | @child x proc hx hd ih =>
      by_cases hne : x = proc.parent
      · rw [hne]
        exact ih
      · exact L.alone_of_ended hrun ho proc.parent x proc hd ih hx rfl hne
  exact ⟨hended, fun p side child hf =>
    L.reapings_of_ended hrun ho hf (hended p (L.descends_of_forked hrun hf))⟩

/-- If all end in order, a process that has made a pipe ends only when both sides were started and
their ends were taken. -/
theorem sides_of_ended (L : LineStart m₀) (hrun : Run (Task.dynamics U ex) m₀ h m)
    (ho : orderly U ex h) {pipe : PipeId} {readEnd writeEnd : Descriptor}
    (hp : .piped p pipe readEnd writeEnd ∈ events U ex h) (hended : m.active? p = none) :
    ∃ left right, left ≠ right ∧
      .forked p .left left ∈ events U ex h ∧ .forked p .right right ∈ events U ex h ∧
      reapings (events U ex h) left = [.reaped p left] ∧
      reapings (events U ex h) right = [.reaped p right] := by
  obtain ⟨proc, hx, hstarted⟩ := started_of_piped hrun ho hp
  have hboth := hstarted.resolve_left fun ⟨c, hlife, _⟩ => by
    rw [Machine.active?_eq_some.mpr ⟨hx, hlife⟩] at hended
    cases hended
  obtain ⟨left, right, hl, hr⟩ := hboth
  refine ⟨left, right, ?_, hl, hr, L.reapings_of_ended hrun ho hl hended,
    L.reapings_of_ended hrun ho hr hended⟩
  rintro rfl
  cases forked_unique hrun hl hr

end LineStart

end PipeShell
