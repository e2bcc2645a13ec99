import Mathlib.Logic.Function.Basic
import PipeShell.Executor.Task
import PipeShell.Proofs.Machine.Runs

/-!
# What happens while a line runs

The moves of a run that matter for a line are its `events`: a redirection's file was opened, a pipe
was made, a process was started for a side of a pipe or could not be created, the end of a child was
taken. They are read off the history, whatever else happens in between.

From the events follows the `Wiring` of every process of the line: the part of the line that it runs
and what this part has as standard input and output. A redirection replaces one of the two, and a
pipe gives its write end to its left side and its read end to its right side. Nothing is said here
about descriptor tables: that they agree with the wiring is to be proved.
-/

namespace PipeShell

/-- The two sides of a pipe. -/
inductive Side
  | left
  | right
deriving DecidableEq, Repr

/-- What a process does for the line that it belongs to. -/
inductive Event
  /-- The file of a redirection was opened. -/
  | opened (p : Pid) (direction : Direction) (file : Descriptor)
  | piped (p : Pid) (pipe : PipeId) (readEnd writeEnd : Descriptor)
  /-- A process was started for one side of a pipe. -/
  | forked (p : Pid) (side : Side) (child : Pid)
  /-- A process could not be created for a side of a pipe. -/
  | stranded (p : Pid)
  /-- The end of a child was taken. -/
  | reaped (p child : Pid)
deriving DecidableEq, Repr

/-! ## Events of a run -/

section

variable {σ : Type}

/-- The event of an attempt to create a process for a side of a pipe. -/
def Machine.forkEvent (m : Machine (Task σ)) (p : Pid) (side : Side) : Event :=
  match m.refusal? with
  | none => .forked p side m.processes.length
  | some _ => .stranded p

theorem Machine.forkEvent_granted {m : Machine (Task σ)} (h : m.refusal? = none) (p : Pid)
    (side : Side) : m.forkEvent p side = .forked p side m.processes.length := by
  rw [forkEvent, h]

theorem Machine.forkEvent_refused {m : Machine (Task σ)} {e : Errno} (h : m.refusal? = some e)
    (p : Pid) (side : Side) : m.forkEvent p side = .stranded p := by
  rw [forkEvent, h]

/-- The event of a step in a control state. -/
def Control.event? (ex : Executor) (m : Machine (Task σ)) (p : Pid) (context : Context) :
    Control → Option Event
  | run (.redirect _ file direction) =>
    match m.store.openFile context m.held file direction.flags ex.redirectMode with
    | .done (.ok fd) _ context => (context.descriptors.get fd).map (.opened p direction)
    | _ => none
  | run (.pipe ..) =>
    match m.store.makePipe context with
    | .done (.ok (readFd, writeFd)) _ context =>
      (context.descriptors.get readFd).bind fun readEnd =>
        (context.descriptors.get writeFd).map fun writeEnd =>
          .piped p m.store.pipes.length readEnd writeEnd
    | _ => none
  | forkLeft .. => some (m.forkEvent p .left)
  | forkRight .. => some (m.forkEvent p .right)
  | _ => none

end

variable {U : Userland} {ex : Executor}

/-- The event of a move. -/
def Machine.event? (U : Userland) (ex : Executor) (m : Machine (Task U.State)) (mv : Move) :
    Option Event :=
  match m.reaping? (Task.dynamics U ex) mv with
  | some (p, child) => some (.reaped p child)
  | none =>
    match mv with
    | .step p =>
      match m.active? p with
      | some (proc, .executing c) => c.event? ex m p proc.context
      | _ => none
    | _ => none

/-- The events of a history, latest first. -/
def events (U : Userland) (ex : Executor) (h : Past (Task U.State)) : List Event :=
  h.filterMap fun (m, mv) => m.event? U ex mv

/-! ## Wiring -/

/-- The part of a line that a process runs, and what this part has as standard input and output;
also the ends of the pipe that the process made for it, and whether a process could not be created
for one of its sides. -/
structure Wiring where
  part : Command
  input : Option Descriptor
  output : Option Descriptor
  ends : Option (Descriptor × Descriptor)
  stranded : Bool
deriving DecidableEq, Repr

namespace Wiring

/-- What a redirection is wrapped around has the file in place of what there was. -/
def opens (w : Wiring) (direction : Direction) (file : Descriptor) : Wiring :=
  match w.part, direction with
  | .redirect t _ _, .input => { w with part := t, input := some file }
  | .redirect t _ _, .output => { w with part := t, output := some file }
  | _, _ => w

/-- The left side of a pipe writes to it, and the right side reads from it. -/
def side? (w : Wiring) (side : Side) : Option Wiring :=
  match w.part, w.ends, side with
  | .pipe left _, some (_, writeEnd), .left => some ⟨left, w.input, some writeEnd, none, false⟩
  | .pipe _ right, some (readEnd, _), .right => some ⟨right, some readEnd, w.output, none, false⟩
  | _, _, _ => none

/-- The table with the two descriptors that the wiring is about. -/
def table (w : Wiring) (base : Fd → Option Descriptor) : Fd → Option Descriptor :=
  Function.update (Function.update base Fd.stdin w.input) Fd.stdout w.output

theorem table_apply (w : Wiring) (base : Fd → Option Descriptor) (fd : Fd) :
    w.table base fd = if fd = 0 then w.input else if fd = 1 then w.output else base fd := by
  unfold table Fd.stdin Fd.stdout
  rw [Function.update_apply, Function.update_apply]
  by_cases h0 : fd = 0 <;> by_cases h1 : fd = 1 <;> simp_all

theorem stranded_opens (w : Wiring) (direction : Direction) (file : Descriptor) :
    (w.opens direction file).stranded = w.stranded := by
  unfold opens
  split <;> rfl

theorem stranded_side? {w w' : Wiring} {side : Side} (h : w.side? side = some w') :
    w'.stranded = false := by
  unfold side? at h
  split at h <;> cases h <;> rfl

end Wiring

namespace Event

/-- The process that an event is about. -/
def mover : Event → Pid
  | opened p .. | piped p .. | forked p .. | stranded p | reaped p _ => p

/-- The pipe that was made. -/
def pipe? : Event → Option PipeId
  | piped _ pipe .. => some pipe
  | _ => none

/-- How the wiring of the process changes that an event is about. -/
def advance (w : Wiring) : Event → Wiring
  | opened _ direction file => w.opens direction file
  | piped _ _ readEnd writeEnd => { w with ends := some (readEnd, writeEnd) }
  | stranded _ => { w with stranded := true }
  | _ => w

/-- How the wiring of all processes changes. -/
def after (e : Event) (wiring : Pid → Option Wiring) : Pid → Option Wiring :=
  match e with
  | forked p side child => Function.update wiring child ((wiring p).bind fun w => w.side? side)
  | e => Function.update wiring e.mover ((wiring e.mover).map fun w => e.advance w)

end Event

/-- A process is about to run a line. No other process runs a part of a line, and nobody knows a
process that is not there. -/
structure LineStart {σ : Type} (m : Machine (Task σ)) where
  root : Pid
  tree : Command
  parent : Pid
  context : Context
  process : m.processes[root]? = some ⟨parent, context, .active (.executing (.run tree))⟩
  settled : context.opening = none
  alone : ∀ (p : Pid) (proc : Process (Task σ)) (c : Control), m.processes[p]? = some proc →
    proc.life = .active (.executing c) → p = root
  childless : ∀ (p : Pid) (proc : Process (Task σ)), m.processes[p]? = some proc →
    proc.parent = root → p = root
  sound : m.Sound

namespace LineStart

variable {m₀ : Machine (Task U.State)} (L : LineStart m₀)

/-- The table that the line was started with. -/
def base : Fd → Option Descriptor := L.context.descriptors.get

/-- The whole line has what its process was given. -/
def whole : Wiring := ⟨L.tree, L.base Fd.stdin, L.base Fd.stdout, none, false⟩

/-- The wiring of all processes after some events, latest first. -/
def wiring (es : List Event) : Pid → Option Wiring :=
  es.foldr Event.after (Function.update (fun _ => none) L.root (some L.whole))

@[simp] theorem wiring_nil_root : L.wiring [] L.root = some L.whole := by
  simp [wiring]

end LineStart

/-! ## Events of a move -/

variable {m₀ m : Machine (Task U.State)} {h : Past (Task U.State)} {mv : Move} {p x : Pid}
  {proc : Process (Task U.State)} {c : Control} {e : Event}

theorem events_cons :
    events U ex ((m, mv) :: h) = (m.event? U ex mv).toList ++ events U ex h := by
  cases he : m.event? U ex mv <;> simp [events, he]

@[simp] theorem mem_events_cons :
    e ∈ events U ex ((m, mv) :: h) ↔ m.event? U ex mv = some e ∨ e ∈ events U ex h := by
  simp [events_cons]

theorem wiring_events_cons (L : LineStart m₀) :
    L.wiring (events U ex ((m, mv) :: h)) =
      (m.event? U ex mv).elim (L.wiring (events U ex h)) fun e =>
        e.after (L.wiring (events U ex h)) := by
  rw [events_cons]
  cases m.event? U ex mv <;> rfl

/-- How the event of a step in a control state comes about. -/
inductive Control.Makes {σ : Type} (ex : Executor) (m : Machine (Task σ)) (p : Pid)
    (context : Context) : Control → Event → Prop
  | opened {t : Command} {file : Bytes} {direction : Direction} {fd : Fd} {s' : Store}
    {context' : Context} {d : Descriptor}
    (hopen : m.store.openFile context m.held file direction.flags ex.redirectMode =
      .done (.ok fd) s' context')
    (hd : context'.descriptors.get fd = some d) :
    Makes ex m p context (.run (.redirect t file direction)) (.opened p direction d)
  | piped {left right : Command} {readFd writeFd : Fd} {s' : Store} {context' : Context}
    {readEnd writeEnd : Descriptor}
    (hmake : m.store.makePipe context = .done (.ok (readFd, writeFd)) s' context')
    (hread : context'.descriptors.get readFd = some readEnd)
    (hwrite : context'.descriptors.get writeFd = some writeEnd) :
    Makes ex m p context (.run (.pipe left right))
      (.piped p m.store.pipes.length readEnd writeEnd)
  | left (ends : PipeEnds) (left right : Command) (h : m.refusal? = none) :
    Makes ex m p context (.forkLeft ends left right) (.forked p .left m.processes.length)
  | right (ends : PipeEnds) (child : Pid) (right : Command) (h : m.refusal? = none) :
    Makes ex m p context (.forkRight ends child right) (.forked p .right m.processes.length)
  | noLeft (ends : PipeEnds) (left right : Command) {e : Errno} (h : m.refusal? = some e) :
    Makes ex m p context (.forkLeft ends left right) (.stranded p)
  | noRight (ends : PipeEnds) (child : Pid) (right : Command) {e : Errno}
    (h : m.refusal? = some e) : Makes ex m p context (.forkRight ends child right) (.stranded p)

theorem Control.makes_of_event? {σ : Type} {m : Machine (Task σ)} {context : Context}
    (h : c.event? ex m p context = some e) : c.Makes ex m p context e := by
  unfold Control.event? at h
  split at h
  · split at h
    · next hopen =>
      obtain ⟨d, hd, rfl⟩ := Option.map_eq_some_iff.mp h
      exact .opened hopen hd
    · cases h
  · split at h
    · next hmake =>
      obtain ⟨readEnd, hread, h⟩ := Option.bind_eq_some_iff.mp h
      obtain ⟨writeEnd, hwrite, rfl⟩ := Option.map_eq_some_iff.mp h
      exact .piped hmake hread hwrite
    · cases h
  · cases h
    unfold Machine.forkEvent
    split
    · next hgranted => exact .left _ _ _ hgranted
    · next hrefused => exact .noLeft _ _ _ hrefused
  · cases h
    unfold Machine.forkEvent
    split
    · next hgranted => exact .right _ _ _ hgranted
    · next hrefused => exact .noRight _ _ _ hrefused
  · cases h

/-- The event of a move: somebody took the end of a child, or it is that of a control state. -/
theorem event?_eq_some (he : m.event? U ex mv = some e) :
    (∃ q child, e = .reaped q child ∧
        m.reaping? (Task.dynamics U ex) mv = some (q, child)) ∨
      ∃ q proc c, mv = .step q ∧ m.processes[q]? = some proc ∧
        proc.life = .active (.executing c) ∧ c.event? ex m q proc.context = some e := by
  unfold Machine.event? at he
  split at he
  · next q child hr =>
    cases he
    exact Or.inl ⟨q, child, rfl, hr⟩
  · split at he
    · next q _ =>
      split at he
      · next proc c hactive =>
        obtain ⟨hq, hlife⟩ := Machine.active?_eq_some.mp hactive
        exact Or.inr ⟨q, proc, c, rfl, hq, hlife, he⟩
      · cases he
    · cases he

theorem asking?_step {q child : Pid} {d : Dynamics (Task U.State)}
    (h : m.asking? d (.step p) = some (q, child)) : q = p := by
  simp only [Machine.asking?] at h
  split at h
  · split at h <;> simp_all
  · cases h

/-- In a state with an event of its own, a process asks for the end of nobody. -/
theorem asking?_of_event? (hp : m.processes[p]? = some proc)
    (hlife : proc.life = .active (.executing c))
    (he : c.event? ex m p proc.context = some e) :
    m.asking? (Task.dynamics U ex) (.step p) = none := by
  have hactive := Machine.active?_eq_some.mpr ⟨hp, hlife⟩
  simp only [Machine.asking?, hactive]
  cases Control.makes_of_event? he <;> rfl

theorem event?_step (hp : m.processes[p]? = some proc)
    (hlife : proc.life = .active (.executing c)) :
    m.event? U ex (.step p) = c.event? ex m p proc.context ∨
      c.event? ex m p proc.context = none ∧ ∃ child,
        m.event? U ex (.step p) = some (.reaped p child) := by
  have hactive := Machine.active?_eq_some.mpr ⟨hp, hlife⟩
  cases hr : m.reaping? (Task.dynamics U ex) (.step p) with
  | none =>
    left
    simp only [Machine.event?, hr, hactive]
  | some r =>
    right
    obtain ⟨q, child⟩ := r
    have hasking := (Option.filter_eq_some_iff.mp hr).1
    obtain rfl := asking?_step hasking
    refine ⟨?_, child, by simp only [Machine.event?, hr]⟩
    cases he : c.event? ex m q proc.context with
    | none => rfl
    | some e => simp [asking?_of_event? hp hlife he] at hasking

theorem event?_of_control (hp : m.processes[p]? = some proc)
    (hlife : proc.life = .active (.executing c))
    (hc : c.event? ex m p proc.context = some e) :
    m.event? U ex (.step p) = some e := by
  rcases event?_step hp hlife with he | ⟨hnone, -⟩
  · rw [he, hc]
  · rw [hnone] at hc
    cases hc

/-- A process that has not been refused a process for a side of its pipe was given it. -/
theorem granted_of_event? {side : Side} (hp : m.processes[p]? = some proc)
    (hlife : proc.life = .active (.executing c))
    (hc : c.event? ex m p proc.context = some (m.forkEvent p side))
    (hforks : .stranded p ∉ events U ex ((m, .step p) :: h)) : m.refusal? = none := by
  cases hrefused : m.refusal? with
  | none => rfl
  | some e =>
    rw [Machine.forkEvent_refused hrefused] at hc
    exact absurd (mem_events_cons.mpr (Or.inl (event?_of_control hp hlife hc))) hforks

/-! ## Wiring after a move -/

/-- A step advances the wiring of the process that takes it. -/
theorem wiring_step (L : LineStart m₀) (hp : m.processes[p]? = some proc)
    (hlife : proc.life = .active (.executing c)) :
    L.wiring (events U ex ((m, .step p) :: h)) p =
      (L.wiring (events U ex h) p).map fun w =>
        (c.event? ex m p proc.context).elim w fun e => e.advance w := by
  have hlt := (List.getElem?_eq_some_iff.mp hp).1
  rw [wiring_events_cons]
  rcases event?_step hp hlife with he | ⟨hnone, child, he⟩
  · rw [he]
    cases hc : c.event? ex m p proc.context with
    | none => simp
    | some e =>
      cases Control.makes_of_event? hc with
      | opened | piped => simp [Event.after, Event.mover]
      | noLeft | noRight => simp [Event.after, Event.mover, Event.advance]
      | left | right => simp [Event.after, Event.advance, Nat.ne_of_lt hlt]
  · rw [he, hnone]
    simp [Event.after, Event.mover, Event.advance]

/-- No move changes the wiring of a process that does not take it. -/
theorem wiring_of_ne (L : LineStart m₀) (hmv : mv ≠ .step x) (hx : x < m.processes.length) :
    L.wiring (events U ex ((m, mv) :: h)) x = L.wiring (events U ex h) x := by
  rw [wiring_events_cons]
  cases he : m.event? U ex mv with
  | none => rfl
  | some e =>
    rcases event?_eq_some he with ⟨q, child, rfl, -⟩ | ⟨q, proc, c, rfl, hq, hlife, hc⟩
    · by_cases hxq : x = q
      · subst hxq
        simp [Event.after, Event.mover, Event.advance]
      · simp [Event.after, Event.mover, hxq]
    · have hxq : x ≠ q := fun hxq => hmv (by rw [hxq])
      cases Control.makes_of_event? hc with
      | opened | piped | noLeft | noRight => simp [Event.after, Event.mover, hxq]
      | left | right => simp [Event.after, Nat.ne_of_lt hx]

/-- A new process has the wiring of its side. -/
theorem wiring_forked (L : LineStart m₀) {side : Side} {child : Pid}
    (he : m.event? U ex mv = some (.forked p side child)) :
    L.wiring (events U ex ((m, mv) :: h)) child =
      (L.wiring (events U ex h) p).bind fun w => w.side? side := by
  rw [wiring_events_cons, he]
  simp [Event.after]

/-! ## A small machine -/

deriving instance DecidableEq for Control, Task

/-- Texts are printed in one piece, and nothing is said about what cannot be printed. -/
def Console.bare : Console := ⟨fun _ text => [text], fun _ _ => []⟩

/-- New files get no permissions, and the first process counts as the shell. -/
def Executor.bare : Executor := ⟨0, 0, .bare⟩

/-- Programs that end at once. -/
def Userland.idle : Userland := ⟨Unit, fun _ => .halt 0, fun _ => ()⟩

instance : DecidableEq Userland.idle.State := inferInstanceAs (DecidableEq Unit)

/-- The context of a process with nothing open, which may have four descriptors. -/
def Context.bare : Context where
  descriptors := .empty
  limit := 4
  directory := FileSystem.root
  umask := 0
  environment := []
  dispositions := []
  pending := []
  opening := none
  wakes := none

/-- A machine whose only process is about to run a line. -/
def Machine.bare (U : Userland) (files : FileSystem) (t : Command) : Machine (Task U.State) :=
  ⟨⟨files, [], [], [], .silent, 0⟩, [⟨0, .bare, .active (.executing (.run t))⟩], []⟩

/-- Without named pipes among its files, the small machine is one that a line can be started in. -/
def LineStart.bare (U : Userland) {files : FileSystem} (hfiles : files.PipesBelow 0) (t : Command) :
    LineStart (.bare U files t) where
  root := 0
  tree := t
  parent := 0
  context := .bare
  process := rfl
  settled := rfl
  alone p proc c hp _ := Nat.lt_one_iff.mp (List.getElem?_eq_some_iff.mp hp).1
  childless p proc hp _ := Nat.lt_one_iff.mp (List.getElem?_eq_some_iff.mp hp).1
  sound := Machine.sound_singleton ⟨by simp, hfiles⟩ (DescriptorTable.valid_empty _) rfl

theorem FileSystem.pipesBelow_empty : FileSystem.empty.PipesBelow 0 := by
  intro mode pipe hp
  simp [FileSystem.empty] at hp

end PipeShell
