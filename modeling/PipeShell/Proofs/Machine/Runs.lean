import PipeShell.Proofs.Machine.Moves
import PipeShell.Proofs.Machine.Tables

/-!
# Runs

A `Run` is any sequence of moves of any processes, so what holds of all runs holds whichever way the
processes are scheduled. It keeps its `Past`: the moves, latest first, each with the machine that
it was made in. `Machine.replay` makes a list of moves one after the other.

Whatever moves are made, nothing refers to anything that is not there (`Machine.Sound`), and open
files and pipes stay what they are (`Run.grows`). Letting processes move by a policy is a run as
well (`Run.runUntil`).
-/

namespace PipeShell

/-- Moves that were made, latest first, each with the machine that it was made in. -/
abbrev Past (κ : Type) := List (Machine κ × Move)

/-- A machine is reached from `m₀` by the moves of a history. -/
inductive Run {κ : Type} (d : Dynamics κ) (m₀ : Machine κ) : Past κ → Machine κ → Prop
  | start : Run d m₀ [] m₀
  | move {h : Past κ} {m m' : Machine κ} (hrun : Run d m₀ h m) (mv : Move)
    (hm : m.make? d mv = some m') : Run d m₀ ((m, mv) :: h) m'

/-- Nothing is open in a process after its end. -/
theorem Process.get_finished {κ : Type} (proc : Process κ) (status : ExitStatus) (fd : Fd) :
    (proc.finished status).context.descriptors.get fd = none :=
  DescriptorTable.get_empty fd

namespace Machine

variable {κ : Type} {d : Dynamics κ} {m m' : Machine κ} {mv : Move} {p x : Pid}
  {proc proc' : Process κ}

/-! ## One move -/

/-- Nothing refers to anything that is not there. -/
structure Sound (m : Machine κ) : Prop where
  store : m.store.Sound
  tables : ∀ (x : Pid) (proc : Process κ), m.processes[x]? = some proc →
    proc.context.descriptors.Valid m.store
  parents : ∀ (x : Pid) (proc : Process κ), m.processes[x]? = some proc →
    proc.parent < m.processes.length

/-- A machine is sound whose only process has nothing open but what has a description. -/
theorem sound_singleton {store : Store} {refusals : List (Option Errno)} (hs : store.Sound)
    (htable : proc.context.descriptors.Valid store) (hparent : proc.parent = 0) :
    Sound ⟨store, [proc], refusals⟩ := by
  have only {x : Pid} {proc₀ : Process κ} (hx : [proc][x]? = some proc₀) : proc₀ = proc := by
    obtain rfl := Nat.lt_one_iff.mp (List.getElem?_eq_some_iff.mp hx).1
    exact (Option.some.inj hx).symm
  refine ⟨hs, fun x proc₀ hx => ?_, fun x proc₀ hx => ?_⟩
  · rw [only hx]
    exact htable
  · rw [only hx, hparent]
    exact Nat.zero_lt_one

theorem Acts.parent_eq {a : Action κ} {store : Store} (h : Acts d m p proc a proc' store) :
    proc'.parent = proc.parent := by
  cases h <;> rfl

theorem Touched.parent_eq (h : Touched d m mv x proc proc') : proc'.parent = proc.parent := by
  cases h <;> rfl

/-- An action leaves the store and the table of the process sound. -/
theorem Acts.sound {a : Action κ} {store : Store} (h : Acts d m p proc a proc' store)
    (hs : m.store.Sound) (hp : proc.context.descriptors.Valid m.store) :
    m.store.Grows store ∧ store.Sound ∧ proc'.context.descriptors.Valid store := by
  cases h with
  | @done c next reply store context hc =>
    have hsound := Call.perform_sound hs hp m.held (Pid.number p) (m.parentNumber proc) c
    rw [hc] at hsound
    exact hsound
  | @underway c next store context hc =>
    have hsound := Call.perform_sound hs hp m.held (Pid.number p) (m.parentNumber proc) c
    rw [hc] at hsound
    exact hsound
  | halted | killed | endedSelf => exact ⟨.refl _, hs, DescriptorTable.valid_empty _⟩
  | became | becameFile => exact ⟨.refl _, hs, hp.onExec⟩
  | _ => exact ⟨.refl _, hs, hp⟩

/-- Only opening a file makes a process wait for a partner. -/
theorem Acts.opening_eq {a : Action κ} {store : Store} (h : Acts d m p proc a proc' store)
    (ha : ∀ path flags mode next, a ≠ .call (.openFile path flags mode) next) :
    proc'.context.opening = proc.context.opening := by
  cases h with
  | @done c next reply store context hc =>
    have hne (path : Bytes) (flags : OpenFlags) (mode : Mode) : c ≠ .openFile path flags mode := by
      rintro rfl
      exact ha path flags mode next rfl
    have hleaves : (c.perform m.store proc.context m.held (Pid.number p)
      (m.parentNumber proc)).Leaves _ := Call.perform_opening _ _ _ hne
    rw [hc] at hleaves
    exact hleaves
  | @underway c next store context hc =>
    have hne (path : Bytes) (flags : OpenFlags) (mode : Mode) : c ≠ .openFile path flags mode := by
      rintro rfl
      exact ha path flags mode next rfl
    have hleaves : (c.perform m.store proc.context m.held (Pid.number p)
      (m.parentNumber proc)).Leaves _ := Call.perform_opening _ _ _ hne
    rw [hc] at hleaves
    exact hleaves
  | _ => rfl

/-- All that a process has open after its action was open before or is new. -/
theorem Acts.keeps {a : Action κ} {store : Store} (h : Acts d m p proc a proc' store) :
    proc'.context.descriptors.From proc.context.descriptors m.store.descriptions.length := by
  cases h with
  | @done c next reply store context hc =>
    have hkeeps : (c.perform m.store proc.context m.held (Pid.number p)
      (m.parentNumber proc)).Keeps m.store proc.context := Call.perform_keeps _ _ _ c
    rw [hc] at hkeeps
    exact hkeeps
  | @underway c next store context hc =>
    have hkeeps : (c.perform m.store proc.context m.held (Pid.number p)
      (m.parentNumber proc)).Keeps m.store proc.context := Call.perform_keeps _ _ _ c
    rw [hc] at hkeeps
    exact hkeeps
  | halted | killed | endedSelf => exact .empty _ _
  | became | becameFile => exact .onExec _ _
  | _ => exact .refl _ _

/-- Closing is over at once, and nothing is open under the number afterwards. -/
theorem Acts.of_close {fd : Fd} {next : Except Errno Unit → κ} {state : κ} {store : Store}
    (h : Acts d m p proc (.call (.close fd) next) proc' store)
    (hlife' : proc'.life = .active state) :
    (∃ closed, state = next closed) ∧
      proc'.context.descriptors.get = Function.update proc.context.descriptors.get fd none ∧
      proc'.context.opening = proc.context.opening ∧ proc'.context.limit = proc.context.limit := by
  rcases h.call_cases hlife' with ⟨reply, context, hc, hcontext, hnext⟩ | ⟨context, hc, -, -⟩
  · rw [hcontext]
    exact ⟨⟨reply, hnext⟩, Store.close_done hc⟩
  · exact absurd hc Store.close_ne_underway

/-- A call that is not about descriptors leaves them as they are, whether or not it is over. -/
theorem Acts.of_call {call : Call} {next : call.Reply → κ} {state : κ} {store : Store}
    (h : Acts d m p proc (.call call next) proc' store) (hcall : call.isOnTable = false)
    (hlife' : proc'.life = .active state) :
    ((∃ reply, state = next reply) ∨ proc.life = .active state) ∧
      proc'.context.descriptors = proc.context.descriptors ∧
      proc'.context.limit = proc.context.limit := by
  have hleaves : (call.perform m.store proc.context m.held (Pid.number p)
    (m.parentNumber proc)).Leaves _ := Call.perform_leaves _ _ _ hcall
  rcases h.call_cases hlife' with ⟨reply, context, hc, hcontext, hnext⟩ |
    ⟨context, hc, hcontext, hsame⟩
  · rw [hc] at hleaves
    rw [hcontext]
    exact ⟨Or.inl ⟨reply, hnext⟩, hleaves.1, hleaves.2.2⟩
  · rw [hc] at hleaves
    rw [hcontext]
    exact ⟨Or.inr hsame, hleaves.1, hleaves.2.2⟩

theorem Touched.valid {s : Store} (h : Touched d m mv x proc proc')
    (hp : proc.context.descriptors.Valid s) : proc'.context.descriptors.Valid s := by
  cases h with
  | killed => exact DescriptorTable.valid_empty _
  | _ => exact hp

/-- An action ends the process that takes it or leaves it active. -/
theorem Acts.active_or_finished {a : Action κ} {store : Store} {state : κ}
    (hlife : proc.life = .active state) (h : Acts d m p proc a proc' store) :
    (∃ state', proc'.life = .active state') ∨ ∃ status, proc' = proc.finished status := by
  cases h with
  | halted code => exact Or.inr ⟨_, rfl⟩
  | killed => exact Or.inr ⟨_, rfl⟩
  | endedSelf => exact Or.inr ⟨_, rfl⟩
  | underway => exact Or.inl ⟨_, hlife⟩
  | _ => exact Or.inl ⟨_, rfl⟩

/-- A process keeps its parent. -/
theorem parent_of_make? (h : m.make? d mv = some m') (hx : m.processes[x]? = some proc) :
    ∃ proc', m'.processes[x]? = some proc' ∧ proc'.parent = proc.parent := by
  obtain ⟨proc', hx'⟩ := exists_of_make? h hx
  refine ⟨proc', hx', ?_⟩
  cases make?_becomes h hx' with
  | acted _ hp _ hacts =>
    obtain rfl := Option.some.inj (hx.symm.trans hp)
    exact hacts.parent_eq
  | interrupted _ hp =>
    obtain rfl := Option.some.inj (hx.symm.trans hp)
    rfl
  | touched hp _ ht =>
    obtain rfl := Option.some.inj (hx.symm.trans hp)
    exact ht.parent_eq
  | born _ _ _ hlength =>
    exact absurd hlength (Nat.ne_of_lt (List.getElem?_eq_some_iff.mp hx).1)

/-- What processes share grows with every move. -/
theorem Sound.grows (hs : m.Sound) (h : m.make? d mv = some m') :
    m.store.Grows m'.store ∧ m'.store.Sound := by
  rcases store_of_make? h with ⟨clock, hstore⟩ | ⟨p, proc, state, proc', -, hp, -, hacts⟩
  · rw [hstore]
    exact ⟨⟨fun _ d h => ⟨d, h, rfl⟩, Nat.le_refl _⟩, ⟨hs.store.descriptions, hs.store.files⟩⟩
  · obtain ⟨hgrows, hsound, -⟩ := hacts.sound hs.store (hs.tables p proc hp)
    exact ⟨hgrows, hsound⟩

/-- Every move leaves a sound machine. -/
theorem Sound.make? (hs : m.Sound) (h : m.make? d mv = some m') : m'.Sound := by
  obtain ⟨hgrows, hsound⟩ := hs.grows h
  have hlength := length_le_of_make? h
  refine ⟨hsound, fun x proc' hx => ?_, fun x proc' hx => Nat.lt_of_lt_of_le ?_ hlength⟩
  · cases make?_becomes h hx with
    | acted _ hp _ hacts => exact (hacts.sound hs.store (hs.tables x _ hp)).2.2
    | interrupted _ hp => exact (hs.tables x _ hp).grows hgrows
    | touched hp _ ht => exact ht.valid ((hs.tables x _ hp).grows hgrows)
    | @born p proc _ _ hp => exact (hs.tables p proc hp).grows hgrows
  · cases make?_becomes h hx with
    | acted _ hp _ hacts => exact hacts.parent_eq ▸ hs.parents x _ hp
    | @interrupted proc _ _ hp => exact hs.parents x proc hp
    | touched hp _ ht => exact ht.parent_eq ▸ hs.parents x _ hp
    | born _ hp => exact (List.getElem?_eq_some_iff.mp hp).1

/-! ## Descent -/

/-- Process `x` is `a`, or it was started by a process that descends from `a`. -/
inductive Descends (m : Machine κ) (a : Pid) : Pid → Prop
  | self : Descends m a a
  | child {x : Pid} {proc : Process κ} (hx : m.processes[x]? = some proc)
    (h : Descends m a proc.parent) : Descends m a x

theorem Descends.make? {a : Pid} (hd : m.Descends a x) (h : m.make? d mv = some m') :
    m'.Descends a x := by
  induction hd with
  | self => exact .self
  | child hx _ ih =>
    obtain ⟨proc', hx', hparent⟩ := parent_of_make? h hx
    exact .child hx' (hparent ▸ ih)

/-- Only a process itself descends from it as long as it has started nobody else. -/
theorem Descends.eq_of_childless {a : Pid} (hd : m.Descends a x)
    (h : ∀ (y : Pid) (proc : Process κ), m.processes[y]? = some proc → proc.parent = a → y = a) :
    x = a := by
  induction hd with
  | self => rfl
  | child hx _ ih => exact h _ _ hx ih

/-! ## What is held -/

/-- What some process holds is open in it under some number. -/
theorem exists_of_held {object : Object} (h : m.held object) :
    ∃ (x : Pid) (proc : Process κ) (fd : Fd) (e : Descriptor), m.processes[x]? = some proc ∧
      proc.context.descriptors.get fd = some e ∧ m.store.objectOf? e = some object := by
  obtain ⟨proc, hproc, h⟩ := List.any_eq_true.mp h
  obtain ⟨x, hx⟩ := List.getElem?_of_mem hproc
  obtain ⟨id, hid, h⟩ := List.any_eq_true.mp h
  obtain ⟨slot, hslot, heq⟩ := List.mem_filterMap.mp hid
  obtain ⟨fd, hfd⟩ := List.getElem?_of_mem hslot
  obtain ⟨e, rfl, rfl⟩ := Option.map_eq_some_iff.mp heq
  refine ⟨x, proc, fd, e, hx, by simp [DescriptorTable.get, hfd], ?_⟩
  split at h
  · next desc hdesc =>
    rw [Store.objectOf?, hdesc, Option.map_some, eq_of_beq h]
  · cases h

/-- What is open in a process is held. -/
theorem held_of_get {fd : Fd} {e : Descriptor} {object : Object} (hx : m.processes[x]? = some proc)
    (he : proc.context.descriptors.get fd = some e) (hobject : m.store.objectOf? e = some object) :
    m.held object := by
  obtain ⟨desc, hdesc, rfl⟩ := Option.map_eq_some_iff.mp hobject
  have hid : e.description ∈ proc.context.descriptors.held := by
    cases hslot : proc.context.descriptors.slots[fd]? with
    | none => simp [DescriptorTable.get, hslot] at he
    | some slot =>
      obtain rfl : slot = some e := by simpa [DescriptorTable.get, hslot] using he
      exact List.mem_filterMap.mpr ⟨_, List.mem_of_getElem? hslot, rfl⟩
  refine List.any_eq_true.mpr ⟨proc, List.mem_of_getElem? hx, List.any_eq_true.mpr ⟨_, hid, ?_⟩⟩
  simp [hdesc]

end Machine

namespace Run

variable {κ : Type} {d : Dynamics κ} {m₀ m : Machine κ} {h : Past κ}

/-! ## All moves -/

theorem sound (hrun : Run d m₀ h m) (hs : m₀.Sound) : m.Sound := by
  induction hrun with
  | start => exact hs
  | move _ _ hm ih => exact ih.make? hm

theorem grows (hrun : Run d m₀ h m) (hs : m₀.Sound) : m₀.store.Grows m.store := by
  induction hrun with
  | start => exact .refl _
  | move hrun _ hm ih => exact ih.trans ((hrun.sound hs).grows hm).1

theorem length_le (hrun : Run d m₀ h m) : m₀.processes.length ≤ m.processes.length := by
  induction hrun with
  | start => exact Nat.le_refl _
  | move _ _ hm ih => exact Nat.le_trans ih (Machine.length_le_of_make? hm)

/-- The machine after a list of moves, with their history; `none` if one of them cannot be made. -/
def replay (d : Dynamics κ) : Past κ → Machine κ → List Move → Option (Past κ × Machine κ)
  | h, m, [] => some (h, m)
  | h, m, mv :: mvs => (m.make? d mv).bind fun m' => replay d ((m, mv) :: h) m' mvs

theorem of_replay {mvs : List Move} {h' : Past κ} {m' : Machine κ} (hrun : Run d m₀ h m)
    (hr : replay d h m mvs = some (h', m')) : Run d m₀ h' m' := by
  induction mvs generalizing h m with
  | nil =>
    cases hr
    exact hrun
  | cons mv mvs ih =>
    obtain ⟨m₁, hm, hr⟩ := Option.bind_eq_some_iff.mp hr
    exact ih (.move hrun mv hm) hr

end Run

/-- The history of letting processes move by a policy until `stop` holds, none can move any more, or
`fuel` moves were made, after the moves in `h`. -/
def Machine.historyUntil {κ : Type} (d : Dynamics κ) (policy : Policy κ) (stop : Machine κ → Bool) :
    Nat → Machine κ → Past κ → Past κ
  | 0, _, h => h
  | fuel + 1, m, h =>
    if stop m then h
    else match policy m with
      | none =>
        match m.elapse? with
        | none => h
        | some m' => historyUntil d policy stop fuel m' ((m, .elapse) :: h)
      | some p =>
        match m.step d p with
        | none => h
        | some m' => historyUntil d policy stop fuel m' ((m, .step p) :: h)

namespace Run

variable {κ : Type} {d : Dynamics κ} {m₀ m : Machine κ} {h : Past κ}

/-- To let processes move by a policy is to make moves. A property that moves keep until the machine
is to stop holds in the end. -/
theorem runUntil {P : Machine κ → Prop} (hrun : Run d m₀ h m) (policy : Machine.Policy κ)
    (stop : Machine κ → Bool) (fuel : Nat)
    (hstep : ∀ m mv m', P m → stop m = false → (mv = .elapse ∨ ∃ p, mv = .step p) →
      m.make? d mv = some m' → P m') (hP : P m) :
    Run d m₀ (m.historyUntil d policy stop fuel h) (m.runUntil d policy stop fuel) ∧
      P (m.runUntil d policy stop fuel) := by
  induction fuel generalizing h m with
  | zero => exact ⟨hrun, hP⟩
  | succ fuel ih =>
    simp only [Machine.runUntil, Machine.historyUntil]
    cases hstop : stop m with
    | true => exact ⟨hrun, hP⟩
    | false =>
      simp only [Bool.false_eq_true, if_false]
      cases policy m with
      | none =>
        simp only
        cases hm : m.elapse? with
        | none => exact ⟨hrun, hP⟩
        | some m' => exact ih (.move hrun .elapse hm) (hstep m .elapse m' hP hstop (Or.inl rfl) hm)
      | some p =>
        simp only
        cases hm : m.step d p with
        | none => exact ⟨hrun, hP⟩
        | some m' =>
          exact ih (.move hrun (.step p) hm) (hstep m (.step p) m' hP hstop (Or.inr ⟨p, rfl⟩) hm)

end Run

end PipeShell
