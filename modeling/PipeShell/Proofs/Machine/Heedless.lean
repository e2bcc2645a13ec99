import PipeShell.Proofs.Machine.Likeness

/-!
# Policies that do not look

Which process moves next may not depend on what cannot be seen (`Streams.Heedless`). This holds of
the policy that lets the oldest process move that can (`Streams.heedless_oldestFirst`): a process
that can move in one machine can move in any other that is seen alike, whether or not its step is
discreet (`Veil.Alike.isSome_step`). It is here that nobody may be able to write to the pipe that
standard input comes from: otherwise a process that reads from an empty pipe would wait.
-/

namespace PipeShell

/-- Nobody could write to the pipe that standard input comes from. -/
def Streams.Quiet {κ : Type} (st : Streams) (m : Machine κ) : Prop :=
  ∀ pipe, st.isSource (.readEnd pipe) = true → m.held (.writeEnd pipe) = false

/-- A policy that does not depend on what cannot be seen. -/
def Streams.Heedless {κ : Type} (st : Streams) (policy : Machine.Policy κ) : Prop :=
  ∀ (v : Veil) (m m' : Machine κ), v.toStreams = st → v.Alike m m' → st.Quiet m →
    policy m' = policy m

/-! ## Waiting -/

/-- Whether a call waits. -/
def Outcome.isBlocked {ρ : Type} : Outcome ρ → Bool
  | .blocked => true
  | _ => false

namespace Store

variable {s : Store} {c : Context} {held : Object → Bool}

/-- When reading waits. -/
theorem isBlocked_read (fd : Fd) (count : Nat) :
    (s.read c held fd count).isBlocked = (s.description? c fd).any fun found =>
      found.2.readable && match found.2.object with
        | .readEnd pipe => ((s.pipes[pipe]?).getD []).isEmpty && count != 0 && held (.writeEnd pipe)
        | _ => false := by
  unfold read
  cases s.description? c fd with
  | none => rfl
  | some found =>
    simp only [Option.any_some]
    cases found.2.readable with
    | false => rfl
    | true =>
      simp only [Bool.not_true, Bool.false_eq_true, if_false, Bool.true_and]
      cases found.2.object with
      | writeEnd => rfl
      | readEnd pipe =>
        simp only
        cases (s.pipes[pipe]?).getD [] with
        | nil =>
          simp only [List.isEmpty_nil, Bool.true_and]
          cases count != 0 && held (.writeEnd pipe) <;> rfl
        | cons => rfl
      | node node =>
        simp only
        repeat' split
        all_goals rfl

/-- When writing waits. -/
theorem isBlocked_write (fd : Fd) (data : Bytes) :
    (s.write c held fd data).isBlocked = (s.description? c fd).any fun found =>
      found.2.writable && match found.2.object with
        | .writeEnd pipe => held (.readEnd pipe) &&
          decide (pipeCapacity - ((s.pipes[pipe]?).getD []).length < min data.length pipeAtom)
        | _ => false := by
  unfold write
  cases s.description? c fd with
  | none => rfl
  | some found =>
    simp only [Option.any_some]
    cases found.2.writable with
    | false => rfl
    | true =>
      simp only [Bool.not_true, Bool.false_eq_true, if_false, Bool.true_and]
      cases found.2.object with
      | readEnd => rfl
      | writeEnd pipe =>
        simp only
        cases held (.readEnd pipe) with
        | false =>
          simp only [Bool.not_false, if_true]
          split <;> rfl
        | true =>
          simp only [Bool.not_true, Bool.false_eq_true, if_false, Bool.true_and]
          split
          · next h => exact (decide_eq_true h).symm
          · next h => exact (decide_eq_false h).symm
      | node node =>
        simp only
        repeat' split
        all_goals rfl

end Store

namespace Veil

variable {κ : Type} {v : Veil} {m m' : Machine κ} {p : Pid} {s : Store} {c : Context}
  {proc proc' : Process κ} {held : Object → Bool}

@[simp] theorem isBlocked_outcome {ρ : Type} (o : Outcome ρ) :
    (v.outcome o).isBlocked = o.isBlocked := by
  cases o <;> rfl

theorem isBlocked_eq {ρ : Type} {o o' : Outcome ρ} (h : v.bare.outcome o' = v.outcome o) :
    o'.isBlocked = o.isBlocked := by
  rw [← isBlocked_outcome (v := v.bare) o', h, isBlocked_outcome]

/-- Reading from a pipe that cannot be seen does not wait, since nobody could write to it. -/
theorem isBlocked_read (hplace : v.place ≤ s.descriptions.length)
    (hquiet : ∀ pipe, v.isSource (.readEnd pipe) = true → held (.writeEnd pipe) = false)
    (fd : Fd) (count : Nat) :
    ((v.store s).read (v.context c) held fd count).isBlocked =
      (s.read c held fd count).isBlocked := by
  rw [Store.isBlocked_read, Store.isBlocked_read, description?_store hplace, Option.any_map]
  congr 1
  funext found
  simp only [Streams.readable_description, Streams.object_description]
  cases found.2.object with
  | readEnd pipe =>
    simp only
    cases hhides : v.hides (.readEnd pipe) with
    | true => simp only [hquiet pipe hhides, Bool.and_false]
    | false =>
      rw [show (v.store s).pipes[pipe]? = s.pipes[pipe]? from Streams.getElem?_pipes hhides _]
  | _ => rfl

/-- Nobody writes to a pipe that cannot be seen. -/
theorem isBlocked_write (hplace : v.place ≤ s.descriptions.length)
    (hquiet : ∀ pipe, v.isSource (.readEnd pipe) = true → held (.writeEnd pipe) = false)
    {fd : Fd} (hheld : ∀ id d, s.description? c fd = some (id, d) → held d.object = true)
    (data : Bytes) :
    ((v.store s).write (v.context c) held fd data).isBlocked =
      (s.write c held fd data).isBlocked := by
  rw [Store.isBlocked_write, Store.isBlocked_write, description?_store hplace]
  cases hd : s.description? c fd with
  | none => rfl
  | some found =>
    simp only [Option.map_some, Option.any_some, Streams.writable_description,
      Streams.object_description]
    cases hobject : found.2.object with
    | writeEnd pipe =>
      have hheld := hheld found.1 found.2 hd
      rw [hobject] at hheld
      have hhides : v.hides (.readEnd pipe) = false := by
        by_contra hhides
        rw [Bool.not_eq_false] at hhides
        simp [hquiet pipe hhides] at hheld
      simp only
      rw [show (v.store s).pipes[pipe]? = s.pipes[pipe]? from Streams.getElem?_pipes hhides _]
    | _ => rfl

/-- Whether a call waits does not depend on what cannot be seen, discreet or not. -/
theorem isBlocked_store (hf : v.Fits s)
    (hquiet : ∀ pipe, v.isSource (.readEnd pipe) = true → held (.writeEnd pipe) = false)
    (hheld : ∀ fd id d, s.description? c fd = some (id, d) → held d.object = true)
    (pid parent : Nat) (call : Call) :
    (call.perform (v.store s) (v.context c) held pid parent).isBlocked =
      (call.perform s c held pid parent).isBlocked := by
  cases call with
  | read fd count => exact isBlocked_read hf.place hquiet fd count
  | write fd data => exact isBlocked_write hf.place hquiet (hheld fd) data
  | rewind fd count => exact isBlocked_eq (rewind_store hf count)
  | openFile path flags mode => exact isBlocked_eq (openFile_store hf held path flags mode)
  | status | statusOfName | statusFd => rfl
  | _ => exact isBlocked_eq (perform_store hf held pid parent rfl)

theorem held_of_description? {x : Pid} (hx : m.processes[x]? = some proc) {fd : Fd}
    {id : DescriptionId} {d : Description}
    (hd : m.store.description? proc.context fd = some (id, d)) : m.held d.object = true := by
  obtain ⟨hdesc, e, he, rfl⟩ := Store.mem_of_description? hd
  exact Machine.held_of_get hx he (by rw [Store.objectOf?, hdesc, Option.map_some])

/-- Whether a call waits is the same in both machines. -/
theorem Alike.isBlocked (h : v.Alike m m') (hquiet : v.Quiet m) {x : Pid}
    (hx : m.processes[x]? = some proc) (hx' : m'.processes[x]? = some proc')
    (hproc : v.bare.process proc' = v.process proc) (pid : Nat) (call : Call) :
    (call.perform m'.store proc'.context m'.held pid (m'.parentNumber proc')).isBlocked =
      (call.perform m.store proc.context m.held pid (m.parentNumber proc)).isBlocked := by
  have hquiet' : ∀ pipe, v.bare.isSource (.readEnd pipe) = true →
      m'.held (.writeEnd pipe) = false := h.held ▸ hquiet
  rw [← isBlocked_store h.fits_bare hquiet' fun fd id d hd => held_of_description? hx' hd,
    h.store, (process_eq hproc).2.1, h.held, h.parentNumber hproc,
    isBlocked_store h.fits hquiet fun fd id d hd => held_of_description? hx hd]

/-! ## Moving -/

theorem isSome_act (d : Dynamics κ) (p : Pid) (proc : Process κ) (c : Call) (next : c.Reply → κ) :
    (m.act d p proc (.call c next)).isSome = !(c.perform m.store proc.context m.held (Pid.number p)
      (m.parentNumber proc)).isBlocked := by
  simp only [Machine.act]
  cases c.perform m.store proc.context m.held (Pid.number p) (m.parentNumber proc) <;> rfl

/-- A process can move in both machines or in neither. -/
theorem Alike.isSome_step (h : v.Alike m m') (hquiet : v.Quiet m) (d : Dynamics κ) (p : Pid) :
    (m'.step d p).isSome = (m.step d p).isSome := by
  unfold Machine.step
  cases hactive : m.active? p with
  | none => rw [h.active?_eq_none hactive]
  | some found =>
    obtain ⟨proc, state⟩ := found
    obtain ⟨proc', hactive', hproc⟩ := h.active? hactive
    simp only [hactive']
    cases hstate : d.action state with
    | call c next =>
      rw [isSome_act, isSome_act, h.isBlocked hquiet (Machine.active?_eq_some.mp hactive).1
        (Machine.active?_eq_some.mp hactive').1 hproc]
    | wait child next =>
      have hpending := (sameContext hproc).pending
      have hawait := h.await p child
      simp only [Machine.act, hpending]
      generalize m.await p child = r, m'.await p child = r' at hawait
      cases hawait with
      | none =>
        simp only
        split <;> rfl
      | some => rfl
    | poll child next =>
      simp only [Machine.act]
      cases m.await p child <;> cases m'.await p child <;> rfl
    | kill target signal next =>
      have hsome (m : Machine κ) (proc : Process κ) :
          (m.act d p proc (.kill target signal next)).isSome = true := by
        simp only [Machine.act]
        cases (Pid.ofNumber? target).elim (.error .noProcess) fun q => m.deliver q signal <;> rfl
      rw [hsome, hsome]
    | fork child next =>
      simp only [Machine.act, h.refusal?]
      cases m.refusal? <;> rfl
    | rest => rfl
    | _ => simp only [Machine.act, Option.isSome_some]

end Veil

/-- The oldest process that can move is the same one. -/
theorem Streams.heedless_oldestFirst {κ : Type} (st : Streams) (d : Dynamics κ) :
    st.Heedless (Machine.oldestFirst d) := by
  rintro v m m' rfl h hquiet
  simp only [Machine.oldestFirst, h.length, h.isSome_step hquiet]

end PipeShell
