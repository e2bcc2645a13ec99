import PipeShell.Proofs.Executor.Sides
import PipeShell.Proofs.Shell.Lines

/-!
# The number for the end of a child

Whatever interrupts a wait, it is made again until the child has ended (`Session.ask_ended`), and
the end is then turned into a number. A session has it as its status (`Session.handle_ended`), and a
process that has made a pipe has it as the code of a stage.

An exit code is the number itself. A signal with a name, from 1 to 31, gives 128 more than its own
number. A child that was killed by another signal cannot be told from no child at all, although its
end was taken: the session has the status of a failure of its own then, and a stage has no code
(`Session.ended_status`).
-/

namespace PipeShell

variable {U : Userland} {ex : Executor} {m m' : Machine (Task U.State)} {r : Runner U}
  {p child : Pid} {s : ExitStatus}

/-! ## Numbers -/

namespace Reap

/-- Whether an answer leaves it open what became of a child. -/
def isOpen : WaitReply → Bool
  | .changed | .interrupted => true
  | .ended _ | .failed _ => false

theorem verdict?_of_isOpen {reply : WaitReply} (h : isOpen reply) : verdict? reply = none := by
  cases reply with
  | changed | interrupted => rfl
  | ended | failed => cases h

theorem verdict?_of_isOpen_eq_false {reply : WaitReply} (h : isOpen reply = false) :
    ∃ result, verdict? reply = some result := by
  cases reply with
  | changed | interrupted => cases h
  | ended | failed => exact ⟨_, rfl⟩

/-- The signals from 1 to 31 have a name. -/
theorem isSome_signalName? (signal : Nat) :
    (signalName? signal).isSome = decide (1 ≤ signal ∧ signal ≤ 31) := by
  rcases Nat.lt_or_ge signal 32 with hlt | hge
  · exact (by decide : ∀ signal < 32,
      (signalName? signal).isSome = decide (1 ≤ signal ∧ signal ≤ 31)) signal hlt
  · have hnone : signalName? signal = none := by
      rw [signalName?, List.getElem?_eq_none (Nat.le_sub_one_of_lt hge)]
      rfl
    rw [hnone, Option.isSome_none, eq_comm, decide_eq_false_iff_not]
    omega

theorem code_signaled (signal : Nat) :
    code (.signaled signal) =
      if 1 ≤ signal ∧ signal ≤ 31 then .ok (128 + signal) else .error (.waitFailed .invalid) := by
  have hname := isSome_signalName? signal
  unfold code
  simp only
  cases h : signalName? signal with
  | none =>
    rw [h, Option.isSome_none, eq_comm, decide_eq_false_iff_not] at hname
    rw [if_neg hname]
  | some name =>
    rw [h, Option.isSome_some, eq_comm, decide_eq_true_eq] at hname
    rw [if_pos hname]

end Reap

/-! ## Waiting again -/

/-- A wait that nothing interrupts is answered when it is over. -/
theorem Work.isOpen_of_wait {κ : Type} {d : Dynamics κ} {policy : Machine.Policy κ} {fuel : Nat}
    {m m' : Machine κ} {reply : WaitReply}
    (h : Work.wait d policy fuel child p m = .finished reply m') : Reap.isOpen reply = false := by
  simp only [Work.wait] at h
  split at h
  · cases h
  · split at h
    · next hawait =>
      cases h
      unfold Machine.await at hawait
      split at hawait
      · split at hawait
        · cases hawait
          rfl
        · split at hawait <;> cases hawait <;> rfl
      · cases hawait
        rfl
    · cases h

namespace Session

/-- Waiting is answered this way, one answer after the other. -/
inductive Answered {κ : Type} (wait : Work κ WaitReply) (p : Pid) :
    List WaitReply → Machine κ → Machine κ → Prop
  | nil (m : Machine κ) : Answered wait p [] m m
  | cons {reply : WaitReply} {replies : List WaitReply} {m m' m'' : Machine κ}
    (hw : wait p m = .finished reply m') (h : Answered wait p replies m' m'') :
    Answered wait p (reply :: replies) m m''

/-- However often a wait is interrupted, what counts is the end of the child. -/
theorem ask_ended {κ : Type} {wait : Work κ WaitReply} {replies : List WaitReply}
    {m m' m'' : Machine κ} (h : Answered wait p replies m m')
    (hopen : ∀ reply ∈ replies, Reap.isOpen reply) (hend : wait p m' = .finished (.ended s) m'')
    {fuel : Nat} (hfuel : replies.length < fuel) :
    ask wait fuel p m = .finished (.ended s, Reap.code s) m'' := by
  induction h generalizing fuel with
  | nil m =>
    obtain ⟨fuel, rfl⟩ := Nat.exists_eq_add_one.mpr hfuel
    exact Work.bind_finished.mpr ⟨_, _, hend, rfl⟩
  | @cons reply replies m m₁ m' hw _ ih =>
    obtain ⟨fuel, rfl⟩ := Nat.exists_eq_add_one.mpr (Nat.zero_lt_of_lt hfuel)
    rw [List.forall_mem_cons] at hopen
    refine Work.bind_finished.mpr ⟨_, m₁, hw, ?_⟩
    rw [Reap.verdict?_of_isOpen hopen.1]
    exact ih hopen.2 hend (Nat.lt_of_succ_lt_succ hfuel)

end Session

/-! ## Lines -/

/-- A child ends within the steps that a line may take, and nobody has killed the session `p`
meanwhile. -/
def Machine.EndsIn (m : Machine (Task U.State)) (r : Runner U) (p child : Pid) (s : ExitStatus) :
    Prop :=
  let m := m.runUntil (Task.dynamics U r.executor) r.policy
    (fun m => (m.endOf? child).isSome || (m.endOf? p).isSome) r.fuel
  m.endOf? child = some s ∧ m.endOf? p = none

instance (m : Machine (Task U.State)) (r : Runner U) (p child : Pid) (s : ExitStatus) :
    Decidable (m.EndsIn r p child s) :=
  inferInstanceAs (Decidable (_ ∧ _))

/-- Letting processes move changes nobody's parent. -/
theorem Machine.parent_of_runUntil (ex : Executor) {parent : Pid} {proc : Process (Task U.State)}
    (hchild : m.processes[child]? = some proc) (hparent : proc.parent = parent)
    (policy : Policy (Task U.State)) (stop : Machine (Task U.State) → Bool) (fuel : Nat) :
    ∃ proc', (m.runUntil (Task.dynamics U ex) policy stop fuel).processes[child]? = some proc' ∧
      proc'.parent = parent := by
  have hstart : Run (Task.dynamics U ex) m [] m := .start
  obtain ⟨-, h⟩ := hstart.runUntil
    (P := fun m => ∃ proc', m.processes[child]? = some proc' ∧ proc'.parent = parent) policy stop
    fuel (fun m mv m' ⟨proc, hp, hparent⟩ _ _ hm => by
      obtain ⟨proc', hp', hsame⟩ := parent_of_make? hm hp
      exact ⟨proc', hp', hsame.trans hparent⟩) ⟨proc, hchild, hparent⟩
  exact h

namespace Session

/-- A session gets the number for the end of a child of its own that ends in time. -/
theorem reap_ended {proc procc : Process (Task U.State)} (hp : m.processes[p]? = some proc)
    (hchild : m.processes[child]? = some procc) (hparent : procc.parent = p)
    (hends : m.EndsIn r p child s) :
    ∃ m', reap r child p m = .finished (Reap.code s) m' ∧
      ∃ proc', m'.processes[p]? = some proc' := by
  let stop (m : Machine (Task U.State)) := (m.endOf? child).isSome || (m.endOf? p).isSome
  let m₁ := m.runUntil (Task.dynamics U r.executor) r.policy stop r.fuel
  obtain ⟨⟨parent, context, life⟩, hc₁, rfl⟩ :=
    Machine.parent_of_runUntil r.executor hchild hparent r.policy stop r.fuel
  obtain ⟨proc₁, hp₁, -⟩ :=
    Machine.parent_of_runUntil r.executor hp rfl r.policy stop r.fuel
  obtain ⟨hend, halive⟩ : m₁.endOf? child = some s ∧ m₁.endOf? parent = none := hends
  obtain ⟨procc₁, hc, hlife⟩ := Machine.endOf?_eq_some.mp hend
  obtain rfl := Option.some.inj (hc₁.symm.trans hc)
  obtain rfl : life = .ended s := hlife
  have hwait : Work.wait (Task.dynamics U r.executor) r.policy r.fuel child parent m =
      .finished (.ended s) (m₁.setProcess child ⟨parent, context, .reaped⟩) := by
    have hawait : m₁.await parent child =
        some (.ended s, m₁.setProcess child ⟨parent, context, .reaped⟩) := by
      simp [Machine.await, m₁, hc₁]
    simp only [Work.wait]
    rw [show Machine.endOf? _ parent = none from halive]
    simp only
    rw [show Machine.await _ parent child = _ from hawait]
  have hask := ask_ended (.nil m) (by simp) hwait (Nat.zero_lt_succ r.fuel)
  have hp₂ : ∃ proc₂, (m₁.setProcess child ⟨parent, context, .reaped⟩).processes[parent]? =
      some proc₂ := by
    rw [Machine.getElem?_setProcess hc₁]
    split
    · exact ⟨_, rfl⟩
    · exact ⟨proc₁, hp₁⟩
  cases hrecord : Reap.record? child (.ended s) with
  | none =>
    refine ⟨_, Work.bind_finished.mpr ⟨_, _, hask, ?_⟩, hp₂⟩
    simp only [hrecord]
    rfl
  | some record =>
    refine ⟨Work.noted (m₁.setProcess child ⟨parent, context, .reaped⟩) parent .trace record,
      Work.bind_finished.mpr ⟨_, _, hask, ?_⟩, hp₂⟩
    simp only [hrecord]
    exact Work.bind_finished.mpr ⟨(), _, Work.note_finished.mpr ⟨hp₂, rfl⟩, rfl⟩

/-- A process that was created is a child of the one that has created it. -/
theorem parent_of_fork {κ : Type} {m m' : Machine κ} {state : κ}
    (h : Work.fork state p m = .finished (.ok child) m') :
    ∃ procc, m'.processes[child]? = some procc ∧ procc.parent = p := by
  simp only [Work.fork] at h
  split at h
  · cases h
  · next proc _ hactive =>
    obtain ⟨hp, -⟩ := Machine.active?_eq_some.mp hactive
    split at h
    · cases h
    · cases h
      exact ⟨_, (Machine.getElem?_spawn (m := m.attempted) hp _ _).trans (if_pos rfl), rfl⟩

/-- What a session does with a tree until it waits for the process that runs it. -/
def start (t : Command) : Work (Task U.State) (Except Errno Pid) := do
  Calling.note .debug (Bytes.ofString "解析结果: " ++ t.dump)
  Calling.note .debug (runRecord t)
  match ← Work.fork (.executing (.run t)) with
  | .ok child =>
    Calling.note .trace (Control.forkRecord child)
    return .ok child
  | .error e => return .error e

/-- The process that was started is a child of the session, and its end is all that a line is still
about. -/
theorem start_finished {t : Command} (h : start t p m = .finished (.ok child) m') :
    (∃ proc, m'.processes[p]? = some proc) ∧
      (∃ procc, m'.processes[child]? = some procc ∧ procc.parent = p) ∧
      ∀ {line : Bytes}, Request.ofLine line = .run t → ∀ (r : Runner U) (status : Nat),
        handle r line status p m =
          (conclude r child >>= fun status => pure (.goOn, status)) p m' := by
  obtain ⟨_, m₁, hdump, h⟩ := Work.bind_finished.mp h
  obtain ⟨_, m₂, hrecord, h⟩ := Work.bind_finished.mp h
  obtain ⟨reply, m₃, hfork, h⟩ := Work.bind_finished.mp h
  cases reply with
  | error e =>
    obtain ⟨heq, -⟩ := Work.pure_finished.mp h
    cases heq
  | ok child' =>
    obtain ⟨_, m₄, htrace, h⟩ := Work.bind_finished.mp h
    obtain ⟨heq, rfl⟩ := Work.pure_finished.mp h
    cases heq
    refine ⟨?_, ?_, fun hline r status => ?_⟩
    · obtain ⟨hp, rfl⟩ := Work.note_finished.mp htrace
      exact hp
    · obtain ⟨procc, hc, hparent⟩ := parent_of_fork hfork
      obtain ⟨-, rfl⟩ := Work.note_finished.mp htrace
      exact ⟨procc, hc, hparent⟩
    · simp only [handle, hline, serve, run, bind, hdump, hrecord, hfork, htrace]

/-- A line that is run is over when its process has ended, and leaves the status for that. -/
theorem handle_ended {line : Bytes} {t : Command} (hline : Request.ofLine line = .run t)
    (hstart : start t p m = .finished (.ok child) m') (hends : m'.EndsIn r p child s)
    (status : Nat) : ∃ m'', handle r line status p m = .finished (.goOn, statusOf s) m'' := by
  obtain ⟨⟨proc, hp⟩, ⟨procc, hc, hparent⟩, hhandle⟩ := start_finished hstart
  obtain ⟨m₁, hreap, hp₁⟩ := reap_ended hp hc hparent hends
  have hconclude : ∃ m₂, conclude r child p m' = .finished (statusOf s) m₂ := by
    unfold statusOf
    cases hcode : Reap.code s with
    | ok code =>
      rw [hcode] at hreap
      exact ⟨_, Work.bind_finished.mpr ⟨_, m₁, hreap,
        Work.bind_finished.mpr ⟨(), _, Work.note_finished.mpr ⟨hp₁, rfl⟩, rfl⟩⟩⟩
    | error e =>
      rw [hcode] at hreap
      exact ⟨_, Work.bind_finished.mpr ⟨_, m₁, hreap,
        Work.bind_finished.mpr ⟨(), _, Work.note_finished.mpr ⟨hp₁, rfl⟩, rfl⟩⟩⟩
  obtain ⟨m₂, hconclude⟩ := hconclude
  exact ⟨m₂, (hhandle hline r status).trans
    (Work.bind_finished.mpr ⟨_, m₂, hconclude, rfl⟩)⟩

/-- What becomes of the end of a child. It is told whatever interrupts the wait for it; a session
has the number for it as its status, and a process that has started both sides of a pipe has those
for its stages as their codes. The number is the exit code, or 128 and the signal if that has a
name; otherwise waiting fails, the status is that of a failure and the stage has no code. -/
theorem ended_status (r : Runner U) (ex : Executor) :
    (∀ code, Reap.code (.exited code) = .ok code) ∧
    (∀ signal, Reap.code (.signaled signal) = if 1 ≤ signal ∧ signal ≤ 31
      then .ok (128 + signal) else .error (.waitFailed .invalid)) ∧
    (∀ (κ : Type) (wait : Work κ WaitReply) p replies m m' m'' s fuel,
      Answered wait p replies m m' → (∀ reply ∈ replies, Reap.isOpen reply) →
      wait p m' = .finished (.ended s) m'' → replies.length < fuel →
      ask wait fuel p m = .finished (.ended s, Reap.code s) m'') ∧
    (∀ line t p m child m' s status, Request.ofLine line = .run t →
      (start t : Work (Task U.State) _) p m = .finished (.ok child) m' → m'.EndsIn r p child s →
      ∃ m'', handle r line status p m = .finished
        (.goOn, match Reap.code s with | .ok code => code | .error _ => failedStatus) m'') ∧
    ∀ (m₀ : Machine (Task U.State)) (_ : LineStart m₀) h m, Run (Task.dynamics U ex) m₀ h m →
      ∀ x proc leftCode rightCode, m.processes[x]? = some proc →
        proc.life = .active (.executing (.connected leftCode rightCode)) →
        ∃ left right s s', startedOf (events U ex h) x = [(.right, right), (.left, left)] ∧
          Ended h m left s ∧ leftCode = (Reap.code s).toOption ∧
          Ended h m right s' ∧ rightCode = (Reap.code s').toOption := by
  refine ⟨fun _ => rfl, Reap.code_signaled, ?_, ?_, ?_⟩
  · intro κ wait p replies m m' m'' s fuel hanswered hopen hend hfuel
    exact ask_ended hanswered hopen hend hfuel
  · intro line t p m child m' s status hline hstart hends
    exact handle_ended hline hstart hends status
  · intro m₀ L h m hrun x proc leftCode rightCode hx hlife
    have hforks : .stranded x ∉ events U ex h := fun hmem => by
      cases (isLeaving_of_stranded hrun hmem).2 proc _ hx hlife
    obtain ⟨left, right, s, s', hpair, hended, hcode, hended', hcode'⟩ :=
      (L.sides hrun x proc hx hforks).1 _ hlife
    exact ⟨left, right, s, s', hpair.2, hended, hcode, hended', hcode'⟩

end Session

/-! ## A signal of its own -/

namespace Session

/-- The status after a program that killed itself. -/
theorem ended_status_killed : ∃ m', handle (.brisk (.striking 101 9)) [0x2F, 0x61] 0 0
    (.equipped (.striking 101 9)) = .finished (.goOn, 137) m' := by
  have hends : ∃ m, (start (.exec [[0x2F, 0x61]]) : Work (Task (Userland.striking 101 9).State) _) 0
      (.equipped (.striking 101 9)) = .finished (.ok 1) m ∧
      m.EndsIn (.brisk (.striking 101 9)) 0 1 (.signaled 9) :=
    ⟨_, rfl, by decide +kernel⟩
  obtain ⟨m, hstart, hends⟩ := hends
  exact (ended_status (.brisk (.striking 101 9)) .bare).2.2.2.1 [0x2F, 0x61] _ 0 _ 1 m
    (.signaled 9) 0 (by decide +kernel) hstart hends

/-- After a signal without a name, the status is not 128 more than its number. -/
theorem status_unnamed : ∃ m m',
    (start (.exec [[0x2F, 0x61]]) : Work (Task (Userland.striking 101 40).State) _) 0
      (.equipped (.striking 101 40)) = .finished (.ok 1) m ∧
    m.EndsIn (.brisk (.striking 101 40)) 0 1 (.signaled 40) ∧
    handle (.brisk (.striking 101 40)) [0x2F, 0x61] 0 0 (.equipped (.striking 101 40)) =
      .finished (.goOn, 1) m' ∧
    1 ≠ 128 + 40 := by
  have hends : ∃ m, (start (.exec [[0x2F, 0x61]]) :
      Work (Task (Userland.striking 101 40).State) _) 0 (.equipped (.striking 101 40)) =
        .finished (.ok 1) m ∧
      m.EndsIn (.brisk (.striking 101 40)) 0 1 (.signaled 40) :=
    ⟨_, rfl, by decide +kernel⟩
  obtain ⟨m, hstart, hends⟩ := hends
  have hline : Request.ofLine [0x2F, 0x61] = .run (.exec [[0x2F, 0x61]]) := by decide +kernel
  obtain ⟨m', hhandle⟩ := handle_ended hline hstart hends 0
  exact ⟨m, m', hstart, hends, hhandle, by decide⟩

end Session

end PipeShell
